import SovAgent.Foundation.Checks
import SovAgent.Foundation.JsonText
import SovAgent.Foundation.Text

/-! # VDXF keys and contentmultimap values -/

namespace SovAgent.Onboarding

def dataDescriptorKey : String := "i4GC1YGEVD21afWudGoFJVdnfjJ5XWnCQv"
def multimapRemoveKey : String := "i5Zkx5Z7tEfh42xtKfwbJ5LgEWE9rEgpFY"

namespace VdxfKeys

def agentStatus : String := "iLy373iaKafmRCY43ahty4m8aLQx32y8Fh"
def reviewRecord : String := "iLbUN8TFvMZR9uaZYY1qBmL99bJE2uYdad"
def reviewAttestation : String := "i76fJX1DreN81CoRVJHSkrcqHq9nsLomYv"
def jobRecord : String := "iPsXc7vcBzAxyjFYfPAs9PUtMLh1EJPHSn"

end VdxfKeys

/-- A sub-DataDescriptor around one text value. -/
def makeSubDD (label value : String) : Json :=
  .object [(dataDescriptorKey, .object [
    ("version", .number 1),
    ("flags", .number 96),
    ("mimetype", .string "text/plain"),
    ("objectdata", .object [("message", .string value)]),
    ("label", .string label)])]

/-! ## Value sizes -/

def maxContentmultimapValueBytes : Nat := 5000

def descriptorByteSize (value : Json) : Nat :=
  let whole := byteLength value.stringify
  match value.get? dataDescriptorKey with
  | none => whole
  | some descriptor =>
      match descriptor.get? "objectdata" with
      | some (.string text) => (utf16Length text + 1) / 2
      | some objectdata =>
          match objectdata.get? "message" with
          | some (.string message) => byteLength message
          | _ => whole
      | none => whole

def contentmultimapValueByteSize (value : Json) : Nat :=
  match value with
  | .object _ | .array _ => descriptorByteSize value
  | .string text => if isHexText text then text.length / 2 else byteLength text
  | .null => byteLength (Json.string "").stringify
  | .bool _ | .number _ => byteLength value.stringify

/-- The size error of one value; its index is shown when the key has several. -/
def valueSizeError (key : String) (count index size : Nat) : String :=
  let position := if 1 < count then s!"[{index}]" else ""
  s!"contentmultimap value for key {key}{position} is {size} bytes, over the " ++
    s!"{maxContentmultimapValueBytes}-byte on-chain limit — it would be silently truncated. " ++
    "Reduce the data (e.g. fewer or shorter services) or split it across multiple entries."

def assertContentmultimapValueSizes (cmm : Record String (List Json)) : Except String Unit :=
  checkAll (fun entry =>
    checkAll (fun indexed =>
      let size := contentmultimapValueByteSize indexed.1
      require (size ≤ maxContentmultimapValueBytes)
        (valueSizeError entry.1 entry.2.length indexed.2 size)) entry.2.zipIdx) cmm.entries

end SovAgent.Onboarding

import SovAgent.Onboarding.Vdxf

/-! # Per-type gate of inbox items

The keys that an item of each type may write, the additions that are built from
its data, and the tests for data that is on-chain already.
-/

namespace SovAgent.Inbox

open Onboarding

inductive InboxAcceptType where
  | review
  | attestation
  | jobRecord
deriving DecidableEq, Repr

namespace InboxAcceptType

def name : InboxAcceptType → String
  | .review => "review"
  | .attestation => "attestation"
  | .jobRecord => "job_record"

def namespaceLabel : InboxAcceptType → String
  | .review => "review.*"
  | .attestation => "review.attestation"
  | .jobRecord => "job.*"

end InboxAcceptType

def maxBatchAdditionBytes : Nat := 15000

abbrev Additions := Record String (List Json)

def inboxAllowlistForType : InboxAcceptType → List String
  | .review => [VdxfKeys.reviewRecord]
  | .attestation => [VdxfKeys.reviewAttestation]
  | .jobRecord => [VdxfKeys.jobRecord]

/-- `Object.entries` of a JSON value. -/
def objectEntries : Json → List (String × Json)
  | .object members => members
  | .array items => items.zipIdx.map fun indexed => (toString indexed.2, indexed.1)
  | .string text =>
      text.toList.zipIdx.map fun indexed =>
        (toString indexed.2, .string (String.singleton indexed.1))
  | _ => []

/-- One entry of the item's data: kept under a key of the allowlist, else
dropped. -/
def gateEntry (allow : List String) (additions : Additions) (entry : String × Json) : Additions :=
  if entry.2 = .null then additions
  else if entry.1 ∈ allow then additions.set entry.1 entry.2.asArray
  else additions

def truthyProperty (item : Json) (key : String) : Option Json :=
  (item.get? key).filter Json.truthy

/-- The record that stands in for a job item without data. -/
def synthesizedJobRecord (item : Json) (nowMs : Int) : Json :=
  let optional := fun (key : String) (value : Option Json) =>
    value.toList.map fun value => (key, value)
  .object (
    ("timestamp", .number (Decimal.ofInt (nowMs / 1000))) ::
    optional "buyer" (truthyProperty item "senderVerusId") ++
    optional "jobHash" (truthyProperty item "jobHash") ++
    optional "amount" ((item.get? "amount").filter (· ≠ .null)) ++
    optional "currency" (truthyProperty item "currency") ++
    optional "completedAt" (truthyProperty item "completedAt"))

/-- The entries of the item's `vdxfData`, when it has any. -/
def vdxfEntries (item : Json) : List (String × Json) :=
  match truthyProperty item "vdxfData" with
  | some data => objectEntries data
  | none => []

def buildInboxVdxfAdditions (type : InboxAcceptType) (item : Json) (label : String)
    (nowMs : Int) : Except String Additions :=
  let entries := vdxfEntries item
  if entries.isEmpty then
    match type with
    | .jobRecord =>
        .ok (Record.empty.set VdxfKeys.jobRecord
          [makeSubDD VdxfKeys.jobRecord (synthesizedJobRecord item nowMs).stringify])
    | .review => .error (label ++ ": inbox item has no VDXF review.record — " ++
        "refusing to synthesize one (would produce an unverifiable on-chain record)")
    | .attestation => .error (label ++ ": inbox item has no VDXF review.attestation — " ++
        "refusing to synthesize one (would produce an unverifiable on-chain record)")
  else
    let additions := entries.foldl (gateEntry (inboxAllowlistForType type)) Record.empty
    if additions.entries.isEmpty then
      .error s!"{label}: inbox vdxfData contained no {type.namespaceLabel} keys after whitelist"
    else .ok additions

def additionsByteSize (additions : Additions) : Nat :=
  (additions.entries.map fun entry => (entry.2.map contentmultimapValueByteSize).sum).sum

/-! ## Data that is on-chain already -/

/-- The value inside a DataDescriptor, or the value itself. -/
def unwrapDescriptor (value : Json) : Option Json :=
  match truthyProperty value dataDescriptorKey with
  | none => some value
  | some descriptor =>
      let objectdata := descriptor.get? "objectdata"
      match objectdata.bind (Json.get? "message") with
      | some (.string message) => some (.string message)
      | _ => objectdata

def jobHashProperty (value : Json) : Option String :=
  match value.get? "jobHash" with
  | some (.string jobHash) => some jobHash
  | _ => none

def extractJobHash (value : Option Json) : Option String :=
  match value.bind unwrapDescriptor with
  | some (.string text) =>
      (Json.parse (if isHexText text then decodeHex text else text)).bind jobHashProperty
  | some unwrapped => jobHashProperty unwrapped
  | none => none

/-- The values under a key of the on-chain map; `null` counts as no value. -/
def onChainValues (onChain : Record String Json) (key : String) : Option (List Json) :=
  ((onChain.get? key).filter (· ≠ .null)).map Json.asArray

def jobHashAlreadyOnChain (onChain : Record String Json) (key : String)
    (jobHash : Option String) : Bool :=
  match jobHash, onChainValues onChain key with
  | some jobHash, some existing =>
      jobHash ≠ "" ∧ existing.any fun value => extractJobHash (some value) = some jobHash
  | _, _ => false

def valueAlreadyOnChain (onChain : Record String Json) (key : String) (values : List Json) :
    Bool :=
  onChainValues onChain key = some values

end SovAgent.Inbox

import SovAgent.Foundation.Record
import SovAgent.Foundation.Value
import SovAgent.Identity.VerusMessage

/-! # Deletion attestations

A signed statement that the data of a job was destroyed, with the token usage of
the job. Usage is normalised before it is signed, and a received attestation is
checked field by field.
-/

namespace SovAgent.Privacy

open Identity

/-! ## Token usage -/

structure ExtensionInput where
  estimatedTokens : Value
  amountVrsc : Value
  granted : Value
  grantedTokens : Value

/-- Usage as a caller passes it. `extensions` is `none` when it is no array, and
an element is `none` when it is null or undefined. -/
structure TokenUsageInput where
  promptTokens : Value
  completionTokens : Value
  totalTokens : Value
  llmCalls : Value
  extensions : Option (List (Option ExtensionInput))

structure AttestationExtension where
  estimatedTokens : Nat
  amountVrsc : Option Decimal
  granted : Bool
  grantedTokens : Option Nat
deriving DecidableEq, Repr

structure AttestationTokenUsage where
  promptTokens : Nat
  completionTokens : Nat
  totalTokens : Nat
  llmCalls : Nat
  extensions : List AttestationExtension
deriving DecidableEq, Repr

/-- `Math.floor(Number(n))`, or zero when that is no count. -/
def int (n : Value) : Except ScriptError Nat := do
  let v ← n.toNumber
  match v with
  | .finite value =>
      let floor := value.toRat.floor
      .ok (if 0 ≤ floor then floor.toNat else 0)
  | .infinity _ | .nan => .ok 0

def normalizeExtension : Option ExtensionInput → Except ScriptError AttestationExtension
  | none => .error .typeError
  | some e => do
      let estimatedTokens ← int e.estimatedTokens
      let ext : AttestationExtension := {
        estimatedTokens
        amountVrsc := e.amountVrsc.finite?
        granted := e.granted.truthy
        grantedTokens := none }
      if e.grantedTokens.isNullish then .ok ext
      else do
        let grantedTokens ← int e.grantedTokens
        .ok { ext with grantedTokens := some grantedTokens }

def normalizeTokenUsage (u : TokenUsageInput) : Except ScriptError AttestationTokenUsage := do
  let extensions ← (u.extensions.getD []).mapM normalizeExtension
  let promptTokens ← int u.promptTokens
  let completionTokens ← int u.completionTokens
  let totalTokens ← int u.totalTokens
  let llmCalls ← int u.llmCalls
  .ok { promptTokens, completionTokens, totalTokens, llmCalls, extensions }

/-! ## Payloads -/

structure AttestationParams where
  jobId : String
  containerId : String
  createdAt : String
  destroyedAt : String
  dataVolumes : Option (List String)
  deletionMethod : Option String
  attestedBy : String
  tokenUsage : Option TokenUsageInput

structure AttestationPayload where
  attestedBy : String
  containerId : String
  createdAt : String
  dataVolumes : List String
  deletionMethod : String
  destroyedAt : String
  jobId : String
  schemaVersion : Option Nat
  tokenUsage : Option AttestationTokenUsage
deriving DecidableEq, Repr

def attestationSchemaVersion : Nat := 2

def generateAttestationPayload (params : AttestationParams) :
    Except ScriptError AttestationPayload := do
  let payload : AttestationPayload := {
    attestedBy := params.attestedBy
    containerId := params.containerId
    createdAt := params.createdAt
    dataVolumes := params.dataVolumes.getD []
    deletionMethod := params.deletionMethod.getD "container-destroy+volume-rm"
    destroyedAt := params.destroyedAt
    jobId := params.jobId
    schemaVersion := none
    tokenUsage := none }
  match params.tokenUsage with
  | some u => do
      let tokenUsage ← normalizeTokenUsage u
      .ok { payload with
        schemaVersion := some attestationSchemaVersion, tokenUsage := some tokenUsage }
  | none => .ok payload

/-! ## Signatures -/

def count (value : Nat) : Json := .number (.ofInt value)

def optional (name : String) (value : Option Json) : List (String × Json) :=
  (value.map fun value => (name, value)).toList

def AttestationExtension.toJson (ext : AttestationExtension) : Json :=
  .object ([("estimatedTokens", count ext.estimatedTokens),
    ("amountVrsc", (ext.amountVrsc.map Json.number).getD .null),
    ("granted", .bool ext.granted)] ++ optional "grantedTokens" (ext.grantedTokens.map count))

def AttestationTokenUsage.toJson (usage : AttestationTokenUsage) : Json :=
  .object [("promptTokens", count usage.promptTokens),
    ("completionTokens", count usage.completionTokens),
    ("totalTokens", count usage.totalTokens), ("llmCalls", count usage.llmCalls),
    ("extensions", .array (usage.extensions.map AttestationExtension.toJson))]

def AttestationPayload.members (payload : AttestationPayload) : List (String × Json) :=
  [("attestedBy", .string payload.attestedBy), ("containerId", .string payload.containerId),
    ("createdAt", .string payload.createdAt),
    ("dataVolumes", .array (payload.dataVolumes.map Json.string)),
    ("deletionMethod", .string payload.deletionMethod),
    ("destroyedAt", .string payload.destroyedAt), ("jobId", .string payload.jobId)] ++
  optional "schemaVersion" (payload.schemaVersion.map count) ++
  optional "tokenUsage" (payload.tokenUsage.map AttestationTokenUsage.toJson)

structure DeletionAttestation where
  members : List (String × Json)
  signature : String
  signed : members.lookup "signature" = some (.string signature)

def DeletionAttestation.toJson (attestation : DeletionAttestation) : Json :=
  .object attestation.members

/-- `{ ...payload, signature }`. No payload has a signature of its own. -/
def withSignature (payload : AttestationPayload) (signature : String) : DeletionAttestation where
  members := payload.members ++ [("signature", .string signature)]
  signature := signature
  signed := by
    rcases payload with ⟨_, _, _, _, _, _, _, version, usage⟩
    cases version <;> cases usage <;> rfl

variable (canonicalize : Json → String)

def signAttestationWith (payload : AttestationPayload) (signFn : String → Except ε String) :
    Except ε DeletionAttestation := do
  let message := canonicalize (.object payload.members)
  let signature ← signFn message
  .ok (withSignature payload signature)

def signAttestation (library : Primitives) (payload : AttestationPayload) (wif : String)
    (network : Network) : Except String DeletionAttestation := do
  let message := canonicalize (.object payload.members)
  let signature ← signMessage library wif message network
  .ok (withSignature payload signature)

def verifyAttestationSignature (library : Primitives) (attestation : DeletionAttestation)
    (expectedAddress : String) : Bool :=
  let payload := attestation.members.filter fun member => member.1 ≠ "signature"
  let message := canonicalize (.object payload)
  verifyVerusMessage library message expectedAddress attestation.signature

/-! ## The format -/

def requiredStrings : List String :=
  ["jobId", "containerId", "createdAt", "destroyedAt", "deletionMethod", "attestedBy", "signature"]

def countFields : List String := ["promptTokens", "completionTokens", "totalTokens", "llmCalls"]

/-- `typeof value === 'string' && value.length !== 0`. -/
def isFilled : Option Json → Bool
  | some (.string text) => text ≠ ""
  | _ => false

/-- `Number.isInteger(value) && value >= 0`. -/
def isCount : Option Json → Bool
  | some (.number value) => value.isCount
  | _ => false

/-- `typeof value === 'object' && value !== null`. -/
def isReference : Json → Bool
  | .array _ | .object _ => true
  | _ => false

def isBoolean : Option Json → Bool
  | some (.bool _) => true
  | _ => false

def isNumberOrNull : Option Json → Bool
  | some (.number _) | some .null => true
  | _ => false

def isAbsentOrNumber : Option Json → Bool
  | some (.number _) | none => true
  | _ => false

def requireCount (owner : Json) (path field : String) : Except String Unit :=
  require (isCount (owner.get? field) = true) s!"{path}.{field} must be a non-negative integer"

def verifyExtension (indexed : Json × Nat) : Except String Unit := do
  let e := indexed.1
  let path := s!"tokenUsage.extensions[{indexed.2}]"
  require (isReference e = true) s!"{path} must be an object"
  requireCount e path "estimatedTokens"
  require (isBoolean (e.get? "granted") = true) s!"{path}.granted must be a boolean"
  require (isNumberOrNull (e.get? "amountVrsc") = true)
    s!"{path}.amountVrsc must be a number or null"

def verifyTokenUsage (u : Json) : Except String Unit := do
  require (u.isObject = true) "tokenUsage must be an object"
  checkAll (requireCount u "tokenUsage") countFields
  match u.get? "extensions" with
  | some (.array extensions) => checkAll verifyExtension extensions.zipIdx
  | _ => .error "tokenUsage.extensions must be an array"

def verifyDataVolumes (dataVolumes : Option Json) : Except String Unit :=
  match dataVolumes with
  | some (.array volumes) =>
      checkAll (fun indexed => require (indexed.1.isString = true)
        s!"dataVolumes[{indexed.2}] must be a string") volumes.zipIdx
  | _ => .error "Missing or invalid field: dataVolumes (expected string array)"

/-- Where the source returns true, no error. -/
def verifyAttestationFormat (attestation : Json) : Except String Unit := do
  require (isReference attestation = true) "Attestation must be a non-null object"
  checkAll (fun field => require (isFilled (attestation.get? field) = true)
    s!"Missing or invalid field: {field} (expected non-empty string)") requiredStrings
  verifyDataVolumes (attestation.get? "dataVolumes")
  match attestation.get? "tokenUsage" with
  | some u => do
      verifyTokenUsage u
      require (isAbsentOrNumber (attestation.get? "schemaVersion") = true)
        "schemaVersion must be a number"
  | none => .ok ()

end SovAgent.Privacy

import SovAgent.Foundation.Checks
import SovAgent.Foundation.DateTime
import SovAgent.Foundation.Json
import SovAgent.Foundation.Text

/-! # Canonical-v1 signing envelope

Structural validation and signature verification of the envelope that a buyer
signs. Canonicalization (RFC 8785) and the recovery of a signing key are
third-party code and enter as parameters.
-/

namespace SovAgent.Crypto

def canonicalMaxBytes : Nat := 8192
def clockSkewMs : Int := 300000

def supportedVersions : List Json := [.number 1]
def supportedSuites : List Json := [.string "verus-signmessage-v1"]

inductive Action where
  | requestAccess
  | reviewApiSession
  | reviewSubmit
  | budgetRequest
deriving DecidableEq, Repr

namespace Action

def name : Action → String
  | .requestAccess => "request-access"
  | .reviewApiSession => "review-api-session"
  | .reviewSubmit => "review-submit"
  | .budgetRequest => "budget-request"

def all : List Action := [.requestAccess, .reviewApiSession, .reviewSubmit, .budgetRequest]

/-- The member of `ACTIONS` that a JSON value is, if it is one. -/
def ofJson? (value : Json) : Option Action :=
  all.find? fun action => value = .string action.name

def maxWindowMs : Action → Int
  | .requestAccess => 5 * 60 * 1000
  | .reviewApiSession => 7 * 24 * 60 * 60 * 1000
  | .reviewSubmit => 7 * 24 * 60 * 60 * 1000
  | .budgetRequest => 60 * 60 * 1000

end Action

/-! ## Lexical patterns -/

def matchesRfc3339Ms (text : String) : Bool := (DateTime.ofString? text).isSome

def matchesIAddress (text : String) : Bool :=
  match text.toList with
  | 'i' :: rest => rest.length = 33 ∧ rest.all isBase58
  | _ => false

def matchesNonce (text : String) : Bool :=
  text.toList.length = 32 ∧ text.toList.all isLowerHex

def matchesDigest (text : String) : Bool :=
  text.toList.length = 64 ∧ text.toList.all isLowerHex

/-! ## Errors -/

inductive CanonicalErrorCode where
  | invalidBody
  | canonicalTooLarge
  | unexpectedField
  | unsupportedVersion
  | unsupportedSuite
  | unknownAction
  | expiresBeforeIssued
  | expiresTooFar
  | expired
  | issuedInFuture
deriving DecidableEq, Repr

structure CanonicalError where
  code : CanonicalErrorCode
  message : String
deriving DecidableEq, Repr

def allowedTopLevelKeys : List String :=
  ["version", "cryptoSuite", "action", "buyer", "seller", "payload",
    "contentHash", "nonce", "issuedAt", "expiresAt"]

def requiredTopLevelKeys : List String :=
  ["version", "cryptoSuite", "action", "buyer", "seller", "payload",
    "nonce", "issuedAt", "expiresAt"]

def allowedBuyerSellerKeys : List String := ["iaddress", "name"]
def allowedContentHashKeys : List String := ["alg", "digest"]

/-- Text of a property in a template literal, `undefined` included. -/
def propertyText : Option Json → String
  | none => "undefined"
  | some value => value.templateText

/-! ## Structural validation -/

def requireKeys (owner : String) (allowed : List String) (members : List (String × Json)) :
    Except CanonicalError Unit :=
  checkAll (fun key => require (key ∈ allowed)
    ⟨.unexpectedField, s!"{owner} \"{key}\""⟩) (members.map Prod.fst)

def requireMatch (property : Option Json) (pattern : String → Bool) (message : String) :
    Except CanonicalError String :=
  match property with
  | some (.string text) =>
      if pattern text then .ok text else .error ⟨.invalidBody, message⟩
  | _ => .error ⟨.invalidBody, message⟩

def validatePartyObject (party : Option Json) (label : String) : Except CanonicalError Unit :=
  match party with
  | some (.object members) => do
      requireKeys s!"{label} has unknown key" allowedBuyerSellerKeys members
      let _ ← requireMatch (members.lookup "iaddress") matchesIAddress
        s!"{label}.iaddress must be a 34-char i-address"
      require ((members.lookup "name").all Json.isString)
        ⟨.invalidBody, s!"{label}.name must be a string if present"⟩
  | _ => .error ⟨.invalidBody, s!"{label} must be an object"⟩

def validateContentHash (contentHash : Json) : Except CanonicalError Unit :=
  match contentHash with
  | .object members => do
      requireKeys "contentHash has unknown key" allowedContentHashKeys members
      require (members.lookup "alg" = some (.string "sha256"))
        ⟨.invalidBody, "contentHash.alg must be \"sha256\""⟩
      let _ ← requireMatch (members.lookup "digest") matchesDigest
        "contentHash.digest must be 64 hex chars"
  | _ => .error ⟨.invalidBody, "contentHash must be an object"⟩

def requireAction (property : Option Json) : Except CanonicalError Action :=
  match property.bind Action.ofJson? with
  | some action => .ok action
  | none => .error ⟨.unknownAction, s!"unknown action \"{propertyText property}\""⟩

/-! Comparisons of parsed times. `NaN` compares false with everything. -/

def nanLe : Option Int → Option Int → Bool
  | some left, some right => left ≤ right
  | _, _ => false

def nanGt : Option Int → Option Int → Bool
  | some left, some right => right < left
  | _, _ => false

def nanSub : Option Int → Option Int → Option Int
  | some left, some right => some (left - right)
  | _, _ => none

def nanAdd (left : Option Int) (right : Int) : Option Int := left.map (· + right)

/-- The four window rules, on the parsed times. -/
def validateWindow (action : Action) (issuedAtMs expiresAtMs : Option Int) (now : Int) :
    Except CanonicalError Unit := do
  require (¬ nanLe expiresAtMs issuedAtMs)
    ⟨.expiresBeforeIssued, "expiresAt must be strictly greater than issuedAt"⟩
  require (¬ nanGt (nanSub expiresAtMs issuedAtMs) (some action.maxWindowMs))
    ⟨.expiresTooFar, s!"expiresAt - issuedAt exceeds per-action max ({action.maxWindowMs}ms)"⟩
  require (¬ nanGt (some now) (nanAdd expiresAtMs clockSkewMs))
    ⟨.expired, "envelope has expired"⟩
  require (¬ nanGt issuedAtMs (some (now + clockSkewMs)))
    ⟨.issuedInFuture, "issuedAt is more than 300s in the future"⟩

def validateEnvelope (legacy : String → Option Int) (envelope : Json) (now : Int) :
    Except CanonicalError Unit :=
  match envelope with
  | .object members => do
      requireKeys "envelope has unknown top-level key" allowedTopLevelKeys members
      checkAll (fun key => require ((members.lookup key).isSome)
        ⟨.invalidBody, s!"envelope missing required key \"{key}\""⟩) requiredTopLevelKeys
      let version := members.lookup "version"
      require (version.any (· ∈ supportedVersions))
        ⟨.unsupportedVersion, s!"unsupported version {propertyText version}"⟩
      let cryptoSuite := members.lookup "cryptoSuite"
      require (cryptoSuite.any (· ∈ supportedSuites))
        ⟨.unsupportedSuite, s!"unsupported cryptoSuite \"{propertyText cryptoSuite}\""⟩
      let action ← requireAction (members.lookup "action")
      validatePartyObject (members.lookup "buyer") "buyer"
      validatePartyObject (members.lookup "seller") "seller"
      require ((members.lookup "payload").any Json.isObject)
        ⟨.invalidBody, "payload must be an object"⟩
      checkAll validateContentHash (members.lookup "contentHash").toList
      let _ ← requireMatch (members.lookup "nonce") matchesNonce
        "nonce must be 32 hex characters (16 bytes)"
      let issuedAt ← requireMatch (members.lookup "issuedAt") matchesRfc3339Ms
        "issuedAt must be RFC 3339 with millisecond precision and Z suffix"
      let expiresAt ← requireMatch (members.lookup "expiresAt") matchesRfc3339Ms
        "expiresAt must be RFC 3339 with millisecond precision and Z suffix"
      validateWindow action (dateParse legacy issuedAt) (dateParse legacy expiresAt) now
  | _ => .error ⟨.invalidBody, "envelope must be an object"⟩

/-! ## Canonical bytes and signatures -/

/-- `canonicalBytes(envelope).toString('utf8')`. -/
def canonicalBytes (canonicalize : Json → String) (envelope : Json) :
    Except CanonicalError String :=
  let text := canonicalize envelope
  if canonicalMaxBytes < text.utf8ByteSize then
    .error ⟨.canonicalTooLarge,
      s!"Canonical bytes exceed {canonicalMaxBytes} (got {text.utf8ByteSize})"⟩
  else .ok text

/-- `threshold`: the requested number of signers, or one when the resolver
returned no positive number. -/
def signatureThreshold (minimumSignatures : Option Json) : ℚ :=
  match minimumSignatures with
  | some (.number value) => if 0 < value.toRat then value.toRat else 1
  | _ => 1

/-- `verifyVerusMessage` on an address of any type: only a string can decode. -/
def addressValidates (verifyVerusMessage : String → String → String → Bool)
    (canonical : String) (address : Json) (signature : String) : Bool :=
  match address with
  | .string address => verifyVerusMessage canonical address signature
  | _ => false

/-- `matchedAddresses` after walking `primaryAddresses`, which stops as soon as
the threshold is met. -/
def matchAddresses (validates : Json → String → Bool) (signatures : List String)
    (threshold : ℚ) : List Json → List Json → List Json
  | [], matched => matched
  | address :: rest, matched =>
      let matched := if signatures.any (validates address) then matched.insert address
        else matched
      if threshold ≤ matched.length then matched
      else matchAddresses validates signatures threshold rest matched

inductive VerifyError where
  | canonical (error : CanonicalError)
  | typeError
deriving DecidableEq, Repr

def meetsThreshold (validates : Json → String → Bool) (signatures : List String)
    (resolved : Json) : Bool :=
  match resolved.get? "primaryAddresses" with
  | some (.array (first :: rest)) =>
      let threshold := signatureThreshold (resolved.get? "minimumSignatures")
      threshold ≤ (matchAddresses validates signatures threshold (first :: rest) []).length
  | _ => false

/-- What follows the resolution of the keys. A rejection is caught, but the
result is destructured outside the `try` block, so `null` makes the call throw. -/
def authenticate (validates : Json → String → Bool) (signatures : List String) :
    Except ε (Option Json) → Except VerifyError Bool
  | .error _ => .ok false
  | .ok none | .ok (some .null) => .error .typeError
  | .ok (some resolved) => .ok (meetsThreshold validates signatures resolved)

def verifyCanonicalSignatures (canonicalize : Json → String)
    (verifyVerusMessage : String → String → String → Bool)
    (getIdentityKeys : String → Except ε (Option Json))
    (envelope : Json) (signatures : List String) : Except VerifyError Bool :=
  if signatures.isEmpty then .ok false
  else match canonicalBytes canonicalize envelope with
    | .error error => .error (.canonical error)
    | .ok canonical =>
        match envelope.get? "buyer" with
        | none | some .null => .ok false
        | some buyer =>
            authenticate (addressValidates verifyVerusMessage canonical) signatures
              (getIdentityKeys (propertyText (buyer.get? "iaddress")))

end SovAgent.Crypto

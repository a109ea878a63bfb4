import SovAgent.Foundation.Checks
import SovAgent.Foundation.Json
import SovAgent.Foundation.Text

/-! # Identity keys

The endpoint that names the addresses which may sign for an identity. The HTTP
layer, canonicalization and the recovery of a signing key enter as parameters.
-/

namespace SovAgent.Client

inductive ClientError where
  | j41 (message code : String) (statusCode : Nat)
  | typeError
deriving DecidableEq, Repr

structure Environment where
  platformSigner : Option String
  network : Option String
  baseUrl : String

namespace Environment

def mainnetHosts : List String := do
  let subdomain ← ["", "api."]
  let domain ← ["io", "com", "net"]
  ["https://" ++ subdomain ++ "junction41." ++ domain]

def looksLikeMainnet (environment : Environment) : Bool :=
  mainnetHosts.any (startsWith environment.baseUrl.toLower) || environment.network = some "verus"

def pinned (environment : Environment) : Option String :=
  environment.platformSigner.filter (· ≠ "")

end Environment

/-! ## Request path -/

def hexDigitUpper (value : Nat) : Char := "0123456789ABCDEF".toList.getD value '0'

def isUnescaped (byte : UInt8) : Bool :=
  (Char.ofNat byte.toNat).isAlphanum || Char.ofNat byte.toNat ∈ "-_.!~*'()".toList

def encodeByte (byte : UInt8) : List Char :=
  if isUnescaped byte then [Char.ofNat byte.toNat]
  else ['%', hexDigitUpper (byte.toNat / 16), hexDigitUpper (byte.toNat % 16)]

def encodeURIComponent (text : String) : String :=
  String.ofList (text.toUTF8.data.toList.flatMap encodeByte)

def identityKeysPath (idOrName : String) : String :=
  s!"/v1/identity/{encodeURIComponent idOrName}/keys"

/-! ## Signed responses -/

/-- `const { platformSignature, ...signed } = data`, on a value that is not
`null`. A primitive or an array has no such property. -/
def takeSignature : Json → Option Json × Json
  | .object members =>
      (members.lookup "platformSignature",
        .object (members.filter fun member => member.1 ≠ "platformSignature"))
  | value => (none, value)

def keysUnsigned : ClientError :=
  .j41 "Identity-keys response is unsigned but a platform signer is pinned" "KEYS_UNSIGNED" 502

def keysBadSignature : ClientError :=
  .j41 "Identity-keys response failed platform-signature verification (possible tampering/MITM)"
    "KEYS_BAD_SIGNATURE" 502

def platformSignerRequired : ClientError :=
  .j41 ("getIdentityKeys refused on mainnet: J41_PLATFORM_SIGNER is unset and the " ++
      "platform-signed response is required for trust-anchor integrity on the " ++
      "production network. Set J41_PLATFORM_SIGNER to the platform's R-address.")
    "PLATFORM_SIGNER_REQUIRED" 500

variable (canonicalize : Json → String) (verifyMessage : String → String → String → Bool)

/-- Check the platform's signature over the rest of the response data. -/
def requirePlatformSignature (pinned : String) (data : Option Json) : Except ClientError Unit :=
  match data with
  | none | some .null => .error .typeError
  | some data =>
      match takeSignature data with
      | (some (.string platformSignature), signed) => do
          require (platformSignature ≠ "") keysUnsigned
          require (verifyMessage (canonicalize signed) pinned platformSignature) keysBadSignature
      | _ => .error keysUnsigned

/-- The `data` of a response body; reading it off `null` throws. -/
def responseData (body : Option Json) : Except ClientError (Option Json) :=
  match body with
  | none | some .null => .error .typeError
  | some body => .ok (body.get? "data")

def getIdentityKeys (environment : Environment)
    (request : String → Except ClientError (Option Json)) (idOrName : String) :
    Except ClientError (Option Json) := do
  require (¬ (environment.looksLikeMainnet ∧ environment.pinned = none)) platformSignerRequired
  let body ← request (identityKeysPath idOrName)
  let data ← responseData body
  match environment.pinned with
  | some pinned => do
      requirePlatformSignature canonicalize verifyMessage pinned data
      .ok data
  | none => .ok data

end SovAgent.Client

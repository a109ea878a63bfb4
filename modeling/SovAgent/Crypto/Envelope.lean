import SovAgent.Crypto.Canonical
import SovAgent.Foundation.JsonRoundTrip
import SovAgent.Foundation.Utf8
import SovAgent.Identity.VerusMessage
import SovAgent.Signing.ProtocolGuard

/-! # Access envelopes

Access requests of a buyer, envelopes that a dispatcher mints for them, and how the
buyer opens one. The curve, HKDF and AES-GCM are third-party code.
-/

namespace SovAgent.Crypto

open Identity Signing

structure EnvelopePrimitives extends Primitives where
  /-- `secp.getPublicKey(privateKey, true)`. -/
  getPublicKey : (privateKey : Bytes) → Except String Bytes
  /-- `secp.getSharedSecret(privateKey, publicKey, false)`. -/
  getSharedSecret : (privateKey publicKey : Bytes) → Except String Bytes
  /-- `hkdf(sha256, ikm, salt, info, length)`. -/
  hkdf : (ikm salt : Bytes) → (info : String) → (length : Nat) → Bytes
  /-- Ciphertext and tag of `aes-256-gcm`. -/
  encrypt : (key iv plaintext : Bytes) → Bytes × Bytes
  decrypt : (key iv authTag ciphertext : Bytes) → Except String Bytes

/-! ## Helpers -/

def hkdfInfo : String := "j41-key-envelope-v1"

/-- `randomBytes(count)`. -/
abbrev RandomBytes (count : Nat) := { bytes : Bytes // bytes.length = count }

/-- The code units of a text, with a character that no digit is for each half of a
surrogate pair. -/
def codeUnits (text : String) : List Char :=
  text.toList.flatMap fun character =>
    if utf16Units character = 1 then [character] else ['\ufffd', '\ufffd']

/-- `parseInt` of two code units in base 16, as an element of a `Uint8Array`. -/
def parsePair (high low : Char) : UInt8 :=
  match Json.hexValue high, Json.hexValue low with
  | some high, some low => .ofNat (high * 16 + low)
  | some high, none => .ofNat high
  | none, some low =>
      if Number.isWhiteSpace high ∨ high = '+' then .ofNat low
      else if high = '-' then .ofNat (256 - low)
      else 0
  | none, none => 0

def pairBytes : List Char → Bytes
  | high :: low :: rest => parsePair high low :: pairBytes rest
  | _ => []

def hexToBytes (text : String) : Bytes := pairBytes (codeUnits text)

def bytesToHex (bytes : Bytes) : String := hex bytes

/-- `sharedPoint.slice(1, 33)`. -/
def sharedX (sharedPoint : Bytes) : Bytes := (sharedPoint.drop 1).take 32

/-- `buffer.toString('utf8')`. -/
def bufferText (bytes : Bytes) : String := decodeUtf8 (bytes.map UInt8.toNat)

example : hexToBytes "0aFf1g-1" = [0x0a, 0xff, 0x01, 0xff] := by decide

section Code

variable (library : EnvelopePrimitives)

def wifToPrivateKey (wif : String) : Except String Bytes := do
  let decoded ← library.bs58checkDecode wif
  if decoded.length ≠ 33 ∧ decoded.length ≠ 34 then
    .error s!"Invalid WIF length: {decoded.length} (expected 33 or 34)"
  else .ok ((decoded.drop 1).take 32)

def wifToAddress (wif : String) (network : Network) : Except String String := do
  let keypair ← keypairFromWIF library.toPrimitives wif network
  .ok keypair.address

/-! ## Requests -/

structure SignedRequest extends AccessRequest where
  buyerSignature : String

/-- `buildAccessRequest`, at a time in seconds. -/
def buildAccessRequest (buyerWif sellerVerusId : String) (ephPub : Bytes) (network : Network)
    (nonce : RandomBytes 16) (now : Int) : Except String SignedRequest := do
  let buyerVerusId ← wifToAddress library buyerWif network
  let request : AccessRequest := {
    buyerVerusId
    sellerVerusId
    ephemeralPubKey := bytesToHex ephPub
    nonce := bytesToHex nonce.val
    timestamp := .finite (.ofInt now) }
  let buyerSignature ← signMessage library.toPrimitives buyerWif request.canonical network
  .ok { request with buyerSignature }

/-! ## Minting -/

structure AccessPayload where
  json : Json
  distinct : json.Distinct
  expiresAt : String
  dated : json.get? "expiresAt" = some (.string expiresAt)

/-- An envelope as the relay delivers it, where `timestamp` may be anything. -/
structure DeliveredEnvelope where
  ciphertext : String
  iv : String
  authTag : String
  dispatcherEphPub : String
  dispatcherSignature : String
  expiresAt : String
  timestamp : Json
deriving DecidableEq, Repr

def deriveKey (sharedPoint : Bytes) (nonce : String) : Bytes :=
  library.hkdf (sharedX sharedPoint) (hexToBytes nonce) hkdfInfo 32

def mintAccessEnvelope (request : AccessRequest) (dispatcherWif : String)
    (payload : AccessPayload) (network : Network) (iv : RandomBytes 12) (now : Int) :
    Except String DeliveredEnvelope := do
  let dispPrivKey ← wifToPrivateKey library dispatcherWif
  let dispPubKey ← library.getPublicKey dispPrivKey
  let sharedPoint ← library.getSharedSecret dispPrivKey (hexToBytes request.ephemeralPubKey)
  let aesKey := deriveKey library sharedPoint request.nonce
  let encrypted := library.encrypt aesKey iv.val (utf8 (Json.stringify payload.json))
  let envelope : AccessEnvelope := {
    ciphertext := Base64.encode encrypted.1
    iv := bytesToHex iv.val
    authTag := bytesToHex encrypted.2
    dispatcherEphPub := bytesToHex dispPubKey
    timestamp := .finite (.ofInt now)
    expiresAt := payload.expiresAt }
  let dispatcherSignature ←
    signMessage library.toPrimitives dispatcherWif envelope.canonical network
  .ok {
    ciphertext := envelope.ciphertext
    iv := envelope.iv
    authTag := envelope.authTag
    dispatcherEphPub := envelope.dispatcherEphPub
    dispatcherSignature
    expiresAt := payload.expiresAt
    timestamp := .number (.ofInt now) }

/-! ## Opening -/

structure SellerClient where
  /-- Missing where the client has no such function. -/
  getIdentityKeys : Option (String → Except String (Option Json))
  getAgent : String → Except String (Option Json)

/-- `value?.[0]`; the first character stands for a text's first code unit. -/
def firstElement : Option Json → Option Json
  | some (.array items) => items.head?
  | some (.string text) => text.toList.head?.map fun character =>
      .string (String.singleton character)
  | some value => value.get? "0"
  | none => none

/-- `first || second`. -/
def orElse (first second : Option Json) : Option Json :=
  if first.any Json.truthy then first else second

/-- The addresses that `verifyAccessEnvelope` resolves. -/
def SellerClient.primaryAddresses (client : SellerClient) (sellerVerusId : String) :
    Except String (List Json) :=
  match client.getIdentityKeys with
  | some getIdentityKeys =>
      match getIdentityKeys sellerVerusId with
      | .ok (some keys) =>
          match keys.get? "primaryAddresses" with
          | some (.array addresses) => .ok addresses
          | _ => .ok []
      | _ => .ok []
  | none => do
      let agent ← client.getAgent sellerVerusId
      match agent with
      | none => .error "Cannot read properties of undefined (reading 'primaryAddresses')"
      | some .null => .error "Cannot read properties of null (reading 'primaryAddresses')"
      | some agent =>
          let rAddr := orElse (firstElement (agent.get? "primaryAddresses"))
            (orElse (firstElement (agent.get? "primaryaddresses")) (agent.get? "address"))
          .ok (rAddr.filter Json.truthy).toList

structure OpenVerifyContext where
  client : SellerClient
  sellerVerusId : String
  /-- `opts.now`, or the clock, in seconds. -/
  now : ℚ
  maxAgeSeconds : ℚ := 300

/-- What the verifier takes an envelope with a numeric timestamp to say. -/
def DeliveredEnvelope.statement (envelope : DeliveredEnvelope) (timestamp : Decimal) :
    AccessEnvelope where
  ciphertext := envelope.ciphertext
  iv := envelope.iv
  authTag := envelope.authTag
  dispatcherEphPub := envelope.dispatcherEphPub
  timestamp := .finite timestamp
  expiresAt := envelope.expiresAt

def verifyAccessEnvelope (legacy : String → Option Int) (envelope : DeliveredEnvelope)
    (context : OpenVerifyContext) : Except String Bool :=
  match dateParse legacy envelope.expiresAt, envelope.timestamp with
  | some expiresMs, .number timestamp =>
      if (expiresMs : ℚ) ≤ context.now * 1000 then .ok false
      else if context.maxAgeSeconds < timestamp.toRat - context.now then .ok false
      else do
        let primaryAddresses ← context.client.primaryAddresses context.sellerVerusId
        if primaryAddresses = [] then .error "Could not resolve seller primary R-addresses"
        else .ok (primaryAddresses.any fun rAddress =>
          addressValidates (verifyVerusMessage library.toPrimitives)
            (envelope.statement timestamp).canonical rAddress envelope.dispatcherSignature)
  | _, _ => .ok false

def decryptEnvelope (envelope : DeliveredEnvelope) (ephPrivKey : Bytes) (nonce : String) :
    Except String Json :=
  if utf16Length nonce ≠ 32 ∨ ¬nonce.toList.all (fun digit => (Json.hexValue digit).isSome) then
    .error ("Invalid nonce: must be 32 hex characters (16 bytes). " ++
      "Use the nonce from buildAccessRequest().")
  else do
    let sharedPoint ← library.getSharedSecret ephPrivKey (hexToBytes envelope.dispatcherEphPub)
    let aesKey := deriveKey library sharedPoint nonce
    let decrypted ← library.decrypt aesKey (hexToBytes envelope.iv) (hexToBytes envelope.authTag)
      (Base64.decode envelope.ciphertext)
    match Json.parse (bufferText decrypted) with
    | none => .error "invalid JSON"
    | some payload => .ok payload

def openAccessEnvelope (legacy : String → Option Int) (envelope : DeliveredEnvelope)
    (ephPrivKey : Bytes) (nonce : String) (context : OpenVerifyContext) : Except String Json :=
  if context.sellerVerusId = "" then
    .error ("openAccessEnvelope requires a verification context " ++
      "\x7b client, sellerVerusId \x7d: the envelope MUST be authenticated against the " ++
      "expected seller before it is decrypted. Pass the authenticated J41Client and the " ++
      "seller VerusID you requested access from.")
  else do
    let authentic ← verifyAccessEnvelope library legacy envelope context
    if ¬authentic then
      .error (s!"Access envelope failed signature verification against the expected seller " ++
        s!"({context.sellerVerusId}) — refusing to decrypt. A relay may have forged this " ++
        "envelope (MITM); the decrypted apiKey/endpointUrl cannot be trusted.")
    else decryptEnvelope library envelope ephPrivKey nonce

end Code

end SovAgent.Crypto

import SovAgent.Foundation.Base64
import SovAgent.Foundation.JsonText
import SovAgent.Identity.Update

/-! # Signed messages

The signatures of `signmessage` and `verifymessage`. The hashes, base58check and
the curve are third-party code and enter as the functions of `Primitives`.
-/

namespace SovAgent.Identity

/-- A signature as the curve library returns it. -/
structure RecoverableSignature where
  compact : Bytes
  recovery : Nat
deriving DecidableEq, Repr

structure Primitives where
  Point : Type
  sha256 : Bytes → Bytes
  ripemd160 : Bytes → Bytes
  bs58checkEncode : Bytes → String
  bs58checkDecode : String → Except String Bytes
  /-- `secp256k1.sign` of a hash with a private key. -/
  sign : Bytes → Bytes → Except String RecoverableSignature
  /-- `Signature.fromCompact`, `addRecoveryBit` and `recoverPublicKey` of a hash. -/
  recoverPublicKey : RecoverableSignature → Bytes → Except String Point
  toRawBytes : Point → (compressed : Bool) → Bytes
  /-- `ECPair.fromWIF(wif, network).getPublicKeyBuffer()`. -/
  publicKeyBuffer : String → Network → Except String Bytes
  wif : Network → UInt8
  pubKeyHash : Network → UInt8

variable (library : Primitives)

/-! ## The signed hash -/

def utf8 (text : String) : Bytes := text.toList.flatMap String.utf8EncodeChar

def verusPrefixBytes : Bytes := utf8 "Verus signed data:\n"

def hash160 (buf : Bytes) : Bytes := library.ripemd160 (library.sha256 buf)

def lowBytes : (count : Nat) → Nat → Bytes
  | 0, _ => []
  | count + 1, n => .ofNat (n % 256) :: lowBytes count (n / 256)

def varint (n : Nat) : Except String Bytes :=
  if n < 0xfd then .ok [.ofNat n]
  else if n ≤ 0xffff then .ok (0xfd :: lowBytes 2 n)
  else if n ≤ 0xffffffff then .ok (0xfe :: lowBytes 4 n)
  else .error "message too long"

example : varint 0x1234 = .ok [0xfd, 0x34, 0x12] := by decide

theorem varint_verusPrefixBytes : varint verusPrefixBytes.length = .ok [0x13] := by
  decide +kernel

def magicHash (message : String) : Except String Bytes := do
  let msgBuf := utf8 message
  let length ← varint msgBuf.length
  let msgHash := library.sha256 (length ++ msgBuf)
  let prefixLength ← varint verusPrefixBytes.length
  .ok (library.sha256 (prefixLength ++ verusPrefixBytes ++ msgHash))

/-! ## Keys -/

structure DecodedWif where
  privateKey : Bytes
  compressed : Bool
deriving DecidableEq, Repr

def decodeWif (wif : String) : Except String DecodedWif := do
  let decoded ← library.bs58checkDecode wif
  if decoded.length ≠ 33 ∧ decoded.length ≠ 34 then
    .error s!"Invalid WIF length: {decoded.length}"
  else .ok {
    privateKey := (decoded.drop 1).take 32
    compressed := decoded.length = 34 }

structure Keypair where
  publicKey : String
  address : String
  wif : String
deriving DecidableEq, Repr

def hex (bytes : Bytes) : String :=
  String.ofList (bytes.flatMap fun byte =>
    [Json.hexDigit (byte.toNat / 16), Json.hexDigit (byte.toNat % 16)])

def privateKeyToPublicKey (privKey : Bytes) (compressed : Bool) (networkName : Network) :
    Except String Bytes :=
  let wifBuf := library.wif networkName :: privKey ++ (if compressed then [0x01] else [])
  library.publicKeyBuffer (library.bs58checkEncode wifBuf) networkName

def privateKeyToAddress (privKey : Bytes) (network : Network) : Except String String := do
  let pubkey ← privateKeyToPublicKey library privKey true network
  .ok (library.bs58checkEncode (library.pubKeyHash network :: hash160 library pubkey))

def keypairFromWIF (wif : String) (network : Network) : Except String Keypair := do
  let key ← decodeWif library wif
  if ¬key.compressed then
    .error "Uncompressed WIF keys are not supported; Verus requires compressed keys"
  else
    let pubkey ← privateKeyToPublicKey library key.privateKey true network
    let address ← privateKeyToAddress library key.privateKey network
    .ok { publicKey := hex pubkey, address, wif }

/-! ## Signatures -/

def signVerusMessage (wif message : String) : Except String String := do
  let key ← decodeWif library wif
  let h ← magicHash library message
  let sig ← library.sign h key.privateKey
  let header := sig.recovery + 27 + (if key.compressed then 4 else 0)
  .ok (Base64.encode (.ofNat header :: sig.compact))

def signMessage (wif message : String) (_network : Network) : Except String String :=
  signVerusMessage library wif message

/-- The steps of `verifyVerusMessage` inside of its `try` block. -/
def recoveredMatches (message address signatureB64 : String) : Except String Bool := do
  match Base64.decode signatureB64 with
  | header :: compact =>
      if compact.length ≠ 64 ∨ header.toNat < 27 ∨ header.toNat > 34 then .ok false
      else
        let recovery := (header.toNat - 27) % 4
        let compressed := (header.toNat - 27) / 4 % 2 ≠ 0
        let h ← magicHash library message
        let point ← library.recoverPublicKey ⟨compact, recovery⟩ h
        let recoveredHash := hash160 library (library.toRawBytes point compressed)
        let addrPayload ← library.bs58checkDecode address
        let addrHash := addrPayload.drop (addrPayload.length - 20)
        .ok (recoveredHash.length = addrHash.length ∧ recoveredHash.take 20 = addrHash.take 20)
  | [] => .ok false

def verifyVerusMessage (message address signatureB64 : String) : Bool :=
  if message = "" ∨ address = "" ∨ signatureB64 = "" then false
  else match recoveredMatches library message address signatureB64 with
    | .ok verified => verified
    | .error _ => false

end SovAgent.Identity

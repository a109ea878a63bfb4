import SovAgent.Crypto.CanonicalWindow
import SovAgent.Foundation.JsonRoundTrip
import SovAgent.Identity.VerusMessage

/-! # Signing and verifying a canonical envelope -/

namespace SovAgent.Crypto

open Identity

/-! ## signCanonical -/

structure SignedEnvelopeV1 where
  envelope : Json
  signatures : List String
deriving DecidableEq, Repr

def SignedEnvelopeV1.toJson (signed : SignedEnvelopeV1) : Json :=
  .object [("envelope", signed.envelope), ("signatures", .array (signed.signatures.map .string))]

inductive SignError where
  | canonical (error : CanonicalError)
  | thrown (message : String)
deriving DecidableEq, Repr

/-- `signCanonical`, by a signer whose clock shows `now`. -/
def signCanonical (library : Primitives) (legacy : String → Option Int)
    (canonicalize : Json → String) (wif : String) (envelope : Json) (network : Network)
    (now : Int) : Except SignError SignedEnvelopeV1 := do
  (validateEnvelope legacy envelope now).mapError .canonical
  let bytes ← (canonicalBytes canonicalize envelope).mapError .canonical
  let signature ← (signMessage library wif bytes network).mapError .thrown
  .ok { envelope, signatures := [signature] }

/-! ## The third-party functions -/

/-- What the libraries promise: `bs58check` decodes what it encodes, and a key is
recovered from what it signed. -/
structure Lawful (library : Primitives) : Prop where
  decode_encode : ∀ payload,
    library.bs58checkDecode (library.bs58checkEncode payload) = .ok payload
  encode_ne_empty : ∀ payload, library.bs58checkEncode payload ≠ ""
  ripemd160_length : ∀ buf, (library.ripemd160 buf).length = 20
  compact_length : ∀ {hash key sig}, library.sign hash key = .ok sig → sig.compact.length = 64
  recovery_lt : ∀ {hash key sig}, library.sign hash key = .ok sig → sig.recovery < 4
  recovers : ∀ {hash key sig network pubkey}, library.sign hash key = .ok sig →
    library.publicKeyBuffer (library.bs58checkEncode
      (library.wif network :: key ++ [0x01])) network = .ok pubkey →
    ∃ point, library.recoverPublicKey sig hash = .ok point ∧
      library.toRawBytes point true = pubkey

/-! ## One signature -/

variable {library : Primitives}

theorem signVerusMessage_eq_ok {wif message signature : String} :
    signVerusMessage library wif message = .ok signature ↔
      ∃ key hash sig, decodeWif library wif = .ok key ∧ magicHash library message = .ok hash ∧
        library.sign hash key.privateKey = .ok sig ∧
        signature = Base64.encode
          (.ofNat (sig.recovery + 27 + if key.compressed then 4 else 0) :: sig.compact) := by
  simp only [signVerusMessage, bind_eq_ok]
  constructor
  · intro signed
    rcases signed with ⟨key, decoded, hash, hashed, sig, made, equal⟩
    rw [Except.ok.injEq] at equal
    exact ⟨key, hash, sig, decoded, hashed, made, equal.symm⟩
  · intro parts
    rcases parts with ⟨key, hash, sig, decoded, hashed, made, equal⟩
    exact ⟨key, decoded, hash, hashed, sig, made, by rw [equal]⟩

theorem keypairFromWIF_eq_ok {wif : String} {network : Network} {keypair : Keypair}
    (derived : keypairFromWIF library wif network = .ok keypair) :
    ∃ key pubkey, decodeWif library wif = .ok key ∧ key.compressed = true ∧
      library.publicKeyBuffer (library.bs58checkEncode
        (library.wif network :: key.privateKey ++ [0x01])) network = .ok pubkey ∧
      keypair.address =
        library.bs58checkEncode (library.pubKeyHash network :: hash160 library pubkey) := by
  simp only [keypairFromWIF, bind_eq_ok] at derived
  rcases derived with ⟨key, decoded, derived⟩
  split at derived
  · cases derived
  · rename_i compressed
    simp only [privateKeyToAddress, bind_eq_ok] at derived
    rcases derived with ⟨pubkey, buffer, address, ⟨pubkey', buffer', encoded⟩, equal⟩
    rw [buffer, Except.ok.injEq] at buffer'
    rw [Except.ok.injEq] at equal encoded
    refine ⟨key, pubkey, decoded, Decidable.not_not.mp compressed, buffer, ?_⟩
    rw [← equal, ← encoded, ← buffer']

theorem verifyVerusMessage_recovered (lawful : Lawful library) {wif message signature : String}
    {key : DecodedWif} {pubkey : Bytes} (version : UInt8)
    (decoded : decodeWif library wif = .ok key)
    (recovers : ∀ {hash sig}, library.sign hash key.privateKey = .ok sig →
      ∃ point, library.recoverPublicKey sig hash = .ok point ∧
        library.toRawBytes point key.compressed = pubkey)
    (signed : signVerusMessage library wif message = .ok signature) (filled : message ≠ "") :
    verifyVerusMessage library message
      (library.bs58checkEncode (version :: hash160 library pubkey)) signature = true := by
  rcases signVerusMessage_eq_ok.mp signed with ⟨key', hash, sig, decoded', hashed, made, text⟩
  rw [decoded, Except.ok.injEq] at decoded'
  subst decoded'
  rcases recovers made with ⟨point, recovered, raw⟩
  have recovery := lawful.recovery_lt made
  generalize mark : (if key.compressed = true then 4 else 0) = flag at text
  have flags : flag = if key.compressed = true then 4 else 0 := mark.symm
  have flagBound : flag ≤ 4 := by
    rw [flags]
    split
    · exact Nat.le_refl 4
    · exact Nat.zero_le 4
  have bytes := Base64.decode_encode (.ofNat (sig.recovery + 27 + flag) :: sig.compact)
  rw [← text] at bytes
  have header : (UInt8.ofNat (sig.recovery + 27 + flag)).toNat = sig.recovery + 27 + flag := by
    apply UInt8.toNat_ofNat_of_lt
    change _ < 256
    omega
  have signatureFilled : signature ≠ "" := by
    intro empty
    rw [empty] at bytes
    cases bytes
  have steps : recoveredMatches library message
      (library.bs58checkEncode (version :: hash160 library pubkey)) signature = .ok true := by
    have length := lawful.compact_length made
    have hashLength := lawful.ripemd160_length (library.sha256 pubkey)
    have bounds : ¬(sig.compact.length ≠ 64 ∨ sig.recovery + 27 + flag < 27 ∨
        sig.recovery + 27 + flag > 34) := by
      omega
    have bits : (sig.recovery + 27 + flag - 27) % 4 = sig.recovery := by
      rw [flags]
      split
      · omega
      · omega
    have marked : decide ((sig.recovery + 27 + flag - 27) / 4 % 2 ≠ 0) = key.compressed := by
      rw [flags]
      cases key.compressed with
      | true =>
          rw [if_pos rfl, decide_eq_true_eq]
          omega
      | false =>
          rw [if_neg Bool.false_ne_true, decide_eq_false_iff_not]
          omega
    simp only [recoveredMatches, bytes, header, if_neg bounds, bits, hashed, lawful.decode_encode]
    refine bind_eq_ok.mpr ⟨hash, rfl, bind_eq_ok.mpr ⟨point, recovered, bind_eq_ok.mpr
      ⟨_, rfl, ?_⟩⟩⟩
    have payload : (version :: hash160 library pubkey).length - 20 = 1 := by
      rw [List.length_cons, hash160, hashLength]
    rw [marked, raw, payload, List.drop_one, List.tail_cons]
    simp
  rw [verifyVerusMessage, if_neg, steps]
  intro missing
  rcases missing with empty | empty | empty
  · exact filled empty
  · exact lawful.encode_ne_empty _ empty
  · exact signatureFilled empty

theorem verifyVerusMessage_signVerusMessage (lawful : Lawful library)
    {wif message signature : String} {network : Network} {keypair : Keypair}
    (derived : keypairFromWIF library wif network = .ok keypair)
    (signed : signVerusMessage library wif message = .ok signature) (filled : message ≠ "") :
    verifyVerusMessage library message keypair.address signature = true := by
  rcases keypairFromWIF_eq_ok derived with ⟨key, pubkey, decoded, compressed, buffer, address⟩
  rw [address]
  apply verifyVerusMessage_recovered lawful _ decoded _ signed filled
  intro hash sig made
  rw [compressed]
  exact lawful.recovers made buffer

/-! ## The received envelope -/

theorem signCanonical_eq_ok {legacy : String → Option Int} {canonicalize : Json → String}
    {wif : String} {envelope : Json} {network : Network} {now : Int} {signed : SignedEnvelopeV1}
    (accepted : signCanonical library legacy canonicalize wif envelope network now = .ok signed) :
    validateEnvelope legacy envelope now = .ok () ∧
      canonicalBytes canonicalize envelope = .ok (canonicalize envelope) ∧
      ∃ signature, signVerusMessage library wif (canonicalize envelope) = .ok signature ∧
        signed = ⟨envelope, [signature]⟩ := by
  simp only [signCanonical, bind_eq_ok, exists_unit, mapError_eq_ok] at accepted
  rcases accepted with ⟨valid, bytes, canonical, signature, made, equal⟩
  have text : bytes = canonicalize envelope := by
    rw [canonicalBytes] at canonical
    split at canonical
    · cases canonical
    · exact (Except.ok.inj canonical).symm
  subst text
  rw [Except.ok.injEq] at equal
  exact ⟨valid, canonical, signature, made, equal.symm⟩

/-- From `issuedAt` less the allowed skew to `expiresAt` and the skew. -/
structure WithinSkew (legacy : String → Option Int) (envelope : Json) (now : Int) : Prop where
  begun : ∀ {issuedAt issued}, envelope.get? "issuedAt" = some (.string issuedAt) →
    dateParse legacy issuedAt = some issued → issued - clockSkewMs ≤ now
  unexpired : ∀ {expiresAt expires}, envelope.get? "expiresAt" = some (.string expiresAt) →
    dateParse legacy expiresAt = some expires → now ≤ expires + clockSkewMs

theorem validateEnvelope_within {legacy : String → Option Int} {envelope : Json}
    {now later : Int} (valid : validateEnvelope legacy envelope now = .ok ())
    (within : WithinSkew legacy envelope later) :
    validateEnvelope legacy envelope later = .ok () := by
  rcases validateEnvelope_eq_ok.mp valid with
    ⟨members, action, issuedAt, expiresAt, rfl, rules, window⟩
  refine validateEnvelope_eq_ok.mpr ⟨members, action, issuedAt, expiresAt, rfl, rules, ?_⟩
  simp only [validateWindow, seq_eq_ok, require_eq_ok] at window ⊢
  refine ⟨window.1, window.2.1, ?_, ?_⟩
  · intro expired
    cases parsed : dateParse legacy expiresAt with
    | none =>
        rw [parsed] at expired
        cases expired
    | some expires =>
        have bound := within.unexpired rules.expiresAtText parsed
        rw [parsed] at expired
        exact absurd (of_decide_eq_true expired) (Int.not_lt.mpr bound)
  · intro future
    cases parsed : dateParse legacy issuedAt with
    | none =>
        rw [parsed] at future
        cases future
    | some issued =>
        have bound := within.begun rules.issuedAtText parsed
        rw [parsed] at future
        have late : later + clockSkewMs < issued := of_decide_eq_true future
        omega

theorem signatureThreshold_one : signatureThreshold (some (.number 1)) = 1 := by
  have one : (1 : Decimal).toRat = 1 := Decimal.toRat_ofInt 1
  simp [signatureThreshold, one]

theorem matchAddresses_one {validates : Json → String → Bool} {signatures : List String}
    {addresses : List Json} {address : Json} (member : address ∈ addresses)
    (valid : signatures.any (validates address)) (matched : List Json) :
    (1 : ℚ) ≤ (matchAddresses validates signatures 1 addresses matched).length := by
  induction addresses generalizing matched with
  | nil => cases member
  | cons first rest induction =>
      rw [matchAddresses]
      by_cases met : (1 : ℚ) ≤
          (if signatures.any (validates first) then matched.insert first else matched).length
      · rw [if_pos met]
        exact met
      · rw [if_neg met]
        rcases List.mem_cons.mp member with rfl | later
        · exfalso
          apply met
          have filled : 0 < (matched.insert address).length :=
            List.length_pos_of_mem List.mem_insert_self
          rw [if_pos valid]
          exact_mod_cast filled
        · exact induction later _

theorem SignedEnvelopeV1.toJson_distinct {signed : SignedEnvelopeV1}
    (distinct : signed.envelope.Distinct) : signed.toJson.Distinct := by
  have strings : ∀ texts : List String, Json.DistinctItems (texts.map .string) := by
    intro texts
    induction texts with
    | nil => trivial
    | cons text texts induction => exact ⟨trivial, induction⟩
  have keys : ["envelope", "signatures"].Nodup := by decide
  exact ⟨keys, distinct, strings signed.signatures, trivial⟩

def buyerAddress (envelope : Json) : String :=
  propertyText ((envelope.get? "buyer").bind fun buyer => buyer.get? "iaddress")

/-- One verified signature of an address that the resolver names is enough. -/
theorem verifyCanonicalSignatures_single {legacy : String → Option Int}
    {canonicalize : Json → String} {verifies : String → String → String → Bool}
    {getIdentityKeys : String → Except ε (Option Json)} {envelope resolved : Json} {now : Int}
    {canonical address signature : String} {addresses : List Json}
    (valid : validateEnvelope legacy envelope now = .ok ())
    (bytes : canonicalBytes canonicalize envelope = .ok canonical)
    (verified : verifies canonical address signature = true)
    (answers : getIdentityKeys (buyerAddress envelope) = .ok (some resolved))
    (primary : resolved.get? "primaryAddresses" = some (.array addresses))
    (member : .string address ∈ addresses)
    (minimum : resolved.get? "minimumSignatures" = some (.number 1)) :
    verifyCanonicalSignatures canonicalize verifies getIdentityKeys envelope [signature] =
      .ok true := by
  rcases validateEnvelope_eq_ok.mp valid with
    ⟨members, action, issuedAt, expiresAt, equal, rules, _⟩
  rcases rules.buyer with ⟨party, buyer, _⟩
  have buyerMember : envelope.get? "buyer" = some (.object party) := by
    rw [equal]
    exact buyer
  have filled : ∃ first rest, addresses = first :: rest := by
    cases addresses with
    | nil => cases member
    | cons first rest => exact ⟨first, rest, rfl⟩
  rcases filled with ⟨first, rest, rfl⟩
  have validates : [signature].any (addressValidates verifies canonical (.string address)) =
      true := by
    rw [List.any_cons, addressValidates, verified, Bool.true_or]
  have enough := matchAddresses_one member validates []
  rw [buyerAddress, buyerMember, Option.bind_some] at answers
  simp only [verifyCanonicalSignatures, List.isEmpty_cons, Bool.false_eq_true, if_false,
    bytes, buyerMember, answers]
  cases resolved with
  | object fields =>
      change Except.ok (meetsThreshold _ [signature] (.object fields)) = _
      simp only [meetsThreshold, primary, minimum, signatureThreshold_one]
      rw [decide_eq_true enough]
  | null | bool _ | number _ | string _ | array _ => cases primary

/-- What is signed, sent as JSON text and parsed is valid at every clock within
the skew, and its signature authenticates the signer. -/
theorem canonical_round_trip (lawful : Lawful library) {legacy : String → Option Int}
    {canonicalize : Json → String} (writes : ∀ value, canonicalize value ≠ "")
    {wif : String} {network : Network} {keypair : Keypair} {envelope : Json} {now : Int}
    {signed : SignedEnvelopeV1} (distinct : envelope.Distinct)
    (derived : keypairFromWIF library wif network = .ok keypair)
    (accepted : signCanonical library legacy canonicalize wif envelope network now = .ok signed) :
    ∃ body received signatures, Json.parse (Json.stringify signed.toJson) = some body ∧
      body.get? "envelope" = some received ∧
      body.get? "signatures" = some (.array (signatures.map .string)) ∧
      (∀ later, WithinSkew legacy received later →
        validateEnvelope legacy received later = .ok ()) ∧
      ∀ (getIdentityKeys : String → Except ε (Option Json)) resolved addresses,
        (∀ idOrName, getIdentityKeys idOrName = .ok (some resolved)) →
        resolved.get? "primaryAddresses" = some (.array addresses) →
        .string keypair.address ∈ addresses →
        resolved.get? "minimumSignatures" = some (.number 1) →
        verifyCanonicalSignatures canonicalize (verifyVerusMessage library) getIdentityKeys
          received signatures = .ok true := by
  rcases signCanonical_eq_ok accepted with ⟨valid, canonical, signature, made, rfl⟩
  refine ⟨_, envelope, [signature],
    Json.parse_stringify (SignedEnvelopeV1.toJson_distinct distinct), rfl, rfl, ?_, ?_⟩
  · intro later within
    exact validateEnvelope_within valid within
  · intro getIdentityKeys resolved addresses answers primary member minimum
    have verified := verifyVerusMessage_signVerusMessage lawful derived made (writes envelope)
    exact verifyCanonicalSignatures_single valid canonical verified (answers _) primary member
      minimum

/-! What the libraries answer for one key and one envelope, whose members stand
in canonical order. -/

def recordedBytes (text : String) : Bytes := (hexBytes text.toList).map .ofNat

def recordedEnvelope : Json :=
  .object [("action", .string "request-access"),
    ("buyer", .object [("iaddress", .string "i4LT3AbaYQ4kA7xV3euxfND4XmPjH7koAX")]),
    ("cryptoSuite", .string "verus-signmessage-v1"),
    ("expiresAt", .string "2026-03-01T12:01:00.000Z"),
    ("issuedAt", .string "2026-03-01T12:00:00.000Z"),
    ("nonce", .string "78377b525757b494427f89014f97d799"),
    ("payload", .object [("ephemeralPubKey", .string "a key")]),
    ("seller", .object [("iaddress", .string "iLYnZ2mAqLbjCKdpzw3fshYemT7qogkAGs")]),
    ("version", .number 1)]

def recordedKey : Bytes :=
  recordedBytes "22b8e24f18fd9e540163b2040687df72a2cc5480c80c648bb7641ff0a3dc13eb"

def recordedPublicKey : Bytes :=
  recordedBytes "03d61b029614dd6298b5d59fd21fd8bf524e75b71f28b27dbfaf0b5bc5e3fe6a15"

def recordedPublicKeyHash : Bytes := recordedBytes "65d4077a2622db003b678140d278f119b1ec13db"

def recordedWif : String := "UqB3DxFLGf3tRhZTjKqCRUNxouQifqAYmibcU6FVLxhRSnVKN3xd"

def recordedAddress : String := "RJZcKwPXjouDE4Jnq9CWFbzSKHSQaRKM8E"

def recordedMessageHash : Bytes :=
  recordedBytes "0d101f89d49d994ebcefe8ad712f7b564667ecb46b112a0cf38eb46c41a2e124"

def recordedHash : Bytes :=
  recordedBytes "f1171b828cf30527ddfba5e0ad8b314b20882b0b2490c5aa0dae55e50ed57410"

def recordedSignature : RecoverableSignature where
  compact := recordedBytes
    ("ae02df3eb904c3d9ea969ded9e9c1393043e92fe0bdedf49ca5609263dd1b5b6" ++
      "33be2069f6c1b1e11091048c54f3868cf51e815d58e616f833d962fefbb3e110")
  recovery := 0

def recordedLibrary : Primitives where
  Point := Unit
  sha256 buf :=
    if buf = 0xfd :: 0x5f :: 0x01 :: utf8 (Json.stringify recordedEnvelope) then
      recordedMessageHash
    else if buf = 0x13 :: verusPrefixBytes ++ recordedMessageHash then recordedHash
    else if buf = recordedPublicKey then
      recordedBytes "7e1033f262da19828e0b608d73eef6af9bb3ca8d8277742f60cd2957d1b030b6"
    else []
  ripemd160 buf :=
    if buf = recordedBytes "7e1033f262da19828e0b608d73eef6af9bb3ca8d8277742f60cd2957d1b030b6" then
      recordedPublicKeyHash
    else List.replicate 20 0
  bs58checkEncode payload :=
    if payload = 0x3c :: recordedPublicKeyHash then recordedAddress
    else if payload = 0xbc :: recordedKey ++ [0x01] then recordedWif
    else String.ofList ('*' :: payload.map fun byte => Char.ofNat byte.toNat)
  bs58checkDecode text :=
    if text = recordedAddress then .ok (0x3c :: recordedPublicKeyHash)
    else if text = recordedWif then .ok (0xbc :: recordedKey ++ [0x01])
    else .ok ((text.toList.drop 1).map fun character => .ofNat character.toNat)
  sign hash privateKey :=
    if hash = recordedHash ∧ privateKey = recordedKey then .ok recordedSignature
    else .error "unknown key"
  recoverPublicKey sig hash :=
    if sig = recordedSignature ∧ hash = recordedHash then .ok () else .error "unknown signature"
  toRawBytes _ compressed := if compressed then recordedPublicKey else []
  publicKeyBuffer wif _ :=
    if wif = recordedWif then .ok recordedPublicKey else .error "unknown key"
  wif _ := 0xbc
  pubKeyHash _ := 0x3c

theorem recordedLibrary_decode_encode (payload : Bytes) :
    recordedLibrary.bs58checkDecode (recordedLibrary.bs58checkEncode payload) = .ok payload := by
  simp only [recordedLibrary]
  split
  · rename_i same
    rw [if_pos rfl, same]
  · split
    · rename_i same
      rw [if_neg (by decide), if_pos rfl, same]
    · have starred : ∀ {text : String} {tail : List Char}, text.toList.head? ≠ some '*' →
          String.ofList ('*' :: tail) ≠ text := by
        intro text tail other equal
        apply other
        rw [← equal, String.toList_ofList]
        rfl
      have byte : ∀ byte : UInt8, UInt8.ofNat (Char.ofNat byte.toNat).toNat = byte := by
        intro byte
        have small : byte.toNat.isValidChar := Or.inl (by have := byte.toNat_lt; omega)
        have value : (Char.ofNat byte.toNat).toNat = byte.toNat := by
          rw [Char.ofNat, dif_pos small]
          rfl
        rw [value, UInt8.ofNat_toNat]
      rw [if_neg (starred (by decide)), if_neg (starred (by decide)), String.toList_ofList,
        List.drop_one, List.tail_cons, List.map_map]
      congr 1
      exact (List.map_congr_left fun member _ => byte member).trans (List.map_id payload)

theorem recordedLibrary_sign {hash key : Bytes} {sig : RecoverableSignature}
    (made : recordedLibrary.sign hash key = .ok sig) :
    hash = recordedHash ∧ sig = recordedSignature := by
  simp only [recordedLibrary] at made
  split at made
  · rename_i known
    exact ⟨known.1, (Except.ok.inj made).symm⟩
  · cases made

theorem recordedLibrary_publicKey {wif : String} {network : Network} {pubkey : Bytes}
    (buffer : recordedLibrary.publicKeyBuffer wif network = .ok pubkey) :
    pubkey = recordedPublicKey := by
  simp only [recordedLibrary] at buffer
  split at buffer
  · exact (Except.ok.inj buffer).symm
  · cases buffer

theorem recordedSignature_formed :
    recordedSignature.compact.length = 64 ∧ recordedSignature.recovery < 4 := by
  decide +kernel

theorem recordedLibrary_lawful : Lawful recordedLibrary where
  decode_encode := recordedLibrary_decode_encode
  encode_ne_empty payload := by
    simp only [recordedLibrary]
    split
    · decide
    · split
      · decide
      · intro empty
        have characters := congrArg String.toList empty
        rw [String.toList_ofList] at characters
        cases characters
  ripemd160_length buf := by
    simp only [recordedLibrary]
    split
    · decide
    · decide
  compact_length made := by
    rw [(recordedLibrary_sign made).2]
    exact recordedSignature_formed.1
  recovery_lt made := by
    rw [(recordedLibrary_sign made).2]
    exact recordedSignature_formed.2
  recovers made buffer := by
    rcases recordedLibrary_sign made with ⟨hash, sig⟩
    refine ⟨(), ?_, ?_⟩
    · rw [hash, sig]
      simp only [recordedLibrary, and_self, if_true]
    · exact (recordedLibrary_publicKey buffer).symm

theorem length_utf8 (text : String) : (utf8 text).length = text.utf8ByteSize := by
  have bytes := @String.toByteArray_ofList text.toList
  rw [String.ofList_toList] at bytes
  rw [← String.size_toByteArray, bytes, List.utf8Encode, List.size_toByteArray]
  rfl

theorem stringify_ne_empty (value : Json) : Json.stringify value ≠ "" := by
  intro empty
  rcases Json.write_head value with ⟨first, tail, equal, _⟩
  have characters := congrArg String.toList empty
  rw [Json.stringify, String.toList_ofList, equal] at characters
  cases characters

theorem recordedEnvelope_distinct : recordedEnvelope.Distinct := by
  simp [recordedEnvelope, Json.Distinct, Json.DistinctMembers]

theorem recordedEnvelope_length : (utf8 (Json.stringify recordedEnvelope)).length = 351 := by
  rw [utf8, Json.stringify, String.toList_ofList]
  decide +kernel

theorem recordedEnvelope_valid :
    validateEnvelope (fun _ => none) recordedEnvelope 1772366400000 = .ok () ∧
      dateParse (fun _ => none) "2026-03-01T12:00:00.000Z" = some 1772366400000 ∧
      dateParse (fun _ => none) "2026-03-01T12:01:00.000Z" = some 1772366460000 := by
  decide +kernel

theorem recordedEnvelope_bytes :
    canonicalBytes Json.stringify recordedEnvelope = .ok (Json.stringify recordedEnvelope) := by
  have small : ¬canonicalMaxBytes < (Json.stringify recordedEnvelope).utf8ByteSize := by
    rw [← length_utf8, recordedEnvelope_length]
    decide
  rw [canonicalBytes]
  exact if_neg small

theorem recordedEnvelope_magicHash :
    magicHash recordedLibrary (Json.stringify recordedEnvelope) = .ok recordedHash := by
  have length : varint 351 = .ok [0xfd, 0x5f, 0x01] := by decide
  have message : recordedLibrary.sha256
      ([0xfd, 0x5f, 0x01] ++ utf8 (Json.stringify recordedEnvelope)) = recordedMessageHash := by
    simp only [recordedLibrary, List.cons_append, List.nil_append, if_true]
  have tagged : recordedLibrary.sha256 ([0x13] ++ verusPrefixBytes ++ recordedMessageHash) =
      recordedHash := by
    simp only [recordedLibrary, List.cons_append, List.nil_append]
    rw [if_neg, if_true]
    intro equal
    exact absurd (List.cons.inj equal).1 (by decide)
  simp only [magicHash, recordedEnvelope_length, bind_eq_ok]
  exact ⟨_, length, _, varint_verusPrefixBytes, by rw [message, tagged]⟩

def recordedKeypair : Keypair where
  publicKey := hex recordedPublicKey
  address := recordedAddress
  wif := recordedWif

theorem recordedWif_read :
    decodeWif recordedLibrary recordedWif = .ok ⟨recordedKey, true⟩ ∧
      keypairFromWIF recordedLibrary recordedWif .verustest = .ok recordedKeypair := by
  decide +kernel

theorem recordedEnvelope_signed :
    signVerusMessage recordedLibrary recordedWif (Json.stringify recordedEnvelope) =
      .ok (Base64.encode (0x1f :: recordedSignature.compact)) := by
  refine signVerusMessage_eq_ok.mpr ⟨⟨recordedKey, true⟩, recordedHash, recordedSignature,
    recordedWif_read.1, recordedEnvelope_magicHash, ?_, rfl⟩
  simp only [recordedLibrary, and_self, if_true]

def recordedSigned : SignedEnvelopeV1 where
  envelope := recordedEnvelope
  signatures := [Base64.encode (0x1f :: recordedSignature.compact)]

def recordedKeys : Json :=
  .object [("primaryAddresses", .array [.string recordedAddress]), ("minimumSignatures", .number 1)]

theorem canonical_round_trip_recorded :
    ∃ body received signatures,
      Json.parse (Json.stringify recordedSigned.toJson) = some body ∧
      body.get? "envelope" = some received ∧
      body.get? "signatures" = some (.array (signatures.map .string)) ∧
      validateEnvelope (fun _ => none) received 1772366760000 = .ok () ∧
      verifyCanonicalSignatures Json.stringify (verifyVerusMessage recordedLibrary)
        (fun _ => (.ok (some recordedKeys) : Except Unit (Option Json))) received signatures =
          .ok true := by
  have accepted : signCanonical recordedLibrary (fun _ => none) Json.stringify recordedWif
      recordedEnvelope .verustest 1772366400000 = .ok recordedSigned := by
    simp only [signCanonical, bind_eq_ok, exists_unit, mapError_eq_ok]
    exact ⟨recordedEnvelope_valid.1, _, recordedEnvelope_bytes, _, recordedEnvelope_signed, rfl⟩
  rcases canonical_round_trip recordedLibrary_lawful stringify_ne_empty recordedEnvelope_distinct
    recordedWif_read.2 accepted with
    ⟨body, received, signatures, parsed, envelope, texts, valid, verified⟩
  refine ⟨body, received, signatures, parsed, envelope, texts, valid _ ?_,
    verified _ recordedKeys [.string recordedAddress] (fun _ => rfl) rfl
      (List.mem_singleton_self _) rfl⟩
  rw [Json.parse_stringify (SignedEnvelopeV1.toJson_distinct recordedEnvelope_distinct)] at parsed
  rw [← Option.some.inj parsed] at envelope
  have same : received = recordedEnvelope := (Option.some.inj envelope).symm
  rcases recordedEnvelope_valid with ⟨_, issuedAt, expiresAt⟩
  constructor
  · intro text issued property time
    rw [same] at property
    rw [← Json.string.inj (Option.some.inj property), issuedAt, Option.some.injEq] at time
    rw [← time]
    decide
  · intro text expires property time
    rw [same] at property
    rw [← Json.string.inj (Option.some.inj property), expiresAt, Option.some.injEq] at time
    rw [← time]
    decide

end SovAgent.Crypto

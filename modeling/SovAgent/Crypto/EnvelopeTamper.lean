import SovAgent.Crypto.EnvelopeRoundTrip
import SovAgent.Identity.LengthPrefix
import SovAgent.Signing.Unambiguous

/-! # Envelopes that a relay delivers

A relay may put any text in any field of an envelope. What the verifier accepts has the
fields of an envelope that a listed key signed.
-/

namespace SovAgent.Crypto

open Identity Signing

/-! ## What keys have signed -/

def addressHash (library : Primitives) (address : String) : Except String Bytes := do
  let addrPayload ← library.bs58checkDecode address
  .ok (addrPayload.drop (addrPayload.length - 20))

/-- A WIF holds the key that an address is for, in either form of its public key. -/
def Controls (library : Primitives) (wif address : String) : Prop :=
  ∃ key compressed network pubkey, decodeWif library wif = .ok key ∧
    privateKeyToPublicKey library key.privateKey compressed network = .ok pubkey ∧
    addressHash library address = .ok (hash160 library pubkey)

/-- A call of `mintAccessEnvelope` that returned. -/
structure Minting (library : EnvelopePrimitives) where
  request : AccessRequest
  dispatcherWif : String
  payload : AccessPayload
  network : Network
  iv : RandomBytes 12
  now : Int
  envelope : DeliveredEnvelope
  made : mintAccessEnvelope library request dispatcherWif payload network iv now = .ok envelope

def Minting.text {library : EnvelopePrimitives} (minting : Minting library) : String :=
  (minting.envelope.statement (.ofInt minting.now)).canonical

/-- `J41-ACCESS-ENVELOPE|`. -/
def envelopeTag : String := Builder.accessEnvelope.tag ++ "|"

/-- What the holders of keys have signed: the envelopes that they minted, none with a bar in
its expiry, and texts of other kinds. -/
structure Signatures (library : EnvelopePrimitives) where
  minted : Minting library → Prop
  others : (wif message : String) → Prop
  noBar : ∀ {minting}, minted minting → '|' ∉ minting.payload.expiresAt.toList
  otherKinds : ∀ {wif message}, others wif message → startsWith message envelopeTag = false

def Signatures.Unforgeable {library : EnvelopePrimitives} (signatures : Signatures library) :
    Prop :=
  ∀ message address signature,
    verifyVerusMessage library.toPrimitives message address signature = true →
    (∃ minting, signatures.minted minting ∧ message = minting.text ∧
      Controls library.toPrimitives minting.dispatcherWif address) ∨
    ∃ wif, signatures.others wif message ∧ Controls library.toPrimitives wif address

/-! ## The pieces of an envelope -/

theorem canonical_tagged (envelope : AccessEnvelope) :
    startsWith envelope.canonical envelopeTag = true :=
  (@SignedMessage.text_tagged_iff (.accessEnvelope envelope) _).mpr rfl

theorem hex_noBar (bytes : Bytes) : '|' ∉ (bytesToHex bytes).toList := by
  intro member
  rcases mem_hex member with ⟨value, small, equal⟩
  exact (hexDigit_plain value small).2.1 equal.symm

theorem base64_noBar (bytes : Bytes) : '|' ∉ (Base64.encode bytes).toList :=
  Base64.not_mem_encode (by decide) (by decide) bytes

theorem decimal_noBar (decimal : Decimal) : '|' ∉ decimal.toString.toList := by
  intro member
  have numeric := Decimal.numeric_toString decimal '|' member
  exact absurd numeric (by decide)

variable {library : EnvelopePrimitives}

/-- Of the pieces of a minted envelope, only the expiry could hold a bar. -/
theorem minted_noBar {request : AccessRequest} {dispatcherWif : String} {payload : AccessPayload}
    {iv : RandomBytes 12} {now : Int} {envelope : DeliveredEnvelope}
    (minted : Minted library request dispatcherWif payload iv now envelope)
    (noBar : '|' ∉ payload.expiresAt.toList) (timestamp : Decimal) :
    let message := SignedMessage.accessEnvelope (envelope.statement timestamp)
    ∀ piece ∈ message.left ++ message.free :: message.right, '|' ∉ piece.toList := by
  rcases minted.sealed with ⟨_, dispPub, _, _, _, _, pub, encrypted, _, ciphertext, authTag⟩
  have number : '|' ∉ (toString (Number.finite timestamp)).toList := decimal_noBar timestamp
  simp [SignedMessage.left, SignedMessage.free, SignedMessage.right, DeliveredEnvelope.statement,
    ciphertext, minted.vector, authTag, pub, minted.expiresAt, hex_noBar, base64_noBar, number,
    noBar]

structure SameSigned (first second : DeliveredEnvelope) : Prop where
  ciphertext : first.ciphertext = second.ciphertext
  iv : first.iv = second.iv
  authTag : first.authTag = second.authTag
  dispatcherEphPub : first.dispatcherEphPub = second.dispatcherEphPub
  timestamp : first.timestamp = second.timestamp
  expiresAt : first.expiresAt = second.expiresAt

theorem sameSigned_of_text {minting : Minting library} {envelope : DeliveredEnvelope}
    {timestamp : Decimal} (dated : envelope.timestamp = .number timestamp)
    (noBar : '|' ∉ minting.payload.expiresAt.toList)
    (equal : (envelope.statement timestamp).canonical = minting.text) :
    SameSigned envelope minting.envelope := by
  have minted := minted_of_eq_ok minting.made
  have pieces := @SignedMessage.pieces_of_noBar (.accessEnvelope (envelope.statement timestamp))
    (.accessEnvelope (minting.envelope.statement (.ofInt minting.now))) rfl
    (minted_noBar minted noBar _) equal
  simp [SignedMessage.left, SignedMessage.free, DeliveredEnvelope.statement] at pieces
  rcases pieces with ⟨⟨ciphertext, iv, authTag, dispatcherEphPub, number⟩, expiresAt, _⟩
  have numbers : timestamp = .ofInt minting.now := Decimal.toString_injective number
  exact {
    ciphertext
    iv
    authTag
    dispatcherEphPub
    timestamp := by rw [dated, minted.timestamp, numbers]
    expiresAt }

theorem verifyAccessEnvelope_accepted {legacy : String → Option Int}
    {envelope : DeliveredEnvelope} {context : OpenVerifyContext}
    (accepted : verifyAccessEnvelope library legacy envelope context = .ok true) :
    ∃ timestamp addresses address, envelope.timestamp = .number timestamp ∧
      context.client.primaryAddresses context.sellerVerusId = .ok addresses ∧
      .string address ∈ addresses ∧
      verifyVerusMessage library.toPrimitives (envelope.statement timestamp).canonical address
        envelope.dispatcherSignature = true := by
  rw [verifyAccessEnvelope] at accepted
  split at accepted
  · rename_i expiresMs timestamp _ dated
    split at accepted
    · cases accepted
    · split at accepted
      · cases accepted
      · rcases bind_eq_ok.mp accepted with ⟨addresses, lists, accepted⟩
        split at accepted
        · cases accepted
        · rcases List.any_eq_true.mp (Except.ok.inj accepted) with ⟨listed, member, verifies⟩
          cases listed with
          | string address => exact ⟨timestamp, addresses, address, dated, lists, member, verifies⟩
          | null | bool _ | number _ | array _ | object _ => cases verifies
  · cases accepted

/-! ## Both directions -/

/-- A request, the ephemeral key behind it, and the envelope that a dispatcher minted
for it. -/
structure Exchange (library : EnvelopePrimitives) where
  buyerWif : String
  sellerVerusId : String
  ephPriv : Bytes
  ephPub : Bytes
  keypair : library.getPublicKey ephPriv = .ok ephPub
  network : Network
  nonce : RandomBytes 16
  requestedAt : Int
  request : SignedRequest
  built : buildAccessRequest library buyerWif sellerVerusId ephPub network nonce requestedAt =
    .ok request
  minting : Minting library
  answers : minting.request = request.toAccessRequest

/-- The resolver lists the dispatcher's address, and the clock is before the expiry and not
too far behind the dispatcher's. -/
structure Exchange.OpenableIn {library : EnvelopePrimitives} (exchange : Exchange library)
    (legacy : String → Option Int) (context : OpenVerifyContext) : Prop where
  named : context.sellerVerusId ≠ ""
  listed : ∃ addresses address network,
    context.client.primaryAddresses context.sellerVerusId = .ok addresses ∧
    rAddress library.toPrimitives exchange.minting.dispatcherWif network = .ok address ∧
    .string address ∈ addresses
  unexpired : ∃ expiresMs, dateParse legacy exchange.minting.payload.expiresAt = some expiresMs ∧
    context.now * 1000 < (expiresMs : Int)
  behind : exchange.minting.now - context.now ≤ context.maxAgeSeconds

/-- What was minted for a request opens to its payload, and whatever is accepted has the
fields of an envelope that was minted with a listed key. -/
theorem envelope_authentic (lawful : EnvelopeLawful library) (legacy : String → Option Int) :
    (∀ (exchange : Exchange library) (context : OpenVerifyContext),
      exchange.OpenableIn legacy context →
      openAccessEnvelope library legacy exchange.minting.envelope exchange.ephPriv
        exchange.request.nonce context = .ok exchange.minting.payload.json) ∧
    ∀ (signatures : Signatures library), signatures.Unforgeable →
      ∀ (envelope : DeliveredEnvelope) (context : OpenVerifyContext),
        verifyAccessEnvelope library legacy envelope context = .ok true →
        ∃ addresses address minting,
          context.client.primaryAddresses context.sellerVerusId = .ok addresses ∧
          .string address ∈ addresses ∧ signatures.minted minting ∧
          Controls library.toPrimitives minting.dispatcherWif address ∧
          SameSigned envelope minting.envelope := by
  constructor
  · intro exchange context openable
    rcases openable.listed with ⟨addresses, address, network, lists, derived, member⟩
    rcases openable.unexpired with ⟨expiresMs, expires, unexpired⟩
    have made := exchange.minting.made
    rw [exchange.answers] at made
    exact openAccessEnvelope_minted lawful exchange.built exchange.keypair made derived
      openable.named lists member expires unexpired openable.behind
  · intro signatures unforgeable envelope context accepted
    rcases verifyAccessEnvelope_accepted accepted with
      ⟨timestamp, addresses, address, dated, lists, member, verifies⟩
    rcases unforgeable _ _ _ verifies with signed | signed
    · rcases signed with ⟨minting, minted, equal, controls⟩
      exact ⟨addresses, address, minting, lists, member, minted, controls,
        sameSigned_of_text dated (signatures.noBar minted) equal⟩
    · rcases signed with ⟨wif, other, _⟩
      have tagged := canonical_tagged (envelope.statement timestamp)
      rw [signatures.otherKinds other] at tagged
      cases tagged

/-! ## What a verified signature says -/

theorem utf8_injective : Function.Injective utf8 := by
  intro first second equal
  rw [← bufferText_utf8 first, equal, bufferText_utf8]

theorem varint_append_inj {m n : Nat} {first second tail tail' : Bytes}
    (written : varint m = .ok first) (written' : varint n = .ok second)
    (equal : first ++ tail = second ++ tail') : tail = tail' := by
  have read := readVarint_varint written tail
  rw [equal, readVarint_varint written' tail', Option.some.injEq, Prod.mk.injEq] at read
  exact read.2.symm

theorem magicHash_eq_ok {library : Primitives} {message : String} {hash : Bytes} :
    magicHash library message = .ok hash ↔
      ∃ length, varint (utf8 message).length = .ok length ∧
        library.sha256 (0x13 :: verusPrefixBytes ++ library.sha256 (length ++ utf8 message)) =
          hash := by
  simp only [magicHash, varint_verusPrefixBytes, bind_eq_ok]
  constructor
  · intro hashed
    rcases hashed with ⟨length, written, stated, same, equal⟩
    cases same
    exact ⟨length, written, Except.ok.inj equal⟩
  · intro hashed
    rcases hashed with ⟨length, written, equal⟩
    exact ⟨length, written, _, rfl, congrArg Except.ok equal⟩

theorem verifyVerusMessage_sound {library : Primitives}
    (digest : ∀ buf, (library.ripemd160 buf).length = 20) {message address signature : String}
    (verifies : verifyVerusMessage library message address signature = true) :
    ∃ sig hash point compressed, magicHash library message = .ok hash ∧
      library.recoverPublicKey sig hash = .ok point ∧
      addressHash library address =
        .ok (hash160 library (library.toRawBytes point compressed)) := by
  rw [verifyVerusMessage] at verifies
  split at verifies
  · cases verifies
  · split at verifies
    · rename_i verified matched
      subst verifies
      rw [recoveredMatches] at matched
      split at matched
      · split at matched
        · cases matched
        · dsimp only at matched
          rcases bind_eq_ok.mp matched with ⟨hash, hashed, matched⟩
          rcases bind_eq_ok.mp matched with ⟨point, recovered, matched⟩
          rcases bind_eq_ok.mp matched with ⟨addrPayload, decoded, matched⟩
          have same := of_decide_eq_true (Except.ok.inj matched)
          have twenty : ∀ buf, (hash160 library buf).length = 20 := fun buf => digest _
          rw [List.take_of_length_le (twenty _).le, List.take_of_length_le] at same
          · have listed : addressHash library address =
                .ok (addrPayload.drop (addrPayload.length - 20)) := by
              rw [addressHash, decoded]
              rfl
            exact ⟨_, hash, point, _, hashed, recovered,
              listed.trans (congrArg Except.ok same.2.symm)⟩
          · rw [← same.1]
            exact (twenty _).le
      · cases matched
    · cases verifies

/-! What the libraries answer while an agent asks itself for access. -/

def recordedWord (count word : Nat) : Bytes := (lowBytes count word).reverse

theorem length_recordedWord (count word : Nat) : (recordedWord count word).length = count := by
  rw [recordedWord, List.length_reverse]
  induction count generalizing word with
  | zero => rfl
  | succ count induction => rw [lowBytes, List.length_cons, induction]

def recordedEphKey : Bytes :=
  recordedWord 32 0x138dc472094eedafbccaea79ba63b121aeda1cd313109911eddcf43be7056818

def recordedEphPub : Bytes :=
  recordedWord 33 0x0329f9254921d142193c87e09ac8182e27052537d68e1c1461ce8a699419c159ac

def recordedPoint : Bytes :=
  recordedWord 33 0x04532c3e4156ee7e496511f4b4fa65b1cfb9ddb62c55f0f00450336f829b370cef ++
    recordedWord 32 0xd99fc2ed4220bb33034c73177eecfd54459acf42f90809afe6f4cf8b173f9e34

def recordedAesKey : Bytes :=
  recordedWord 32 0x3dd5717db19e1b3350b7118f67c9682a63d59d61e8954bfbe89a68901c623025

def recordedCiphertext : Bytes :=
  recordedWord 28 0xafc1fa082512611c970db28771423e5e0ad22c57771cab51fb68a819 ++
    recordedWord 28 0xd8b68da15c4fea2f78c18035b427a134b93202fbaecdac295a0f5246

def recordedTag : Bytes :=
  recordedWord 16 0xcd0f19cf61a43c000d2ab8d6aaad236f

def recordedNonce : RandomBytes 16 :=
  ⟨recordedWord 16 0xdf71001510f3ff862b7342de1a92e1e7, length_recordedWord 16 _⟩

def recordedVector : RandomBytes 12 :=
  ⟨recordedWord 12 0x3dd1971ea7075270a3549139, length_recordedWord 12 _⟩

def recordedRequest : AccessRequest where
  buyerVerusId := recordedAddress
  sellerVerusId := "agent@"
  ephemeralPubKey := bytesToHex recordedEphPub
  nonce := bytesToHex recordedNonce.val
  timestamp := .finite (.ofInt 1772366400)

def recordedPayload : AccessPayload where
  json := .object [("apiKey", .string "sk-1"), ("expiresAt", .string "2026-03-01T12:01:00.000Z")]
  distinct := by simp [Json.Distinct, Json.DistinctMembers]
  expiresAt := "2026-03-01T12:01:00.000Z"
  dated := by simp [Json.get?, Record.lookup_cons]

def requestSignature : RecoverableSignature where
  compact :=
    recordedWord 32 0x0f11dd9a2d7dbb4739730896c1d20f98f2b289f6549722380f04d3c70303ebf1 ++
      recordedWord 32 0x57aa8bf6562201b0eacb01b92ba081254c66148ce8e2707a4921ec44a29eeb8e
  recovery := 0

def mintSignature : RecoverableSignature where
  compact :=
    recordedWord 32 0x4659711dacb06f6c5b5705df063cdee28ef8a94e0a2fbbf782f08f9784c6c3da ++
      recordedWord 32 0x7d26dbba2c7df7c3c71feebd72e592202515493522a803cd10964ed3e8c175d3
  recovery := 0

def recordedMint : DeliveredEnvelope where
  ciphertext := Base64.encode recordedCiphertext
  iv := bytesToHex recordedVector.val
  authTag := bytesToHex recordedTag
  dispatcherEphPub := bytesToHex recordedPublicKey
  dispatcherSignature := Base64.encode (0x1f :: mintSignature.compact)
  expiresAt := recordedPayload.expiresAt
  timestamp := .number (.ofInt 1772366401)

def mintText : String := (recordedMint.statement (.ofInt 1772366401)).canonical

def requestMessageHash : Bytes :=
  recordedWord 32 0xf6f2f6c4931e049db0a80e0cde2bfc239985ff7948a091977903b3ad088d38e4

def requestHash : Bytes :=
  recordedWord 32 0xa22787a4650c0b2beb00c4c0292b189b962162d2b6db30d208405f3b66241088

def mintMessageHash : Bytes :=
  recordedWord 32 0x1e844291925ad682e568f6c0edc14e9ca04a147338031b9a58e042bf3fde9181

def mintHash : Bytes :=
  recordedWord 32 0xdf9df66557c4804a68f22bb90bfe19df0f7118f0036ad06831a4458483f8bfac

theorem recorded_differ :
    recordedKey ≠ recordedEphKey ∧ recordedPublicKey ≠ recordedEphPub ∧
      requestMessageHash ≠ mintMessageHash ∧ requestHash ≠ mintHash ∧
      recordedTag ≠ List.replicate 16 0 ∧ recordedPublicKey.head? = some 0x03 := by
  decide +kernel

def recordedDigests : Record Bytes Bytes where
  entries :=
    [(recordedPublicKey,
        recordedBytes "7e1033f262da19828e0b608d73eef6af9bb3ca8d8277742f60cd2957d1b030b6"),
      (0x13 :: verusPrefixBytes ++ requestMessageHash, requestHash),
      (0x13 :: verusPrefixBytes ++ mintMessageHash, mintHash),
      (0xc8 :: utf8 recordedRequest.canonical, requestMessageHash),
      (0xfd :: 0x22 :: 0x01 :: utf8 mintText, mintMessageHash)]
  distinct := by
    rcases recorded_differ with ⟨_, _, hashes, _, _, first⟩
    rcases List.head?_eq_some_iff.mp first with ⟨tail, opening⟩
    rw [opening]
    simp [hashes]

def recordedSignatures : List (Bytes × RecoverableSignature) :=
  [(requestHash, requestSignature), (mintHash, mintSignature)]

def exchangeLibrary : EnvelopePrimitives where
  toPrimitives := { recordedLibrary with
    sha256 := fun buf => (recordedDigests.get? buf).getD []
    sign := fun hash privateKey =>
      if privateKey = recordedKey ∧ hash = requestHash then .ok requestSignature
      else if privateKey = recordedKey ∧ hash = mintHash then .ok mintSignature
      else .error "unknown key"
    recoverPublicKey := fun sig hash =>
      if (hash, sig) ∈ recordedSignatures then .ok () else .error "unknown signature"
    toRawBytes := fun _ _ => recordedPublicKey }
  getPublicKey privateKey :=
    if privateKey = recordedKey then .ok recordedPublicKey
    else if privateKey = recordedEphKey then .ok recordedEphPub
    else .error "unknown key"
  getSharedSecret privateKey publicKey :=
    if (privateKey, publicKey) ∈
        [(recordedKey, recordedEphPub), (recordedEphKey, recordedPublicKey)]
    then .ok recordedPoint
    else .error "unknown key"
  hkdf ikm salt info length :=
    if ikm = sharedX recordedPoint ∧ salt = recordedNonce.val ∧ info = hkdfInfo ∧ length = 32 then
      recordedAesKey
    else List.replicate length 0
  encrypt key iv plaintext :=
    if key = recordedAesKey ∧ iv = recordedVector.val ∧
      plaintext = utf8 (Json.stringify recordedPayload.json) then (recordedCiphertext, recordedTag)
    else (plaintext, List.replicate 16 0)
  decrypt key iv authTag ciphertext :=
    if key = recordedAesKey ∧ iv = recordedVector.val ∧ authTag = recordedTag ∧
      ciphertext = recordedCiphertext then .ok (utf8 (Json.stringify recordedPayload.json))
    else if authTag = List.replicate 16 0 then .ok ciphertext
    else .error "Unsupported state or unable to authenticate data"

theorem exchangeLibrary_sign {hash key : Bytes} {sig : RecoverableSignature}
    (made : exchangeLibrary.sign hash key = .ok sig) :
    key = recordedKey ∧ (hash, sig) ∈ recordedSignatures := by
  simp only [exchangeLibrary] at made
  split at made
  · rename_i known
    rw [← Except.ok.inj made, known.1, known.2]
    exact ⟨rfl, List.mem_cons_self⟩
  · split at made
    · rename_i known
      rw [← Except.ok.inj made, known.1, known.2]
      exact ⟨rfl, List.mem_cons_of_mem _ (List.mem_singleton_self _)⟩
    · cases made

theorem exchangeLibrary_uncompressed {key pubkey : Bytes} {network : Network}
    (known : key = recordedKey) :
    exchangeLibrary.publicKeyBuffer
      (exchangeLibrary.bs58checkEncode (exchangeLibrary.wif network :: key)) network ≠
        .ok pubkey := by
  intro buffer
  have encoded : exchangeLibrary.bs58checkEncode (exchangeLibrary.wif network :: key) =
      recordedWif := by
    by_contra other
    have refused : exchangeLibrary.publicKeyBuffer (exchangeLibrary.bs58checkEncode
        (exchangeLibrary.wif network :: key)) network = .error "unknown key" := if_neg other
    rw [refused] at buffer
    cases buffer
  have decoded := recordedLibrary_decode_encode (exchangeLibrary.wif network :: key)
  have wif : recordedLibrary.bs58checkDecode recordedWif =
      .ok (0xbc :: recordedKey ++ [0x01]) := by
    simp only [recordedLibrary]
    rw [if_neg (by decide), if_pos trivial]
  have texts : recordedLibrary.bs58checkEncode (exchangeLibrary.wif network :: key) =
      recordedWif := encoded
  rw [texts, wif, Except.ok.injEq] at decoded
  have lengths := congrArg List.length decoded
  rw [known] at lengths
  simp at lengths

theorem recordedSignatures_formed : ∀ entry ∈ recordedSignatures,
    entry.2.compact.length = 64 ∧ entry.2.recovery < 4 := by
  intro entry member
  rcases List.mem_cons.mp member with rfl | member
  · simp [requestSignature, length_recordedWord]
  · rw [List.mem_singleton.mp member]
    simp [mintSignature, length_recordedWord]

theorem exchangeLibrary_shared {first second firstPublic secondPublic : Bytes}
    (derived : exchangeLibrary.getPublicKey first = .ok firstPublic)
    (derived' : exchangeLibrary.getPublicKey second = .ok secondPublic) :
    exchangeLibrary.getSharedSecret first secondPublic =
      exchangeLibrary.getSharedSecret second firstPublic := by
  have known : ∀ {key pub}, exchangeLibrary.getPublicKey key = .ok pub →
      (key = recordedKey ∧ pub = recordedPublicKey) ∨
        key = recordedEphKey ∧ pub = recordedEphPub := by
    intro key pub derived
    simp only [exchangeLibrary] at derived
    split at derived
    · rename_i equal
      exact .inl ⟨equal, (Except.ok.inj derived).symm⟩
    · split at derived
      · rename_i equal
        exact .inr ⟨equal, (Except.ok.inj derived).symm⟩
      · cases derived
  rcases known derived with ⟨rfl, rfl⟩ | ⟨rfl, rfl⟩
  · rcases known derived' with ⟨rfl, rfl⟩ | ⟨rfl, rfl⟩
    · rfl
    · simp [exchangeLibrary]
  · rcases known derived' with ⟨rfl, rfl⟩ | ⟨rfl, rfl⟩
    · simp [exchangeLibrary]
    · rfl

theorem exchangeLibrary_lawful : EnvelopeLawful exchangeLibrary where
  decode_encode := recordedLibrary_decode_encode
  encode_ne_empty := recordedLibrary_lawful.encode_ne_empty
  ripemd160_length := recordedLibrary_lawful.ripemd160_length
  compact_length made := (recordedSignatures_formed _ (exchangeLibrary_sign made).2).1
  recovery_lt made := (recordedSignatures_formed _ (exchangeLibrary_sign made).2).2
  recovers made buffer :=
    ⟨(), if_pos (exchangeLibrary_sign made).2, (@recordedLibrary_publicKey _ .verus _ buffer).symm⟩
  agrees := exchangeLibrary_shared
  hkdf_length ikm salt info length := by
    simp only [exchangeLibrary]
    split
    · rename_i known
      rw [known.2.2.2]
      exact length_recordedWord 32 _
    · exact List.length_replicate
  decrypts plaintext keyLength vectorLength := by
    rcases recorded_differ with ⟨_, _, _, _, tag, _⟩
    simp only [exchangeLibrary]
    split
    · rename_i known
      simp [known]
    · rw [if_neg, if_pos rfl]
      exact fun known => tag known.2.2.1.symm
  recovers_uncompressed made buffer := by
    exact absurd buffer (exchangeLibrary_uncompressed (exchangeLibrary_sign made).1)

theorem recordedTexts_length :
    (utf8 recordedRequest.canonical).length = 200 ∧ (utf8 mintText).length = 290 := by
  rw [length_utf8, length_utf8]
  decide +kernel

theorem recordedDigests_get {buf digest : Bytes}
    (listed : (buf, digest) ∈ recordedDigests.entries) :
    exchangeLibrary.sha256 buf = digest := by
  have found : recordedDigests.get? buf = some digest := Record.get?_eq_some_iff.mpr listed
  change (recordedDigests.get? buf).getD [] = digest
  rw [found]
  rfl

theorem requestText_magicHash :
    magicHash exchangeLibrary.toPrimitives recordedRequest.canonical = .ok requestHash := by
  refine magicHash_eq_ok.mpr ⟨[0xc8], ?_, ?_⟩
  · rw [recordedTexts_length.1]
    decide
  · have message : exchangeLibrary.sha256 ([0xc8] ++ utf8 recordedRequest.canonical) =
        requestMessageHash :=
      recordedDigests_get (by simp [recordedDigests])
    rw [message]
    exact recordedDigests_get (by simp [recordedDigests])

theorem mintText_magicHash :
    magicHash exchangeLibrary.toPrimitives mintText = .ok mintHash := by
  refine magicHash_eq_ok.mpr ⟨[0xfd, 0x22, 0x01], ?_, ?_⟩
  · rw [recordedTexts_length.2]
    decide
  · have message : exchangeLibrary.sha256 ([0xfd, 0x22, 0x01] ++ utf8 mintText) =
        mintMessageHash :=
      recordedDigests_get (by simp [recordedDigests])
    rw [message]
    exact recordedDigests_get (by simp [recordedDigests])

theorem exchangeLibrary_keys :
    decodeWif exchangeLibrary.toPrimitives recordedWif = .ok ⟨recordedKey, true⟩ ∧
      wifToPrivateKey exchangeLibrary recordedWif = .ok recordedKey ∧
      privateKeyToPublicKey exchangeLibrary.toPrimitives recordedKey true .verustest =
        .ok recordedPublicKey ∧
      wifToAddress exchangeLibrary recordedWif .verustest = .ok recordedAddress ∧
      exchangeLibrary.getPublicKey recordedEphKey = .ok recordedEphPub := by
  decide +kernel

theorem requestText_signed :
    signVerusMessage exchangeLibrary.toPrimitives recordedWif recordedRequest.canonical =
      .ok (Base64.encode (0x1f :: requestSignature.compact)) := by
  have signed : exchangeLibrary.sign requestHash recordedKey = .ok requestSignature := by
    simp only [exchangeLibrary, and_self, if_true]
  exact signVerusMessage_eq_ok.mpr ⟨_, requestHash, requestSignature, exchangeLibrary_keys.1,
    requestText_magicHash, signed, rfl⟩

theorem mintText_signed :
    signVerusMessage exchangeLibrary.toPrimitives recordedWif mintText =
      .ok recordedMint.dispatcherSignature := by
  rcases recorded_differ with ⟨_, _, _, hashes, _, _⟩
  have signed : exchangeLibrary.sign mintHash recordedKey = .ok mintSignature := by
    simp only [exchangeLibrary]
    rw [if_neg (fun known => hashes known.2.symm), if_pos (And.intro trivial trivial)]
  exact signVerusMessage_eq_ok.mpr ⟨_, mintHash, mintSignature, exchangeLibrary_keys.1,
    mintText_magicHash, signed, rfl⟩

theorem exchangeLibrary_derived :
    rAddress exchangeLibrary.toPrimitives recordedWif .verustest = .ok recordedAddress :=
  rAddress_of_wifToAddress exchangeLibrary_keys.2.2.2.1

theorem recordedRequest_built :
    buildAccessRequest exchangeLibrary recordedWif "agent@" recordedEphPub .verustest recordedNonce
      1772366400 = .ok ⟨recordedRequest, Base64.encode (0x1f :: requestSignature.compact)⟩ := by
  rcases exchangeLibrary_keys with ⟨_, _, _, address, _⟩
  rw [buildAccessRequest]
  exact bind_eq_ok.mpr ⟨_, address, bind_eq_ok.mpr ⟨_, requestText_signed, rfl⟩⟩

theorem recordedMint_made :
    mintAccessEnvelope exchangeLibrary recordedRequest recordedWif recordedPayload .verustest
      recordedVector 1772366401 = .ok recordedMint := by
  rcases exchangeLibrary_keys with ⟨_, key, _, _, _⟩
  have pub : exchangeLibrary.getPublicKey recordedKey = .ok recordedPublicKey := by
    simp only [exchangeLibrary, if_true]
  have shared : exchangeLibrary.getSharedSecret recordedKey
      (hexToBytes recordedRequest.ephemeralPubKey) = .ok recordedPoint := by
    rw [recordedRequest, hexToBytes_bytesToHex]
    simp only [exchangeLibrary]
    exact if_pos List.mem_cons_self
  have derived : deriveKey exchangeLibrary recordedPoint recordedRequest.nonce =
      recordedAesKey := by
    rw [recordedRequest, deriveKey, hexToBytes_bytesToHex]
    simp only [exchangeLibrary, and_self, if_true]
  have sealing : exchangeLibrary.encrypt recordedAesKey recordedVector.val
      (utf8 (Json.stringify recordedPayload.json)) = (recordedCiphertext, recordedTag) := by
    simp only [exchangeLibrary, and_self, if_true]
  simp only [mintAccessEnvelope, bind_eq_ok]
  refine ⟨_, key, _, pub, _, shared, recordedMint.dispatcherSignature, ?_, ?_⟩
  · rw [derived, sealing]
    have signed := mintText_signed
    simp only [mintText, DeliveredEnvelope.statement, recordedMint] at signed ⊢
    rw [signMessage]
    exact signed
  · rw [derived, sealing]
    rfl

def recordedMinting : Minting exchangeLibrary where
  request := recordedRequest
  dispatcherWif := recordedWif
  payload := recordedPayload
  network := .verustest
  iv := recordedVector
  now := 1772366401
  envelope := recordedMint
  made := recordedMint_made

def recordedExchange : Exchange exchangeLibrary where
  buyerWif := recordedWif
  sellerVerusId := "agent@"
  ephPriv := recordedEphKey
  ephPub := recordedEphPub
  keypair := exchangeLibrary_keys.2.2.2.2
  network := .verustest
  nonce := recordedNonce
  requestedAt := 1772366400
  request := ⟨recordedRequest, Base64.encode (0x1f :: requestSignature.compact)⟩
  built := recordedRequest_built
  minting := recordedMinting
  answers := rfl

def recordedContext : OpenVerifyContext where
  client := {
    getIdentityKeys := some fun _ =>
      .ok (some (.object [("primaryAddresses", .array [.string recordedAddress])]))
    getAgent := fun _ => .ok none }
  sellerVerusId := "agent@"
  now := 1772366402

theorem recordedContext_lists :
    recordedContext.client.primaryAddresses recordedContext.sellerVerusId =
      .ok [.string recordedAddress] := by
  simp [recordedContext, SellerClient.primaryAddresses, Json.get?]

theorem recordedExpiry :
    dateParse (fun _ => none) recordedPayload.expiresAt = some 1772366460000 := by
  decide +kernel

theorem recordedExchange_openable :
    recordedExchange.OpenableIn (fun _ => none) recordedContext where
  named := by decide
  listed := ⟨_, recordedAddress, .verustest, recordedContext_lists, exchangeLibrary_derived,
    List.mem_singleton_self _⟩
  unexpired := ⟨_, recordedExpiry, by norm_num [recordedContext]⟩
  behind := by norm_num [recordedContext, recordedExchange, recordedMinting]

def exchangeSignatures : Signatures exchangeLibrary where
  minted minting := minting = recordedMinting
  others wif message := wif = recordedWif ∧ message = recordedRequest.canonical
  noBar minted := by
    rw [minted]
    decide
  otherKinds other := by
    rw [other.2, Bool.eq_false_iff]
    intro tagged
    cases (@SignedMessage.text_tagged_iff (.accessRequest recordedRequest) _).mp tagged

theorem recordedDigests_inv {buf digest : Bytes} (hashed : exchangeLibrary.sha256 buf = digest)
    (filled : digest ≠ []) : (buf, digest) ∈ recordedDigests.entries := by
  apply Record.get?_eq_some_iff.mp
  change (recordedDigests.get? buf).getD [] = digest at hashed
  cases found : recordedDigests.get? buf with
  | none =>
      rw [found] at hashed
      exact absurd hashed.symm filled
  | some value =>
      rw [found] at hashed
      rw [← hashed]
      rfl

theorem recordedDigests_heads :
    (recordedDigests.entries.map fun entry => entry.2.head?) =
      [some 0x7e, some 0xa2, some 0xdf, some 0xf6, some 0x1e] := by
  decide +kernel

theorem recordedDigests_filled {buf digest : Bytes}
    (listed : (buf, digest) ∈ recordedDigests.entries) : digest ≠ [] := by
  intro empty
  have head := List.mem_map_of_mem (f := fun entry : Bytes × Bytes => entry.2.head?) listed
  rw [recordedDigests_heads, empty] at head
  simp at head

theorem recordedDigests_inj {buf buf' digest : Bytes}
    (listed : (buf, digest) ∈ recordedDigests.entries)
    (listed' : (buf', digest) ∈ recordedDigests.entries) : buf = buf' := by
  have distinct : (recordedDigests.entries.map fun entry => entry.2.head?).Nodup := by
    rw [recordedDigests_heads]
    decide
  exact congrArg Prod.fst (List.inj_on_of_nodup_map distinct listed listed' rfl)

theorem text_of_magicHash {message text : String} {length inner digest : Bytes}
    (hashed : magicHash exchangeLibrary.toPrimitives message = .ok digest)
    (written : varint (utf8 text).length = .ok length)
    (first : (length ++ utf8 text, inner) ∈ recordedDigests.entries)
    (second : (0x13 :: verusPrefixBytes ++ inner, digest) ∈ recordedDigests.entries) :
    message = text := by
  rcases magicHash_eq_ok.mp hashed with ⟨length', written', outer⟩
  have inners :=
    recordedDigests_inj (recordedDigests_inv outer (recordedDigests_filled second)) second
  have inner' :=
    recordedDigests_inv (List.append_cancel_left inners) (recordedDigests_filled first)
  exact utf8_injective (varint_append_inj written' written (recordedDigests_inj inner' first))

theorem exchangeSignatures_unforgeable : exchangeSignatures.Unforgeable := by
  intro message address signature verifies
  rcases verifyVerusMessage_sound exchangeLibrary_lawful.ripemd160_length verifies with
    ⟨sig, hash, point, compressed, hashed, recovered, listed⟩
  have controls : Controls exchangeLibrary.toPrimitives recordedWif address := by
    rcases exchangeLibrary_keys with ⟨_, _, buffer, _, _⟩
    exact ⟨_, true, .verustest, _, exchangeLibrary_keys.1, buffer, listed⟩
  have known : (hash, sig) ∈ recordedSignatures := by
    by_contra unknown
    have refused : exchangeLibrary.recoverPublicKey sig hash = .error "unknown signature" :=
      if_neg unknown
    rw [refused] at recovered
    cases recovered
  rcases List.mem_cons.mp known with request | mint
  · right
    refine ⟨recordedWif, ⟨rfl, ?_⟩, controls⟩
    rw [(Prod.mk.inj request).1] at hashed
    apply @text_of_magicHash _ _ [0xc8] requestMessageHash _ hashed
    · rw [recordedTexts_length.1]
      decide
    · simp [recordedDigests]
    · simp [recordedDigests]
  · left
    refine ⟨recordedMinting, rfl, ?_, controls⟩
    rw [(Prod.mk.inj (List.mem_singleton.mp mint)).1] at hashed
    apply @text_of_magicHash _ mintText [0xfd, 0x22, 0x01] mintMessageHash _ hashed
    · rw [recordedTexts_length.2]
      decide
    · simp [recordedDigests]
    · simp [recordedDigests]

theorem recordedMint_accepted :
    verifyAccessEnvelope exchangeLibrary (fun _ => none) recordedMint recordedContext =
      .ok true := by
  have verifies := verifyVerusMessage_rAddress exchangeLibrary_lawful exchangeLibrary_derived
    mintText_signed (canonical_ne_empty _)
  refine verifyAccessEnvelope_eq_true recordedExpiry ?_ rfl ?_ recordedContext_lists
    (List.mem_singleton_self _) verifies
  · norm_num [recordedContext]
  · rw [Decimal.toRat_ofInt]
    norm_num [recordedContext]

theorem envelope_authentic_recorded :
    openAccessEnvelope exchangeLibrary (fun _ => none) recordedMint recordedEphKey
        recordedRequest.nonce recordedContext = .ok recordedPayload.json ∧
      ∃ addresses address minting,
        recordedContext.client.primaryAddresses recordedContext.sellerVerusId = .ok addresses ∧
        .string address ∈ addresses ∧ exchangeSignatures.minted minting ∧
        Controls exchangeLibrary.toPrimitives minting.dispatcherWif address ∧
        SameSigned recordedMint minting.envelope := by
  rcases envelope_authentic exchangeLibrary_lawful (fun _ => none) with ⟨opens, accepts⟩
  exact ⟨opens recordedExchange recordedContext recordedExchange_openable,
    accepts exchangeSignatures exchangeSignatures_unforgeable recordedMint recordedContext
      recordedMint_accepted⟩

end SovAgent.Crypto

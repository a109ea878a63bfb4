import SovAgent.Crypto.CanonicalRoundTrip
import SovAgent.Crypto.Envelope

/-! # Opening what was minted -/

namespace SovAgent.Crypto

open Identity Signing

/-! ## Hexadecimal text -/

theorem hexDigit_plain : ∀ digit < 16,
    utf16Units (Json.hexDigit digit) = 1 ∧ Json.hexDigit digit ≠ '|' ∧
      Json.hexValue (Json.hexDigit digit) = some digit := by
  decide

theorem byteDigits (byte : UInt8) :
    byte.toNat / 16 < 16 ∧ byte.toNat % 16 < 16 ∧
      UInt8.ofNat (byte.toNat / 16 * 16 + byte.toNat % 16) = byte := by
  have small := byte.toNat_lt
  refine ⟨by omega, by omega, ?_⟩
  rw [Nat.div_add_mod', UInt8.ofNat_toNat]

theorem mem_hex {bytes : Bytes} {digit : Char} (member : digit ∈ (hex bytes).toList) :
    ∃ value < 16, digit = Json.hexDigit value := by
  rw [hex, String.toList_ofList] at member
  rcases List.mem_flatMap.mp member with ⟨byte, _, inside⟩
  rcases byteDigits byte with ⟨high, low, _⟩
  simp only [List.mem_cons, List.not_mem_nil, or_false] at inside
  rcases inside with first | second
  · exact ⟨_, high, first⟩
  · exact ⟨_, low, second⟩

theorem hex_units {bytes : Bytes} {digit : Char} (member : digit ∈ (hex bytes).toList) :
    utf16Units digit = 1 := by
  rcases mem_hex member with ⟨value, small, rfl⟩
  exact (hexDigit_plain value small).1

theorem codeUnits_hex (bytes : Bytes) : codeUnits (hex bytes) = (hex bytes).toList := by
  have single : ∀ digit ∈ (hex bytes).toList,
      (if utf16Units digit = 1 then [digit] else ['\ufffd', '\ufffd']) = [digit] :=
    fun digit member => if_pos (hex_units member)
  rw [codeUnits, List.flatMap_congr single, List.flatMap_singleton']

theorem length_hex (bytes : Bytes) : (hex bytes).toList.length = 2 * bytes.length := by
  rw [hex, String.toList_ofList]
  induction bytes with
  | nil => rfl
  | cons byte rest induction =>
      rw [List.flatMap_cons, List.length_append, induction, List.length_cons]
      simp only [List.length_cons, List.length_nil]
      omega

theorem hexToBytes_bytesToHex (bytes : Bytes) : hexToBytes (bytesToHex bytes) = bytes := by
  rw [hexToBytes, bytesToHex, codeUnits_hex, hex, String.toList_ofList]
  induction bytes with
  | nil => rfl
  | cons byte rest induction =>
      rcases byteDigits byte with ⟨high, low, whole⟩
      rw [List.flatMap_cons]
      simp only [List.cons_append, List.nil_append, pairBytes, induction, parsePair,
        (hexDigit_plain _ high).2.2, (hexDigit_plain _ low).2.2, whole]

theorem nonce_wellFormed (nonce : RandomBytes 16) :
    utf16Length (bytesToHex nonce.val) = 32 ∧
      (bytesToHex nonce.val).toList.all (fun digit => (Json.hexValue digit).isSome) := by
  constructor
  · have units : (hex nonce.val).toList.map utf16Units =
        List.replicate (hex nonce.val).toList.length 1 := by
      rw [← List.map_const']
      exact List.map_congr_left fun digit member => hex_units member
    rw [utf16Length, bytesToHex, units, List.sum_replicate, length_hex, nonce.property]
    rfl
  · apply List.all_eq_true.mpr
    intro digit member
    rcases mem_hex member with ⟨value, small, rfl⟩
    rw [(hexDigit_plain value small).2.2]
    rfl

/-! ## Texts as bytes -/

theorem bufferText_utf8 (text : String) : bufferText (utf8 text) = text := by
  rw [bufferText, utf8, List.map_flatMap]
  exact (congrArg decodeUtf8 (utf8Bytes_eq text)).symm.trans (decodeUtf8_utf8Bytes text)

/-! ## The third-party functions -/

/-- What the libraries promise: the two sides of an exchange agree, what is encrypted
is decrypted, and signatures are recovered from for both forms of a public key. -/
structure EnvelopeLawful (library : EnvelopePrimitives) : Prop
    extends Lawful library.toPrimitives where
  agrees : ∀ {first second firstPublic secondPublic},
    library.getPublicKey first = .ok firstPublic →
    library.getPublicKey second = .ok secondPublic →
    library.getSharedSecret first secondPublic = library.getSharedSecret second firstPublic
  hkdf_length : ∀ ikm salt info length, (library.hkdf ikm salt info length).length = length
  decrypts : ∀ {key iv} plaintext, key.length = 32 → iv.length = 12 →
    library.decrypt key iv (library.encrypt key iv plaintext).2
      (library.encrypt key iv plaintext).1 = .ok plaintext
  recovers_uncompressed : ∀ {hash key sig network pubkey}, library.sign hash key = .ok sig →
    library.publicKeyBuffer (library.bs58checkEncode (library.wif network :: key)) network =
      .ok pubkey →
    ∃ point, library.recoverPublicKey sig hash = .ok point ∧
      library.toRawBytes point false = pubkey

/-- The R-address of the public key that belongs to a WIF, in the form it asks for. -/
def rAddress (library : Primitives) (wif : String) (network : Network) :
    Except String String := do
  let key ← decodeWif library wif
  let pubkey ← privateKeyToPublicKey library key.privateKey key.compressed network
  .ok (library.bs58checkEncode (library.pubKeyHash network :: hash160 library pubkey))

variable {library : EnvelopePrimitives}

theorem rAddress_of_wifToAddress {wif address : String} {network : Network}
    (derived : wifToAddress library wif network = .ok address) :
    rAddress library.toPrimitives wif network = .ok address := by
  rcases bind_eq_ok.mp derived with ⟨keypair, made, equal⟩
  cases equal
  rcases keypairFromWIF_eq_ok made with ⟨key, pubkey, decoded, compressed, buffer, encoded⟩
  rw [encoded, rAddress, decoded]
  refine bind_eq_ok.mpr ⟨key, rfl, bind_eq_ok.mpr ⟨pubkey, ?_, rfl⟩⟩
  rw [privateKeyToPublicKey, compressed]
  exact buffer

theorem verifyVerusMessage_rAddress (lawful : EnvelopeLawful library)
    {wif message signature address : String} {network : Network}
    (derived : rAddress library.toPrimitives wif network = .ok address)
    (signed : signVerusMessage library.toPrimitives wif message = .ok signature)
    (filled : message ≠ "") :
    verifyVerusMessage library.toPrimitives message address signature = true := by
  rcases bind_eq_ok.mp derived with ⟨key, decoded, derived⟩
  rcases bind_eq_ok.mp derived with ⟨pubkey, buffer, equal⟩
  cases equal
  apply verifyVerusMessage_recovered lawful.toLawful _ decoded _ signed filled
  intro hash sig made
  rw [privateKeyToPublicKey] at buffer
  cases compressed : key.compressed with
  | true =>
      rw [compressed] at buffer
      exact lawful.recovers made buffer
  | false =>
      rw [compressed, if_neg Bool.false_ne_true, List.append_nil] at buffer
      exact lawful.recovers_uncompressed made buffer

/-! ## What was minted -/

theorem canonical_ne_empty (envelope : AccessEnvelope) : envelope.canonical ≠ "" := by
  intro empty
  have started : ∀ tag ∈ protocolTags, startsWith "" tag = false := by decide
  rcases (ProtocolMessage.accessEnvelope envelope).tagged with ⟨tag, member, starts⟩
  rw [empty, started tag member] at starts
  cases starts

/-- The values behind the fields of a minted envelope. -/
structure Minted (library : EnvelopePrimitives) (request : AccessRequest) (dispatcherWif : String)
    (payload : AccessPayload) (iv : RandomBytes 12) (now : Int) (envelope : DeliveredEnvelope) :
    Prop where
  signed : signVerusMessage library.toPrimitives dispatcherWif
    (envelope.statement (.ofInt now)).canonical = .ok envelope.dispatcherSignature
  expiresAt : envelope.expiresAt = payload.expiresAt
  timestamp : envelope.timestamp = .number (.ofInt now)
  vector : envelope.iv = bytesToHex iv.val
  sealed : ∃ dispPrivKey dispPubKey sharedPoint,
    wifToPrivateKey library dispatcherWif = .ok dispPrivKey ∧
    library.getPublicKey dispPrivKey = .ok dispPubKey ∧
    library.getSharedSecret dispPrivKey (hexToBytes request.ephemeralPubKey) = .ok sharedPoint ∧
    envelope.dispatcherEphPub = bytesToHex dispPubKey ∧
    ∃ encrypted, encrypted = library.encrypt (deriveKey library sharedPoint request.nonce) iv.val
        (utf8 (Json.stringify payload.json)) ∧
      envelope.ciphertext = Base64.encode encrypted.1 ∧
      envelope.authTag = bytesToHex encrypted.2

theorem minted_of_eq_ok {request : AccessRequest} {dispatcherWif : String}
    {payload : AccessPayload} {network : Network} {iv : RandomBytes 12} {now : Int}
    {envelope : DeliveredEnvelope}
    (made : mintAccessEnvelope library request dispatcherWif payload network iv now =
      .ok envelope) :
    Minted library request dispatcherWif payload iv now envelope := by
  simp only [mintAccessEnvelope, bind_eq_ok] at made
  rcases made with ⟨dispPrivKey, decoded, dispPubKey, derived, sharedPoint, shared, signature,
    signed, equal⟩
  cases equal
  exact ⟨signed, rfl, rfl, rfl, dispPrivKey, dispPubKey, sharedPoint, decoded, derived, shared,
    rfl, _, rfl, rfl, rfl⟩

/-! ## Opening -/

theorem verifyAccessEnvelope_eq_true {legacy : String → Option Int}
    {envelope : DeliveredEnvelope} {context : OpenVerifyContext} {expiresMs : Int}
    {timestamp : Decimal} {addresses : List Json} {address : String}
    (expires : dateParse legacy envelope.expiresAt = some expiresMs)
    (unexpired : context.now * 1000 < expiresMs)
    (dated : envelope.timestamp = .number timestamp)
    (behind : timestamp.toRat - context.now ≤ context.maxAgeSeconds)
    (lists : context.client.primaryAddresses context.sellerVerusId = .ok addresses)
    (member : .string address ∈ addresses)
    (verifies : verifyVerusMessage library.toPrimitives (envelope.statement timestamp).canonical
      address envelope.dispatcherSignature = true) :
    verifyAccessEnvelope library legacy envelope context = .ok true := by
  have filled : addresses ≠ [] := List.ne_nil_of_mem member
  have accepted : addresses.any (fun rAddress =>
      addressValidates (verifyVerusMessage library.toPrimitives)
        (envelope.statement timestamp).canonical rAddress envelope.dispatcherSignature) = true :=
    List.any_eq_true.mpr ⟨_, member, verifies⟩
  simp only [verifyAccessEnvelope, expires, dated]
  rw [if_neg (not_le.mpr unexpired), if_neg (not_lt.mpr behind), lists]
  change (if addresses = [] then _ else Except.ok _) = _
  rw [if_neg filled, accepted]

theorem decryptEnvelope_minted (lawful : EnvelopeLawful library) {request : AccessRequest}
    {dispatcherWif : String} {payload : AccessPayload} {iv : RandomBytes 12} {now : Int}
    {envelope : DeliveredEnvelope}
    (minted : Minted library request dispatcherWif payload iv now envelope)
    {nonce : RandomBytes 16} (requestNonce : request.nonce = bytesToHex nonce.val)
    {ephPriv ephPub : Bytes} (keypair : library.getPublicKey ephPriv = .ok ephPub)
    (requestKey : request.ephemeralPubKey = bytesToHex ephPub) :
    decryptEnvelope library envelope ephPriv request.nonce = .ok payload.json := by
  rcases minted.sealed with ⟨dispPriv, dispPub, sharedPoint, _, derived, shared, pub, encrypted,
    sealing, ciphertext, authTag⟩
  rw [requestKey, hexToBytes_bytesToHex, lawful.agrees derived keypair] at shared
  have wellFormed := nonce_wellFormed nonce
  rw [← requestNonce] at wellFormed
  have keyLength : (deriveKey library sharedPoint request.nonce).length = 32 :=
    lawful.hkdf_length _ _ _ _
  have opened := lawful.decrypts (utf8 (Json.stringify payload.json)) keyLength iv.property
  rw [← sealing] at opened
  have parsed : Json.parse (bufferText (utf8 (Json.stringify payload.json))) =
      some payload.json := by
    rw [bufferText_utf8, Json.parse_stringify payload.distinct]
  have fits : ¬(utf16Length request.nonce ≠ 32 ∨
      ¬request.nonce.toList.all (fun digit => (Json.hexValue digit).isSome) = true) := by
    rw [not_or, not_not, not_not]
    exact wellFormed
  rw [decryptEnvelope, if_neg fits]
  simp only [pub, minted.vector, authTag, ciphertext, hexToBytes_bytesToHex, Base64.decode_encode]
  refine bind_eq_ok.mpr ⟨sharedPoint, shared, bind_eq_ok.mpr ⟨_, opened, ?_⟩⟩
  rw [parsed]

/-- Opened with the matching key and nonce, by a clock before the expiry and not too
far behind the dispatcher's, an envelope gives back the payload that it was minted for. -/
theorem openAccessEnvelope_minted (lawful : EnvelopeLawful library)
    {legacy : String → Option Int} {buyerWif sellerVerusId dispatcherWif address : String}
    {ephPriv ephPub : Bytes} {nonce : RandomBytes 16} {iv : RandomBytes 12}
    {network mintNetwork listedNetwork : Network} {requestedAt mintedAt expiresMs : Int}
    {payload : AccessPayload} {request : SignedRequest} {envelope : DeliveredEnvelope}
    {context : OpenVerifyContext} {addresses : List Json}
    (built : buildAccessRequest library buyerWif sellerVerusId ephPub network nonce requestedAt =
      .ok request)
    (keypair : library.getPublicKey ephPriv = .ok ephPub)
    (made : mintAccessEnvelope library request.toAccessRequest dispatcherWif payload mintNetwork
      iv mintedAt = .ok envelope)
    (derived : rAddress library.toPrimitives dispatcherWif listedNetwork = .ok address)
    (named : context.sellerVerusId ≠ "")
    (lists : context.client.primaryAddresses context.sellerVerusId = .ok addresses)
    (member : .string address ∈ addresses)
    (expires : dateParse legacy payload.expiresAt = some expiresMs)
    (unexpired : context.now * 1000 < expiresMs)
    (behind : mintedAt - context.now ≤ context.maxAgeSeconds) :
    openAccessEnvelope library legacy envelope ephPriv request.nonce context =
      .ok payload.json := by
  have minted := minted_of_eq_ok made
  simp only [buildAccessRequest, bind_eq_ok] at built
  rcases built with ⟨buyerVerusId, _, buyerSignature, _, equal⟩
  cases equal
  have verifies := verifyVerusMessage_rAddress lawful derived minted.signed (canonical_ne_empty _)
  have authentic : verifyAccessEnvelope library legacy envelope context = .ok true := by
    apply verifyAccessEnvelope_eq_true _ unexpired minted.timestamp _ lists member verifies
    · rw [minted.expiresAt]
      exact expires
    · rw [Decimal.toRat_ofInt]
      exact behind
  have opened := decryptEnvelope_minted lawful minted rfl keypair rfl
  rw [openAccessEnvelope, if_neg named, authentic]
  exact opened

end SovAgent.Crypto

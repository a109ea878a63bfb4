import SovAgent.Onboarding.Challenge

/-! # What a signed challenge says elsewhere

The key that signs onboarding challenges also signs protocol messages and
canonical envelopes, with the same scheme. The guard keeps the former apart.
-/

namespace SovAgent.Onboarding

open Crypto Identity Signing

/-- The signature of a challenge is no signed statement of another kind: the
challenge is no protocol message, and nobody who verifies canonical envelopes,
at any time and with any resolver, accepts the signature for one. -/
structure DomainSeparated (library : Primitives) (legacy : String → Option Int)
    (canonicalize : Json → String) (challenge signature : String) : Prop where
  noMessage : ¬ ProtocolMessage challenge
  noEnvelope : ∀ {envelope : Json} {now : Int}
    {getIdentityKeys : String → Except String (Option Json)}, envelope.Distinct →
    validateEnvelope legacy envelope now = .ok () →
    canonicalBytes canonicalize envelope = .ok challenge →
    verifyCanonicalSignatures canonicalize (verifyVerusMessage library) getIdentityKeys
      envelope [signature] ≠ .ok true

variable {library : Primitives} {nfkc : String → String} {legacy : String → Option Int}
  {canonicalize : Json → String}

/-- The resolved keys of an identity that the address controls alone. -/
def soleKeys (address : String) : Json :=
  .object [("primaryAddresses", .array [.string address]), ("minimumSignatures", .number 1)]

theorem SignedBy.verifies (lawful : Lawful library) {keypair : Keypair}
    {challenge signature : String} (signed : SignedBy library nfkc keypair challenge signature)
    {envelope : Json} {now : Int} (valid : validateEnvelope legacy envelope now = .ok ())
    (bytes : canonicalBytes canonicalize envelope = .ok challenge) :
    verifyCanonicalSignatures canonicalize (verifyVerusMessage library)
      (fun _ => (.ok (some (soleKeys keypair.address)) : Except String (Option Json)))
      envelope [signature] = .ok true := by
  rcases signed.derived with ⟨network, derived⟩
  have verified := verifyVerusMessage_signVerusMessage lawful derived signed.signed signed.filled
  exact verifyCanonicalSignatures_single valid bytes verified rfl rfl
    (List.mem_singleton_self _) rfl

/-- The guard separates domains except where the challenge is an envelope's text. -/
theorem SignedBy.domainSeparated_iff (lawful : Lawful library) (normalizes : Normalizes nfkc)
    (canonicalizes : Canonicalizes canonicalize) {keypair : Keypair}
    {challenge signature : String} (signed : SignedBy library nfkc keypair challenge signature) :
    DomainSeparated library legacy canonicalize challenge signature ↔
      isEnvelopeText legacy canonicalize challenge = false := by
  rw [← Bool.not_eq_true, isEnvelopeText_iff canonicalizes]
  constructor
  · intro separated found
    rcases found with ⟨envelope, now, distinct, valid, bytes⟩
    exact separated.noEnvelope distinct valid bytes (signed.verifies lawful valid bytes)
  · intro absent
    constructor
    · intro built
      exact built.refused normalizes signed.guarded
    · intro envelope now getIdentityKeys distinct valid bytes _
      exact absent ⟨envelope, now, distinct, valid, bytes⟩

/-- What `register` and `registerIdentity` submit is domain-separated exactly when
the platform's challenge is not the text of a canonical envelope. -/
theorem submission_domainSeparated_iff (lawful : Lawful library) (normalizes : Normalizes nfkc)
    (canonicalizes : Canonicalizes canonicalize) {submission : OnboardSubmission}
    (submits : Submits library nfkc submission) :
    DomainSeparated library legacy canonicalize submission.challenge submission.signature ↔
      isEnvelopeText legacy canonicalize submission.challenge = false := by
  rcases submits.signedBy with ⟨keypair, _, signed⟩
  exact signed.domainSeparated_iff lawful normalizes canonicalizes

/-! ## The guard on login challenges

The paths that sign a login challenge admit only a digest.
-/

def isConsentHash (hash : String) : Bool :=
  hash.toList.length = 64 ∧ hash.toList.all fun digit => (Json.hexValue digit).isSome

def assertConsentChallengeHash (hash : String) : Except String Unit :=
  require (isConsentHash hash)
    "Invalid login challenge: challengeHash must be a 64-char hex SHA-256 digest"

theorem isConsentHash_head {hash : String} {first : Char} {tail : List Char}
    (digest : isConsentHash hash = true) (text : hash.toList = first :: tail) :
    (Json.hexValue first).isSome := by
  have digits := (of_decide_eq_true digest).2
  rw [text, List.all_cons, Bool.and_eq_true] at digits
  exact digits.1

theorem consentHash_domainSeparated (canonicalizes : Canonicalizes canonicalize)
    {hash signature : String} (passes : assertConsentChallengeHash hash = .ok ()) :
    DomainSeparated library legacy canonicalize hash signature := by
  have digest := require_eq_ok.mp passes
  constructor
  · intro built
    rcases built.tagged with ⟨tag, member, starts⟩
    rcases startsWith_iff.mp starts with ⟨rest, rfl⟩
    have letters : ∀ tag ∈ protocolTags, tag.toList = 'J' :: tag.toList.tail := by
      decide
    have text : (tag ++ rest).toList = 'J' :: (tag.toList.tail ++ rest.toList) := by
      rw [String.toList_append, letters tag member]
      rfl
    exact absurd (isConsentHash_head digest text) (by decide)
  · intro envelope now getIdentityKeys distinct valid bytes _
    rcases validateEnvelope_eq_ok.mp valid with ⟨members, _, _, _, rfl, _, _⟩
    have text := (canonicalBytes_eq_ok.mp bytes).1
    rw [canonicalizes _ distinct, Json.sorted_object] at text
    have opened : ∃ tail, hash.toList = '\x7b' :: tail := by
      rw [← text, Json.stringify, String.toList_ofList, Json.write]
      exact ⟨_, rfl⟩
    rcases opened with ⟨tail, opened⟩
    exact absurd (isConsentHash_head digest opened) (by decide)

/-! ## One challenge

A platform that returns the text of an envelope as its challenge. -/

def canonicalText (value : Json) : String := Json.stringify value.sorted

def envelopeChallenge : Json :=
  .object [("status", .string "challenge"),
    ("challenge", .string (Json.stringify recordedEnvelope)), ("token", .string "a token")]

def recordedAgent : AgentKeys recordedLibrary where
  wif := some recordedWif
  keypair := none
  same _ found := nomatch found

def recordedSubmission : OnboardSubmission where
  name := "seller"
  address := recordedAddress
  pubkey := hex recordedPublicKey
  kind := .agent
  challenge := Json.stringify recordedEnvelope
  token := .string "a token"
  signature := Base64.encode (0x1f :: recordedSignature.compact)

theorem recordedEnvelope_guarded :
    assertNotProtocolMessage id (Json.stringify recordedEnvelope) = .ok () := by
  simp only [assertNotProtocolMessage, seq_eq_ok, require_eq_ok]
  constructor
  · rw [Json.stringify, String.toList_ofList]
    decide +kernel
  · rw [challengeHead, id_eq, Json.stringify, String.toList_ofList]
    decide +kernel

theorem envelopeChallenge_present (missing : OnboardError) :
    challengeOf envelopeChallenge missing =
      .ok (Json.stringify recordedEnvelope, .string "a token") := by
  have filled := stringify_ne_empty recordedEnvelope
  simp [challengeOf, envelopeChallenge, Json.get?, Json.truthy, Record.lookup_cons, filled]

theorem recordedEnvelope_register :
    register recordedLibrary id recordedAgent [] "seller" .verustest none
      (fun _ => .ok envelopeChallenge) = .ok recordedSubmission := by
  rcases deriveKeypair_of_eq recordedWif_read.2 with ⟨keys, derived, keypair⟩
  have signed : signVerusMessage recordedLibrary keys.keypair.wif
      (Json.stringify recordedEnvelope) = .ok recordedSubmission.signature := by
    rw [keypair]
    exact recordedEnvelope_signed
  simp only [register, bind_eq_ok, exists_unit, require_eq_ok, mapError_eq_ok,
    signChallenge_eq_ok]
  refine ⟨keys, derived, envelopeChallenge, rfl, rfl, _, envelopeChallenge_present _, _,
    ⟨recordedEnvelope_guarded, signed⟩, ?_⟩
  rw [keypair]
  rfl

theorem recordedEnvelope_registerIdentity :
    registerIdentity recordedLibrary id "seller" recordedWif recordedAddress .verustest
      (fun _ => .ok envelopeChallenge) = .ok recordedSubmission := by
  simp only [registerIdentity, bind_eq_ok, exists_unit, require_eq_ok, mapError_eq_ok,
    signChallenge_eq_ok]
  exact ⟨recordedKeypair, recordedWif_read.2, rfl, envelopeChallenge, rfl, _,
    envelopeChallenge_present _, _, ⟨recordedEnvelope_guarded, recordedEnvelope_signed⟩, rfl⟩

theorem canonicalText_recordedEnvelope :
    canonicalText recordedEnvelope = Json.stringify recordedEnvelope := by
  have ordered : recordedEnvelope.sorted = recordedEnvelope := by decide +kernel
  rw [canonicalText, ordered]

theorem recordedEnvelope_canonicalBytes :
    canonicalBytes canonicalText recordedEnvelope = .ok recordedSubmission.challenge := by
  rw [canonicalBytes, canonicalText_recordedEnvelope]
  exact recordedEnvelope_bytes

theorem envelope_challenge_verifies :
    register recordedLibrary id recordedAgent [] "seller" .verustest none
        (fun _ => .ok envelopeChallenge) = .ok recordedSubmission ∧
      registerIdentity recordedLibrary id "seller" recordedWif recordedAddress .verustest
        (fun _ => .ok envelopeChallenge) = .ok recordedSubmission ∧
      validateEnvelope (fun _ => none) recordedEnvelope 1772366400000 = .ok () ∧
      canonicalBytes canonicalText recordedEnvelope = .ok recordedSubmission.challenge ∧
      verifyCanonicalSignatures canonicalText (verifyVerusMessage recordedLibrary)
        (fun _ => (.ok (some (soleKeys recordedAddress)) : Except String (Option Json)))
        recordedEnvelope [recordedSubmission.signature] = .ok true ∧
      ¬ DomainSeparated recordedLibrary (fun _ => none) canonicalText
        recordedSubmission.challenge recordedSubmission.signature := by
  have signed : SignedBy recordedLibrary id recordedKeypair recordedSubmission.challenge
      recordedSubmission.signature := ⟨⟨.verustest, recordedWif_read.2⟩,
    stringify_ne_empty recordedEnvelope, recordedEnvelope_guarded, recordedEnvelope_signed⟩
  have verified := signed.verifies recordedLibrary_lawful recordedEnvelope_valid.1
    recordedEnvelope_canonicalBytes
  refine ⟨recordedEnvelope_register, recordedEnvelope_registerIdentity, recordedEnvelope_valid.1,
    recordedEnvelope_canonicalBytes, verified, ?_⟩
  intro separated
  exact separated.noEnvelope recordedEnvelope_distinct recordedEnvelope_valid.1
    recordedEnvelope_canonicalBytes verified

theorem submission_domainSeparated_iff_recorded :
    isEnvelopeText (fun _ => none) canonicalText recordedSubmission.challenge = true ∧
      (DomainSeparated recordedLibrary (fun _ => none) canonicalText
          recordedSubmission.challenge recordedSubmission.signature ↔
        isEnvelopeText (fun _ => none) canonicalText recordedSubmission.challenge = false) := by
  have canonicalizes : Canonicalizes canonicalText := fun _ _ => rfl
  have normalizes : Normalizes id := ⟨fun _ _ => rfl, fun _ _ _ => rfl⟩
  constructor
  · exact (isEnvelopeText_iff canonicalizes).mpr ⟨recordedEnvelope, _, recordedEnvelope_distinct,
      recordedEnvelope_valid.1, recordedEnvelope_canonicalBytes⟩
  · exact submission_domainSeparated_iff recordedLibrary_lawful normalizes canonicalizes
      (.register recordedEnvelope_register)

end SovAgent.Onboarding

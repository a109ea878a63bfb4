import SovAgent.Crypto.CanonicalOrder
import SovAgent.Crypto.CanonicalRoundTrip
import SovAgent.Privacy.AttestationFormat

/-! # Attestations from the signer to the verifier -/

namespace SovAgent.Privacy

open Crypto Identity

/-! ## Where normalisation succeeds -/

structure ExtensionInput.Convertible (e : ExtensionInput) : Prop where
  estimatedTokens : e.estimatedTokens.Convertible
  grantedTokens : e.grantedTokens.Convertible

/-- `Number` throws for none of the counts, and every extension has fields. -/
structure TokenUsageInput.Convertible (u : TokenUsageInput) : Prop where
  promptTokens : u.promptTokens.Convertible
  completionTokens : u.completionTokens.Convertible
  totalTokens : u.totalTokens.Convertible
  llmCalls : u.llmCalls.Convertible
  extensions : ∀ item ∈ u.extensions.getD [], ∃ e, item = some e ∧ e.Convertible

def AttestationParams.Convertible (params : AttestationParams) : Prop :=
  ∀ u, params.tokenUsage = some u → u.Convertible

theorem int_isOk_iff {n : Value} : (∃ counted, int n = .ok counted) ↔ n.Convertible := by
  rw [← Value.toNumber_isOk_iff]
  constructor
  · intro counts
    rcases counts with ⟨counted, counts⟩
    rcases bind_eq_ok.mp counts with ⟨number, converted, _⟩
    exact ⟨number, converted⟩
  · intro converts
    rcases converts with ⟨number, converted⟩
    rw [int, converted]
    cases number with
    | finite value => exact ⟨_, rfl⟩
    | infinity negative => exact ⟨_, rfl⟩
    | nan => exact ⟨_, rfl⟩

theorem convertible_of_isNullish {value : Value} (nullish : value.isNullish = true) :
    value.Convertible := by
  cases value with
  | primitive value =>
      rintro rfl
      cases nullish
  | object converted => cases nullish

theorem normalizeExtension_isOk_iff {item : Option ExtensionInput} :
    (∃ ext, normalizeExtension item = .ok ext) ↔ ∃ e, item = some e ∧ e.Convertible := by
  cases item with
  | none => simp [normalizeExtension]
  | some e =>
      simp only [normalizeExtension, bind_eq_ok, Option.some.injEq, exists_eq_left']
      constructor
      · intro normalizes
        rcases normalizes with ⟨ext, estimated, counts, rest⟩
        refine ⟨int_isOk_iff.mp ⟨_, counts⟩, ?_⟩
        split at rest
        · rename_i nullish
          exact convertible_of_isNullish nullish
        · rcases bind_eq_ok.mp rest with ⟨granted, grantedCounts, _⟩
          exact int_isOk_iff.mp ⟨_, grantedCounts⟩
      · intro convertible
        rcases int_isOk_iff.mpr convertible.estimatedTokens with ⟨estimated, counts⟩
        rcases int_isOk_iff.mpr convertible.grantedTokens with ⟨granted, grantedCounts⟩
        by_cases nullish : e.grantedTokens.isNullish = true
        · exact ⟨_, estimated, counts, by rw [if_pos nullish]⟩
        · exact ⟨_, estimated, counts, (if_neg nullish).trans
            (bind_eq_ok.mpr ⟨granted, grantedCounts, rfl⟩)⟩

theorem normalizeTokenUsage_isOk_iff {u : TokenUsageInput} :
    (∃ usage, normalizeTokenUsage u = .ok usage) ↔ u.Convertible := by
  simp only [normalizeTokenUsage, bind_eq_ok]
  constructor
  · intro normalizes
    rcases normalizes with ⟨usage, extensions, mapped, prompt, promptCounts, completion,
      completionCounts, total, totalCounts, calls, callsCounts, _⟩
    refine ⟨int_isOk_iff.mp ⟨_, promptCounts⟩, int_isOk_iff.mp ⟨_, completionCounts⟩,
      int_isOk_iff.mp ⟨_, totalCounts⟩, int_isOk_iff.mp ⟨_, callsCounts⟩, ?_⟩
    intro item member
    exact normalizeExtension_isOk_iff.mp (mapM_isOk_iff.mp ⟨_, mapped⟩ item member)
  · intro convertible
    have each := fun item member =>
      normalizeExtension_isOk_iff.mpr (convertible.extensions item member)
    rcases mapM_isOk_iff.mpr each with ⟨extensions, mapped⟩
    rcases int_isOk_iff.mpr convertible.promptTokens with ⟨prompt, promptCounts⟩
    rcases int_isOk_iff.mpr convertible.completionTokens with ⟨completion, completionCounts⟩
    rcases int_isOk_iff.mpr convertible.totalTokens with ⟨total, totalCounts⟩
    rcases int_isOk_iff.mpr convertible.llmCalls with ⟨calls, callsCounts⟩
    exact ⟨_, extensions, mapped, prompt, promptCounts, completion, completionCounts, total,
      totalCounts, calls, callsCounts, rfl⟩

theorem generateAttestationPayload_isOk_iff {params : AttestationParams} :
    (∃ payload, generateAttestationPayload params = .ok payload) ↔ params.Convertible := by
  rw [generateAttestationPayload, AttestationParams.Convertible]
  cases params.tokenUsage with
  | none => simp
  | some u =>
      simp only [bind_eq_ok, Option.some.injEq, forall_eq', ← normalizeTokenUsage_isOk_iff]
      constructor
      · intro generates
        rcases generates with ⟨payload, usage, normalized, _⟩
        exact ⟨usage, normalized⟩
      · intro normalizes
        rcases normalizes with ⟨usage, normalized⟩
        exact ⟨_, usage, normalized, rfl⟩

/-! ## What is produced is well-formed -/

theorem isCount_count (value : Nat) : IsCount (some (count value)) := by
  refine ⟨.ofInt value, rfl, value, ?_⟩
  rw [Decimal.toRat_ofInt, Int.cast_natCast]

theorem AttestationExtension.toJson_isExtension (ext : AttestationExtension) :
    IsExtension ext.toJson := by
  rcases ext with ⟨estimated, amount, granted, tokens⟩
  constructor
  · refine ⟨isCount_count estimated, ⟨granted, rfl⟩, ?_⟩
    cases amount with
    | none => exact Or.inl rfl
    | some value => exact Or.inr ⟨value, rfl⟩
  · cases tokens with
    | none => exact Or.inl rfl
    | some tokens => exact Or.inr (isCount_count tokens)

theorem AttestationTokenUsage.toJson_usageOf (usage : AttestationTokenUsage) :
    UsageOf IsExtension usage.toJson := by
  constructor
  · rfl
  · intro field member
    simp only [countFields, List.mem_cons, List.not_mem_nil, or_false] at member
    rcases member with rfl | rfl | rfl | rfl
    · exact isCount_count usage.promptTokens
    · exact isCount_count usage.completionTokens
    · exact isCount_count usage.totalTokens
    · exact isCount_count usage.llmCalls
  · refine ⟨_, rfl, ?_⟩
    intro e member
    rcases List.mem_map.mp member with ⟨ext, _, rfl⟩
    exact ext.toJson_isExtension

structure AttestationPayload.Filled (payload : AttestationPayload) : Prop where
  attestedBy : payload.attestedBy ≠ ""
  containerId : payload.containerId ≠ ""
  createdAt : payload.createdAt ≠ ""
  deletionMethod : payload.deletionMethod ≠ ""
  destroyedAt : payload.destroyedAt ≠ ""
  jobId : payload.jobId ≠ ""

theorem withSignature_versionTyped (payload : AttestationPayload) (signature : String) :
    VersionTyped (withSignature payload signature).toJson := by
  rcases payload with ⟨_, _, _, _, _, _, _, version, usage⟩
  cases version with
  | none =>
      cases usage with
      | none => exact Or.inl rfl
      | some usage => exact Or.inl rfl
  | some version => exact Or.inr ⟨.ofInt version, rfl⟩

theorem withSignature_tokenUsage (payload : AttestationPayload) (signature : String) :
    (withSignature payload signature).toJson.get? "tokenUsage" =
      payload.tokenUsage.map AttestationTokenUsage.toJson := by
  rcases payload with ⟨_, _, _, _, _, _, _, version, usage⟩
  cases version <;> cases usage <;> rfl

theorem withSignature_isDeletionAttestation {payload : AttestationPayload} {signature : String}
    (filled : payload.Filled) (signed : signature ≠ "") :
    IsDeletionAttestation (withSignature payload signature).toJson := by
  refine ⟨⟨?_, ?_, ?_⟩, withSignature_versionTyped payload signature⟩
  · intro field member
    simp only [requiredStrings, List.mem_cons, List.not_mem_nil, or_false] at member
    rcases member with rfl | rfl | rfl | rfl | rfl | rfl | rfl
    · exact ⟨payload.jobId, rfl, filled.jobId⟩
    · exact ⟨payload.containerId, rfl, filled.containerId⟩
    · exact ⟨payload.createdAt, rfl, filled.createdAt⟩
    · exact ⟨payload.destroyedAt, rfl, filled.destroyedAt⟩
    · exact ⟨payload.deletionMethod, rfl, filled.deletionMethod⟩
    · exact ⟨payload.attestedBy, rfl, filled.attestedBy⟩
    · exact ⟨signature, (withSignature payload signature).signed, signed⟩
  · refine ⟨_, rfl, ?_⟩
    intro item member
    rcases List.mem_map.mp member with ⟨text, _, rfl⟩
    exact ⟨text, rfl⟩
  · intro u found
    rw [withSignature_tokenUsage, Option.map_eq_some_iff] at found
    rcases found with ⟨usage, _, rfl⟩
    exact usage.toJson_usageOf

/-! ## The way of the text -/

theorem distinctItems_map {make : α → Json} (each : ∀ value, (make value).Distinct)
    (values : List α) : Json.DistinctItems (values.map make) := by
  induction values with
  | nil => trivial
  | cons value values induction => exact ⟨each value, induction⟩

theorem AttestationExtension.toJson_distinct (ext : AttestationExtension) :
    ext.toJson.Distinct := by
  rcases ext with ⟨estimated, amount, granted, tokens⟩
  cases amount <;> cases tokens <;>
    simp [toJson, optional, count, Json.Distinct, Json.DistinctMembers]

theorem AttestationTokenUsage.toJson_distinct (usage : AttestationTokenUsage) :
    usage.toJson.Distinct := by
  have items := distinctItems_map AttestationExtension.toJson_distinct usage.extensions
  simp [toJson, count, Json.Distinct, Json.DistinctMembers, items]

theorem withSignature_distinct (payload : AttestationPayload) (signature : String) :
    (withSignature payload signature).toJson.Distinct := by
  rcases payload with ⟨_, _, _, volumes, _, _, _, version, usage⟩
  have texts : ∀ text, (Json.string text).Distinct := fun text => by rw [Json.Distinct]; trivial
  have items := distinctItems_map texts volumes
  have usages := AttestationTokenUsage.toJson_distinct
  cases version <;> cases usage <;>
    simp [DeletionAttestation.toJson, withSignature, AttestationPayload.members, optional, count,
      Json.Distinct, Json.DistinctMembers, items, usages]

theorem withSignature_payload (payload : AttestationPayload) (signature : String) :
    (withSignature payload signature).members.filter (fun member => member.1 ≠ "signature") =
      payload.members := by
  rcases payload with ⟨_, _, _, _, _, _, _, version, usage⟩
  cases version <;> cases usage <;>
    simp [withSignature, AttestationPayload.members, optional]

/-! ## What the attestations promise -/

variable {library : Primitives} {canonicalize : Json → String}

structure AttestationParams.Filled (params : AttestationParams) : Prop where
  jobId : params.jobId ≠ ""
  containerId : params.containerId ≠ ""
  createdAt : params.createdAt ≠ ""
  destroyedAt : params.destroyedAt ≠ ""
  deletionMethod : ∀ method, params.deletionMethod = some method → method ≠ ""
  attestedBy : params.attestedBy ≠ ""

def Signs (library : Primitives) (canonicalize : Json → String) (wif : String)
    (params : AttestationParams) : Prop :=
  ∀ payload, generateAttestationPayload params = .ok payload →
    ∃ signature,
      signVerusMessage library wif (canonicalize (.object payload.members)) = .ok signature

/-- What is generated, signed, sent as a JSON text and parsed passes both checks. -/
def Attests (library : Primitives) (canonicalize : Json → String) (wif : String)
    (network : Network) (address : String) (params : AttestationParams) : Prop :=
  ∃ payload attestation, ∃ received : DeletionAttestation,
    generateAttestationPayload params = .ok payload ∧
    signAttestation canonicalize library payload wif network = .ok attestation ∧
    Json.parse (Json.stringify attestation.toJson) = some received.toJson ∧
    verifyAttestationFormat received.toJson = .ok () ∧
    verifyAttestationSignature canonicalize library received address = true

theorem generateAttestationPayload_filled {params : AttestationParams}
    {payload : AttestationPayload} (filled : params.Filled)
    (generates : generateAttestationPayload params = .ok payload) : payload.Filled := by
  have method : params.deletionMethod.getD "container-destroy+volume-rm" ≠ "" := by
    cases given : params.deletionMethod with
    | none => decide
    | some method => exact filled.deletionMethod method given
  rw [generateAttestationPayload] at generates
  cases usage : params.tokenUsage with
  | none =>
      rw [usage] at generates
      cases generates
      exact ⟨filled.attestedBy, filled.containerId, filled.createdAt, method,
        filled.destroyedAt, filled.jobId⟩
  | some u =>
      rw [usage] at generates
      rcases bind_eq_ok.mp generates with ⟨normalized, _, made⟩
      cases made
      exact ⟨filled.attestedBy, filled.containerId, filled.createdAt, method,
        filled.destroyedAt, filled.jobId⟩

theorem signature_ne_empty {message address signature : String}
    (verified : verifyVerusMessage library message address signature = true) :
    signature ≠ "" := by
  intro empty
  rw [verifyVerusMessage, if_pos (Or.inr (Or.inr empty))] at verified
  cases verified

theorem attests_of_generated (lawful : Lawful library)
    (writes : ∀ value, canonicalize value ≠ "") {wif : String} {network : Network}
    {keypair : Keypair} (derived : keypairFromWIF library wif network = .ok keypair)
    {params : AttestationParams} (filled : params.Filled)
    (signs : Signs library canonicalize wif params) {payload : AttestationPayload}
    (generates : generateAttestationPayload params = .ok payload) :
    Attests library canonicalize wif network keypair.address params := by
  rcases signs payload generates with ⟨signature, signed⟩
  have verified := verifyVerusMessage_signVerusMessage lawful derived signed (writes _)
  have typed := withSignature_isDeletionAttestation
    (generateAttestationPayload_filled filled generates) (signature_ne_empty verified)
  refine ⟨payload, withSignature payload signature, withSignature payload signature, generates,
    ?_, ?_, ?_, ?_⟩
  · exact bind_eq_ok.mpr ⟨signature, signed, rfl⟩
  · exact Json.parse_stringify (withSignature_distinct payload signature)
  · exact verifyAttestationFormat_eq_ok.mpr (isDeletionAttestation_iff.mp typed).1
  · rw [verifyAttestationSignature, withSignature_payload]
    exact verified

theorem deletionAttestations_iff (lawful : Lawful library)
    (writes : ∀ value, canonicalize value ≠ "") {wif : String} {network : Network}
    {keypair : Keypair} (derived : keypairFromWIF library wif network = .ok keypair) :
    (∀ params : AttestationParams, params.Filled → Signs library canonicalize wif params →
      (Attests library canonicalize wif network keypair.address params ↔ params.Convertible)) ∧
    ∀ v, AcceptsTyped v ↔ (Checked v → RestTyped v) := by
  constructor
  · intro params filled signs
    rw [← generateAttestationPayload_isOk_iff]
    constructor
    · intro attests
      rcases attests with ⟨payload, _, _, generates, _⟩
      exact ⟨payload, generates⟩
    · intro generated
      rcases generated with ⟨payload, generates⟩
      exact attests_of_generated lawful writes derived filled signs generates
  · intro v
    exact acceptsTyped_iff

/-- An extension that grants a negative number of tokens passes the format. -/
theorem negative_grant_accepted : ¬ AcceptsTyped (.object [("jobId", .string "job-123"),
    ("containerId", .string "c-1"), ("createdAt", .string "2025-01-01T00:00:00.000Z"),
    ("destroyedAt", .string "2025-01-01T00:05:00.000Z"), ("dataVolumes", .array []),
    ("deletionMethod", .string "container-destroy"), ("attestedBy", .string "agent@"),
    ("schemaVersion", .number 2),
    ("tokenUsage", .object [("promptTokens", .number 1), ("completionTokens", .number 1),
      ("totalTokens", .number 2), ("llmCalls", .number 1),
      ("extensions", .array [.object [("estimatedTokens", .number 1), ("amountVrsc", .null),
        ("granted", .bool true), ("grantedTokens", .number (.ofInt (-5)))]])]),
    ("signature", .string "c2lnbmF0dXJl")]) := by
  intro typed
  have accepted := typed (by decide +kernel)
  rcases (accepted.fields.tokenUsage _ rfl).extensions with ⟨items, listed, each⟩
  cases listed
  rcases (each _ List.mem_cons_self).grantedTokens with absent | granted
  · cases absent
  · rcases granted with ⟨value, found, tokens, equal⟩
    cases found
    rw [Decimal.toRat_ofInt] at equal
    have negative : (-5 : Int) = tokens := by exact_mod_cast equal
    omega

/-! What the libraries answer for one key and the attestation of one job, whose
usage was passed as fractions, texts and numbers that count nothing. -/

private def junkParams : AttestationParams where
  jobId := "job-123"
  containerId := "c-1"
  createdAt := "2025-01-01T00:00:00.000Z"
  destroyedAt := "2025-01-01T00:05:00.000Z"
  dataVolumes := some ["/tmp"]
  deletionMethod := none
  attestedBy := "agent@"
  tokenUsage := some {
    promptTokens := .primitive (.number (.finite (.ofScientific 109 (-1))))
    completionTokens := .primitive (.number (.finite (.ofInt (-5))))
    totalTokens := .primitive (.string "999")
    llmCalls := .primitive (.number 3)
    extensions := some [some {
      estimatedTokens := .primitive (.number (.finite (.ofScientific 77 (-1))))
      amountVrsc := .primitive (.number (.infinity false))
      granted := .primitive (.number 1)
      grantedTokens := .primitive .undefined }] }

private def junkPayload : AttestationPayload where
  attestedBy := "agent@"
  containerId := "c-1"
  createdAt := "2025-01-01T00:00:00.000Z"
  dataVolumes := ["/tmp"]
  deletionMethod := "container-destroy+volume-rm"
  destroyedAt := "2025-01-01T00:05:00.000Z"
  jobId := "job-123"
  schemaVersion := some 2
  tokenUsage := some ⟨10, 0, 999, 3, [⟨7, none, true, none⟩]⟩

private theorem junkPayload_generated :
    generateAttestationPayload junkParams = .ok junkPayload := by
  decide +kernel

private def sortedText (value : Json) : String := Json.stringify value.sorted

private def attestationText : String := sortedText (.object junkPayload.members)

private def attestationMessageHash : Bytes :=
  recordedBytes "c22cfbaf625c56f804e0204c86837da318ce68bcc5edb9e44727d2422e70a036"

private def attestationHash : Bytes :=
  recordedBytes "1108645a1492637ebbedfea88af7ba648d4f969d76a1ad519c9d67eb2fe84448"

private def attestationSignature : RecoverableSignature where
  compact := recordedBytes
    ("1c9acf5ed517901b14c93630e451ddf4e3fb7ee2df3016c62f0c42cbfba6ce7a" ++
      "3e75496e017d50c22c55bd881f28f1dd2c1e3b3b1d8447ecfa20237d98c2e398")
  recovery := 1

private def attestationLibrary : Primitives := { recordedLibrary with
  sha256 := fun buf =>
    if buf = 0xfd :: 0x80 :: 0x01 :: utf8 attestationText then attestationMessageHash
    else if buf = 0x13 :: verusPrefixBytes ++ attestationMessageHash then attestationHash
    else recordedLibrary.sha256 buf
  sign := fun hash privateKey =>
    if hash = attestationHash ∧ privateKey = recordedKey then .ok attestationSignature
    else .error "unknown key"
  recoverPublicKey := fun sig hash =>
    if sig = attestationSignature ∧ hash = attestationHash then .ok ()
    else .error "unknown signature" }

private theorem attestationLibrary_sign {hash key : Bytes} {sig : RecoverableSignature}
    (made : attestationLibrary.sign hash key = .ok sig) :
    hash = attestationHash ∧ sig = attestationSignature := by
  simp only [attestationLibrary] at made
  split at made
  · rename_i known
    exact ⟨known.1, (Except.ok.inj made).symm⟩
  · cases made

private theorem attestationLibrary_publicKey {wif : String} {network : Network} {pubkey : Bytes}
    (buffer : attestationLibrary.publicKeyBuffer wif network = .ok pubkey) :
    pubkey = recordedPublicKey :=
  @recordedLibrary_publicKey wif network pubkey buffer

private theorem attestationSignature_formed :
    attestationSignature.compact.length = 64 ∧ attestationSignature.recovery < 4 := by
  decide +kernel

private theorem attestationLibrary_lawful : Lawful attestationLibrary where
  decode_encode := recordedLibrary_decode_encode
  encode_ne_empty := recordedLibrary_lawful.encode_ne_empty
  ripemd160_length := recordedLibrary_lawful.ripemd160_length
  compact_length made := by
    rw [(attestationLibrary_sign made).2]
    exact attestationSignature_formed.1
  recovery_lt made := by
    rw [(attestationLibrary_sign made).2]
    exact attestationSignature_formed.2
  recovers made buffer := by
    rcases attestationLibrary_sign made with ⟨hash, sig⟩
    refine ⟨(), ?_, ?_⟩
    · rw [hash, sig]
      simp only [attestationLibrary, and_self, if_true]
    · exact (attestationLibrary_publicKey buffer).symm

private theorem attestationText_length : (utf8 attestationText).length = 384 := by
  rw [utf8, attestationText, sortedText, Json.stringify, String.toList_ofList]
  decide +kernel

private theorem attestationText_magicHash :
    magicHash attestationLibrary attestationText = .ok attestationHash := by
  have length : varint 384 = .ok [0xfd, 0x80, 0x01] := by decide
  have message : attestationLibrary.sha256 ([0xfd, 0x80, 0x01] ++ utf8 attestationText) =
      attestationMessageHash := by
    simp only [attestationLibrary, List.cons_append, List.nil_append, if_true]
  have tagged : attestationLibrary.sha256 ([0x13] ++ verusPrefixBytes ++ attestationMessageHash) =
      attestationHash := by
    simp only [attestationLibrary, List.cons_append, List.nil_append]
    rw [if_neg, if_true]
    intro equal
    exact absurd (List.cons.inj equal).1 (by decide)
  simp only [magicHash, attestationText_length, bind_eq_ok]
  exact ⟨_, length, _, varint_verusPrefixBytes, by rw [message, tagged]⟩

private theorem attestationKey_read :
    decodeWif attestationLibrary recordedWif = .ok ⟨recordedKey, true⟩ ∧
      keypairFromWIF attestationLibrary recordedWif .verustest = .ok recordedKeypair := by
  decide +kernel

private theorem junkParams_signed :
    Signs attestationLibrary sortedText recordedWif junkParams := by
  intro payload generates
  cases junkPayload_generated.symm.trans generates
  have signature : attestationLibrary.sign attestationHash recordedKey =
      .ok attestationSignature := by
    simp only [attestationLibrary, and_self, if_true]
  exact ⟨_, signVerusMessage_eq_ok.mpr ⟨⟨recordedKey, true⟩, attestationHash,
    attestationSignature, attestationKey_read.1, attestationText_magicHash, signature, rfl⟩⟩

theorem deletionAttestations_junk :
    Attests attestationLibrary sortedText recordedWif .verustest recordedAddress junkParams ∧
      AcceptsTyped (withSignature junkPayload "c2lnbmF0dXJl").toJson := by
  have writes : ∀ value, sortedText value ≠ "" := fun value => stringify_ne_empty value.sorted
  have promised := deletionAttestations_iff attestationLibrary_lawful writes attestationKey_read.2
  have filled : junkParams.Filled :=
    ⟨by decide, by decide, by decide, by decide, (fun _ given => by cases given), by decide⟩
  constructor
  · have convertible := generateAttestationPayload_isOk_iff.mp ⟨_, junkPayload_generated⟩
    exact (promised.1 junkParams filled junkParams_signed).mpr convertible
  · have payloadFilled := generateAttestationPayload_filled filled junkPayload_generated
    have typed := withSignature_isDeletionAttestation payloadFilled
      (by decide : "c2lnbmF0dXJl" ≠ "")
    exact (promised.2 _).mpr fun _ => (isDeletionAttestation_iff.mp typed).2

end SovAgent.Privacy

import SovAgent.Onboarding.Decode

/-! # What the steps of the decoder return -/

namespace SovAgent.Onboarding

/-! ## The flat format -/

def flatKeys : List String := [
  VdxfKeys.agentDisplayName, VdxfKeys.agentType, VdxfKeys.agentDescription,
  VdxfKeys.agentPayAddress, VdxfKeys.agentServices, VdxfKeys.agentNetworkCapabilities,
  VdxfKeys.agentNetworkEndpoints, VdxfKeys.agentNetworkProtocols, VdxfKeys.agentProfileTags,
  VdxfKeys.agentProfileWebsite, VdxfKeys.agentProfileAvatar, VdxfKeys.agentProfileCategory,
  VdxfKeys.agentModels, VdxfKeys.agentMarkup, VdxfKeys.agentDisputePolicy,
  VdxfKeys.sessionParams, VdxfKeys.platformConfig, VdxfKeys.workspaceCapability]

def flatValue (cmm : ContentMultimap) (key : String) : Option Json :=
  (flatEntry cmm key).toOption.join

theorem flatValue_eq {cmm : ContentMultimap} {key : String} {value : Option Json}
    (read : flatEntry cmm key = .ok value) : flatValue cmm key = value := by
  rw [flatValue, read]
  rfl

theorem flatEntry_eq {cmm : ContentMultimap} {key : String}
    (read : ∃ value, flatEntry cmm key = .ok value) :
    flatEntry cmm key = .ok (flatValue cmm key) := by
  rcases read with ⟨value, found⟩
  rw [flatValue_eq found, found]

def flatDecoded (value : String → Option Json) (services : List DecodedService)
    (markup : Option Decimal) : Decoded where
  profile := {
    name := (value VdxfKeys.agentDisplayName).filter Json.truthy
    type := (value VdxfKeys.agentType).filter Json.truthy
    description := (value VdxfKeys.agentDescription).filter Json.truthy
    payAddress := verusAddress (value VdxfKeys.agentPayAddress)
    network := objectOf [
      ("capabilities", leniently (value VdxfKeys.agentNetworkCapabilities)),
      ("endpoints", leniently (value VdxfKeys.agentNetworkEndpoints)),
      ("protocols", leniently (value VdxfKeys.agentNetworkProtocols))]
    profile := objectOf [
      ("tags", leniently (value VdxfKeys.agentProfileTags)),
      ("website", (value VdxfKeys.agentProfileWebsite).filter Json.truthy),
      ("avatar", (value VdxfKeys.agentProfileAvatar).filter Json.truthy),
      ("category", (value VdxfKeys.agentProfileCategory).filter Json.truthy)]
    models := jsonArray (leniently (value VdxfKeys.agentModels))
    markup
    session := ((leniently (value VdxfKeys.sessionParams)).filter isObjectType).map
      fun value => { value }
    platformConfig := (leniently (value VdxfKeys.platformConfig)).filter isObjectType
    workspaceCapability := (leniently (value VdxfKeys.workspaceCapability)).filter isObjectType }
  services := services
  disputePolicy := leniently (value VdxfKeys.agentDisputePolicy)

/-- What a flat map decodes to: every key is read, and services and markup decode. -/
structure FlatDecodes (cmm : ContentMultimap) (result : Decoded) : Prop where
  read : ∀ key ∈ flatKeys, ∃ value, flatEntry cmm key = .ok value
  services : decodeServices (flatValue cmm VdxfKeys.agentServices) = .ok result.services
  markup : presentNumber (flatValue cmm VdxfKeys.agentMarkup) 1 50 = .ok result.profile.markup
  assembled : result = flatDecoded (flatValue cmm) result.services result.profile.markup

theorem decodeFlat_eq_ok {cmm : ContentMultimap} {result : Decoded} :
    decodeFlatContentMultimap cmm = .ok result ↔ FlatDecodes cmm result := by
  constructor
  · intro decoded
    simp only [decodeFlatContentMultimap, bind_eq_ok, Except.ok.injEq] at decoded
    rcases decoded with ⟨name, nameRead, type, typeRead, desc, descRead, payAddr, payAddrRead,
      svcRaw, svcRead, services, servicesDecoded, caps, capsRead, eps, epsRead, protos,
      protosRead, tags, tagsRead, website, websiteRead, avatar, avatarRead, category,
      categoryRead, models, modelsRead, markupRaw, markupRead, markup, markupDecoded, dispute,
      disputeRead, session, sessionRead, platform, platformRead, ws, wsRead, rfl⟩
    constructor
    · simp only [flatKeys, List.forall_mem_cons, List.not_mem_nil, false_implies,
        implies_true, and_true]
      exact ⟨⟨_, nameRead⟩, ⟨_, typeRead⟩, ⟨_, descRead⟩, ⟨_, payAddrRead⟩, ⟨_, svcRead⟩,
        ⟨_, capsRead⟩, ⟨_, epsRead⟩, ⟨_, protosRead⟩, ⟨_, tagsRead⟩, ⟨_, websiteRead⟩,
        ⟨_, avatarRead⟩, ⟨_, categoryRead⟩, ⟨_, modelsRead⟩, ⟨_, markupRead⟩,
        ⟨_, disputeRead⟩, ⟨_, sessionRead⟩, ⟨_, platformRead⟩, ⟨_, wsRead⟩⟩
    · rw [flatValue_eq svcRead]
      exact servicesDecoded
    · rw [flatValue_eq markupRead]
      exact markupDecoded
    · simp only [flatDecoded, flatValue_eq nameRead, flatValue_eq typeRead,
        flatValue_eq descRead, flatValue_eq payAddrRead, flatValue_eq capsRead,
        flatValue_eq epsRead, flatValue_eq protosRead, flatValue_eq tagsRead,
        flatValue_eq websiteRead, flatValue_eq avatarRead, flatValue_eq categoryRead,
        flatValue_eq modelsRead, flatValue_eq disputeRead, flatValue_eq sessionRead,
        flatValue_eq platformRead, flatValue_eq wsRead]
  · intro decodes
    have read : ∀ key ∈ flatKeys, flatEntry cmm key = .ok (flatValue cmm key) :=
      fun key member => flatEntry_eq (decodes.read key member)
    simp only [flatKeys, List.forall_mem_cons] at read
    simp only [decodeFlatContentMultimap, read, bind_eq_ok, Except.ok.injEq, exists_eq_left']
    exact ⟨_, decodes.services, _, decodes.markup, decodes.assembled.symm⟩

theorem decodeFlat_of_read {cmm : ContentMultimap} {value : String → Option Json}
    (read : ∀ key ∈ flatKeys, flatEntry cmm key = .ok (value key)) :
    decodeFlatContentMultimap cmm = (do
      let services ← decodeServices (value VdxfKeys.agentServices)
      let markup ← presentNumber (value VdxfKeys.agentMarkup) 1 50
      .ok (flatDecoded value services markup)) := by
  simp only [flatKeys, List.forall_mem_cons] at read
  simp only [decodeFlatContentMultimap, read]
  rfl

/-! ## Entries -/

theorem flatEntry_array {cmm : ContentMultimap} {key : String} {items : List Json}
    (found : cmm.get? key = some (.array items)) :
    flatEntry cmm key =
      .ok (((items.getLast?.bind parseSubDD).bind SubEntry.value).filter (· ≠ .null)) := by
  rw [flatEntry, found]
  rfl

theorem flatEntry_missing {cmm : ContentMultimap} {key : String} (missing : cmm.get? key = none) :
    flatEntry cmm key = .ok none := by
  rw [flatEntry, missing]
  rfl

theorem flatEntry_subDD {cmm : ContentMultimap} {key label text : String}
    (found : cmm.get? key = some (.array [makeSubDD label text])) :
    flatEntry cmm key = .ok (some (.string text)) := by
  rw [flatEntry_array found]
  rfl

/-! ## Which format -/

def agentKeys : List String := VdxfKeys.agent.map Prod.snd

theorem isLegacyFormat_iff {cmm : ContentMultimap} : isLegacyFormat cmm = true ↔
    isTruthy (cmm.get? ParentKeys.agent) = true ∧
      ∀ key ∈ agentKeys, isTruthy (cmm.get? key) = false := by
  rw [isLegacyFormat, Bool.and_eq_true, Bool.not_eq_true', List.any_eq_false, agentKeys,
    List.forall_mem_map]
  simp only [Bool.not_eq_true]

theorem not_legacy_of_key {cmm : ContentMultimap} {key : String} (agentKey : key ∈ agentKeys)
    (present : isTruthy (cmm.get? key) = true) : isLegacyFormat cmm = false := by
  rw [Bool.eq_false_iff]
  intro legacy
  have hidden := (isLegacyFormat_iff.mp legacy).2 key agentKey
  rw [present] at hidden
  cases hidden

end SovAgent.Onboarding

import SovAgent.Onboarding.DecodeTotal

/-! # Decoding hostile maps -/

namespace SovAgent.Onboarding

/-! ## The legacy format -/

/-- What a legacy map needs for its decoding to return. -/
structure LegacyDecodable (cmm : ContentMultimap) : Prop where
  agent : Container cmm ParentKeys.agent legacyAgentReverse DecodableAgent
  session : Container cmm ParentKeys.session (getReverseLookup "session") DecodableSession
  platform : Container cmm ParentKeys.platform (getReverseLookup "platform") fun data =>
    Parses (data.field "config")
  workspace : Container cmm ParentKeys.workspace (getReverseLookup "workspace") fun data =>
    Parses (data.field "capability")

structure LegacyDecodes (cmm : ContentMultimap) (result : Decoded) (agentData : Option Fields)
    (profile : DecodedProfile) (sessionData : Option Fields) (members : SessionMembers) :
    Prop where
  agentRead : legacyFields cmm ParentKeys.agent legacyAgentReverse = .ok agentData
  agent : legacyAgent agentData = .ok (profile, result.services)
  sessionRead : legacyFields cmm ParentKeys.session (getReverseLookup "session") =
    .ok sessionData
  session : legacySession sessionData = .ok members
  platform : decodeLegacyDocument cmm ParentKeys.platform "platform" "config" =
    .ok result.profile.platformConfig
  workspace : decodeLegacyDocument cmm ParentKeys.workspace "workspace" "capability" =
    .ok result.profile.workspaceCapability
  assembled : result.profile = { profile with
    session := shownSession members
    platformConfig := result.profile.platformConfig
    workspaceCapability := result.profile.workspaceCapability }
  disputePolicy : result.disputePolicy = none

theorem decodeLegacy_eq_ok {cmm : ContentMultimap} {result : Decoded} :
    decodeLegacyContentMultimap cmm = .ok result ↔
      ∃ agentData profile sessionData members,
        LegacyDecodes cmm result agentData profile sessionData members := by
  simp only [decodeLegacyContentMultimap, bind_eq_ok, Except.ok.injEq]
  constructor
  · rintro ⟨agentData, agentRead, ⟨profile, services⟩, agent, sessionData, sessionRead, members,
      session, platform, platformRead, workspace, workspaceRead, rfl⟩
    exact ⟨agentData, profile, sessionData, members, agentRead, agent, sessionRead, session,
      platformRead, workspaceRead, rfl, rfl⟩
  · rintro ⟨agentData, profile, sessionData, members, decodes⟩
    refine ⟨agentData, decodes.agentRead, (profile, result.services), decodes.agent, sessionData,
      decodes.sessionRead, members, decodes.session, _, decodes.platform, _, decodes.workspace, ?_⟩
    rcases result with ⟨resultProfile, services, disputePolicy⟩
    rw [Decoded.mk.injEq]
    exact ⟨decodes.assembled.symm, rfl, decodes.disputePolicy.symm⟩

theorem decodeLegacy_isOk_iff {cmm : ContentMultimap} :
    (∃ result, decodeLegacyContentMultimap cmm = .ok result) ↔ LegacyDecodable cmm := by
  have agent : (∃ fields, legacyFields cmm ParentKeys.agent legacyAgentReverse = .ok fields ∧
      ∃ result, legacyAgent fields = .ok result) ↔
      Container cmm ParentKeys.agent legacyAgentReverse DecodableAgent :=
    container_isOk_iff ⟨_, rfl⟩ fun data => decodeLegacyAgent_isOk_iff
  have session : (∃ fields, legacyFields cmm ParentKeys.session (getReverseLookup "session") =
      .ok fields ∧ ∃ result, legacySession fields = .ok result) ↔
      Container cmm ParentKeys.session (getReverseLookup "session") DecodableSession :=
    container_isOk_iff ⟨_, rfl⟩ fun data => decodeLegacySession_isOk_iff
  simp only [decodeLegacy_eq_ok]
  constructor
  · rintro ⟨result, agentData, profile, sessionData, members, decodes⟩
    exact ⟨agent.mp ⟨_, decodes.agentRead, _, decodes.agent⟩,
      session.mp ⟨_, decodes.sessionRead, _, decodes.session⟩,
      decodeLegacyDocument_isOk_iff.mp ⟨_, decodes.platform⟩,
      decodeLegacyDocument_isOk_iff.mp ⟨_, decodes.workspace⟩⟩
  · intro decodable
    rcases agent.mpr decodable.agent with ⟨agentData, agentRead, ⟨profile, services⟩, decoded⟩
    rcases session.mpr decodable.session with ⟨sessionData, sessionRead, members, put⟩
    rcases decodeLegacyDocument_isOk_iff.mpr decodable.platform with ⟨platform, platformRead⟩
    rcases decodeLegacyDocument_isOk_iff.mpr decodable.workspace with ⟨workspace, workspaceRead⟩
    exact ⟨{
        profile := { profile with
          session := shownSession members
          platformConfig := platform
          workspaceCapability := workspace }
        services
        disputePolicy := none }, agentData, profile, sessionData, members, agentRead, decoded,
      sessionRead, put, platformRead, workspaceRead, rfl, rfl⟩

/-! ## One key of a flat map -/

theorem lookup_present {members : List (String × Option Json)}
    (distinct : (members.map Prod.fst).Nodup) (key : String) :
    (members.filterMap fun entry => entry.2.map fun value => (entry.1, value)).lookup key =
      (members.lookup key).join := by
  induction members with
  | nil => rfl
  | cons head members induction =>
      rcases head with ⟨name, value⟩
      rcases List.nodup_cons.mp distinct with ⟨fresh, rest⟩
      rw [Record.lookup_cons]
      cases value with
      | none =>
          rw [List.filterMap_cons_none rfl, induction rest]
          split
          · rename_i same
            subst same
            have missing : members.lookup key = none := by
              apply List.lookup_eq_none_iff.mpr
              intro entry member
              have apart : entry.1 ≠ key := fun same =>
                fresh (same ▸ List.mem_map.mpr ⟨entry, member, rfl⟩)
              simpa using apart.symm
            rw [missing]
            rfl
          · rfl
      | some value =>
          change ((name, value) :: members.filterMap fun entry => entry.2.map fun value =>
            (entry.1, value)).lookup key = _
          rw [Record.lookup_cons, induction rest]
          split <;> rfl

def memberOf (value : Option Json) (key : String) : Option Json := value.bind (Json.get? key)

theorem memberOf_objectOf {members : List (String × Option Json)}
    (distinct : (members.map Prod.fst).Nodup) (key : String) :
    memberOf (objectOf members) key = (members.lookup key).join := by
  rw [← lookup_present distinct]
  simp only [objectOf]
  split
  · rename_i empty
    rw [List.isEmpty_iff.mp empty]
    rfl
  · rfl

theorem flatDecoded_network (value : String → Option Json) (services : List DecodedService)
    (markup : Option Decimal) :
    let network := (flatDecoded value services markup).profile.network
    memberOf network "capabilities" = leniently (value VdxfKeys.agentNetworkCapabilities) ∧
      memberOf network "endpoints" = leniently (value VdxfKeys.agentNetworkEndpoints) ∧
      memberOf network "protocols" = leniently (value VdxfKeys.agentNetworkProtocols) :=
  ⟨(memberOf_objectOf (by simp) _).trans rfl, (memberOf_objectOf (by simp) _).trans rfl,
    (memberOf_objectOf (by simp) _).trans rfl⟩

theorem flatDecoded_profile (value : String → Option Json) (services : List DecodedService)
    (markup : Option Decimal) :
    let profile := (flatDecoded value services markup).profile.profile
    memberOf profile "tags" = leniently (value VdxfKeys.agentProfileTags) ∧
      memberOf profile "website" = (value VdxfKeys.agentProfileWebsite).filter Json.truthy ∧
      memberOf profile "avatar" = (value VdxfKeys.agentProfileAvatar).filter Json.truthy ∧
      memberOf profile "category" = (value VdxfKeys.agentProfileCategory).filter Json.truthy :=
  ⟨(memberOf_objectOf (by simp) _).trans rfl, (memberOf_objectOf (by simp) _).trans rfl,
    (memberOf_objectOf (by simp) _).trans rfl, (memberOf_objectOf (by simp) _).trans rfl⟩

/-- The fields decoded from every other key are the same. -/
structure SameApartFrom (key : String) (left right : Decoded) : Prop where
  name : key ≠ VdxfKeys.agentDisplayName → left.profile.name = right.profile.name
  type : key ≠ VdxfKeys.agentType → left.profile.type = right.profile.type
  description : key ≠ VdxfKeys.agentDescription →
    left.profile.description = right.profile.description
  payAddress : key ≠ VdxfKeys.agentPayAddress →
    left.profile.payAddress = right.profile.payAddress
  services : key ≠ VdxfKeys.agentServices → left.services = right.services
  capabilities : key ≠ VdxfKeys.agentNetworkCapabilities →
    memberOf left.profile.network "capabilities" = memberOf right.profile.network "capabilities"
  endpoints : key ≠ VdxfKeys.agentNetworkEndpoints →
    memberOf left.profile.network "endpoints" = memberOf right.profile.network "endpoints"
  protocols : key ≠ VdxfKeys.agentNetworkProtocols →
    memberOf left.profile.network "protocols" = memberOf right.profile.network "protocols"
  tags : key ≠ VdxfKeys.agentProfileTags →
    memberOf left.profile.profile "tags" = memberOf right.profile.profile "tags"
  website : key ≠ VdxfKeys.agentProfileWebsite →
    memberOf left.profile.profile "website" = memberOf right.profile.profile "website"
  avatar : key ≠ VdxfKeys.agentProfileAvatar →
    memberOf left.profile.profile "avatar" = memberOf right.profile.profile "avatar"
  category : key ≠ VdxfKeys.agentProfileCategory →
    memberOf left.profile.profile "category" = memberOf right.profile.profile "category"
  models : key ≠ VdxfKeys.agentModels → left.profile.models = right.profile.models
  markup : key ≠ VdxfKeys.agentMarkup → left.profile.markup = right.profile.markup
  disputePolicy : key ≠ VdxfKeys.agentDisputePolicy → left.disputePolicy = right.disputePolicy
  session : key ≠ VdxfKeys.sessionParams → left.profile.session = right.profile.session
  platformConfig : key ≠ VdxfKeys.platformConfig →
    left.profile.platformConfig = right.profile.platformConfig
  workspaceCapability : key ≠ VdxfKeys.workspaceCapability →
    left.profile.workspaceCapability = right.profile.workspaceCapability

/-- The two maps have the same values but for one key. -/
def AgreeApartFrom (key : String) (left right : ContentMultimap) : Prop :=
  ∀ other, other ≠ key → left.get? other = right.get? other

theorem sameApartFrom_of_flat {key : String} {left right : ContentMultimap}
    {leftResult rightResult : Decoded} (agree : AgreeApartFrom key left right)
    (leftDecodes : FlatDecodes left leftResult) (rightDecodes : FlatDecodes right rightResult) :
    SameApartFrom key leftResult rightResult := by
  have value : ∀ other, key ≠ other → flatValue left other = flatValue right other := by
    intro other apart
    rw [flatValue, flatEntry, agree other (Ne.symm apart)]
    rfl
  have services : key ≠ VdxfKeys.agentServices →
      leftResult.services = rightResult.services := by
    intro apart
    have decoded := leftDecodes.services
    rw [value _ apart, rightDecodes.services] at decoded
    exact (Except.ok.inj decoded).symm
  have markup : key ≠ VdxfKeys.agentMarkup →
      leftResult.profile.markup = rightResult.profile.markup := by
    intro apart
    have decoded := leftDecodes.markup
    rw [value _ apart, rightDecodes.markup] at decoded
    exact (Except.ok.inj decoded).symm
  have leftNetwork := flatDecoded_network (flatValue left) leftResult.services
    leftResult.profile.markup
  have rightNetwork := flatDecoded_network (flatValue right) rightResult.services
    rightResult.profile.markup
  have leftProfile := flatDecoded_profile (flatValue left) leftResult.services
    leftResult.profile.markup
  have rightProfile := flatDecoded_profile (flatValue right) rightResult.services
    rightResult.profile.markup
  rw [← leftDecodes.assembled] at leftNetwork leftProfile
  rw [← rightDecodes.assembled] at rightNetwork rightProfile
  constructor
  case services => exact services
  case markup => exact markup
  case capabilities =>
    intro apart
    rw [leftNetwork.1, rightNetwork.1, value _ apart]
  case endpoints =>
    intro apart
    rw [leftNetwork.2.1, rightNetwork.2.1, value _ apart]
  case protocols =>
    intro apart
    rw [leftNetwork.2.2, rightNetwork.2.2, value _ apart]
  case tags =>
    intro apart
    rw [leftProfile.1, rightProfile.1, value _ apart]
  case website =>
    intro apart
    rw [leftProfile.2.1, rightProfile.2.1, value _ apart]
  case avatar =>
    intro apart
    rw [leftProfile.2.2.1, rightProfile.2.2.1, value _ apart]
  case category =>
    intro apart
    rw [leftProfile.2.2.2, rightProfile.2.2.2, value _ apart]
  all_goals
    intro apart
    rw [leftDecodes.assembled, rightDecodes.assembled]
    simp only [flatDecoded, value _ apart]

/-! ## Total decoding -/

/-- The map decodes, and in the flat format a key decides no field but its own. -/
structure DecodesTotally (cmm : ContentMultimap) : Prop where
  returns : ∃ result, decodeContentMultimap cmm = .ok result
  isolated : isLegacyFormat cmm = false → ∀ key base, isLegacyFormat base = false →
    AgreeApartFrom key base cmm → ∀ result baseResult,
      decodeContentMultimap cmm = .ok result → decodeContentMultimap base = .ok baseResult →
        SameApartFrom key baseResult result

def Decodable (cmm : ContentMultimap) : Prop :=
  if isLegacyFormat cmm then LegacyDecodable cmm else FlatDecodable cmm

theorem decode_isOk_iff {cmm : ContentMultimap} :
    (∃ result, decodeContentMultimap cmm = .ok result) ↔ Decodable cmm := by
  rw [decodeContentMultimap, Decodable]
  split
  · exact decodeLegacy_isOk_iff
  · exact decodeFlat_isOk_iff

theorem decode_flat {cmm : ContentMultimap} (flat : isLegacyFormat cmm = false)
    {result : Decoded} (decoded : decodeContentMultimap cmm = .ok result) :
    FlatDecodes cmm result := by
  rw [decodeContentMultimap, flat] at decoded
  exact decodeFlat_eq_ok.mp decoded

theorem decodes_totally_iff (cmm : ContentMultimap) : DecodesTotally cmm ↔ Decodable cmm := by
  rw [← decode_isOk_iff]
  constructor
  · exact DecodesTotally.returns
  · intro returns
    refine ⟨returns, ?_⟩
    intro flat key base baseFlat agree result baseResult decoded baseDecoded
    exact sameApartFrom_of_flat agree (decode_flat baseFlat baseDecoded)
      (decode_flat flat decoded)

/-- A list of services with `null` in it, under its flat key. -/
def nullService : ContentMultimap :=
  Record.empty.set VdxfKeys.agentServices (.array [makeSubDD VdxfKeys.agentServices "[null]"])

def malformedNetwork : ContentMultimap :=
  Record.empty.set ParentKeys.agent (.array [.object [(dataDescriptorKey, .object [
    ("objectdata", .array [makeSubDD "network" "malformed"])])]])

theorem decode_throws : ¬ DecodesTotally nullService ∧ ¬ DecodesTotally malformedNetwork := by
  have throws : decodeContentMultimap nullService = .error .typeError ∧
      decodeContentMultimap malformedNetwork = .error .syntaxError := by
    constructor <;> rfl
  constructor
  · rintro ⟨⟨result, decoded⟩, _⟩
    rw [throws.1] at decoded
    cases decoded
  · rintro ⟨⟨result, decoded⟩, _⟩
    rw [throws.2] at decoded
    cases decoded

end SovAgent.Onboarding

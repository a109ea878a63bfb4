import SovAgent.Agent.IdentityUpdates
import SovAgent.Agent.InboxBatchMap
import SovAgent.Onboarding.DecodeHostile

/-! # Writing a flat key next to a legacy container

The flat format wins: the first flat agent key that is written to a legacy map
hides what its container holds, and a further one hides nothing.
-/

namespace SovAgent.Onboarding

open Identity

/-! ## One flat agent key -/

/-- What is falsy stays unread when an update wraps it in an array. -/
theorem flatEntry_falsy {cmm : ContentMultimap} {key : String} {value : Json}
    (found : cmm.get? key = some (.array value.asArray)) (falsy : value.truthy = false) :
    flatEntry cmm key = .ok none := by
  rw [flatEntry_array found]
  cases value with
  | array items => cases falsy
  | object members => cases falsy
  | _ => rfl

def flatWrite (key text : String) : Record String (List Json) :=
  Record.empty.set key [makeSubDD key text]

/-- A map with nothing but that text in it. -/
def onlyWritten (key text : String) : ContentMultimap := Inbox.confirmed (flatWrite key text)

theorem onlyWritten_get? (key text other : String) : (onlyWritten key text).get? other =
    if other = key then some (.array [makeSubDD key text]) else none := by
  simp [onlyWritten, Inbox.confirmed, flatWrite, apply_ite]

theorem onlyWritten_flatEntry (key text other : String) :
    flatEntry (onlyWritten key text) other =
      .ok (if other = key then some (.string text) else none) := by
  have found := onlyWritten_get? key text other
  split
  · rename_i same
    rw [if_pos same] at found
    exact flatEntry_subDD found
  · rename_i apart
    rw [if_neg apart] at found
    exact flatEntry_missing found

theorem onlyWritten_flat {key text : String} (agentKey : key ∈ agentKeys) :
    isLegacyFormat (onlyWritten key text) = false := by
  apply not_legacy_of_key agentKey
  rw [onlyWritten_get?, if_pos rfl]
  rfl

theorem flatEntry_confirmed (written : Record String (List Json)) (key : String) :
    flatEntry (Inbox.confirmed written) key = .ok (flatValue (Inbox.confirmed written) key) := by
  apply flatEntry_eq
  have found : (Inbox.confirmed written).get? key = (written.get? key).map Json.array :=
    Record.get?_mapValues _ _ _
  cases values : written.get? key with
  | none =>
      rw [values] at found
      exact ⟨_, flatEntry_missing found⟩
  | some items =>
      rw [values] at found
      exact ⟨_, flatEntry_array found⟩

section Written

variable {hash160Hex : String → Option String} {cmm : ContentMultimap} {key text : String}
variable {written : Record String (List Json)}

theorem confirmed_get?
    (updates : updatedContentmultimap hash160Hex false (some cmm) (flatWrite key text) =
      .ok written) (other : String) :
    (Inbox.confirmed written).get? other =
      if other = key then some (.array [makeSubDD key text])
      else if other = multimapRemoveKey then none
      else (cmm.get? other).map fun value => .array value.asArray := by
  rw [Inbox.confirmed, Record.get?_mapValues, updatedContentmultimap_get? updates,
    carriedContentmultimap_get?, flatWrite, Record.get?_set]
  split
  · rfl
  · split
    · rfl
    · simp [Function.comp_def]

theorem removed_confirmed (agentKey : key ∈ agentKeys)
    (updates : updatedContentmultimap hash160Hex false (some cmm) (flatWrite key text) =
      .ok written) : (Inbox.confirmed written).get? multimapRemoveKey = none := by
  have apart : multimapRemoveKey ≠ key := by
    rintro rfl
    exact absurd agentKey (by decide)
  rw [confirmed_get? updates, if_neg apart, if_pos rfl]

theorem isLegacyFormat_confirmed (agentKey : key ∈ agentKeys)
    (updates : updatedContentmultimap hash160Hex false (some cmm) (flatWrite key text) =
      .ok written) : isLegacyFormat (Inbox.confirmed written) = false := by
  apply not_legacy_of_key agentKey
  rw [confirmed_get? updates, if_pos rfl]
  rfl

end Written

/-! ## What a write hides -/

/-- The decoded map with the documents that have flat keys of other groups. -/
def withDocuments (onChain : ContentMultimap) (decoded : Decoded) : Decoded :=
  { decoded with
    profile := { decoded.profile with
      session := ((leniently (flatValue onChain VdxfKeys.sessionParams)).filter isObjectType).map
        fun value => { value }
      platformConfig := (leniently (flatValue onChain VdxfKeys.platformConfig)).filter isObjectType
      workspaceCapability :=
        (leniently (flatValue onChain VdxfKeys.workspaceCapability)).filter isObjectType } }

theorem withDocuments_flatDecoded {onChain : ContentMultimap} {left right : String → Option Json}
    {services : List DecodedService} {markup : Option Decimal}
    (agree : ∀ key ∈ agentKeys, left key = right key)
    (session : right VdxfKeys.sessionParams = flatValue onChain VdxfKeys.sessionParams)
    (platform : right VdxfKeys.platformConfig = flatValue onChain VdxfKeys.platformConfig)
    (workspace :
      right VdxfKeys.workspaceCapability = flatValue onChain VdxfKeys.workspaceCapability) :
    withDocuments onChain (flatDecoded left services markup) =
      flatDecoded right services markup := by
  simp only [agentKeys, VdxfKeys.agent, List.map_cons, List.map_nil, List.forall_mem_cons] at agree
  simp only [withDocuments, flatDecoded, agree, session, platform, workspace]

def blank : Decoded where
  profile := {}
  services := []
  disputePolicy := none

theorem decode_onlyWritten {key text : String} (agentKey : key ∈ agentKeys) {fresh : Decoded}
    (decoded : decodeContentMultimap (onlyWritten key text) = .ok fresh) :
    SameApartFrom key blank fresh := by
  have agree : AgreeApartFrom key Record.empty (onlyWritten key text) := by
    intro other apart
    rw [onlyWritten_get?, if_neg apart]
    rfl
  have empty : FlatDecodes Record.empty blank := decodeFlat_eq_ok.mp rfl
  exact sameApartFrom_of_flat agree empty (decode_flat (onlyWritten_flat agentKey) decoded)

section Hidden

variable {hash160Hex : String → Option String} {cmm : ContentMultimap} {key text : String}
variable {written : Record String (List Json)}

theorem flatValue_confirmed (legacy : isLegacyFormat cmm = true)
    (updates : updatedContentmultimap hash160Hex false (some cmm) (flatWrite key text) =
      .ok written) {other : String} (agentKey : other ∈ agentKeys) :
    flatValue (Inbox.confirmed written) other =
      if other = key then some (.string text) else none := by
  have found := confirmed_get? updates other
  apply flatValue_eq
  split
  · rename_i same
    rw [if_pos same] at found
    exact flatEntry_subDD found
  · rename_i apart
    rw [if_neg apart] at found
    split at found
    · exact flatEntry_missing found
    · cases value : cmm.get? other with
      | none =>
          rw [value] at found
          exact flatEntry_missing found
      | some json =>
          have falsy := (isLegacyFormat_iff.mp legacy).2 other agentKey
          rw [value] at found falsy
          exact flatEntry_falsy found falsy

theorem decode_confirmed (legacy : isLegacyFormat cmm = true) (agentKey : key ∈ agentKeys)
    (updates : updatedContentmultimap hash160Hex false (some cmm) (flatWrite key text) =
      .ok written) :
    decodeContentMultimap (Inbox.confirmed written) =
      (decodeContentMultimap (onlyWritten key text)).map
        (withDocuments (Inbox.confirmed written)) := by
  have agree : ∀ other ∈ agentKeys, (if other = key then some (Json.string text) else none) =
      flatValue (Inbox.confirmed written) other :=
    fun other member => (flatValue_confirmed legacy updates member).symm
  rw [decodeContentMultimap, isLegacyFormat_confirmed agentKey updates, decodeContentMultimap,
    onlyWritten_flat agentKey]
  simp only [Bool.false_eq_true, if_false]
  rw [decodeFlat_of_read fun other _ => flatEntry_confirmed written other,
    decodeFlat_of_read fun other _ => onlyWritten_flatEntry key text other,
    agree VdxfKeys.agentServices (by decide), agree VdxfKeys.agentMarkup (by decide)]
  cases decodeServices (flatValue (Inbox.confirmed written) VdxfKeys.agentServices) with
  | error error => rfl
  | ok services =>
      cases presentNumber (flatValue (Inbox.confirmed written) VdxfKeys.agentMarkup) 1 50 with
      | error error => rfl
      | ok markup =>
          exact congrArg Except.ok (withDocuments_flatDecoded agree rfl rfl rfl).symm

/-- A further write of one key leaves the values of the others in place. -/
theorem agree_confirmed {before after : Record String (List Json)}
    (removed : (Inbox.confirmed before).get? multimapRemoveKey = none)
    (updates : updatedContentmultimap hash160Hex false (some (Inbox.confirmed before))
      (flatWrite key text) = .ok after) :
    AgreeApartFrom key (Inbox.confirmed before) (Inbox.confirmed after) := by
  intro other apart
  rw [confirmed_get? updates, if_neg apart]
  split
  · rename_i remove
    subst remove
    exact removed
  · rw [Inbox.confirmed, Record.get?_mapValues]
    simp [Function.comp_def, Json.asArray]

end Hidden

structure FlatWins (hash160Hex : String → Option String) (key text : String)
    (onChain : ContentMultimap) : Prop where
  flat : isLegacyFormat onChain = false
  /-- The agent fields read as if nothing but the text had ever been written. -/
  decodes : decodeContentMultimap onChain =
    (decodeContentMultimap (onlyWritten key text)).map (withDocuments onChain)
  returns : key ≠ VdxfKeys.agentServices → ∃ result, decodeContentMultimap onChain = .ok result
  hides : ∀ result, decodeContentMultimap onChain = .ok result →
    SameApartFrom key (withDocuments onChain blank) result
  settled : ∀ next nextText written, next ∈ agentKeys →
    updatedContentmultimap hash160Hex false (some onChain) (flatWrite next nextText) =
      .ok written →
    isLegacyFormat (Inbox.confirmed written) = false ∧
    ∀ result nextResult, decodeContentMultimap onChain = .ok result →
      decodeContentMultimap (Inbox.confirmed written) = .ok nextResult →
      SameApartFrom next result nextResult

theorem sameApartFrom_withDocuments {key : String} {left right : Decoded}
    (same : SameApartFrom key left right) (onChain : ContentMultimap) :
    SameApartFrom key (withDocuments onChain left) (withDocuments onChain right) := by
  constructor
  case session => exact fun _ => rfl
  case platformConfig => exact fun _ => rfl
  case workspaceCapability => exact fun _ => rfl
  case name => exact same.name
  case type => exact same.type
  case description => exact same.description
  case payAddress => exact same.payAddress
  case services => exact same.services
  case capabilities => exact same.capabilities
  case endpoints => exact same.endpoints
  case protocols => exact same.protocols
  case tags => exact same.tags
  case website => exact same.website
  case avatar => exact same.avatar
  case category => exact same.category
  case models => exact same.models
  case markup => exact same.markup
  case disputePolicy => exact same.disputePolicy

theorem onlyWritten_returns {key text : String} (agentKey : key ∈ agentKeys)
    (apart : key ≠ VdxfKeys.agentServices) :
    ∃ result, decodeContentMultimap (onlyWritten key text) = .ok result := by
  have markup : ∃ markup, presentNumber (if VdxfKeys.agentMarkup = key then some (.string text)
      else none) 1 50 = .ok markup := by
    rw [presentNumber_isOk_iff]
    intro json found
    split at found
    · cases found
      trivial
    · cases found
  rcases markup with ⟨markup, read⟩
  rw [decodeContentMultimap, onlyWritten_flat agentKey]
  simp only [Bool.false_eq_true, if_false]
  rw [decodeFlat_of_read fun other _ => onlyWritten_flatEntry key text other, if_neg apart.symm,
    read]
  exact ⟨_, rfl⟩

theorem flat_write_of_legacy {hash160Hex : String → Option String} {cmm : ContentMultimap}
    {key text : String} {written : Record String (List Json)}
    (legacy : isLegacyFormat cmm = true) (agentKey : key ∈ agentKeys)
    (updates : updatedContentmultimap hash160Hex false (some cmm) (flatWrite key text) =
      .ok written) : FlatWins hash160Hex key text (Inbox.confirmed written) := by
  have decodes := decode_confirmed legacy agentKey updates
  have flat := isLegacyFormat_confirmed agentKey updates
  refine ⟨flat, decodes, ?_, ?_, ?_⟩
  · intro apart
    rcases @onlyWritten_returns key text agentKey apart with ⟨fresh, decoded⟩
    rw [decodes, decoded]
    exact ⟨_, rfl⟩
  · intro result decoded
    rw [decodes] at decoded
    rcases map_eq_ok.mp decoded with ⟨fresh, own, rfl⟩
    exact sameApartFrom_withDocuments (decode_onlyWritten agentKey own) _
  · intro next nextText nextWritten nextKey nextUpdates
    have nextFlat := isLegacyFormat_confirmed nextKey nextUpdates
    have agree := agree_confirmed (removed_confirmed agentKey updates) nextUpdates
    refine ⟨nextFlat, ?_⟩
    intro result nextResult decoded nextDecoded
    exact sameApartFrom_of_flat agree (decode_flat flat decoded) (decode_flat nextFlat nextDecoded)

theorem setOnChainStatus_migrates {library : TransactionLibrary} {agent : Inbox.InboxAgent}
    {data : RawIdentityData} {utxos : Option (List Utxo)} {tip : Option Int}
    {status : Wallet.AgentStatus} {signed : SignedUpdate} {identity : RawIdentity}
    {cmm : ContentMultimap}
    (builds : Wallet.setOnChainStatus library agent data utxos tip status = .ok (some signed))
    (reads : data.identity = some identity) (carries : identity.contentmultimap = some cmm)
    (legacy : isLegacyFormat cmm = true) :
    FlatWins library.hash160Hex VdxfKeys.agentStatus status.name
      (Inbox.confirmed signed.identity.contentmultimap) := by
  simp only [Wallet.setOnChainStatus, bind_eq_ok, exists_unit, requireSome_eq_ok,
    Except.ok.injEq, Option.some.injEq] at builds
  rcases builds with ⟨wif, _, _, _, _, built, rfl⟩
  rcases buildIdentityUpdateTx_builds built with ⟨_, read, _, _, parts⟩
  have same : some read = some identity := parts.reads.symm.trans reads
  have writes := parts.writes
  rw [Option.some.inj same, carries] at writes
  exact flat_write_of_legacy legacy (by decide) writes

def namedContainer : ContentMultimap :=
  Record.empty.set ParentKeys.agent (.array [.object [(dataDescriptorKey, .object [
    ("objectdata", .array [makeSubDD VdxfKeys.agentDisplayName "Bot"])])]])

def containerHash (key : String) : Option String :=
  if key = ParentKeys.agent then some "3761edf71d4d7ad1c7a3e9a596789bc199179939"
  else if key = VdxfKeys.agentStatus then some "bfde8ddac6a6f71bbd30500387143a7b86e534c6"
  else none

theorem namedContainer_legacy : isLegacyFormat namedContainer = true := by decide +kernel

theorem status_written : ∃ written, updatedContentmultimap containerHash false
    (some namedContainer) (flatWrite VdxfKeys.agentStatus "active") = .ok written := by
  have decodes : ∀ key ∈ ((carriedContentmultimap false (some namedContainer)).assign
      (flatWrite VdxfKeys.agentStatus "active")).keys, (containerHash key).isSome := by
    decide +kernel
  have fits : assertContentmultimapValueSizes (flatWrite VdxfKeys.agentStatus "active") =
      .ok () := by decide +kernel
  rcases sortByHash160_eq_ok.mpr (.inr decodes) with ⟨sorted, sorts⟩
  refine ⟨sorted, ?_⟩
  rw [updatedContentmultimap, fits]
  exact sorts

theorem flat_write_of_legacy_status : ∃ written,
    updatedContentmultimap containerHash false (some namedContainer)
        (flatWrite VdxfKeys.agentStatus "active") = .ok written ∧
      FlatWins containerHash VdxfKeys.agentStatus "active" (Inbox.confirmed written) := by
  rcases status_written with ⟨written, updates⟩
  exact ⟨written, updates, flat_write_of_legacy namedContainer_legacy (by decide) updates⟩

theorem status_write_hides_name : ∃ written before after,
    isLegacyFormat namedContainer = true ∧
    updatedContentmultimap containerHash false (some namedContainer)
      (flatWrite VdxfKeys.agentStatus "active") = .ok written ∧
    decodeContentMultimap namedContainer = .ok before ∧
    decodeContentMultimap (Inbox.confirmed written) = .ok after ∧
    before.profile.name = some (.string "Bot") ∧ after.profile.name = none := by
  rcases status_written with ⟨written, updates⟩
  have before : decodeContentMultimap namedContainer =
      .ok { blank with profile := { name := some (.string "Bot") } } := by decide +kernel
  have fresh : decodeContentMultimap (onlyWritten VdxfKeys.agentStatus "active") = .ok blank := by
    decide +kernel
  have after := decode_confirmed namedContainer_legacy (by decide) updates
  rw [fresh] at after
  exact ⟨written, _, _, namedContainer_legacy, updates, before, after, rfl, rfl⟩

end SovAgent.Onboarding

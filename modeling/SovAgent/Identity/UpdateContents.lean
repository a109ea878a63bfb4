import SovAgent.Identity.Update

/-! # What an identity update writes and spends -/

namespace SovAgent.Identity

open Onboarding

/-! ## Contentmultimap -/

theorem carriedContentmultimap_get? (existing : Option (Record String Json)) (key : String) :
    (carriedContentmultimap false existing).get? key =
      if key = multimapRemoveKey then none
      else ((existing.getD Record.empty).get? key).map Json.asArray := by
  cases existing with
  | none => simp [carriedContentmultimap]
  | some existing =>
      by_cases removed : key = multimapRemoveKey <;> simp [carriedContentmultimap, removed]

theorem sortByHash160_get? {hash160Hex : String → Option String}
    {cmm sorted : Record String (List Json)} (sorts : sortByHash160 hash160Hex cmm = .ok sorted)
    (key : String) : sorted.get? key = cmm.get? key := by
  unfold sortByHash160 at sorts
  split at sorts
  · cases sorts
    rfl
  · split at sorts
    · cases sorts
      exact Record.get?_sortKeys _ _ _
    · cases sorts

def Sortable (hash160Hex : String → Option String) (keys : List String) : Prop :=
  keys.length < 2 ∨ ∀ key ∈ keys, (hash160Hex key).isSome

theorem Sortable.subset {hash160Hex : String → Option String} {keys fewer : List String}
    (sortable : Sortable hash160Hex keys) (distinct : fewer.Nodup)
    (subset : ∀ key ∈ fewer, key ∈ keys) : Sortable hash160Hex fewer := by
  rcases sortable with short | decodes
  · left
    have shorter := (List.subperm_of_subset distinct subset).length_le
    omega
  · right
    intro key member
    exact decodes key (subset key member)

theorem sortByHash160_eq_ok {hash160Hex : String → Option String}
    {cmm : Record String (List Json)} :
    (∃ sorted, sortByHash160 hash160Hex cmm = .ok sorted) ↔ Sortable hash160Hex cmm.keys := by
  have sameLength : cmm.keys.length = cmm.entries.length := List.length_map _
  rw [Sortable, sameLength, ← List.all_eq_true]
  unfold sortByHash160
  split
  · rename_i short
    simp [short]
  · rename_i long
    split
    · rename_i decodes
      exact ⟨fun _ => .inr decodes, fun _ => ⟨_, rfl⟩⟩
    · rename_i undecoded
      simp [long, undecoded]

theorem updatedContentmultimap_get? {hash160Hex : String → Option String} {clear : Bool}
    {existing : Option (Record String Json)} {additions updated : Record String (List Json)}
    (updates : updatedContentmultimap hash160Hex clear existing additions = .ok updated)
    (key : String) :
    updated.get? key =
      (additions.get? key).or ((carriedContentmultimap clear existing).get? key) := by
  simp only [updatedContentmultimap, bind_eq_ok, exists_unit] at updates
  rw [sortByHash160_get? updates.2, Record.get?_assign]

/-! ## The update -/

theorem requireSome_eq_ok {option : Option α} {message : String} {value : α} :
    requireSome option message = .ok value ↔ option = some value := by
  cases option <;> simp [requireSome]

/-- The parts of an update that was built. -/
structure Builds (library : TransactionLibrary) (params : IdentityUpdateParams)
    (signed : SignedUpdate) (prevOutput : PrevOutput) (identity : RawIdentity)
    (agentAddress : String) (selected : List Utxo) : Prop where
  spends : params.identityData.prevOutput = some prevOutput
  reads : params.identityData.identity = some identity
  writes : updatedContentmultimap library.hash160Hex params.clearContentmultimap
    identity.contentmultimap params.vdxfAdditions = .ok signed.identity.contentmultimap
  signsFor : library.keyAddress params.wif params.network = .ok agentAddress
  selects : ∃ total, selectUtxos (spendableWith agentAddress params.utxos) params.fee =
    .ok (selected, total)
  inputs : signed.transaction.inputs.map (fun input => (input.txid, input.vout)) =
    selected.map (fun utxo => (utxo.txid, utxo.vout)) ++ [(prevOutput.txid, prevOutput.vout)]

theorem buildIdentityUpdateTx_builds {library : TransactionLibrary}
    {params : IdentityUpdateParams} {signed : SignedUpdate}
    (built : buildIdentityUpdateTx library params = .ok signed) :
    ∃ prevOutput identity agentAddress selected,
      Builds library params signed prevOutput identity agentAddress selected := by
  simp only [buildIdentityUpdateTx, bind_eq_ok, exists_unit, require_eq_ok, requireSome_eq_ok,
    Except.ok.injEq] at built
  rcases built with ⟨prevOutput, hasPrevOutput, identity, hasIdentity, _, contentmultimap,
    updates, script, _, agentAddress, hasAddress, agentScript, _, _, _, ⟨selected, total⟩,
    selects, hex, _, rfl⟩
  refine ⟨prevOutput, identity, agentAddress, selected, hasPrevOutput, hasIdentity, updates,
    hasAddress, ⟨total, selects⟩, ?_⟩
  simp [updateTransaction, Function.comp_def]

theorem buildIdentityUpdateTx_identity {library : TransactionLibrary}
    {params : IdentityUpdateParams} {signed : SignedUpdate}
    (built : buildIdentityUpdateTx library params = .ok signed) :
    ∃ identity contentmultimap, params.identityData.identity = some identity ∧
      signed.identity = updatedIdentity params identity contentmultimap := by
  simp only [buildIdentityUpdateTx, bind_eq_ok, exists_unit, require_eq_ok, requireSome_eq_ok,
    Except.ok.injEq] at built
  rcases built with ⟨_, _, identity, hasIdentity, _, contentmultimap, _, _, _, _, _, _, _, _, _,
    _, _, _, _, rfl⟩
  exact ⟨identity, contentmultimap, hasIdentity, rfl⟩

end SovAgent.Identity

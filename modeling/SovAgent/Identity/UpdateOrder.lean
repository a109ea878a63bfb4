import Mathlib.Data.String.Basic
import SovAgent.Identity.UpdateContents

/-! # The contentmultimap that an update writes

Which keys it has, with which values and in which order. The daemon rejects an
update whose keys are not in the order of their hashes.
-/

namespace SovAgent.Identity

open Onboarding

/-! ## Order -/

def keyHash (hash160Hex : String → Option String) (key : String) : String :=
  (hash160Hex key).getD ""

structure Addresses (hash160Hex : String → Option String) (keys : List String) : Prop where
  decode : ∀ key ∈ keys, (hash160Hex key).isSome
  distinct : ∀ left ∈ keys, ∀ right ∈ keys,
    keyHash hash160Hex left = keyHash hash160Hex right → left = right

theorem Addresses.subset {hash160Hex : String → Option String} {keys fewer : List String}
    (addresses : Addresses hash160Hex keys) (subset : ∀ key ∈ fewer, key ∈ keys) :
    Addresses hash160Hex fewer where
  decode key member := addresses.decode key (subset key member)
  distinct left leftMember right rightMember :=
    addresses.distinct left (subset left leftMember) right (subset right rightMember)

theorem Addresses.ascending {hash160Hex : String → Option String} {keys : List String}
    (addresses : Addresses hash160Hex keys) (nodup : keys.Nodup)
    (sorted : keys.Pairwise fun left right =>
      keyHash hash160Hex left ≤ keyHash hash160Hex right) :
    keys.Pairwise fun left right => keyHash hash160Hex left < keyHash hash160Hex right := by
  induction keys with
  | nil => exact .nil
  | cons head tail induction =>
      rw [List.pairwise_cons] at sorted
      rw [List.nodup_cons] at nodup
      apply List.Pairwise.cons
      · intro key member
        apply lt_of_le_of_ne (sorted.1 key member)
        intro equal
        have same := addresses.distinct head List.mem_cons_self key
          (List.mem_cons_of_mem _ member) equal
        exact nodup.1 (same ▸ member)
      · exact induction (addresses.subset fun key => List.mem_cons_of_mem _) nodup.2 sorted.2

theorem sortByHash160_sorted {hash160Hex : String → Option String}
    {cmm sorted : Record String (List Json)} (sorts : sortByHash160 hash160Hex cmm = .ok sorted) :
    sorted.keys.Pairwise fun left right =>
      keyHash hash160Hex left ≤ keyHash hash160Hex right := by
  unfold sortByHash160 at sorts
  split at sorts
  · rename_i short
    rw [← Except.ok.inj sorts]
    have few : cmm.keys.length ≤ 1 := by
      rw [Record.keys, List.length_map]
      omega
    rcases keys : cmm.keys with _ | ⟨only, _ | ⟨next, rest⟩⟩
    · exact .nil
    · exact List.pairwise_singleton _ _
    · simp [keys] at few
  · split at sorts
    · rw [← Except.ok.inj sorts]
      apply (Record.pairwise_sortKeys _ _ cmm).imp
      · intro left right le
        exact not_lt.mp (of_decide_eq_true le)
      · intro first second third firstLe secondLe
        apply decide_eq_true
        exact not_lt.mpr (le_trans (not_lt.mp (of_decide_eq_true firstLe))
          (not_lt.mp (of_decide_eq_true secondLe)))
      · intro left right
        rw [Bool.or_eq_true, decide_eq_true_eq, decide_eq_true_eq, not_lt, not_lt]
        exact le_total _ _
    · cases sorts

/-! ## Contents -/

def keptKeys (clear : Bool) (existing : Option (Record String Json)) : List String :=
  if clear then [] else (existing.getD Record.empty).keys.filter (· ≠ multimapRemoveKey)

theorem mem_keptKeys {clear : Bool} {existing : Option (Record String Json)} {key : String} :
    key ∈ keptKeys clear existing ↔
      clear = false ∧ key ∈ (existing.getD Record.empty).keys ∧ key ≠ multimapRemoveKey := by
  cases clear <;> simp [keptKeys]

theorem carriedContentmultimap_kept {clear : Bool} {existing : Option (Record String Json)}
    {key : String} (kept : key ∈ keptKeys clear existing) :
    (carriedContentmultimap clear existing).get? key =
      ((existing.getD Record.empty).get? key).map Json.asArray := by
  rcases mem_keptKeys.mp kept with ⟨rfl, _, notRemove⟩
  rw [carriedContentmultimap_get?, if_neg notRemove]

theorem mem_carriedContentmultimap_keys {clear : Bool} {existing : Option (Record String Json)}
    {key : String} :
    key ∈ (carriedContentmultimap clear existing).keys ↔ key ∈ keptKeys clear existing := by
  cases clear with
  | true =>
      cases existing <;>
        simp [carriedContentmultimap, keptKeys, Record.keys, Record.empty]
  | false =>
      rw [Record.mem_keys_iff, carriedContentmultimap_get?, mem_keptKeys, Record.mem_keys_iff]
      by_cases removed : key = multimapRemoveKey <;> simp [removed]

/-- The written map has exactly the kept and the added keys, each with its
values, in the order of their hashes. -/
structure MergedContents (hash160Hex : String → Option String) (clear : Bool)
    (existing : Option (Record String Json)) (additions written : Record String (List Json)) :
    Prop where
  keys : ∀ key, key ∈ written.keys ↔ key ∈ keptKeys clear existing ∨ key ∈ additions.keys
  added : ∀ key values, additions.get? key = some values → written.get? key = some values
  kept : ∀ key ∈ keptKeys clear existing, key ∉ additions.keys →
    written.get? key = ((existing.getD Record.empty).get? key).map Json.asArray
  nodup : written.keys.Nodup
  ascending : written.keys.Pairwise fun left right =>
    keyHash hash160Hex left < keyHash hash160Hex right

section Merge

variable {hash160Hex : String → Option String} {clear : Bool}
variable {existing : Option (Record String Json)} {additions written : Record String (List Json)}

theorem updatedContentmultimap_merged
    (addresses : Addresses hash160Hex (keptKeys clear existing ++ additions.keys))
    (updates : updatedContentmultimap hash160Hex clear existing additions = .ok written) :
    MergedContents hash160Hex clear existing additions written := by
  have lookup := updatedContentmultimap_get? updates
  have keys : ∀ key, key ∈ written.keys ↔
      key ∈ keptKeys clear existing ∨ key ∈ additions.keys := by
    intro key
    rw [Record.mem_keys_iff, lookup, Option.isSome_or, Bool.or_eq_true, ← Record.mem_keys_iff,
      ← Record.mem_keys_iff, mem_carriedContentmultimap_keys, or_comm]
  have sorted := updates
  simp only [updatedContentmultimap, bind_eq_ok, exists_unit] at sorted
  refine ⟨keys, ?_, ?_, written.distinct, ?_⟩
  · intro key values added
    rw [lookup, added]
    rfl
  · intro key kept unwritten
    rw [lookup, Record.get?_eq_none_iff.mpr unwritten, Option.none_or,
      carriedContentmultimap_kept kept]
  · apply Addresses.ascending _ written.distinct (sortByHash160_sorted sorted.2)
    apply addresses.subset
    intro key member
    exact List.mem_append.mpr ((keys key).mp member)

/-! ## The size guard -/

def OverLimit (additions : Record String (List Json)) : Prop :=
  ∃ key values, additions.get? key = some values ∧
    ∃ value ∈ values, maxContentmultimapValueBytes < contentmultimapValueByteSize value

theorem assertContentmultimapValueSizes_eq_ok :
    assertContentmultimapValueSizes additions = .ok () ↔ ¬ OverLimit additions := by
  simp only [assertContentmultimapValueSizes, checkAll_eq_ok, require_eq_ok]
  constructor
  · intro sized oversized
    rcases oversized with ⟨key, values, found, value, member, large⟩
    rcases List.mem_iff_getElem.mp member with ⟨index, bound, rfl⟩
    have small := sized (key, values) (Record.get?_eq_some_iff.mp found) (values[index], index)
      (List.mem_zipIdx_iff_getElem?.mpr (List.getElem?_eq_getElem bound))
    exact absurd large (not_lt.mpr small)
  · intro within entry entryMember indexed indexedMember
    apply not_lt.mp
    intro large
    apply within
    exact ⟨entry.1, entry.2, Record.get?_eq_some_iff.mpr entryMember, indexed.1,
      List.fst_mem_of_mem_zipIdx indexedMember, large⟩

theorem updatedContentmultimap_fails_iff
    (addresses : Addresses hash160Hex (keptKeys clear existing ++ additions.keys)) :
    (∃ error, updatedContentmultimap hash160Hex clear existing additions = .error error) ↔
      OverLimit additions := by
  have sortable : Sortable hash160Hex
      ((carriedContentmultimap clear existing).assign additions).keys := by
    right
    intro key member
    apply addresses.decode
    rcases Record.mem_keys_assign.mp member with added | carried
    · exact List.mem_append_right _ added
    · exact List.mem_append_left _ (mem_carriedContentmultimap_keys.mp carried)
  rcases sortByHash160_eq_ok.mpr sortable with ⟨sorted, sorts⟩
  rw [← not_iff_not, ← assertContentmultimapValueSizes_eq_ok]
  constructor
  · intro succeeds
    cases updates : updatedContentmultimap hash160Hex clear existing additions with
    | error error => exact absurd ⟨error, updates⟩ succeeds
    | ok written =>
        simp only [updatedContentmultimap, bind_eq_ok, exists_unit, mapError_eq_ok] at updates
        exact updates.1
  · intro sized fails
    rcases fails with ⟨error, fails⟩
    have updates : updatedContentmultimap hash160Hex clear existing additions = .ok sorted := by
      simp only [updatedContentmultimap, bind_eq_ok, exists_unit, mapError_eq_ok]
      exact ⟨sized, sorts⟩
    cases updates.symm.trans fails

end Merge

/-- What the identity that an update writes holds, and when the size guard
stops the update. -/
theorem buildIdentityUpdateTx_contentmultimap (library : TransactionLibrary)
    (params : IdentityUpdateParams) (existing : Option (Record String Json))
    (addresses : Addresses library.hash160Hex
      (keptKeys params.clearContentmultimap existing ++ params.vdxfAdditions.keys)) :
    (∀ written, updatedContentmultimap library.hash160Hex params.clearContentmultimap existing
        params.vdxfAdditions = .ok written →
      MergedContents library.hash160Hex params.clearContentmultimap existing
        params.vdxfAdditions written) ∧
    (assertContentmultimapValueSizes params.vdxfAdditions ≠ .ok () ↔
      OverLimit params.vdxfAdditions) ∧
    ((∃ error, updatedContentmultimap library.hash160Hex params.clearContentmultimap existing
        params.vdxfAdditions = .error error) ↔ OverLimit params.vdxfAdditions) ∧
    ∀ identity signed, params.identityData.identity = some identity →
      identity.contentmultimap = existing → buildIdentityUpdateTx library params = .ok signed →
      MergedContents library.hash160Hex params.clearContentmultimap existing
        params.vdxfAdditions signed.identity.contentmultimap := by
  refine ⟨fun written => updatedContentmultimap_merged addresses, ?_,
    updatedContentmultimap_fails_iff addresses, ?_⟩
  · rw [Ne, assertContentmultimapValueSizes_eq_ok, not_not]
  · intro identity signed reads carries built
    rcases buildIdentityUpdateTx_builds built with
      ⟨prevOutput, read, agentAddress, selected, builds⟩
    cases reads.symm.trans builds.reads
    have writes := builds.writes
    rw [carries] at writes
    exact updatedContentmultimap_merged addresses writes

def registeredHash (key : String) : Option String :=
  if key = VdxfKeys.agentStatus then some "bfde8ddac6a6f71bbd30500387143a7b86e534c6"
  else if key = VdxfKeys.reviewRecord then some "bbca7d2d244d59da0fb3597d2fa16de09581eb6a"
  else if key = VdxfKeys.reviewAttestation then some "27bdebd73d9700657a3a31e3c146e9e42a117ad2"
  else none

def keyedLibrary : TransactionLibrary where
  hash160Hex := registeredHash
  identityScript _ := .ok "51"
  keyAddress _ _ := .ok "Ragent"
  outputScript _ _ := .ok "76"
  sign _ _ _ := .ok ⟨"04", by decide⟩

private def reviewedMap : Record String Json where
  entries := [(VdxfKeys.reviewRecord, .string "aa"), (multimapRemoveKey, .array [.string "bb"])]
  distinct := by decide

private def attestationAndStatus : IdentityUpdateParams where
  wif := "wif"
  identityData := ⟨none, 0, none⟩
  utxos := []
  vdxfAdditions := .mk [(VdxfKeys.agentStatus, [makeSubDD VdxfKeys.agentStatus "active"]),
    (VdxfKeys.reviewAttestation, [.string "cc"])] (by decide)
  network := .verustest
  fee := defaultFee
  revocationauthority := none
  recoveryauthority := none
  clearContentmultimap := false
  expiryHeight := none

/-- The attestation sorts before the review that it was added after. -/
theorem buildIdentityUpdateTx_contentmultimap_reviewed : ∃ written,
    updatedContentmultimap registeredHash false (some reviewedMap)
        attestationAndStatus.vdxfAdditions = .ok written ∧
      MergedContents registeredHash false (some reviewedMap)
        attestationAndStatus.vdxfAdditions written := by
  have addresses : Addresses registeredHash (keptKeys false (some reviewedMap) ++
      attestationAndStatus.vdxfAdditions.keys) := by
    constructor <;> decide +kernel
  rcases buildIdentityUpdateTx_contentmultimap keyedLibrary attestationAndStatus (some reviewedMap)
    addresses with ⟨merged, _, fails, _⟩
  have within : ¬ OverLimit attestationAndStatus.vdxfAdditions :=
    assertContentmultimapValueSizes_eq_ok.mp (by decide +kernel)
  cases updates : updatedContentmultimap registeredHash false (some reviewedMap)
    attestationAndStatus.vdxfAdditions with
  | ok written => exact ⟨written, rfl, merged written updates⟩
  | error error => exact absurd (fails.mp ⟨error, updates⟩) within

end SovAgent.Identity

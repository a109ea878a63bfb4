import Mathlib.Data.List.Nodup

/-! # First entries

Entries added to a list where their key is new: what a set or a map that keeps
the order of insertion holds after a run of insertions.
-/

namespace SovAgent

variable {α : Type u} {β : Type v} [DecidableEq β]

def keepNew (key : α → β) (kept : List α) (entry : α) : List α :=
  if key entry ∈ kept.map key then kept else kept ++ [entry]

def firstEntries (key : α → β) (start entries : List α) : List α :=
  entries.foldl (keepNew key) start

example : firstEntries id [2] [1, 2, 3, 1] = [2, 1, 3] := by decide

variable {key : α → β}

theorem mem_keepNew {kept : List α} {entry other : α} (member : other ∈ keepNew key kept entry) :
    other ∈ kept ∨ other = entry := by
  rw [keepNew] at member
  split at member
  · exact Or.inl member
  · exact (List.mem_append.mp member).imp_right List.mem_singleton.mp

theorem keys_keepNew {kept : List α} {entry : α} {name : β} :
    name ∈ (keepNew key kept entry).map key ↔ name ∈ kept.map key ∨ name = key entry := by
  rw [keepNew]
  split
  · rename_i old
    exact ⟨Or.inl, fun either => either.elim id fun same => same ▸ old⟩
  · rw [List.map_append, List.mem_append, List.map_singleton, List.mem_singleton]

theorem nodup_keepNew {kept : List α} (distinct : (kept.map key).Nodup) (entry : α) :
    ((keepNew key kept entry).map key).Nodup := by
  rw [keepNew]
  split
  · exact distinct
  · rename_i fresh
    rw [List.map_append, List.map_singleton]
    exact distinct.append (List.nodup_singleton _) (List.disjoint_singleton.mpr fresh)

theorem mem_firstEntries {start entries : List α} {entry : α}
    (member : entry ∈ firstEntries key start entries) : entry ∈ start ∨ entry ∈ entries := by
  induction entries generalizing start with
  | nil => exact Or.inl member
  | cons head tail induction =>
      rcases induction member with kept | later
      · rcases mem_keepNew kept with old | rfl
        · exact Or.inl old
        · exact Or.inr List.mem_cons_self
      · exact Or.inr (List.mem_cons_of_mem _ later)

theorem keys_firstEntries {start entries : List α} {name : β} :
    name ∈ (firstEntries key start entries).map key ↔
      name ∈ start.map key ∨ name ∈ entries.map key := by
  induction entries generalizing start with
  | nil => simp [firstEntries]
  | cons head tail induction =>
      change name ∈ (firstEntries key (keepNew key start head) tail).map key ↔ _
      rw [induction, keys_keepNew, List.map_cons, List.mem_cons, or_assoc]

theorem nodup_firstEntries {start : List α} (distinct : (start.map key).Nodup)
    (entries : List α) : ((firstEntries key start entries).map key).Nodup := by
  induction entries generalizing start with
  | nil => exact distinct
  | cons head tail induction => exact induction (nodup_keepNew distinct head)

theorem mem_firstEntries_id {start entries : List β} {entry : β} :
    entry ∈ firstEntries id start entries ↔ entry ∈ start ∨ entry ∈ entries := by
  have keys : entry ∈ (firstEntries id start entries).map id ↔ _ := keys_firstEntries
  simpa using keys

theorem nodup_firstEntries_id (entries : List β) : (firstEntries id [] entries).Nodup := by
  have none : (([] : List β).map id).Nodup := List.nodup_nil
  have distinct := nodup_firstEntries none entries
  rw [List.map_id] at distinct
  exact distinct

end SovAgent

import Mathlib.Data.List.Nodup
import Mathlib.Data.List.Perm.Basic

/-! # Insertion-ordered maps

A map that keeps its keys in the order of their first insertion, as objects do
in JavaScript. No key occurs twice.
-/

namespace SovAgent

structure Record (κ : Type u) (β : Type v) where
  entries : List (κ × β)
  distinct : (entries.map Prod.fst).Nodup

namespace Record

variable [DecidableEq κ]

def keys (record : Record κ β) : List κ := record.entries.map Prod.fst

def get? (record : Record κ β) (key : κ) : Option β := record.entries.lookup key

def empty : Record κ β := ⟨[], List.nodup_nil⟩

/-- Replace the value of a key in place, or append the key. -/
def setEntry (key : κ) (value : β) : List (κ × β) → List (κ × β)
  | [] => [(key, value)]
  | head :: tail =>
      if head.1 = key then (key, value) :: tail else head :: setEntry key value tail

/-! ## Association lists -/

theorem lookup_cons (name key : κ) (value : β) (tail : List (κ × β)) :
    ((name, value) :: tail).lookup key = if key = name then some value else tail.lookup key := by
  rw [List.lookup_cons]
  by_cases here : key = name
  · simp [here]
  · have differs : (key == name) = false := beq_eq_false_iff_ne.mpr here
    simp [here, differs]

theorem keys_setEntry (key : κ) (value : β) (entries : List (κ × β)) :
    (setEntry key value entries).map Prod.fst =
      if key ∈ entries.map Prod.fst then entries.map Prod.fst
      else entries.map Prod.fst ++ [key] := by
  induction entries with
  | nil => rfl
  | cons head tail induction =>
      by_cases same : head.1 = key
      · simp [setEntry, same]
      · have other : ¬ key = head.1 := fun equal => same equal.symm
        simp only [setEntry, same, if_false, List.map_cons, induction, List.mem_cons, other,
          false_or]
        split <;> rfl

theorem lookup_setEntry (key other : κ) (value : β) (entries : List (κ × β)) :
    (setEntry key value entries).lookup other =
      if other = key then some value else entries.lookup other := by
  induction entries with
  | nil => by_cases same : other = key <;> simp [setEntry, lookup_cons, same]
  | cons head tail induction =>
      rcases head with ⟨name, old⟩
      by_cases replaced : name = key
      · subst name
        by_cases same : other = key <;> simp [setEntry, lookup_cons, same]
      · by_cases here : other = name
        · subst other
          simp [setEntry, replaced]
        · simp [setEntry, lookup_cons, replaced, here, induction]

theorem lookup_eq_some_iff {entries : List (κ × β)} (distinct : (entries.map Prod.fst).Nodup)
    {key : κ} {value : β} : entries.lookup key = some value ↔ (key, value) ∈ entries := by
  induction entries with
  | nil => simp
  | cons head tail induction =>
      rcases head with ⟨name, old⟩
      rw [List.map_cons, List.nodup_cons] at distinct
      by_cases here : key = name
      · subst key
        have absent : (name, value) ∉ tail := fun member =>
          distinct.1 (List.mem_map.mpr ⟨_, member, rfl⟩)
        simp [absent, eq_comm]
      · simp [lookup_cons, here, induction distinct.2]

/-! ## Operations -/

def set (record : Record κ β) (key : κ) (value : β) : Record κ β where
  entries := setEntry key value record.entries
  distinct := by
    rw [keys_setEntry]
    split
    · exact record.distinct
    · rename_i absent
      exact List.nodup_append.mpr
        ⟨record.distinct, List.nodup_singleton key, by
          rintro left member right rightMember rfl
          exact absent (List.mem_singleton.mp rightMember ▸ member)⟩

/-- `Object.assign`: the entries of `source`, in order, over `target`. -/
def assign (target source : Record κ β) : Record κ β :=
  source.entries.foldl (fun record entry => record.set entry.1 entry.2) target

def mapValues (convert : β → γ) (record : Record κ β) : Record κ γ where
  entries := record.entries.map fun entry => (entry.1, convert entry.2)
  distinct := by simpa [Function.comp_def] using record.distinct

def filterKeys (keep : κ → Bool) (record : Record κ β) : Record κ β where
  entries := record.entries.filter fun entry => keep entry.1
  distinct := record.distinct.sublist (List.filter_sublist.map _)

def sortKeys (le : κ → κ → Bool) (record : Record κ β) : Record κ β where
  entries := record.entries.mergeSort fun left right => le left.1 right.1
  distinct := (((List.mergeSort_perm record.entries _).map Prod.fst).nodup_iff).mpr record.distinct

/-! ## Lookup in the results -/

theorem get?_eq_some_iff {record : Record κ β} {key : κ} {value : β} :
    record.get? key = some value ↔ (key, value) ∈ record.entries :=
  lookup_eq_some_iff record.distinct

theorem mem_keys_iff {record : Record κ β} {key : κ} :
    key ∈ record.keys ↔ (record.get? key).isSome := by
  simp [keys, get?]

theorem get?_eq_none_iff {record : Record κ β} {key : κ} :
    record.get? key = none ↔ key ∉ record.keys := by
  rw [mem_keys_iff, Option.not_isSome_iff_eq_none]

@[simp] theorem get?_empty (key : κ) : (empty : Record κ β).get? key = none := rfl

@[simp] theorem get?_set (record : Record κ β) (key other : κ) (value : β) :
    (record.set key value).get? other = if other = key then some value else record.get? other :=
  lookup_setEntry key other value record.entries

@[simp] theorem get?_mapValues (convert : β → γ) (record : Record κ β) (key : κ) :
    (record.mapValues convert).get? key = (record.get? key).map convert := by
  rcases record with ⟨entries, distinct⟩
  show (entries.map fun entry => (entry.1, convert entry.2)).lookup key =
    (entries.lookup key).map convert
  clear distinct
  induction entries with
  | nil => rfl
  | cons head tail induction =>
      rcases head with ⟨name, value⟩
      by_cases here : key = name <;> simp [lookup_cons, here, induction]

@[simp] theorem get?_filterKeys (keep : κ → Bool) (record : Record κ β) (key : κ) :
    (record.filterKeys keep).get? key = if keep key then record.get? key else none := by
  apply Option.ext
  intro value
  rw [get?_eq_some_iff]
  split
  · rename_i kept
    rw [get?_eq_some_iff]
    simp [filterKeys, kept]
  · rename_i dropped
    simp [filterKeys, dropped]

theorem get?_eq_of_perm {left right : Record κ β} (same : left.entries.Perm right.entries) :
    left.get? = right.get? := by
  funext key
  apply Option.ext
  intro value
  rw [get?_eq_some_iff, get?_eq_some_iff, same.mem_iff]

@[simp] theorem get?_sortKeys (le : κ → κ → Bool) (record : Record κ β) (key : κ) :
    (record.sortKeys le).get? key = record.get? key :=
  congrFun (get?_eq_of_perm (List.mergeSort_perm record.entries _)) key

omit [DecidableEq κ] in
theorem pairwise_sortKeys {le : κ → κ → Bool}
    (trans : ∀ first second third, le first second → le second third → le first third)
    (total : ∀ left right, le left right || le right left) (record : Record κ β) :
    (record.sortKeys le).keys.Pairwise fun left right => le left right := by
  apply List.pairwise_map.mpr
  apply List.pairwise_mergeSort
  · exact fun first second third => trans first.1 second.1 third.1
  · exact fun left right => total left.1 right.1

omit [DecidableEq κ] in
theorem sortKeys_of_pairwise {le : κ → κ → Bool} {record : Record κ β}
    (sorted : record.keys.Pairwise fun left right => le left right) :
    record.sortKeys le = record := by
  rcases record with ⟨entries, distinct⟩
  have same : entries.mergeSort (fun left right => le left.1 right.1) = entries :=
    List.mergeSort_of_pairwise (List.pairwise_map.mp sorted)
  simp only [sortKeys, same]

theorem get?_foldl_set (entries : List (κ × β)) (distinct : (entries.map Prod.fst).Nodup)
    (target : Record κ β) (key : κ) :
    (entries.foldl (fun record entry => record.set entry.1 entry.2) target).get? key =
      (entries.lookup key).or (target.get? key) := by
  induction entries generalizing target with
  | nil => rfl
  | cons head tail induction =>
      rcases head with ⟨name, value⟩
      rw [List.map_cons, List.nodup_cons] at distinct
      rw [List.foldl_cons, induction distinct.2, get?_set, lookup_cons]
      by_cases here : key = name
      · subst key
        have absent : tail.lookup name = none := by
          rw [← Option.not_isSome_iff_eq_none]
          simpa using distinct.1
        simp [absent]
      · simp [here]

@[simp] theorem get?_assign (target source : Record κ β) (key : κ) :
    (target.assign source).get? key = (source.get? key).or (target.get? key) :=
  get?_foldl_set source.entries source.distinct target key

theorem mem_keys_assign {target source : Record κ β} {key : κ} :
    key ∈ (target.assign source).keys ↔ key ∈ source.keys ∨ key ∈ target.keys := by
  simp only [mem_keys_iff, get?_assign]
  cases source.get? key <;> simp

end Record

end SovAgent

import Mathlib.Data.List.Basic
import Mathlib.Algebra.BigOperators.Group.List.Basic
import Mathlib.Algebra.Order.Ring.Nat

/-! # Lists with an entry changed, added or removed -/

namespace SovAgent

variable {α : Type u} {β : Type v}

/-! ## Changing an entry -/

theorem map_modify {convert : α → β} {change : α → α} (unchanged : ∀ entry,
    convert (change entry) = convert entry) (entries : List α) (index : Nat) :
    (entries.modify index change).map convert = entries.map convert := by
  induction entries generalizing index with
  | nil => simp
  | cons head tail induction =>
      cases index with
      | zero => simp [unchanged]
      | succ index => simp [induction]

theorem getElem?_modify_eq_some {change : α → α} {entries : List α} {index position : Nat}
    {entry : α} : (entries.modify index change)[position]? = some entry ↔
      ∃ before, entries[position]? = some before ∧
        entry = if index = position then change before else before := by
  rw [List.getElem?_modify]
  constructor
  · intro found
    rcases Option.map_eq_some_iff.mp found with ⟨before, beforeFound, rfl⟩
    refine ⟨before, beforeFound, ?_⟩
    split <;> rfl
  · intro holds
    rcases holds with ⟨before, beforeFound, rfl⟩
    rw [beforeFound]
    rfl

theorem mem_modify {change : α → α} {entries : List α} {index : Nat} {entry : α}
    (member : entry ∈ entries.modify index change) :
    entry ∈ entries ∨ ∃ before ∈ entries, entry = change before := by
  induction entries generalizing index with
  | nil => simp at member
  | cons head tail induction =>
      cases index with
      | zero =>
          rw [List.modify_zero_cons] at member
          rcases List.mem_cons.mp member with rfl | later
          · exact .inr ⟨head, List.mem_cons_self, rfl⟩
          · exact .inl (List.mem_cons_of_mem _ later)
      | succ index =>
          rw [List.modify_succ_cons] at member
          rcases List.mem_cons.mp member with rfl | later
          · exact .inl List.mem_cons_self
          · rcases induction later with old | ⟨before, beforeMember, changed⟩
            · exact .inl (List.mem_cons_of_mem _ old)
            · exact .inr ⟨before, List.mem_cons_of_mem _ beforeMember, changed⟩

theorem pairwise_modify {relation : α → α → Prop} {change : α → α}
    (left : ∀ first second, relation first second → relation (change first) second)
    (right : ∀ first second, relation first second → relation first (change second))
    {entries : List α} (pairwise : entries.Pairwise relation) (index : Nat) :
    (entries.modify index change).Pairwise relation := by
  induction pairwise generalizing index with
  | nil => simp
  | cons related rest induction =>
      cases index with
      | zero =>
          rw [List.modify_zero_cons]
          exact .cons (fun other member => left _ _ (related other member)) rest
      | succ index =>
          rw [List.modify_succ_cons]
          refine .cons ?_ (induction index)
          intro other member
          rcases mem_modify member with old | ⟨before, beforeMember, rfl⟩
          · exact related other old
          · exact right _ _ (related before beforeMember)

theorem sum_map_modify (weight : α → Nat) (change : α → α) {entries : List α} {index : Nat}
    {entry : α} (found : entries[index]? = some entry) :
    ((entries.modify index change).map weight).sum + weight entry =
      (entries.map weight).sum + weight (change entry) := by
  induction entries generalizing index with
  | nil => simp at found
  | cons head tail induction =>
      cases index with
      | zero =>
          rw [List.getElem?_cons_zero, Option.some.injEq] at found
          subst found
          simp only [List.modify_zero_cons, List.map_cons, List.sum_cons]
          omega
      | succ index =>
          rw [List.getElem?_cons_succ] at found
          have later := induction found
          simp only [List.modify_succ_cons, List.map_cons, List.sum_cons]
          omega

/-! ## The last entry -/

theorem sum_map_concat (weight : α → Nat) (entries : List α) (last : α) :
    ((entries ++ [last]).map weight).sum = (entries.map weight).sum + weight last := by
  rw [List.map_append, List.sum_append, List.map_singleton, List.sum_singleton]

theorem getElem?_concat_eq_some {entries : List α} {last entry : α} {position : Nat} :
    (entries ++ [last])[position]? = some entry ↔
      entries[position]? = some entry ∨ position = entries.length ∧ entry = last := by
  by_cases earlier : position < entries.length
  · rw [List.getElem?_append_left earlier]
    constructor
    · exact .inl
    · intro holds
      rcases holds with old | ⟨rfl, _⟩
      · exact old
      · omega
  · have beyond : entries[position]? = none := List.getElem?_eq_none (by omega)
    rw [List.getElem?_append_right (by omega), beyond]
    constructor
    · intro found
      have first : position - entries.length = 0 := by
        by_contra later
        rw [List.getElem?_eq_none (by rw [List.length_singleton]; omega)] at found
        cases found
      rw [first, List.getElem?_cons_zero, Option.some.injEq] at found
      exact .inr ⟨by omega, found.symm⟩
    · intro holds
      rcases holds with old | ⟨rfl, rfl⟩
      · cases old
      · rw [Nat.sub_self, List.getElem?_cons_zero]

theorem pairwise_concat {relation : α → α → Prop} {entries : List α} {last : α}
    (pairwise : entries.Pairwise relation) (related : ∀ entry ∈ entries, relation entry last) :
    (entries ++ [last]).Pairwise relation := by
  rw [List.pairwise_append]
  refine ⟨pairwise, List.pairwise_singleton _ _, ?_⟩
  intro entry member other otherMember
  rw [List.mem_singleton.mp otherMember]
  exact related entry member

/-! ## The only entry -/

theorem getElem?_singleton_eq_some {only entry : α} {index : Nat}
    (found : [only][index]? = some entry) : only = entry ∧ [only].eraseIdx index = [] := by
  cases index with
  | zero =>
      rw [List.getElem?_cons_zero, Option.some.injEq] at found
      exact ⟨found, rfl⟩
  | succ index => simp at found

end SovAgent

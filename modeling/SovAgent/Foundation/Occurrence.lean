import Mathlib.Data.List.Infix

/-! # First occurrences

Where a pattern first stands in a text, and what a longer text does to it.
-/

namespace SovAgent

variable {α : Type u} [DecidableEq α]

def indexOf (pattern : List α) : List α → Option Nat
  | [] => if pattern = [] then some 0 else none
  | head :: tail =>
      if pattern <+: head :: tail then some 0 else (indexOf pattern tail).map Nat.succ

example : indexOf ['b', 'a'] "abba".toList = some 2 := by decide

theorem indexOf_zero {pattern text : List α} (here : pattern <+: text) :
    indexOf pattern text = some 0 := by
  cases text with
  | nil => rw [indexOf, if_pos (List.prefix_nil.mp here)]
  | cons head tail => rw [indexOf, if_pos here]

theorem indexOf_cons {pattern tail : List α} {head : α} (later : ¬ pattern <+: head :: tail) :
    indexOf pattern (head :: tail) = (indexOf pattern tail).map Nat.succ := by
  rw [indexOf, if_neg later]

theorem indexOf_beginning {beginning pattern text : List α} {index : Nat}
    (begins : beginning <+: pattern) (found : indexOf pattern text = some index) :
    ∃ earlier, indexOf beginning text = some earlier := by
  induction text generalizing index with
  | nil =>
      rw [indexOf] at found
      split at found
      · rename_i empty
        rw [empty] at begins
        exact ⟨0, indexOf_zero begins⟩
      · cases found
  | cons head tail induction =>
      by_cases here : beginning <+: head :: tail
      · exact ⟨0, indexOf_zero here⟩
      · have later : ¬ pattern <+: head :: tail := fun starts => here (begins.trans starts)
        rw [indexOf_cons later] at found
        rcases Option.map_eq_some_iff.mp found with ⟨before, inTail, _⟩
        rcases induction inTail with ⟨earlier, inTailToo⟩
        exact ⟨earlier + 1, by rw [indexOf_cons here, inTailToo]; rfl⟩

theorem indexOf_fits {pattern text : List α} {index : Nat}
    (found : indexOf pattern text = some index) : index + pattern.length ≤ text.length := by
  induction text generalizing index with
  | nil =>
      rw [indexOf] at found
      split at found
      · rename_i empty
        cases found
        rw [empty]
        exact Nat.le_refl 0
      · cases found
  | cons head tail induction =>
      by_cases here : pattern <+: head :: tail
      · cases (indexOf_zero here).symm.trans found
        rw [Nat.zero_add]
        exact here.length_le
      · rw [indexOf_cons here] at found
        rcases Option.map_eq_some_iff.mp found with ⟨before, inTail, rfl⟩
        have fits := induction inTail
        rw [List.length_cons]
        omega

theorem indexOf_append {pattern text : List α} {index : Nat}
    (found : indexOf pattern text = some index) (more : List α) :
    indexOf pattern (text ++ more) = some index := by
  induction text generalizing index with
  | nil =>
      rw [indexOf] at found
      split at found
      · rename_i empty
        cases found
        rw [empty]
        exact indexOf_zero List.nil_prefix
      · cases found
  | cons head tail induction =>
      by_cases here : pattern <+: head :: tail
      · cases (indexOf_zero here).symm.trans found
        exact indexOf_zero (here.trans (List.prefix_append _ _))
      · rw [indexOf_cons here] at found
        rcases Option.map_eq_some_iff.mp found with ⟨before, inTail, rfl⟩
        have longer : ¬ pattern <+: head :: (tail ++ more) := by
          intro starts
          have fits := indexOf_fits inTail
          apply here
          apply List.prefix_of_prefix_length_le starts
          · exact List.prefix_append (head :: tail) more
          · rw [List.length_cons]
            omega
        rw [List.cons_append, indexOf_cons longer, induction inTail]
        rfl

theorem indexOf_of_append {pattern text more : List α} {index : Nat}
    (found : indexOf pattern (text ++ more) = some index)
    (fits : index + pattern.length ≤ text.length) : indexOf pattern text = some index := by
  induction text generalizing index with
  | nil =>
      have nothing : index = 0 ∧ pattern.length = 0 := Nat.add_eq_zero_iff.mp (Nat.le_zero.mp fits)
      have empty : pattern = [] := List.length_eq_zero_iff.mp nothing.2
      rw [nothing.1, empty]
      rfl
  | cons head tail induction =>
      by_cases here : pattern <+: head :: (tail ++ more)
      · cases (indexOf_zero here).symm.trans found
        apply indexOf_zero
        apply List.prefix_of_prefix_length_le here
        · exact List.prefix_append (head :: tail) more
        · rwa [Nat.zero_add] at fits
      · have shorter : ¬ pattern <+: head :: tail :=
          fun starts => here (starts.trans (List.prefix_append _ _))
        rw [List.cons_append, indexOf_cons here] at found
        rcases Option.map_eq_some_iff.mp found with ⟨before, inTail, rfl⟩
        rw [List.length_cons] at fits
        rw [indexOf_cons shorter, induction inTail (by omega)]
        rfl

end SovAgent

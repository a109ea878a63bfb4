import Mathlib.Algebra.Order.BigOperators.Group.List
import Mathlib.Data.List.Perm.Subperm

/-! # The largest elements of a list

Of a descending list, the first elements have the largest sum that so many
elements can have.
-/

namespace SovAgent

def Descending {M : Type u} [LE M] (list : List M) : Prop :=
  list.Pairwise fun left right => right ≤ left

variable {M : Type u} [AddCommMonoid M] [PartialOrder M] [IsOrderedAddMonoid M]

theorem sum_take_le_cons {head : M} {tail : List M} (descending : Descending (head :: tail))
    {count : Nat} (enough : count ≤ tail.length) :
    (tail.take count).sum ≤ ((head :: tail).take count).sum := by
  induction count generalizing head tail with
  | zero => exact le_refl _
  | succ count induction =>
      cases tail with
      | nil => cases enough
      | cons second rest =>
          have parts := List.pairwise_cons.mp descending
          have largest : second ≤ head := parts.1 second List.mem_cons_self
          have fewer : count ≤ rest.length := Nat.le_of_succ_le_succ enough
          rw [List.take_succ_cons, List.take_succ_cons, List.sum_cons, List.sum_cons]
          exact add_le_add largest (induction parts.2 fewer)

theorem sum_le_sum_take {part whole : List M} (included : part.Sublist whole)
    (descending : Descending whole) : part.sum ≤ (whole.take part.length).sum := by
  induction included with
  | slnil => exact le_refl _
  | cons head sub induction =>
      have parts := List.pairwise_cons.mp descending
      exact (induction parts.2).trans (sum_take_le_cons descending sub.length_le)
  | cons_cons head sub induction =>
      have parts := List.pairwise_cons.mp descending
      rw [List.length_cons, List.take_succ_cons, List.sum_cons, List.sum_cons]
      exact add_le_add_right (induction parts.2) head

theorem sum_le_sum_take_of_subperm {part whole : List M} (included : part.Subperm whole)
    (descending : Descending whole) : part.sum ≤ (whole.take part.length).sum := by
  rcases included with ⟨ordered, perm, sub⟩
  rw [← perm.sum_eq, ← perm.length_eq]
  exact sum_le_sum_take sub descending

theorem sum_take_mono {whole : List M} (nonneg : ∀ value ∈ whole, 0 ≤ value)
    {fewer more : Nat} (within : fewer ≤ more) :
    (whole.take fewer).sum ≤ (whole.take more).sum := by
  have sub : (whole.take fewer).Sublist (whole.take more) :=
    (List.take_prefix_take_left within).sublist
  exact sub.sum_le_sum fun value member => nonneg value (List.mem_of_mem_take member)

end SovAgent

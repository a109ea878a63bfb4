import Mathlib.Algebra.Order.Group.Defs
import Mathlib.Algebra.Order.BigOperators.Group.List
import Mathlib.Algebra.Order.Sub.Basic

/-! # Totals over a rolling window

Amounts stamped with the instant they were authorised. A window of width `w`
ending at `t` is the half-open interval `(t - w, t]`.
-/

namespace SovAgent.RollingWindow

structure Entry (Time : Type u) (Amount : Type v) where
  time : Time
  amount : Amount
deriving DecidableEq, Repr

section Totals

variable {Time : Type u} [LinearOrder Time] {Amount : Type v} [AddMonoid Amount]

/-- Total of the entries strictly later than `cutoff`. -/
def totalAfter (cutoff : Time) (entries : List (Entry Time Amount)) : Amount :=
  ((entries.filter fun entry => cutoff < entry.time).map Entry.amount).sum

/-- Total of the entries in the window of the given width ending at `instant`. -/
def totalWithin [Sub Time] (width instant : Time) (entries : List (Entry Time Amount)) :
    Amount :=
  ((entries.filter fun entry =>
    instant - width < entry.time ∧ entry.time ≤ instant).map Entry.amount).sum

@[simp] theorem totalAfter_nil (cutoff : Time) :
    totalAfter cutoff ([] : List (Entry Time Amount)) = 0 := rfl

@[simp] theorem totalWithin_nil [Sub Time] (width instant : Time) :
    totalWithin width instant ([] : List (Entry Time Amount)) = 0 := rfl

theorem totalAfter_append (cutoff : Time) (left right : List (Entry Time Amount)) :
    totalAfter cutoff (left ++ right) =
      totalAfter cutoff left + totalAfter cutoff right := by
  simp [totalAfter]

theorem totalWithin_append [Sub Time] (width instant : Time)
    (left right : List (Entry Time Amount)) :
    totalWithin width instant (left ++ right) =
      totalWithin width instant left + totalWithin width instant right := by
  simp [totalWithin]

theorem totalAfter_singleton (cutoff : Time) (entry : Entry Time Amount) :
    totalAfter cutoff [entry] = if cutoff < entry.time then entry.amount else 0 := by
  by_cases later : cutoff < entry.time <;> simp [totalAfter, later]

theorem totalWithin_singleton [Sub Time] (width instant : Time)
    (entry : Entry Time Amount) :
    totalWithin width instant [entry] =
      if instant - width < entry.time ∧ entry.time ≤ instant then entry.amount else 0 := by
  by_cases inside : instant - width < entry.time ∧ entry.time ≤ instant
  · simp [totalWithin, inside]
  · rw [if_neg inside, totalWithin, List.filter_cons_of_neg (by simpa using inside)]
    rfl

/-- Entries at or before an earlier cutoff do not count after a later one, so
pruning them changes no later total. -/
theorem totalAfter_prune {pruned cutoff : Time} (ordered : pruned ≤ cutoff)
    (entries : List (Entry Time Amount)) :
    totalAfter cutoff (entries.filter fun entry => pruned < entry.time) =
      totalAfter cutoff entries := by
  rw [totalAfter, totalAfter, List.filter_filter]
  congr 2
  apply List.filter_congr
  intro entry _
  simpa using fun later => lt_of_le_of_lt ordered later

end Totals

section Caps

variable {Time : Type u} [AddCommGroup Time] [LinearOrder Time]
variable {Amount : Type v} [AddCommMonoid Amount] [PartialOrder Amount]
  [IsOrderedAddMonoid Amount]

/-- A window that starts no earlier than `cutoff` holds at most what was
authorised after `cutoff`. -/
theorem totalWithin_le_totalAfter {width instant cutoff : Time}
    (starts : cutoff ≤ instant - width) {entries : List (Entry Time Amount)}
    (nonneg : ∀ entry ∈ entries, 0 ≤ entry.amount) :
    totalWithin width instant entries ≤ totalAfter cutoff entries := by
  apply List.Sublist.sum_le_sum
  · apply List.Sublist.map
    apply List.monotone_filter_right
    intro entry inside
    simp only [decide_eq_true_eq] at inside ⊢
    exact lt_of_le_of_lt starts inside.1
  · intro amount member
    rcases List.mem_map.mp member with ⟨entry, entryMember, rfl⟩
    exact nonneg entry (List.mem_filter.mp entryMember).1

theorem totalWithin_sublist {width instant : Time}
    {fewer entries : List (Entry Time Amount)} (sublist : fewer.Sublist entries)
    (nonneg : ∀ entry ∈ entries, 0 ≤ entry.amount) :
    totalWithin width instant fewer ≤ totalWithin width instant entries := by
  apply List.Sublist.sum_le_sum ((sublist.filter _).map _)
  intro amount member
  rcases List.mem_map.mp member with ⟨entry, entryMember, rfl⟩
  exact nonneg entry (List.mem_filter.mp entryMember).1

/-- The admission rule. If every window is within the cap, and a new amount
fits under the cap together with everything authorised in the window that ends
at its own instant, then every window is still within the cap afterwards. -/
theorem totalWithin_admit [IsOrderedAddMonoid Time] {width : Time} {cap : Amount}
    {entries : List (Entry Time Amount)} {entry : Entry Time Amount}
    (nonneg : ∀ earlier ∈ entries, 0 ≤ earlier.amount)
    (capped : ∀ instant, totalWithin width instant entries ≤ cap)
    (admitted : totalAfter (entry.time - width) entries + entry.amount ≤ cap)
    (instant : Time) :
    totalWithin width instant (entries ++ [entry]) ≤ cap := by
  rw [totalWithin_append, totalWithin_singleton]
  by_cases inside : instant - width < entry.time ∧ entry.time ≤ instant
  · have starts : entry.time - width ≤ instant - width :=
      sub_le_sub_right inside.2 width
    have bounded := totalWithin_le_totalAfter starts nonneg
    rw [if_pos inside]
    exact (by gcongr : _ ≤ _).trans admitted
  · rw [if_neg inside, add_zero]
    exact capped instant

end Caps

end SovAgent.RollingWindow

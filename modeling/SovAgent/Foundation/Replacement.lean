import SovAgent.Foundation.Occurrence

/-! # Replacing a text

A text is cut at every place where a pattern stands and joined again around a
replacement. Where pattern and replacement cannot overlap, the result does not
hold the pattern any more, and replacing other patterns does not bring it back.
-/

namespace SovAgent

variable {α : Type u} [DecidableEq α]

def splitFrom (pattern : List α) : (fuel : Nat) → List α → List (List α)
  | 0, text => [text]
  | fuel + 1, text =>
      match indexOf pattern text with
      | none => [text]
      | some index => text.take index ::
          splitFrom pattern fuel (text.drop (index + pattern.length))

def splitAround (pattern text : List α) : List (List α) :=
  splitFrom pattern text.length text

example : splitAround "ab".toList "aabcab".toList = ["a".toList, "c".toList, []] := by decide

/-! ## No piece holds the pattern -/

theorem indexOf_eq_none {pattern text : List α} :
    indexOf pattern text = none ↔ ¬ pattern <:+: text := by
  induction text with
  | nil =>
      rw [indexOf, List.infix_nil]
      split <;> simp_all
  | cons head tail induction =>
      rw [List.infix_cons_iff]
      by_cases here : pattern <+: head :: tail
      · simp [indexOf_zero here, here]
      · rw [indexOf_cons here, Option.map_eq_none_iff, induction]
        simp [here]

theorem not_infix_take {pattern : List α} (nonempty : pattern ≠ []) {text : List α} {index : Nat}
    (found : indexOf pattern text = some index) : ¬ pattern <:+: text.take index := by
  intro earlier
  have occurs : indexOf pattern (text.take index) ≠ none :=
    fun missing => indexOf_eq_none.mp missing earlier
  rcases Option.ne_none_iff_exists'.mp occurs with ⟨place, inside⟩
  have fits := indexOf_fits inside
  have same : indexOf pattern text = some place := by
    rw [← List.take_append_drop index text]
    exact indexOf_append inside _
  cases found.symm.trans same
  have positive := List.length_pos_iff.mpr nonempty
  have short := List.length_take_le index text
  omega

theorem not_infix_of_mem_splitFrom {pattern : List α} (nonempty : pattern ≠ []) {fuel : Nat}
    {text piece : List α} (enough : text.length ≤ fuel)
    (member : piece ∈ splitFrom pattern fuel text) : ¬ pattern <:+: piece := by
  have positive := List.length_pos_iff.mpr nonempty
  induction fuel generalizing text with
  | zero =>
      cases List.mem_singleton.mp member
      intro occurs
      have short := occurs.length_le
      omega
  | succ fuel induction =>
      rw [splitFrom] at member
      cases found : indexOf pattern text with
      | none =>
          rw [found] at member
          cases List.mem_singleton.mp member
          exact indexOf_eq_none.mp found
      | some index =>
          rw [found] at member
          rcases List.mem_cons.mp member with rfl | later
          · exact not_infix_take nonempty found
          · apply induction _ later
            rw [List.length_drop]
            omega

theorem infix_of_mem_splitFrom {pattern : List α} {fuel : Nat} {text piece : List α}
    (member : piece ∈ splitFrom pattern fuel text) : piece <:+: text := by
  induction fuel generalizing text with
  | zero =>
      cases List.mem_singleton.mp member
      exact List.infix_rfl
  | succ fuel induction =>
      rw [splitFrom] at member
      cases found : indexOf pattern text with
      | none =>
          rw [found] at member
          cases List.mem_singleton.mp member
          exact List.infix_rfl
      | some index =>
          rw [found] at member
          rcases List.mem_cons.mp member with rfl | later
          · exact (List.take_prefix index text).isInfix
          · exact (induction later).trans (List.drop_suffix _ text).isInfix

/-! ## What the replacement brings -/

structure Apart (pattern replacement : List α) : Prop where
  outside : ¬ pattern <:+: replacement
  around : ¬ replacement <:+: pattern
  before : ∀ part, part ≠ [] → part <:+ replacement → ¬ part <+: pattern
  behind : ∀ part, part ≠ [] → part <+: replacement → ¬ part <:+ pattern

instance (pattern replacement : List α) : Decidable (Apart pattern replacement) :=
  decidable_of_iff
    (¬ pattern <:+: replacement ∧ ¬ replacement <:+: pattern ∧
      (∀ part ∈ replacement.tails, part ≠ [] → ¬ part <+: pattern) ∧
        ∀ part ∈ replacement.inits, part ≠ [] → ¬ part <:+ pattern)
    ⟨fun ⟨outside, around, before, behind⟩ =>
      { outside, around
        before := fun part nonempty ends => before part (List.mem_tails _ _ |>.mpr ends) nonempty
        behind := fun part nonempty begins =>
          behind part (List.mem_inits _ _ |>.mpr begins) nonempty },
      fun apart => ⟨apart.outside, apart.around,
        fun part ends nonempty => apart.before part nonempty (List.mem_tails _ _ |>.mp ends),
        fun part begins nonempty => apart.behind part nonempty (List.mem_inits _ _ |>.mp begins)⟩⟩

omit [DecidableEq α] in
theorem Apart.infix_intercalate {pattern replacement : List α} (apart : Apart pattern replacement)
    (nonempty : pattern ≠ []) {pieces : List (List α)}
    (occurs : pattern <:+: replacement.intercalate pieces) :
    ∃ piece ∈ pieces, pattern <:+: piece := by
  induction pieces with
  | nil => exact absurd (List.infix_nil.mp occurs) nonempty
  | cons piece pieces induction =>
      cases pieces with
      | nil =>
          rw [List.intercalate_singleton] at occurs
          exact ⟨piece, List.mem_singleton_self _, occurs⟩
      | cons next pieces =>
          rw [List.intercalate_cons_cons, List.append_assoc, List.infix_append_iff_ne_nil] at occurs
          rcases occurs with inPiece | later | ⟨left, right, _, some, split, _, begins⟩
          · exact ⟨piece, List.mem_cons_self, inPiece⟩
          · rcases List.infix_append_iff_ne_nil.mp later with
              inReplacement | inRest | ⟨left, right, some, _, split, ends, _⟩
            · exact absurd inReplacement apart.outside
            · rcases induction inRest with ⟨holder, listed, holds⟩
              exact ⟨holder, List.mem_cons_of_mem _ listed, holds⟩
            · exact absurd ⟨right, split.symm⟩ (apart.before left some ends)
          · rcases List.prefix_or_prefix_of_prefix begins (List.prefix_append _ _) with
              short | long
            · exact absurd ⟨left, split.symm⟩ (apart.behind right some short)
            · have inside : right <:+: pattern := ⟨left, [], by rw [List.append_nil, split]⟩
              exact absurd (long.isInfix.trans inside) apart.around

def replaceEvery (pattern replacement text : List α) : List α :=
  replacement.intercalate (splitAround pattern text)

theorem Apart.not_infix_replaceEvery {pattern replacement : List α}
    (apart : Apart pattern replacement) (nonempty : pattern ≠ []) (text : List α) :
    ¬ pattern <:+: replaceEvery pattern replacement text := by
  intro occurs
  rcases apart.infix_intercalate nonempty occurs with ⟨piece, listed, holds⟩
  exact not_infix_of_mem_splitFrom nonempty (Nat.le_refl _) listed holds

theorem Apart.infix_of_replaceEvery {pattern replacement : List α}
    (apart : Apart pattern replacement) (nonempty : pattern ≠ []) {other text : List α}
    (occurs : pattern <:+: replaceEvery other replacement text) : pattern <:+: text := by
  rcases apart.infix_intercalate nonempty occurs with ⟨piece, listed, holds⟩
  exact holds.trans (infix_of_mem_splitFrom listed)

end SovAgent

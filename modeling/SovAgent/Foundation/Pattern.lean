import Mathlib.Data.List.Infix

/-! # Patterns

Regular expressions with assertions about the neighbouring elements. A
backtracking matcher tries the ends of a match in a fixed order, and the first
one is the match that it reports.
-/

namespace SovAgent

/-- A place in a text: the element before it and all elements after it. -/
structure Cursor (α : Type u) where
  previous : Option α
  rest : List α
deriving DecidableEq

inductive Pattern (α : Type u) where
  | one (accepts : α → Bool)
  | assertion (holds : Option α → Option α → Bool)
  | sequence (first second : Pattern α)
  | either (first second : Pattern α)
  /-- At least `least` times, and at most `extra` times more. -/
  | repeated (greedy : Bool) (least : Nat) (extra : Option Nat) (body : Pattern α)

/-- The cursor after some elements that follow `previous`. -/
def Cursor.after (previous : Option α) (matched rest : List α) : Cursor α :=
  ⟨matched.getLast?.or previous, rest⟩

theorem Cursor.after_append (previous : Option α) (first second rest : List α) :
    Cursor.after previous (first ++ second) rest =
      Cursor.after (first.getLast?.or previous) second rest := by
  rw [after, after, List.getLast?_append, Option.or_assoc]

namespace Pattern

/-! ## The matcher -/

def exactly (step : Cursor α → List (Cursor α)) : Nat → Cursor α → List (Cursor α)
  | 0, cursor => [cursor]
  | count + 1, cursor => (step cursor).flatMap (exactly step count)

/-- The optional rounds of a repetition. A round that reads nothing is refused. -/
def further (step : Cursor α → List (Cursor α)) (greedy : Bool) :
    (fuel : Nat) → (extra : Option Nat) → Cursor α → List (Cursor α)
  | 0, _, cursor => [cursor]
  | fuel + 1, extra, cursor =>
      let rounds := if extra = some 0 then [] else
        ((step cursor).filter fun next => next.rest.length < cursor.rest.length).flatMap
          (further step greedy fuel (extra.map Nat.pred))
      if greedy then rounds ++ [cursor] else cursor :: rounds

/-- The ends of the matches from a cursor, in the order in which they are tried. -/
def ends : Pattern α → Cursor α → List (Cursor α)
  | one _, ⟨_, []⟩ => []
  | one accepts, ⟨_, head :: tail⟩ => if accepts head then [⟨some head, tail⟩] else []
  | assertion holds, cursor => if holds cursor.previous cursor.rest.head? then [cursor] else []
  | sequence first second, cursor => (first.ends cursor).flatMap second.ends
  | either first second, cursor => first.ends cursor ++ second.ends cursor
  | repeated greedy least extra body, cursor =>
      (exactly body.ends least cursor).flatMap fun middle =>
        further body.ends greedy middle.rest.length extra middle

/-! ## What a pattern means -/

def Iterates (relation : β → β → Prop) : Nat → β → β → Prop
  | 0, start, final => final = start
  | count + 1, start, final =>
      ∃ middle, relation start middle ∧ Iterates relation count middle final

def Matches : Pattern α → Cursor α → Cursor α → Prop
  | one accepts, cursor, final =>
      ∃ head, accepts head = true ∧ cursor.rest = head :: final.rest ∧ final.previous = some head
  | assertion holds, cursor, final =>
      holds cursor.previous cursor.rest.head? = true ∧ final = cursor
  | sequence first second, cursor, final =>
      ∃ middle, first.Matches cursor middle ∧ second.Matches middle final
  | either first second, cursor, final => first.Matches cursor final ∨ second.Matches cursor final
  | repeated _ least extra body, cursor, final =>
      ∃ count, least ≤ count ∧ (∀ bound ∈ extra, count ≤ least + bound) ∧
        Iterates body.Matches count cursor final

/-- The pattern reads `matched` where it stands between `previous` and `rest`. -/
def Reads (pattern : Pattern α) (previous : Option α) (matched rest : List α) : Prop :=
  pattern.Matches ⟨previous, matched ++ rest⟩ (Cursor.after previous matched rest)

end Pattern

/-! ## Cursors only advance -/

def Cursor.Advances (cursor final : Cursor α) : Prop :=
  ∃ matched, cursor.rest = matched ++ final.rest ∧
    final = Cursor.after cursor.previous matched final.rest

namespace Cursor.Advances

theorem refl (cursor : Cursor α) : cursor.Advances cursor := ⟨[], rfl, rfl⟩

theorem trans {cursor middle final : Cursor α} (first : cursor.Advances middle)
    (second : middle.Advances final) : cursor.Advances final := by
  rcases first with ⟨matched, split, place⟩
  rcases second with ⟨later, splitLater, placeLater⟩
  refine ⟨matched ++ later, by rw [split, splitLater, List.append_assoc], ?_⟩
  rw [Cursor.after_append]
  rw [place] at placeLater
  exact placeLater

theorem length_le {cursor final : Cursor α} (advances : cursor.Advances final) :
    final.rest.length ≤ cursor.rest.length := by
  rcases advances with ⟨matched, split, _⟩
  rw [split, List.length_append]
  omega

theorem eq_of_length {cursor final : Cursor α} (advances : cursor.Advances final)
    (still : ¬ final.rest.length < cursor.rest.length) : final = cursor := by
  rcases advances with ⟨matched, split, place⟩
  have nothing : matched = [] := by
    rw [split, List.length_append] at still
    exact List.length_eq_zero_iff.mp (by omega)
  subst nothing
  have same : cursor.rest = final.rest := split
  rw [place, ← same]
  rfl

end Cursor.Advances

namespace Pattern

theorem Iterates.advances {relation : Cursor α → Cursor α → Prop}
    (steps : ∀ cursor final, relation cursor final → cursor.Advances final) {count : Nat}
    {cursor final : Cursor α} (iterates : Iterates relation count cursor final) :
    cursor.Advances final := by
  induction count generalizing cursor with
  | zero =>
      cases iterates
      exact Cursor.Advances.refl _
  | succ count induction =>
      rcases iterates with ⟨middle, step, rest⟩
      exact (steps _ _ step).trans (induction rest)

theorem Matches.advances {pattern : Pattern α} {cursor final : Cursor α}
    (holds : pattern.Matches cursor final) : cursor.Advances final := by
  induction pattern generalizing cursor final with
  | one accepts =>
      rcases holds with ⟨head, _, split, place⟩
      refine ⟨[head], split, ?_⟩
      rcases final with ⟨previous, rest⟩
      cases place
      rfl
  | assertion _ =>
      rw [holds.2]
      exact Cursor.Advances.refl _
  | sequence first second firstAdvances secondAdvances =>
      rcases holds with ⟨middle, left, right⟩
      exact (firstAdvances left).trans (secondAdvances right)
  | either first second firstAdvances secondAdvances =>
      rcases holds with left | right
      · exact firstAdvances left
      · exact secondAdvances right
  | repeated _ least extra body bodyAdvances =>
      rcases holds with ⟨count, _, _, rounds⟩
      exact rounds.advances fun _ _ step => bodyAdvances step

/-! ## The matcher finds what the pattern means -/

section

variable {step : Cursor α → List (Cursor α)} {relation : Cursor α → Cursor α → Prop}

theorem mem_exactly (steps : ∀ cursor final, final ∈ step cursor ↔ relation cursor final)
    {count : Nat} {cursor final : Cursor α} :
    final ∈ exactly step count cursor ↔ Iterates relation count cursor final := by
  induction count generalizing cursor with
  | zero => exact List.mem_singleton
  | succ count induction =>
      rw [exactly, List.mem_flatMap]
      exact exists_congr fun middle => and_congr (steps cursor middle) induction

theorem mem_further_succ {greedy : Bool} {fuel : Nat} {extra : Option Nat}
    {cursor final : Cursor α} :
    final ∈ further step greedy (fuel + 1) extra cursor ↔
      final = cursor ∨ (extra ≠ some 0 ∧ ∃ next ∈ step cursor,
        next.rest.length < cursor.rest.length ∧
          final ∈ further step greedy fuel (extra.map Nat.pred) next) := by
  have swapped : ∀ rounds : List (Cursor α),
      final ∈ (if greedy then rounds ++ [cursor] else cursor :: rounds) ↔
        final = cursor ∨ final ∈ rounds := by
    intro rounds
    cases greedy with
    | true => rw [if_pos rfl, List.mem_append, List.mem_singleton, or_comm]
    | false => rw [if_neg Bool.false_ne_true, List.mem_cons]
  rw [further, swapped]
  apply or_congr_right
  by_cases full : extra = some 0
  · simp [full]
  · rw [if_neg full, List.mem_flatMap]
    simp only [List.mem_filter, decide_eq_true_eq, ne_eq, full, not_false_eq_true, true_and,
      and_assoc]

theorem Iterates.of_further (steps : ∀ cursor final, final ∈ step cursor ↔ relation cursor final)
    {greedy : Bool} {fuel : Nat} {extra : Option Nat} {cursor final : Cursor α}
    (found : final ∈ further step greedy fuel extra cursor) :
    ∃ count, (∀ bound ∈ extra, count ≤ bound) ∧ Iterates relation count cursor final := by
  induction fuel generalizing extra cursor with
  | zero => exact ⟨0, fun _ _ => Nat.zero_le _, List.mem_singleton.mp found⟩
  | succ fuel induction =>
      rcases mem_further_succ.mp found with same | ⟨more, next, stepped, _, later⟩
      · exact ⟨0, fun _ _ => Nat.zero_le _, same⟩
      · rcases induction later with ⟨count, bounded, rounds⟩
        refine ⟨count + 1, ?_, next, (steps _ _).mp stepped, rounds⟩
        intro bound member
        rw [Option.mem_def] at member
        subst member
        have left := bounded (bound - 1) rfl
        have positive : bound ≠ 0 := fun zero => more (by rw [zero])
        omega

/-- A round that reads nothing can be left out. -/
theorem mem_further_of_iterates
    (steps : ∀ cursor final, final ∈ step cursor ↔ relation cursor final)
    (advances : ∀ cursor final, relation cursor final → cursor.Advances final)
    {greedy : Bool} {fuel count : Nat} {extra : Option Nat} {cursor final : Cursor α}
    (enough : cursor.rest.length ≤ fuel) (bounded : ∀ bound ∈ extra, count ≤ bound)
    (rounds : Iterates relation count cursor final) :
    final ∈ further step greedy fuel extra cursor := by
  induction fuel generalizing count extra cursor with
  | zero =>
      have reached := rounds.advances advances
      have same := reached.eq_of_length (by omega)
      rw [same]
      exact List.mem_singleton_self _
  | succ fuel induction =>
      induction count generalizing extra with
      | zero => exact mem_further_succ.mpr (Or.inl rounds)
      | succ count fewer =>
          rcases rounds with ⟨next, stepped, later⟩
          by_cases shorter : next.rest.length < cursor.rest.length
          · apply mem_further_succ.mpr
            refine Or.inr ⟨?_, next, (steps _ _).mpr stepped, shorter, ?_⟩
            · rintro rfl
              have none := bounded 0 rfl
              omega
            · apply induction (by omega) _ later
              intro bound member
              rcases Option.map_eq_some_iff.mp member with ⟨more, given, rfl⟩
              have fits := bounded more given
              rw [Nat.pred_eq_sub_one]
              omega
          · cases (advances _ _ stepped).eq_of_length shorter
            exact fewer (fun bound member => Nat.le_of_succ_le (bounded bound member)) later

end

theorem Iterates.append {relation : β → β → Prop} {first second : Nat} {start final : β} :
    Iterates relation (first + second) start final ↔
      ∃ middle, Iterates relation first start middle ∧ Iterates relation second middle final := by
  induction first generalizing start with
  | zero =>
      rw [Nat.zero_add]
      constructor
      · exact fun rounds => ⟨start, rfl, rounds⟩
      · rintro ⟨middle, rfl, rounds⟩
        exact rounds
  | succ first induction =>
      rw [Nat.add_right_comm]
      constructor
      · rintro ⟨next, step, rounds⟩
        rcases induction.mp rounds with ⟨middle, before, after⟩
        exact ⟨middle, ⟨next, step, before⟩, after⟩
      · rintro ⟨middle, ⟨next, step, before⟩, after⟩
        exact ⟨next, step, induction.mpr ⟨middle, before, after⟩⟩

theorem mem_ends {pattern : Pattern α} {cursor final : Cursor α} :
    final ∈ pattern.ends cursor ↔ pattern.Matches cursor final := by
  induction pattern generalizing cursor final with
  | one accepts =>
      rcases cursor with ⟨previous, rest⟩
      rcases final with ⟨last, tail⟩
      cases rest with
      | nil => simp [ends, Matches]
      | cons head rest =>
          by_cases accepted : accepts head = true
          · simp only [ends, accepted, if_true, List.mem_singleton, Cursor.mk.injEq, Matches,
              List.cons.injEq]
            constructor
            · rintro ⟨rfl, rfl⟩
              exact ⟨head, accepted, ⟨rfl, rfl⟩, rfl⟩
            · rintro ⟨other, _, ⟨rfl, rfl⟩, rfl⟩
              exact ⟨rfl, rfl⟩
          · simp only [ends, accepted, Bool.false_eq_true, if_false, List.not_mem_nil, Matches,
              List.cons.injEq, false_iff]
            rintro ⟨other, taken, ⟨rfl, _⟩, _⟩
            exact accepted taken
  | assertion holds =>
      by_cases asserted : holds cursor.previous cursor.rest.head? = true
      · simp [ends, Matches, asserted]
      · simp [ends, Matches, asserted]
  | sequence first second firstEnds secondEnds =>
      rw [ends, List.mem_flatMap]
      exact exists_congr fun middle => and_congr firstEnds secondEnds
  | either first second firstEnds secondEnds =>
      rw [ends, List.mem_append]
      exact or_congr firstEnds secondEnds
  | repeated greedy least extra body bodyEnds =>
      have steps : ∀ before after, after ∈ body.ends before ↔ body.Matches before after :=
        fun _ _ => bodyEnds
      have advances : ∀ before after, body.Matches before after → before.Advances after :=
        fun _ _ step => step.advances
      rw [ends, List.mem_flatMap]
      constructor
      · rintro ⟨middle, required, optional⟩
        rcases Iterates.of_further steps optional with ⟨count, bounded, rounds⟩
        refine ⟨least + count, Nat.le_add_right _ _, ?_, ?_⟩
        · exact fun bound member => Nat.add_le_add_left (bounded bound member) least
        · exact Iterates.append.mpr ⟨middle, (mem_exactly steps).mp required, rounds⟩
      · rintro ⟨count, enough, bounded, rounds⟩
        rw [← Nat.add_sub_cancel' enough] at rounds
        rcases Iterates.append.mp rounds with ⟨middle, required, optional⟩
        refine ⟨middle, (mem_exactly steps).mpr required, ?_⟩
        apply mem_further_of_iterates steps advances (le_refl _) _ optional
        intro bound member
        have fits := bounded bound member
        omega

end Pattern

end SovAgent

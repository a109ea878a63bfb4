import SovAgent.Foundation.Pattern

/-! # Searching for patterns

The first match of a text, all matches from left to right, and what a text with
a match in it holds.
-/

namespace SovAgent

namespace Pattern

/-- The match that the matcher reports for a cursor. -/
def matchAt (pattern : Pattern α) (cursor : Cursor α) : Option (Cursor α) :=
  (pattern.ends cursor).head?

/-- The reported match, where it is not empty. -/
def readAt (pattern : Pattern α) (cursor : Cursor α) : Option (Cursor α) :=
  (pattern.matchAt cursor).filter fun final => final.rest.length < cursor.rest.length

def matchedText (cursor final : Cursor α) : List α :=
  cursor.rest.take (cursor.rest.length - final.rest.length)

def execFrom (pattern : Pattern α) : (previous : Option α) → List α → Option (List α)
  | previous, [] => (pattern.matchAt ⟨previous, []⟩).map (matchedText ⟨previous, []⟩)
  | previous, head :: tail =>
      match pattern.matchAt ⟨previous, head :: tail⟩ with
      | some final => some (matchedText ⟨previous, head :: tail⟩ final)
      | none => execFrom pattern (some head) tail

def exec (pattern : Pattern α) (text : List α) : Option (List α) := pattern.execFrom none text

def test (pattern : Pattern α) (text : List α) : Bool := (pattern.exec text).isSome

/-- The matches of a text from left to right, each with the gap before it, and
what follows the last one. -/
structure Partition (α : Type u) where
  parts : List (List α × List α)
  last : List α

def Partition.push (head : α) (partition : Partition α) : Partition α :=
  match partition.parts with
  | [] => ⟨[], head :: partition.last⟩
  | (gap, matched) :: parts => ⟨(head :: gap, matched) :: parts, partition.last⟩

def partitionFrom (pattern : Pattern α) : (fuel : Nat) → Cursor α → Partition α
  | 0, cursor => ⟨[], cursor.rest⟩
  | fuel + 1, cursor =>
      match pattern.readAt cursor with
      | some final =>
          let later := partitionFrom pattern fuel final
          ⟨([], matchedText cursor final) :: later.parts, later.last⟩
      | none =>
          match cursor.rest with
          | [] => ⟨[], []⟩
          | head :: tail => (partitionFrom pattern fuel ⟨some head, tail⟩).push head

def partitionAt (pattern : Pattern α) (cursor : Cursor α) : Partition α :=
  pattern.partitionFrom cursor.rest.length cursor

def partition (pattern : Pattern α) (text : List α) : Partition α :=
  pattern.partitionAt ⟨none, text⟩

def allMatches (pattern : Pattern α) (text : List α) : List (List α) :=
  (pattern.partition text).parts.map Prod.snd

def Partition.rewrite (partition : Partition α) (change : List α → List α) : List α :=
  partition.parts.flatMap (fun part => part.1 ++ change part.2) ++ partition.last

def replace (pattern : Pattern α) (change : List α → List α) (text : List α) : List α :=
  (pattern.partition text).rewrite change

def split (pattern : Pattern α) (text : List α) : List (List α) :=
  (pattern.partition text).parts.map Prod.fst ++ [(pattern.partition text).last]

/-! ## Single matches -/

theorem matchAt_isSome {pattern : Pattern α} {cursor : Cursor α} :
    (pattern.matchAt cursor).isSome = true ↔ ∃ final, pattern.Matches cursor final := by
  rw [matchAt, List.isSome_head?]
  constructor
  · intro tried
    rcases List.exists_mem_of_ne_nil _ tried with ⟨final, member⟩
    exact ⟨final, mem_ends.mp member⟩
  · rintro ⟨final, holds⟩
    exact List.ne_nil_of_mem (mem_ends.mpr holds)

theorem Matches.of_matchAt {pattern : Pattern α} {cursor final : Cursor α}
    (found : pattern.matchAt cursor = some final) : pattern.Matches cursor final :=
  mem_ends.mp (List.mem_of_mem_head? found)

theorem matchedText_after (previous place : Option α) (matched rest : List α) :
    matchedText ⟨previous, matched ++ rest⟩ ⟨place, rest⟩ = matched := by
  rw [matchedText, List.length_append, Nat.add_sub_cancel, List.take_left]

theorem Matches.reads {pattern : Pattern α} {cursor final : Cursor α}
    (holds : pattern.Matches cursor final) :
    cursor.rest = matchedText cursor final ++ final.rest ∧
      final = Cursor.after cursor.previous (matchedText cursor final) final.rest ∧
        pattern.Reads cursor.previous (matchedText cursor final) final.rest := by
  rcases holds.advances with ⟨matched, split, place⟩
  rcases cursor with ⟨previous, rest⟩
  rcases final with ⟨last, tail⟩
  change rest = matched ++ tail at split
  subst split
  rw [matchedText_after]
  refine ⟨rfl, place, ?_⟩
  rw [place] at holds
  exact holds

theorem getLast?_cons_or (head : α) (tail : List α) (previous : Option α) :
    (head :: tail).getLast?.or previous = tail.getLast?.or (some head) := by
  rw [List.getLast?_cons]
  cases tail.getLast? with
  | none => rfl
  | some last => rfl

theorem execFrom_isSome {pattern : Pattern α} {previous : Option α} {text : List α} :
    (pattern.execFrom previous text).isSome = true ↔
      ∃ before matched after, text = before ++ (matched ++ after) ∧
        pattern.Reads (before.getLast?.or previous) matched after := by
  induction text generalizing previous with
  | nil =>
      rw [execFrom, Option.isSome_map, matchAt_isSome]
      constructor
      · rintro ⟨final, holds⟩
        rcases holds.reads with ⟨split, _, reads⟩
        exact ⟨[], matchedText ⟨previous, []⟩ final, final.rest, split, reads⟩
      · rintro ⟨before, matched, after, split, reads⟩
        rcases List.append_eq_nil_iff.mp split.symm with ⟨rfl, back⟩
        rcases List.append_eq_nil_iff.mp back with ⟨rfl, rfl⟩
        exact ⟨_, reads⟩
  | cons head tail induction =>
      rw [execFrom]
      cases found : pattern.matchAt ⟨previous, head :: tail⟩ with
      | some final =>
          rcases (Matches.of_matchAt found).reads with ⟨split, _, reads⟩
          exact iff_of_true rfl ⟨[], _, final.rest, split, reads⟩
      | none =>
          change (pattern.execFrom (some head) tail).isSome = true ↔ _
          rw [induction]
          constructor
          · rintro ⟨before, matched, after, rfl, reads⟩
            refine ⟨head :: before, matched, after, rfl, ?_⟩
            rw [getLast?_cons_or]
            exact reads
          · rintro ⟨before, matched, after, split, reads⟩
            cases before with
            | nil =>
                have here : ∃ final, pattern.Matches ⟨previous, head :: tail⟩ final := by
                  rw [split]
                  exact ⟨_, reads⟩
                rw [← matchAt_isSome, found] at here
                cases here
            | cons first before =>
                cases split
                rw [getLast?_cons_or] at reads
                exact ⟨before, matched, after, rfl, reads⟩

theorem test_iff {pattern : Pattern α} {text : List α} :
    pattern.test text = true ↔
      ∃ before matched after, text = before ++ (matched ++ after) ∧
        pattern.Reads before.getLast? matched after := by
  rw [test, exec, execFrom_isSome]
  simp only [Option.or_none]

/-! ## Patterns that always read something -/

def consumes : Pattern α → Bool
  | one _ => true
  | assertion _ => false
  | sequence first second => first.consumes || second.consumes
  | either first second => first.consumes && second.consumes
  | repeated _ least _ body => least ≠ 0 && body.consumes

theorem Matches.length_lt {pattern : Pattern α} (consuming : pattern.consumes = true)
    {cursor final : Cursor α} (holds : pattern.Matches cursor final) :
    final.rest.length < cursor.rest.length := by
  induction pattern generalizing cursor final with
  | one accepts =>
      rcases holds with ⟨head, _, split, _⟩
      rw [split, List.length_cons]
      exact Nat.lt_succ_self _
  | assertion _ => cases consuming
  | sequence first second firstLt secondLt =>
      rcases holds with ⟨middle, left, right⟩
      rcases Bool.or_eq_true_iff.mp consuming with consuming | consuming
      · exact lt_of_le_of_lt right.advances.length_le (firstLt consuming left)
      · exact lt_of_lt_of_le (secondLt consuming right) left.advances.length_le
  | either first second firstLt secondLt =>
      rcases Bool.and_eq_true_iff.mp consuming with ⟨consumingFirst, consumingSecond⟩
      rcases holds with left | right
      · exact firstLt consumingFirst left
      · exact secondLt consumingSecond right
  | repeated greedy least extra body bodyLt =>
      rcases Bool.and_eq_true_iff.mp consuming with ⟨required, consumingBody⟩
      rcases holds with ⟨count, enough, _, rounds⟩
      cases count with
      | zero => exact absurd (Nat.le_zero.mp enough) (of_decide_eq_true required)
      | succ count =>
          rcases rounds with ⟨middle, step, later⟩
          have shorter := bodyLt consumingBody step
          have rest := (later.advances fun _ _ round => round.advances).length_le
          exact lt_of_le_of_lt rest shorter

theorem readAt_eq {pattern : Pattern α} (consuming : pattern.consumes = true)
    (cursor : Cursor α) : pattern.readAt cursor = pattern.matchAt cursor := by
  rw [readAt]
  cases found : pattern.matchAt cursor with
  | none => rfl
  | some final =>
      have shorter := (Matches.of_matchAt found).length_lt consuming
      exact Option.filter_some_pos (decide_eq_true shorter)

/-! ## Partitions -/

theorem length_lt_of_readAt {pattern : Pattern α} {cursor final : Cursor α}
    (found : pattern.readAt cursor = some final) : final.rest.length < cursor.rest.length :=
  of_decide_eq_true (Option.filter_eq_some_iff.mp found).2

theorem partitionFrom_nil (pattern : Pattern α) (fuel : Nat) (previous : Option α) :
    pattern.partitionFrom fuel ⟨previous, []⟩ = ⟨[], []⟩ := by
  cases fuel with
  | zero => rfl
  | succ fuel =>
      rw [partitionFrom]
      cases found : pattern.readAt ⟨previous, []⟩ with
      | some final => exact absurd (length_lt_of_readAt found) (Nat.not_lt_zero _)
      | none => rfl

theorem partitionFrom_congr (pattern : Pattern α) {first second : Nat} {cursor : Cursor α}
    (enough : cursor.rest.length ≤ first) (enoughToo : cursor.rest.length ≤ second) :
    pattern.partitionFrom first cursor = pattern.partitionFrom second cursor := by
  induction first generalizing second cursor with
  | zero =>
      rcases cursor with ⟨previous, rest⟩
      cases List.length_eq_zero_iff.mp (Nat.le_zero.mp enough)
      rw [partitionFrom_nil, partitionFrom_nil]
  | succ first induction =>
      rcases cursor with ⟨previous, rest⟩
      cases rest with
      | nil => rw [partitionFrom_nil, partitionFrom_nil]
      | cons head tail =>
          cases second with
          | zero => cases enoughToo
          | succ second =>
              rw [partitionFrom, partitionFrom]
              cases found : pattern.readAt ⟨previous, head :: tail⟩ with
              | some final =>
                  have shorter := length_lt_of_readAt found
                  have same : pattern.partitionFrom first final =
                      pattern.partitionFrom second final := by
                    change tail.length + 1 ≤ first + 1 at enough
                    change tail.length + 1 ≤ second + 1 at enoughToo
                    change final.rest.length < tail.length + 1 at shorter
                    apply induction <;> omega
                  simp only [same]
              | none =>
                  have same : pattern.partitionFrom first ⟨some head, tail⟩ =
                      pattern.partitionFrom second ⟨some head, tail⟩ :=
                    induction (Nat.le_of_succ_le_succ enough) (Nat.le_of_succ_le_succ enoughToo)
                  simp only [same]

theorem partitionAt_nil (pattern : Pattern α) (previous : Option α) :
    pattern.partitionAt ⟨previous, []⟩ = ⟨[], []⟩ :=
  pattern.partitionFrom_nil 0 previous

theorem partitionAt_match {pattern : Pattern α} {cursor final : Cursor α}
    (found : pattern.readAt cursor = some final) :
    pattern.partitionAt cursor =
      ⟨([], matchedText cursor final) :: (pattern.partitionAt final).parts,
        (pattern.partitionAt final).last⟩ := by
  have shorter := length_lt_of_readAt found
  rcases cursor with ⟨previous, rest⟩
  cases rest with
  | nil => cases shorter
  | cons head tail =>
      rw [partitionAt, List.length_cons, partitionFrom, found]
      have same : pattern.partitionFrom tail.length final =
          pattern.partitionFrom final.rest.length final :=
        pattern.partitionFrom_congr (Nat.le_of_lt_succ shorter) (le_refl _)
      simp only [same]
      rfl

theorem partitionAt_skip {pattern : Pattern α} {previous : Option α} {head : α} {tail : List α}
    (missed : pattern.readAt ⟨previous, head :: tail⟩ = none) :
    pattern.partitionAt ⟨previous, head :: tail⟩ =
      (pattern.partitionAt ⟨some head, tail⟩).push head := by
  rw [partitionAt, List.length_cons, partitionFrom, missed]
  rfl

theorem Partition.parts_push (head : α) (partition : Partition α) :
    (partition.push head).parts = [] ↔ partition.parts = [] := by
  rcases partition with ⟨parts, last⟩
  cases parts with
  | nil => exact Iff.rfl
  | cons part parts => simp [Partition.push]

theorem Partition.rewrite_push (head : α) (partition : Partition α)
    (change : List α → List α) :
    (partition.push head).rewrite change = head :: partition.rewrite change := by
  rcases partition with ⟨parts, last⟩
  cases parts with
  | nil => rfl
  | cons part parts => rfl

theorem parts_ne_nil_iff {pattern : Pattern α} (consuming : pattern.consumes = true)
    {previous : Option α} {text : List α} :
    (pattern.partitionAt ⟨previous, text⟩).parts ≠ [] ↔
      (pattern.execFrom previous text).isSome = true := by
  induction text generalizing previous with
  | nil =>
      rw [partitionAt_nil, execFrom, Option.isSome_map, matchAt_isSome]
      constructor
      · exact fun nonempty => absurd rfl nonempty
      · rintro ⟨final, holds⟩
        exact absurd (holds.length_lt consuming) (Nat.not_lt_zero _)
  | cons head tail induction =>
      rw [execFrom]
      cases found : pattern.matchAt ⟨previous, head :: tail⟩ with
      | some final =>
          rw [← readAt_eq consuming] at found
          rw [partitionAt_match found]
          exact iff_of_true (List.cons_ne_nil _ _) rfl
      | none =>
          rw [← readAt_eq consuming] at found
          rw [partitionAt_skip found, ne_eq, Partition.parts_push]
          exact induction

theorem allMatches_ne_nil_iff {pattern : Pattern α} (consuming : pattern.consumes = true)
    {text : List α} : pattern.allMatches text ≠ [] ↔ pattern.test text = true := by
  rw [allMatches, ne_eq, List.map_eq_nil_iff]
  exact parts_ne_nil_iff consuming

end Pattern

end SovAgent

import SovAgent.Foundation.Text

/-! # Delimited texts

Pieces that one separator stands between. Where all of them but one are without the
separator, what they join to says what they are.
-/

namespace SovAgent.Delimited

variable {α : Type} {separator : α}

def closed (separator : α) : List (List α) → List α
  | [] => []
  | piece :: pieces => piece ++ separator :: closed separator pieces

def opened (separator : α) : List (List α) → List α
  | [] => []
  | piece :: pieces => separator :: (piece ++ opened separator pieces)

/-- Pieces around one that may hold the separator itself. -/
def framed (separator : α) (left : List (List α)) (free : List α) (right : List (List α)) :
    List α :=
  closed separator left ++ free ++ opened separator right

def Absent (separator : α) (pieces : List (List α)) : Prop := ∀ piece ∈ pieces, separator ∉ piece

theorem Absent.head {piece : List α} {pieces : List (List α)}
    (absent : Absent separator (piece :: pieces)) : separator ∉ piece :=
  absent piece List.mem_cons_self

theorem Absent.tail {piece : List α} {pieces : List (List α)}
    (absent : Absent separator (piece :: pieces)) : Absent separator pieces :=
  fun other member => absent other (List.mem_cons_of_mem piece member)

theorem opened_concat (pieces : List (List α)) (piece : List α) :
    opened separator (pieces ++ [piece]) = opened separator pieces ++ separator :: piece := by
  induction pieces with
  | nil => simp [opened]
  | cons head tail induction => simp only [List.cons_append, opened, induction, List.append_assoc]

theorem first_cons_inj {before before' after after' : List α}
    (equal : before ++ separator :: after = before' ++ separator :: after')
    (absent : separator ∉ before) (absent' : separator ∉ before') :
    before = before' ∧ after = after' := by
  have reversed := congrArg List.reverse equal
  simp only [List.reverse_append, List.reverse_cons, List.append_assoc, List.singleton_append]
    at reversed
  rcases append_cons_inj reversed (by rwa [List.mem_reverse]) (by rwa [List.mem_reverse])
    with ⟨afterEqual, beforeEqual⟩
  exact ⟨List.reverse_inj.mp beforeEqual, List.reverse_inj.mp afterEqual⟩

theorem closed_append_inj {left left' : List (List α)} {rest rest' : List α}
    (length : left.length = left'.length) (absent : Absent separator left)
    (absent' : Absent separator left')
    (equal : closed separator left ++ rest = closed separator left' ++ rest') :
    left = left' ∧ rest = rest' := by
  induction left generalizing left' with
  | nil =>
      cases left' with
      | nil => exact ⟨rfl, equal⟩
      | cons head' tail' => cases length
  | cons head tail induction =>
      cases left' with
      | nil => cases length
      | cons head' tail' =>
          simp only [closed, List.append_assoc, List.cons_append] at equal
          rcases first_cons_inj equal absent.head absent'.head with ⟨rfl, tails⟩
          rcases induction (Nat.succ.inj length) absent.tail absent'.tail tails
            with ⟨rfl, restEqual⟩
          exact ⟨rfl, restEqual⟩

theorem append_opened_inj {right right' : List (List α)} {rest rest' : List α}
    (length : right.length = right'.length) (absent : Absent separator right)
    (absent' : Absent separator right')
    (equal : rest ++ opened separator right = rest' ++ opened separator right') :
    rest = rest' ∧ right = right' := by
  induction right using List.reverseRecOn generalizing right' with
  | nil =>
      rw [List.length_nil, eq_comm, List.length_eq_zero_iff] at length
      subst length
      exact ⟨by simpa [opened] using equal, rfl⟩
  | append_singleton initial last induction =>
      cases right' using List.reverseRecOn with
      | nil => simp at length
      | append_singleton initial' last' =>
          simp only [opened_concat, ← List.append_assoc] at equal
          rcases append_cons_inj equal (absent last (by simp)) (absent' last' (by simp))
            with ⟨initials, rfl⟩
          have shorter : initial.length = initial'.length := by simpa using length
          rcases induction shorter (fun piece member => absent piece (by simp [member]))
            (fun piece member => absent' piece (by simp [member])) initials with ⟨restEqual, rfl⟩
          exact ⟨restEqual, rfl⟩

/-- Framed texts with as many pieces on each side are equal only if their pieces are. -/
theorem framed_inj {left left' right right' : List (List α)} {free free' : List α}
    (lefts : left.length = left'.length) (rights : right.length = right'.length)
    (absent : Absent separator (left ++ right)) (absent' : Absent separator (left' ++ right'))
    (equal : framed separator left free right = framed separator left' free' right') :
    left = left' ∧ free = free' ∧ right = right' := by
  simp only [framed, List.append_assoc] at equal
  rcases closed_append_inj lefts
    (fun piece member => absent piece (List.mem_append_left right member))
    (fun piece member => absent' piece (List.mem_append_left right' member)) equal
    with ⟨leftEqual, rests⟩
  rcases append_opened_inj rights
    (fun piece member => absent piece (List.mem_append_right left member))
    (fun piece member => absent' piece (List.mem_append_right left' member)) rests
    with ⟨freeEqual, rightEqual⟩
  exact ⟨leftEqual, freeEqual, rightEqual⟩

/-! ## How often the separator stands -/

theorem count_closed [DecidableEq α] (pieces : List (List α)) :
    (closed separator pieces).count separator =
      pieces.length + (pieces.map (List.count separator)).sum := by
  induction pieces with
  | nil => rfl
  | cons piece pieces induction =>
      rw [closed, List.count_append, List.count_cons_self, induction, List.map_cons, List.sum_cons,
        List.length_cons]
      omega

theorem count_opened [DecidableEq α] (pieces : List (List α)) :
    (opened separator pieces).count separator =
      pieces.length + (pieces.map (List.count separator)).sum := by
  induction pieces with
  | nil => rfl
  | cons piece pieces induction =>
      rw [opened, List.count_cons_self, List.count_append, induction, List.map_cons, List.sum_cons,
        List.length_cons]
      omega

theorem count_framed [DecidableEq α] (left : List (List α)) (free : List α)
    (right : List (List α)) :
    (framed separator left free right).count separator =
      left.length + right.length + ((left ++ free :: right).map (List.count separator)).sum := by
  rw [framed, List.count_append, List.count_append, count_closed, count_opened, List.map_append,
    List.sum_append, List.map_cons, List.sum_cons]
  omega

theorem sum_count_eq_zero [DecidableEq α] {pieces : List (List α)} :
    (pieces.map (List.count separator)).sum = 0 ↔ Absent separator pieces := by
  rw [List.sum_eq_zero_iff_forall_eq_nat, List.forall_mem_map]
  constructor
  · exact fun none piece member => List.count_eq_zero.mp (none piece member)
  · exact fun absent piece member => List.count_eq_zero.mpr (absent piece member)

theorem absent_of_framed [DecidableEq α] {left left' right right' : List (List α)}
    {free free' : List α} (lefts : left.length = left'.length)
    (rights : right.length = right'.length)
    (equal : framed separator left free right = framed separator left' free' right')
    (absent' : Absent separator (left' ++ free' :: right')) :
    Absent separator (left ++ free :: right) := by
  have counts := congrArg (List.count separator) equal
  rw [count_framed, count_framed, sum_count_eq_zero.mpr absent'] at counts
  apply sum_count_eq_zero.mp
  omega

theorem takeWhile_framed [DecidableEq α] {head : List α} {left right : List (List α)}
    {free : List α} (absent : separator ∉ head) :
    (framed separator (head :: left) free right).takeWhile (· ≠ separator) = head := by
  have passes : ∀ value ∈ head, decide (value ≠ separator) = true := by
    intro value member
    exact decide_eq_true (fun equal => absent (equal ▸ member))
  simp only [framed, closed, List.append_assoc, List.cons_append]
  rw [List.takeWhile_append_of_pos passes]
  simp

theorem intercalate_inj [DecidableEq α] {pieces pieces' : List (List α)}
    (absent : Absent separator pieces) (absent' : Absent separator pieces')
    (nonempty : [] ∉ pieces) (nonempty' : [] ∉ pieces')
    (equal : [separator].intercalate pieces = [separator].intercalate pieces') :
    pieces = pieces' := by
  by_cases none : pieces = []
  · subst none
    by_cases none' : pieces' = []
    · exact none'.symm
    · have split := List.splitOn_intercalate separator absent' none'
      rw [← equal] at split
      exact absurd (split ▸ List.mem_singleton_self []) nonempty'
  · by_cases none' : pieces' = []
    · subst none'
      have split := List.splitOn_intercalate separator absent none
      rw [equal] at split
      exact absurd (split ▸ List.mem_singleton_self []) nonempty
    · rw [← List.splitOn_intercalate separator absent none, equal,
        List.splitOn_intercalate separator absent' none']

end SovAgent.Delimited

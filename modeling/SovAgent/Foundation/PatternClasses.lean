import SovAgent.Foundation.PatternSearch

/-! # Patterns of a fixed width

A pattern that reads one element of a class after another matches in one way.
Where the first class stands apart from the others, such a match cannot begin
inside another one, so a text is rewritten part by part.
-/

namespace SovAgent

namespace Pattern

def classes : List (α → Bool) → Pattern α
  | [] => assertion fun _ _ => true
  | accepts :: rest => sequence (one accepts) (classes rest)

def begins : List (α → Bool) → List α → Bool
  | [], _ => true
  | _ :: _, [] => false
  | accepts :: rest, head :: tail => accepts head && begins rest tail

theorem ends_classes (accepted : List (α → Bool)) (previous : Option α) (text : List α) :
    (classes accepted).ends ⟨previous, text⟩ =
      if begins accepted text then
        [Cursor.after previous (text.take accepted.length) (text.drop accepted.length)]
      else [] := by
  induction accepted generalizing previous text with
  | nil => rfl
  | cons accepts rest induction =>
      cases text with
      | nil => rfl
      | cons head tail =>
          rw [classes, ends, ends, begins]
          by_cases taken : accepts head = true
          · rw [if_pos taken, List.flatMap_singleton, induction, taken, Bool.true_and]
            rw [List.length_cons, List.take_succ_cons, List.drop_succ_cons, Cursor.after,
              Cursor.after, getLast?_cons_or]
          · rw [if_neg taken, eq_false_of_ne_true taken]
            rfl

theorem consumes_classes {accepted : List (α → Bool)} (nonempty : accepted ≠ []) :
    (classes accepted).consumes = true := by
  cases accepted with
  | nil => exact absurd rfl nonempty
  | cons accepts rest => rfl

theorem readAt_classes {accepted : List (α → Bool)} (nonempty : accepted ≠ [])
    (previous : Option α) (text : List α) :
    (classes accepted).readAt ⟨previous, text⟩ =
      if begins accepted text then
        some (Cursor.after previous (text.take accepted.length) (text.drop accepted.length))
      else none := by
  rw [readAt_eq (consumes_classes nonempty), matchAt, ends_classes]
  split <;> rfl

theorem length_le_of_begins {accepted : List (α → Bool)} {text : List α}
    (holds : begins accepted text = true) : accepted.length ≤ text.length := by
  induction accepted generalizing text with
  | nil => exact Nat.zero_le _
  | cons accepts rest induction =>
      cases text with
      | nil => cases holds
      | cons head tail =>
          exact Nat.succ_le_succ (induction (Bool.and_eq_true_iff.mp holds).2)

theorem begins_append {accepted : List (α → Bool)} {text : List α}
    (enough : accepted.length ≤ text.length) (more : List α) :
    begins accepted (text ++ more) = begins accepted text := by
  induction accepted generalizing text with
  | nil => rfl
  | cons accepts rest induction =>
      cases text with
      | nil => cases enough
      | cons head tail =>
          rw [List.cons_append, begins, begins, induction (Nat.le_of_succ_le_succ enough)]

theorem getElem_of_begins {accepted : List (α → Bool)} {text : List α}
    (holds : begins accepted text = true) {index : Nat} {accepts : α → Bool} {element : α}
    (kind : accepted[index]? = some accepts) (there : text[index]? = some element) :
    accepts element = true := by
  induction accepted generalizing text index with
  | nil => cases kind
  | cons first rest induction =>
      cases text with
      | nil => cases holds
      | cons head tail =>
          rcases Bool.and_eq_true_iff.mp holds with ⟨here, later⟩
          cases index with
          | zero =>
              cases kind
              cases there
              exact here
          | succ index => exact induction later kind there

/-! ## Rewriting -/

section

variable {accepted : List (α → Bool)} {change : List α → List α}

/-- The text from a cursor on with its matches rewritten. -/
def rewriteAt (pattern : Pattern α) (change : List α → List α) (cursor : Cursor α) : List α :=
  (pattern.partitionAt cursor).rewrite change

theorem rewriteAt_skip (nonempty : accepted ≠ []) {head : α} {tail : List α}
    (missed : begins accepted (head :: tail) = false) (previous : Option α) :
    (classes accepted).rewriteAt change ⟨previous, head :: tail⟩ =
      head :: (classes accepted).rewriteAt change ⟨some head, tail⟩ := by
  have unread : (classes accepted).readAt ⟨previous, head :: tail⟩ = none := by
    rw [readAt_classes nonempty, missed, if_neg Bool.false_ne_true]
  rw [rewriteAt, partitionAt_skip unread, Partition.rewrite_push]
  rfl

theorem rewriteAt_match (nonempty : accepted ≠ []) {matched : List α}
    (width : matched.length = accepted.length) (holds : begins accepted matched = true)
    (previous : Option α) (rest : List α) :
    (classes accepted).rewriteAt change ⟨previous, matched ++ rest⟩ =
      change matched ++
        (classes accepted).rewriteAt change (Cursor.after previous matched rest) := by
  have read : (classes accepted).readAt ⟨previous, matched ++ rest⟩ =
      some (Cursor.after previous matched rest) := by
    rw [readAt_classes nonempty, begins_append width.ge, holds, if_pos rfl,
      List.take_left' width, List.drop_left' width]
  rw [rewriteAt, partitionAt_match read, Partition.rewrite, List.flatMap_cons, List.nil_append,
    List.append_assoc]
  have between : matchedText ⟨previous, matched ++ rest⟩ (Cursor.after previous matched rest) =
      matched := matchedText_after _ _ _ _
  simp only [between]
  rfl

/-- What stands before a cursor does not matter to classes. -/
theorem rewriteAt_previous (nonempty : accepted ≠ []) (first second : Option α)
    (text : List α) :
    (classes accepted).rewriteAt change ⟨first, text⟩ =
      (classes accepted).rewriteAt change ⟨second, text⟩ := by
  have positive := List.length_pos_iff.mpr nonempty
  rcases Nat.lt_or_ge text.length accepted.length with short | long
  · cases text with
    | nil => rw [rewriteAt, rewriteAt, partitionAt_nil, partitionAt_nil]
    | cons head tail =>
        have missed : begins accepted (head :: tail) = false :=
          eq_false_of_ne_true fun holds =>
            absurd (length_le_of_begins holds) (Nat.not_le_of_lt short)
        rw [rewriteAt_skip nonempty missed, rewriteAt_skip nonempty missed]
  · cases holds : begins accepted (text.take accepted.length) with
    | true =>
        have width : (text.take accepted.length).length = accepted.length :=
          List.length_take_of_le long
        have same : ∀ previous, Cursor.after previous (text.take accepted.length)
            (text.drop accepted.length) = Cursor.after none (text.take accepted.length)
              (text.drop accepted.length) := by
          intro previous
          cases taken : text.take accepted.length with
          | nil =>
              rw [taken, List.length_nil] at width
              omega
          | cons head tail => rw [Cursor.after, Cursor.after, List.getLast?_cons]; rfl
        rw [← List.take_append_drop accepted.length text, rewriteAt_match nonempty width holds,
          rewriteAt_match nonempty width holds, same first, same second]
    | false =>
        have missed : begins accepted text = false := by
          rw [← List.take_append_drop accepted.length text,
            begins_append (List.length_take_of_le long).ge]
          exact holds
        cases text with
        | nil => rw [rewriteAt, rewriteAt, partitionAt_nil, partitionAt_nil]
        | cons head tail => rw [rewriteAt_skip nonempty missed, rewriteAt_skip nonempty missed]

theorem rewriteAt_eq_replace (nonempty : accepted ≠ []) (previous : Option α) (text : List α) :
    (classes accepted).rewriteAt change ⟨previous, text⟩ = (classes accepted).replace change text :=
  rewriteAt_previous nonempty previous none text

theorem replace_match (nonempty : accepted ≠ []) {matched : List α}
    (width : matched.length = accepted.length) (holds : begins accepted matched = true)
    (rest : List α) :
    (classes accepted).replace change (matched ++ rest) =
      change matched ++ (classes accepted).replace change rest := by
  rw [← rewriteAt_eq_replace nonempty none, rewriteAt_match nonempty width holds, Cursor.after,
    rewriteAt_eq_replace nonempty]

theorem replace_skip (nonempty : accepted ≠ []) {head : α} {tail : List α}
    (missed : begins accepted (head :: tail) = false) :
    (classes accepted).replace change (head :: tail) =
      head :: (classes accepted).replace change tail := by
  rw [← rewriteAt_eq_replace nonempty none, rewriteAt_skip nonempty missed,
    rewriteAt_eq_replace nonempty]

theorem replace_nil (pattern : Pattern α) : pattern.replace change [] = [] := by
  rw [replace, partition, partitionAt_nil]
  rfl

/-- A match whose mark no later class accepts is found whatever stands around it. -/
theorem replace_append {mark : α → Bool} {others : List (α → Bool)}
    (foreign : ∀ accepts ∈ others, ∀ element, mark element = true → accepts element = false)
    {matched : List α} (width : matched.length = others.length + 1)
    (holds : begins (mark :: others) matched = true) (before after : List α) :
    (classes (mark :: others)).replace change (before ++ (matched ++ after)) =
      (classes (mark :: others)).replace change before ++
        (change matched ++ (classes (mark :: others)).replace change after) := by
  have nonempty : mark :: others ≠ [] := List.cons_ne_nil _ _
  induction length : before.length using Nat.strong_induction_on generalizing before with
  | _ length induction =>
      subst length
      by_cases read : begins (mark :: others) before = true
      · have enough := length_le_of_begins read
        have parts := List.take_append_drop (mark :: others).length before
        have taken := List.length_take_of_le enough
        rw [← parts, begins_append taken.ge] at read
        rw [← parts, List.append_assoc, replace_match nonempty taken read,
          replace_match nonempty taken read, List.append_assoc]
        congr 1
        apply induction _ _ _ rfl
        rw [List.length_drop, List.length_cons]
        rw [List.length_cons] at enough
        omega
      · cases before with
        | nil =>
            rw [List.nil_append, replace_nil, List.nil_append,
              replace_match nonempty width holds]
        | cons head tail =>
            have missed : begins (mark :: others) (head :: tail ++ (matched ++ after)) = false := by
              apply eq_false_of_ne_true
              intro here
              rcases Nat.lt_or_ge tail.length others.length with inside | outside
              · -- The mark of the match would have to be of a later class.
                cases matched with
                | nil => cases width
                | cons first more =>
                    have marked := (Bool.and_eq_true_iff.mp holds).1
                    have later := (Bool.and_eq_true_iff.mp here).2
                    have kind := List.getElem?_eq_getElem inside
                    have there : (tail ++ (first :: more ++ after))[tail.length]? = some first := by
                      simp
                    have accepted := getElem_of_begins later kind there
                    rw [foreign _ (List.getElem_mem inside) _ marked] at accepted
                    cases accepted
              · rw [begins_append (by simpa using outside)] at here
                exact read here
            rw [List.cons_append] at missed
            rw [List.cons_append, replace_skip nonempty missed,
              replace_skip nonempty (eq_false_of_ne_true read), List.cons_append]
            congr 1
            exact induction _ (Nat.lt_succ_self _) _ rfl

theorem replace_flatten {mark : α → Bool} {others : List (α → Bool)}
    (foreign : ∀ accepts ∈ others, ∀ element, mark element = true → accepts element = false)
    {run : List (List α)} (fixed : ∀ matched ∈ run, matched.length = others.length + 1 ∧
      begins (mark :: others) matched = true) (nonempty : run ≠ []) (before after : List α) :
    (classes (mark :: others)).replace change (before ++ (run.flatten ++ after)) =
      (classes (mark :: others)).replace change before ++
        (run.flatMap change ++ (classes (mark :: others)).replace change after) := by
  induction run generalizing before with
  | nil => exact absurd rfl nonempty
  | cons matched run induction =>
      rcases fixed matched List.mem_cons_self with ⟨width, holds⟩
      rw [List.flatten_cons, List.append_assoc, replace_append foreign width holds,
        List.flatMap_cons, List.append_assoc]
      congr 2
      cases run with
      | nil => rfl
      | cons next run =>
          have rest := induction (fun other member => fixed other (List.mem_cons_of_mem _ member))
            (List.cons_ne_nil _ _) []
          rw [List.nil_append, replace_nil, List.nil_append] at rest
          exact rest

end

end Pattern

end SovAgent

import Mathlib.Logic.Basic

/-! # Sequences of checks

A validator is a sequence of checks that each throw unless a condition holds.
Its accepted inputs are found by rewriting with the rules below.
-/

namespace SovAgent

structure Thrown where
  message : String
  code : Option String
deriving DecidableEq, Repr

def Thrown.error (message : String) : Thrown := ⟨message, none⟩

/-- Throw `error` unless `condition` holds. -/
def require (condition : Prop) [Decidable condition] (error : ε) : Except ε Unit :=
  if condition then .ok () else .error error

/-- A loop whose body throws or falls through. -/
def checkAll (check : α → Except ε Unit) : List α → Except ε Unit
  | [] => .ok ()
  | item :: rest => do
      check item
      checkAll check rest

@[simp] theorem require_eq_ok {condition : Prop} [Decidable condition] {error : ε} :
    require condition error = .ok () ↔ condition := by
  unfold require
  split <;> simp_all

theorem bind_eq_ok {action : Except ε α} {next : α → Except ε β} {result : β} :
    (action >>= next) = .ok result ↔
      ∃ value, action = .ok value ∧ next value = .ok result := by
  cases action with
  | error error => simp [bind, Except.bind]
  | ok value => simp [bind, Except.bind]

theorem mapError_eq_ok {action : Except ε α} {wrap : ε → ε'} {result : α} :
    action.mapError wrap = .ok result ↔ action = .ok result := by
  cases action with
  | error error =>
      change Except.error (wrap error) = .ok result ↔ _
      simp
  | ok value =>
      change Except.ok value = .ok result ↔ _
      simp

theorem map_eq_ok {action : Except ε α} {convert : α → β} {result : β} :
    action.map convert = .ok result ↔ ∃ value, action = .ok value ∧ convert value = result := by
  cases action with
  | error error => simp [Except.map]
  | ok value => simp [Except.map]

theorem toOption_eq_some {action : Except ε α} {result : α} :
    action.toOption = some result ↔ action = .ok result := by
  cases action with
  | error error => simp [Except.toOption]
  | ok value => simp [Except.toOption]

theorem exists_unit {property : Unit → Prop} : (∃ value, property value) ↔ property () := by
  constructor
  · intro found
    rcases found with ⟨⟨⟩, holds⟩
    exact holds
  · intro holds
    exact ⟨(), holds⟩

@[simp] theorem seq_eq_ok {action : Except ε Unit} {next : Except ε β} {result : β} :
    (do action; next) = .ok result ↔ action = .ok () ∧ next = .ok result := by
  rw [bind_eq_ok, exists_unit]

@[simp] theorem checkAll_eq_ok {check : α → Except ε Unit} {items : List α} :
    checkAll check items = .ok () ↔ ∀ item ∈ items, check item = .ok () := by
  induction items with
  | nil => simp [checkAll]
  | cons head tail induction => rw [checkAll, seq_eq_ok, induction, List.forall_mem_cons]

/-! ## Loops that collect results -/

section Collected

variable {action : α → Except ε β}

theorem mapM_cons_eq_ok {item : α} {items : List α} {results : List β} :
    (item :: items).mapM action = .ok results ↔
      ∃ result, action item = .ok result ∧
        ∃ rest, items.mapM action = .ok rest ∧ results = result :: rest := by
  rw [List.mapM_cons]
  simp only [bind_eq_ok, pure, Except.pure, Except.ok.injEq, @eq_comm _ results]

theorem mapM_isOk_iff {items : List α} :
    (∃ results, items.mapM action = .ok results) ↔
      ∀ item ∈ items, ∃ result, action item = .ok result := by
  induction items with
  | nil => simp [pure, Except.pure]
  | cons item items induction =>
      rw [List.forall_mem_cons, ← induction]
      constructor
      · rintro ⟨results, collected⟩
        rcases mapM_cons_eq_ok.mp collected with ⟨result, first, rest, others, _⟩
        exact ⟨⟨result, first⟩, ⟨rest, others⟩⟩
      · rintro ⟨⟨result, first⟩, ⟨rest, others⟩⟩
        exact ⟨_, mapM_cons_eq_ok.mpr ⟨result, first, rest, others, rfl⟩⟩

theorem mem_of_mapM {items : List α} {results : List β}
    (collected : items.mapM action = .ok results) {result : β} :
    result ∈ results ↔ ∃ item ∈ items, action item = .ok result := by
  induction items generalizing results with
  | nil =>
      cases collected
      simp
  | cons item items induction =>
      rcases mapM_cons_eq_ok.mp collected with ⟨first, firstResult, rest, others, rfl⟩
      simp only [List.mem_cons, induction others, exists_eq_or_imp, firstResult,
        Except.ok.injEq, @eq_comm _ result]

theorem mapM_map_eq_ok {make : γ → α} {convert : γ → β} {values : List γ}
    (each : ∀ value ∈ values, action (make value) = .ok (convert value)) :
    (values.map make).mapM action = .ok (values.map convert) := by
  induction values with
  | nil => rfl
  | cons value values induction =>
      rcases List.forall_mem_cons.mp each with ⟨first, others⟩
      exact mapM_cons_eq_ok.mpr ⟨_, first, _, induction others, rfl⟩

end Collected

end SovAgent

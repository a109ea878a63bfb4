import SovAgent.Foundation.Record

/-! # Overwriting partial maps

An update replaces the values of its own keys and keeps every other value.
Updates of which no two write the same key can be applied in any order.
-/

namespace SovAgent

variable {κ : Type u} {β : Type v} {α : Type w}

def overwrite (base update : κ → Option β) : κ → Option β := fun key =>
  (update key).or (base key)

def Separate (left right : κ → Option β) : Prop := ∀ key, left key = none ∨ right key = none

theorem overwrite_of_some {base update : κ → Option β} {key : κ} {value : β}
    (written : update key = some value) : overwrite base update key = some value := by
  simp [overwrite, written]

theorem overwrite_of_none {base update : κ → Option β} {key : κ}
    (unwritten : update key = none) : overwrite base update key = base key := by
  simp [overwrite, unwritten]

theorem overwrite_assoc (base first second : κ → Option β) :
    overwrite base (overwrite first second) = overwrite (overwrite base first) second := by
  funext key
  simp [overwrite, Option.or_assoc]

theorem overwrite_comm {base left right : κ → Option β} (separate : Separate left right) :
    overwrite (overwrite base left) right = overwrite (overwrite base right) left := by
  funext key
  rcases separate key with unwritten | unwritten <;> simp [overwrite, unwritten]

/-- Updates whose sources are equal or separate give one result in every order. -/
theorem foldl_overwrite_perm {source : α → κ → Option β} {left right : List α}
    (same : left.Perm right)
    (separate : ∀ first ∈ left, ∀ second ∈ left,
      first = second ∨ Separate (source first) (source second)) (base : κ → Option β) :
    left.foldl (fun map item => overwrite map (source item)) base =
      right.foldl (fun map item => overwrite map (source item)) base := by
  apply same.foldl_eq'
  intro first firstMember second secondMember map
  rcases separate first firstMember second secondMember with equal | apart
  · rw [equal]
  · exact overwrite_comm apart

theorem overwrite_foldl {source : α → κ → Option β} (items : List α)
    (base start : κ → Option β) :
    overwrite base (items.foldl (fun map item => overwrite map (source item)) start) =
      items.foldl (fun map item => overwrite map (source item)) (overwrite base start) := by
  induction items generalizing start with
  | nil => rfl
  | cons head tail induction => rw [List.foldl_cons, induction, overwrite_assoc, List.foldl_cons]

theorem Record.get?_assign_overwrite [DecidableEq κ] (target source : Record κ β) :
    (target.assign source).get? = overwrite target.get? source.get? := by
  funext key
  exact Record.get?_assign target source key

end SovAgent

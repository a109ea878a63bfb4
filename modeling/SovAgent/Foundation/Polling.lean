/-! # Bounded polling

A loop that asks again until an answer settles the question, a number of times at most.
What it asks may throw. The answers of a run are a function of how many came before.
-/

namespace SovAgent

/-- How a loop has ended: what it returns, and how often it has asked by then. -/
structure Polled (ε α : Type) where
  result : Except ε α
  asked : Nat

/-- Ask until an answer is settled, `attempts` times at most. -/
def pollUntil (ask : Nat → Except ε α) (settled : α → Bool) :
    (attempts asked : Nat) → (last : α) → Polled ε α
  | 0, asked, last => ⟨.ok last, asked⟩
  | attempts + 1, asked, last =>
      if settled last then ⟨.ok last, asked⟩
      else
        match ask asked with
        | .error thrown => ⟨.error thrown, asked + 1⟩
        | .ok next => pollUntil ask settled attempts (asked + 1) next

def OpenBetween (ask : Nat → Except ε α) (settled : α → Bool) (first after : Nat) : Prop :=
  ∀ index, first ≤ index → index < after →
    ∃ answer, ask index = .ok answer ∧ settled answer = false

theorem OpenBetween.empty {ask : Nat → Except ε α} {settled : α → Bool} (first : Nat) :
    OpenBetween ask settled first first := by
  intro index low high
  omega

theorem OpenBetween.cons {ask : Nat → Except ε α} {settled : α → Bool} {first after : Nat}
    {answer : α} (asked : ask first = .ok answer) (unsettled : settled answer = false)
    (later : OpenBetween ask settled (first + 1) after) : OpenBetween ask settled first after := by
  intro index low high
  rcases Nat.eq_or_lt_of_le low with rfl | above
  · exact ⟨answer, asked, unsettled⟩
  · exact later index above high

end SovAgent

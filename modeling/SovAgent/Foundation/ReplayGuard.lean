import Mathlib.Data.List.Pairwise
import Mathlib.Order.Lattice

/-! # Replay guards

A guard is asked for a key when a message has passed all other checks. It
remembers the key for a while and refuses it for that long. Messages that fail
the other checks never reach it.
-/

namespace SovAgent

/-- A store of keys that checks and records in one call. -/
structure ReplayGuard (Time : Type u) (Key : Type v) (Store : Type w) [LE Time] [Add Time] where
  /-- How long a key is remembered at least. -/
  retention : Time
  /-- Whether the key was seen before, with the store afterwards. -/
  isReplay : Time → Key → Store → Bool × Store
  /-- The store still knows the key at that instant. -/
  remembers : Store → Key → Time → Prop
  recorded : ∀ now key store, (isReplay now key store).1 = false →
    remembers (isReplay now key store).2 key (now + retention)
  kept : ∀ now other store key instant, remembers store key instant → now ≤ instant →
    remembers (isReplay now other store).2 key instant
  answers : ∀ now key store instant, remembers store key instant → now ≤ instant →
    (isReplay now key store).1 = true

namespace ReplayGuard

section

variable {Time : Type u} {Key : Type v} {Store : Type w} {Message : Type x}
variable [LinearOrder Time] [Add Time] (guard : ReplayGuard Time Key Store)
variable (now : Message → Time) (key : Message → Key) (passes : Message → Bool)

/-- One message: whether it is admitted, and the store afterwards. -/
def accept (store : Store) (message : Message) : Bool × Store :=
  if passes message then
    let asked := guard.isReplay (now message) (key message) store
    (!asked.1, asked.2)
  else (false, store)

def acceptAll (store : Store) : List Message → List Message × Store
  | [] => ([], store)
  | message :: messages =>
      let first := guard.accept now key passes store message
      let rest := acceptAll first.2 messages
      (if first.1 then message :: rest.1 else rest.1, rest.2)

variable {guard now key passes} {store : Store}

/-- Messages that fail the other checks change nothing for the others. -/
theorem acceptAll_filter (messages : List Message) :
    guard.acceptAll now key passes store (messages.filter passes) =
      guard.acceptAll now key passes store messages := by
  induction messages generalizing store with
  | nil => rfl
  | cons head tail induction =>
      by_cases passed : passes head = true
      · rw [List.filter_cons_of_pos passed, acceptAll, acceptAll, induction]
      · rw [List.filter_cons_of_neg passed, acceptAll, accept, if_neg passed, induction]
        rfl

end

end ReplayGuard

end SovAgent

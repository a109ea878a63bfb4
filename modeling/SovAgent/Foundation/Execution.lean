import Mathlib.Logic.Basic

/-! # Runs of partial step functions

A machine refuses an event that its current state does not enable. Interleaved
programs are modelled as one machine whose events are the segments the program
executes without suspending.
-/

namespace SovAgent

/-- A machine over named events. `none` means that the event is not enabled. -/
structure Machine (State : Type u) (Event : Type v) where
  step : State → Event → Option State

namespace Machine

/-- Runs whose every step was taken in a state and with an event that
`allowed` admits. -/
inductive Runs (machine : Machine State Event) (allowed : State → Event → Prop) :
    State → List Event → State → Prop
  | nil (state) : Runs machine allowed state [] state
  | cons {start middle final event events} :
      allowed start event →
      machine.step start event = some middle →
      Runs machine allowed middle events final →
      Runs machine allowed start (event :: events) final

def run (machine : Machine State Event) (start : State) : List Event → Option State
  | [] => some start
  | event :: events => (machine.step start event).bind fun middle =>
      machine.run middle events

variable {machine : Machine State Event} {allowed : State → Event → Prop}

theorem run_append (machine : Machine State Event) (start : State) (first second : List Event) :
    machine.run start (first ++ second) =
      (machine.run start first).bind fun middle => machine.run middle second := by
  induction first generalizing start with
  | nil => rfl
  | cons event first induction =>
      rw [List.cons_append, run, run, Option.bind_assoc]
      exact Option.bind_congr fun middle _ => induction middle

/-- Execute a list of events, failing also at an event that is not allowed. -/
def runAllowed (machine : Machine State Event) (allowed : State → Event → Prop)
    [∀ state event, Decidable (allowed state event)] (start : State) : List Event → Option State
  | [] => some start
  | event :: events =>
      if allowed start event then (machine.step start event).bind fun middle =>
        machine.runAllowed allowed middle events
      else none

theorem runs_of_runAllowed [∀ state event, Decidable (allowed state event)]
    {start final : State} {events : List Event}
    (executed : machine.runAllowed allowed start events = some final) :
    machine.Runs allowed start events final := by
  induction events generalizing start with
  | nil =>
      cases executed
      exact Runs.nil _
  | cons event events induction =>
      rw [runAllowed] at executed
      split at executed
      · rename_i now
        rcases Option.bind_eq_some_iff.mp executed with ⟨middle, stepped, rest⟩
        exact Runs.cons now stepped (induction rest)
      · cases executed

theorem runs_of_run {start final : State} {events : List Event}
    (admitted : ∀ event ∈ events, ∀ state, allowed state event)
    (executed : machine.run start events = some final) :
    machine.Runs allowed start events final := by
  induction events generalizing start with
  | nil =>
      cases executed
      exact Runs.nil _
  | cons event events induction =>
      rcases Option.bind_eq_some_iff.mp executed with ⟨middle, stepped, rest⟩
      have now := admitted event List.mem_cons_self start
      have later := fun other member => admitted other (List.mem_cons_of_mem event member)
      exact Runs.cons now stepped (induction later rest)

theorem Runs.executes {start final : State} {events : List Event}
    (runs : machine.Runs allowed start events final) :
    machine.run start events = some final := by
  induction runs with
  | nil => rfl
  | cons _ stepped _ induction => simpa [run, stepped] using induction

theorem Runs.preserves (Invariant : State → Prop)
    (preserved : ∀ state event next, allowed state event → Invariant state →
      machine.step state event = some next → Invariant next)
    {start final : State} {events : List Event}
    (runs : machine.Runs allowed start events final) (initially : Invariant start) :
    Invariant final := by
  induction runs with
  | nil => exact initially
  | cons admitted stepped _ induction =>
      exact induction (preserved _ _ _ admitted initially stepped)

/-! ## Every state of a run -/

/-- Every state that the run visits, the first and the last included. -/
def Throughout (machine : Machine State Event) (property : State → Prop) (start : State)
    (events : List Event) : Prop :=
  ∀ earlier later state, events = earlier ++ later →
    machine.run start earlier = some state → property state

theorem Throughout.cons_iff {property : State → Prop} {start middle : State} {event : Event}
    {events : List Event} (stepped : machine.step start event = some middle) :
    machine.Throughout property start (event :: events) ↔
      property start ∧ machine.Throughout property middle events := by
  constructor
  · intro throughout
    refine ⟨throughout [] (event :: events) start rfl rfl, ?_⟩
    intro earlier later state split executed
    apply throughout (event :: earlier) later state
    · rw [split, List.cons_append]
    · rw [run, stepped, Option.bind_some]
      exact executed
  · intro holds earlier later state split executed
    cases earlier with
    | nil =>
        cases executed
        exact holds.1
    | cons first earlier =>
        rw [List.cons_append, List.cons.injEq] at split
        rw [run, ← split.1, stepped, Option.bind_some] at executed
        exact holds.2 earlier later state split.2 executed

/-- Where a step keeps a property exactly when it is allowed, a run has the
property throughout exactly when all of its steps are allowed. -/
theorem runs_iff_throughout {Invariant property : State → Prop}
    (preserved : ∀ state event next, Invariant state →
      machine.step state event = some next → Invariant next)
    (exact : ∀ state event next, Invariant state → property state →
      machine.step state event = some next → (allowed state event ↔ property next))
    {start final : State} {events : List Event} (invariant : Invariant start)
    (initially : property start) (executed : machine.run start events = some final) :
    machine.Runs allowed start events final ↔ machine.Throughout property start events := by
  induction events generalizing start with
  | nil =>
      cases executed
      constructor
      · intro _ earlier later state split executed
        rw [(List.append_eq_nil_iff.mp split.symm).1] at executed
        cases executed
        exact initially
      · exact fun _ => Runs.nil _
  | cons event events induction =>
      rcases Option.bind_eq_some_iff.mp executed with ⟨middle, stepped, rest⟩
      have now := exact start event middle invariant initially stepped
      have later := fun holds =>
        induction (preserved start event middle invariant stepped) holds rest
      rw [Throughout.cons_iff stepped]
      constructor
      · intro runs
        cases runs with
        | cons admitted same tail =>
            rw [stepped] at same
            cases same
            exact ⟨initially, (later (now.mp admitted)).mp tail⟩
      · intro holds
        have middleHolds := holds.2 [] events middle rfl rfl
        exact Runs.cons (now.mpr middleHolds) stepped ((later middleHolds).mpr holds.2)

end Machine

end SovAgent

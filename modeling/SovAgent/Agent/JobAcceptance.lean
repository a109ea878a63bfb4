import SovAgent.Agent.JobPolling
import Mathlib.Data.List.Induction
import Mathlib.Order.Basic

/-! # Bounded job acceptance

While a job is not seen, its counter holds every failed attempt to accept it,
and nothing has decided about it. What makes it seen ends its turns.
-/

namespace SovAgent.JobPolling

namespace JobEvent

variable (jobId : String)

def isFailure : JobEvent → Bool
  | .failed other _ _ => other = jobId
  | _ => false

/-- An `acceptJob` call for the job that resolves. -/
def isAcceptance : JobEvent → Bool
  | .acceptJob other resolved => other = jobId && resolved
  | _ => false

/-- The job is accepted, rejected or abandoned. -/
def isFinal : JobEvent → Bool
  | .acceptJob other resolved => other = jobId && resolved
  | .rejected other => other = jobId
  | .failed other _ abandoned => other = jobId && abandoned
  | _ => false

def isTurn : JobEvent → Bool
  | .asked other => other = jobId
  | .attempted other => other = jobId
  | .acceptJob other _ => other = jobId
  | _ => false

end JobEvent

/-- Nothing is tried for the job once it is accepted, rejected or abandoned. -/
def Ordered (jobId : String) (events : List JobEvent) : Prop :=
  events.Pairwise fun earlier later =>
    earlier.isFinal jobId = true → later.isTurn jobId = false

def Undecided (jobId : String) (events : List JobEvent) : Prop :=
  ∀ event ∈ events, event.isFinal jobId = false

def Unconcerned (jobId : String) (events : List JobEvent) : Prop :=
  ∀ event ∈ events,
    event.isFailure jobId = false ∧ event.isFinal jobId = false ∧ event.isTurn jobId = false

def Concerns (jobId : String) (events : List JobEvent) : Prop :=
  ∀ other ≠ jobId, Unconcerned other events

def failures (jobId : String) (events : List JobEvent) : Nat :=
  events.countP (JobEvent.isFailure jobId)

def acceptances (jobId : String) (events : List JobEvent) : Nat :=
  events.countP (JobEvent.isAcceptance jobId)

section Events

variable {jobId : String} {events news : List JobEvent}

theorem failures_append (jobId : String) (events news : List JobEvent) :
    failures jobId (events ++ news) = failures jobId events + failures jobId news :=
  List.countP_append

theorem acceptances_append (jobId : String) (events news : List JobEvent) :
    acceptances jobId (events ++ news) = acceptances jobId events + acceptances jobId news :=
  List.countP_append

theorem acceptances_of_undecided (undecided : Undecided jobId events) :
    acceptances jobId events = 0 := by
  apply List.countP_eq_zero.mpr
  intro event member accepted
  have final : event.isFinal jobId = true := by
    cases event with
    | acceptJob other resolved => exact accepted
    | _ => cases accepted
  rw [undecided event member] at final
  cases final

theorem Undecided.append (undecided : Undecided jobId events) (later : Undecided jobId news) :
    Undecided jobId (events ++ news) := by
  intro event member
  rcases List.mem_append.mp member with old | new
  · exact undecided event old
  · exact later event new

theorem Undecided.ordered_append (undecided : Undecided jobId events)
    (ordered : Ordered jobId news) : Ordered jobId (events ++ news) := by
  induction events with
  | nil => exact ordered
  | cons event events induction =>
      apply List.Pairwise.cons
      · intro later _ final
        rw [undecided event List.mem_cons_self] at final
        cases final
      · exact induction fun event member => undecided event (List.mem_cons_of_mem _ member)

theorem Undecided.ordered (undecided : Undecided jobId events) : Ordered jobId events := by
  have ordered := @Undecided.ordered_append jobId events [] undecided List.Pairwise.nil
  rwa [List.append_nil] at ordered

theorem Concerns.append (concerns : Concerns jobId events) (later : Concerns jobId news) :
    Concerns jobId (events ++ news) := by
  intro other apart event member
  rcases List.mem_append.mp member with old | new
  · exact concerns other apart event old
  · exact later other apart event new

theorem Unconcerned.failures (unconcerned : Unconcerned jobId news) : failures jobId news = 0 :=
  List.countP_eq_zero.mpr fun event member => Bool.eq_false_iff.mp (unconcerned event member).1

theorem Unconcerned.undecided (unconcerned : Unconcerned jobId news) : Undecided jobId news :=
  fun event member => (unconcerned event member).2.1

theorem Unconcerned.ordered_append (unconcerned : Unconcerned jobId news)
    (ordered : Ordered jobId events) : Ordered jobId (events ++ news) := by
  apply List.pairwise_append.mpr
  refine ⟨ordered, unconcerned.undecided.ordered, ?_⟩
  intro earlier _ later member _
  exact (unconcerned later member).2.2

end Events

/-! ## What a turn does -/

/-- The turn of a job that is not seen: it stays open, an attempt to accept it
fails, or it is seen. -/
inductive Turn (state : JobsState) (jobId : String) : JobsState → Prop
  | opened {news : List JobEvent} (concerns : Concerns jobId news)
      (none : failures jobId news = 0) (undecided : Undecided jobId news) :
      Turn state jobId (state.record news)
  | failed {news : List JobEvent} {attempts : Nat} (concerns : Concerns jobId news)
      (counted : attempts = (state.acceptFailures.get? jobId).getD 0 + 1)
      (below : attempts < maxAcceptAttempts) (once : failures jobId news = 1)
      (undecided : Undecided jobId news) :
      Turn state jobId
        { state with
          acceptFailures := state.acceptFailures.set jobId attempts
          events := state.events ++ news }
  | settled {news : List JobEvent} {cleared : AcceptFailures} (concerns : Concerns jobId news)
      (counters : ∀ other, cleared.get? other =
        if other = jobId then none else state.acceptFailures.get? other)
      (failed : failures jobId news ≤ 1) (accepted : acceptances jobId news ≤ 1)
      (ordered : Ordered jobId news) :
      Turn state jobId
        { seenJobIds := state.seenJobIds ++ [jobId]
          acceptFailures := cleared
          events := state.events ++ news }

theorem get?_clearAcceptFailure (failures : AcceptFailures) (jobId other : String) :
    (clearAcceptFailure failures jobId).get? other =
      if other = jobId then none else failures.get? other := by
  rw [clearAcceptFailure, Record.get?_filterKeys]
  by_cases same : other = jobId <;> simp [same]

theorem concerns_failed (jobId : String) (attempts : Nat) (abandoned : Bool) (message : String) :
    Concerns jobId [.failed jobId attempts abandoned, .error message] := by
  intro other apart event member
  have different : ¬ jobId = other := fun same => apart same.symm
  simp only [List.mem_cons, List.not_mem_nil, or_false] at member
  rcases member with rfl | rfl <;>
    simp [JobEvent.isFailure, JobEvent.isFinal, JobEvent.isTurn, different]

theorem failAttempt_eq (state : JobsState) (jobId : String)
    (abandonedMessage failedMessage : Nat → String) :
    state.failAttempt jobId abandonedMessage failedMessage =
      let attempts := (state.acceptFailures.get? jobId).getD 0 + 1
      let counted := { state with acceptFailures := state.acceptFailures.set jobId attempts }
      if maxAcceptAttempts ≤ attempts then
        (counted.settle jobId).record
          [.failed jobId attempts true, .error (abandonedMessage attempts)]
      else counted.record [.failed jobId attempts false, .error (failedMessage attempts)] := by
  simp only [JobsState.failAttempt, recordAcceptFailure, decide_eq_true_eq]

structure Passing (jobId : String) (event : JobEvent) : Prop where
  concerns : ∀ other ≠ jobId,
    event.isFailure other = false ∧ event.isFinal other = false ∧ event.isTurn other = false
  notFailure : event.isFailure jobId = false
  notFinal : event.isFinal jobId = false

section Passing

variable {jobId : String} {news : List JobEvent}

theorem concerns_of_passing (passing : ∀ event ∈ news, Passing jobId event) :
    Concerns jobId news :=
  fun other apart event member => (passing event member).concerns other apart

theorem failures_of_passing (passing : ∀ event ∈ news, Passing jobId event) :
    failures jobId news = 0 :=
  List.countP_eq_zero.mpr fun event member =>
    Bool.eq_false_iff.mp (passing event member).notFailure

theorem undecided_of_passing (passing : ∀ event ∈ news, Passing jobId event) :
    Undecided jobId news :=
  fun event member => (passing event member).notFinal

theorem passing_requested (jobId : String) : Passing jobId (.requested jobId) :=
  ⟨fun _ _ => ⟨rfl, rfl, rfl⟩, rfl, rfl⟩

theorem passing_error (jobId message : String) : Passing jobId (.error message) :=
  ⟨fun _ _ => ⟨rfl, rfl, rfl⟩, rfl, rfl⟩

theorem passing_asked (jobId : String) : Passing jobId (.asked jobId) :=
  ⟨fun _ apart => ⟨rfl, rfl, decide_eq_false apart.symm⟩, rfl, rfl⟩

theorem passing_attempted (jobId : String) : Passing jobId (.attempted jobId) :=
  ⟨fun _ apart => ⟨rfl, rfl, decide_eq_false apart.symm⟩, rfl, rfl⟩

theorem passing_acceptJob (jobId : String) : Passing jobId (.acceptJob jobId false) :=
  ⟨fun _ apart => ⟨rfl, Bool.and_false _, decide_eq_false apart.symm⟩, rfl, Bool.and_false _⟩

end Passing

theorem failAttempt_turn {state : JobsState} {jobId : String} {tried : List JobEvent}
    (passing : ∀ event ∈ tried, Passing jobId event)
    (abandonedMessage failedMessage : Nat → String) :
    Turn state jobId ((state.record tried).failAttempt jobId abandonedMessage failedMessage) := by
  have concerns := concerns_of_passing passing
  have none := failures_of_passing passing
  have undecided := undecided_of_passing passing
  rw [failAttempt_eq]
  dsimp only
  split
  · rename_i giveUp
    simp only [JobsState.record, JobsState.settle, List.append_assoc]
    apply Turn.settled (concerns.append (concerns_failed jobId _ true _))
    · intro other
      rw [get?_clearAcceptFailure, Record.get?_set]
      split <;> rfl
    · rw [failures_append, none]
      simp [failures, JobEvent.isFailure]
    · rw [acceptances_append, acceptances_of_undecided undecided]
      simp [acceptances, JobEvent.isAcceptance]
    · apply undecided.ordered_append
      simp [Ordered, JobEvent.isTurn]
  · rename_i again
    simp only [JobsState.record, List.append_assoc]
    apply Turn.failed (concerns.append (concerns_failed jobId _ false _)) rfl
    · exact Nat.lt_of_not_le again
    · rw [failures_append, none]
      simp [failures, JobEvent.isFailure]
    · apply undecided.append
      simp [Undecided, JobEvent.isFinal]

theorem record_record (state : JobsState) (first second : List JobEvent) :
    (state.record first).record second = state.record (first ++ second) := by
  simp only [JobsState.record, List.append_assoc]

theorem Turn.pass {state : JobsState} {jobId : String} {news : List JobEvent}
    (passing : ∀ event ∈ news, Passing jobId event) : Turn state jobId (state.record news) :=
  .opened (concerns_of_passing passing) (failures_of_passing passing)
    (undecided_of_passing passing)

theorem Turn.decide {state : JobsState} {jobId : String} {before decision : List JobEvent}
    (passing : ∀ event ∈ before, Passing jobId event) (concerns : Concerns jobId decision)
    (failed : failures jobId decision = 0) (accepted : acceptances jobId decision ≤ 1)
    (ordered : Ordered jobId decision) :
    Turn state jobId
      { seenJobIds := state.seenJobIds ++ [jobId]
        acceptFailures := clearAcceptFailure state.acceptFailures jobId
        events := state.events ++ (before ++ decision) } := by
  have undecided := undecided_of_passing passing
  apply Turn.settled ((concerns_of_passing passing).append concerns)
    (get?_clearAcceptFailure _ jobId)
  · rw [failures_append, failures_of_passing passing, failed]
    omega
  · rw [acceptances_append, acceptances_of_undecided undecided, Nat.zero_add]
    exact accepted
  · exact undecided.ordered_append ordered

theorem concerns_accepted (jobId : String) :
    Concerns jobId [.acceptJob jobId true, .accepted jobId] := by
  intro other apart event member
  have different : ¬ jobId = other := fun same => apart same.symm
  simp only [List.mem_cons, List.not_mem_nil, or_false] at member
  rcases member with rfl | rfl <;>
    simp [JobEvent.isFailure, JobEvent.isFinal, JobEvent.isTurn, different]

theorem concerns_rejected (jobId : String) : Concerns jobId [.rejected jobId] := by
  intro other apart event member
  have different : ¬ jobId = other := fun same => apart same.symm
  rw [List.mem_singleton.mp member]
  simp [JobEvent.isFailure, JobEvent.isFinal, JobEvent.isTurn, different]

theorem attempt_turn {state : JobsState} {jobId : String} {before : List JobEvent}
    (passing : ∀ event ∈ before, Passing jobId event) (job : JobOffer) :
    Turn state jobId ((state.record before).attempt jobId job) := by
  have attempted : ∀ event ∈ before ++ [.attempted jobId], Passing jobId event := by
    intro event member
    rcases List.mem_append.mp member with old | new
    · exact passing event old
    · rw [List.mem_singleton.mp new]
      exact passing_attempted jobId
  simp only [JobsState.attempt, record_record]
  split
  · exact failAttempt_turn attempted _ _
  · split
    · exact failAttempt_turn attempted _ _
    · split
      · apply failAttempt_turn
        intro event member
        rcases List.mem_append.mp member with old | new
        · exact attempted event old
        · rw [List.mem_singleton.mp new]
          exact passing_acceptJob jobId
      · have decided := @Turn.decide state jobId _ _ attempted (concerns_accepted jobId) rfl
          (by simp [acceptances, JobEvent.isAcceptance]) (by simp [Ordered, JobEvent.isTurn])
        simpa only [JobsState.settle, JobsState.record, List.append_assoc, List.cons_append,
          List.nil_append] using decided

theorem offer_turn (state : JobsState) (job : JobOffer) :
    state.offer job = state ∨
      ∃ jobId, jobId ∉ state.seenJobIds ∧ Turn state jobId (state.offer job) := by
  rw [JobsState.offer]
  split
  · exact .inl rfl
  · rename_i jobId _
    split
    · exact .inl rfl
    · rename_i unseen
      refine .inr ⟨jobId, unseen, ?_⟩
      have requested : ∀ event ∈ [JobEvent.requested jobId], Passing jobId event := by
        intro event member
        rw [List.mem_singleton.mp member]
        exact passing_requested jobId
      have asked : ∀ event ∈ [JobEvent.requested jobId, .asked jobId], Passing jobId event := by
        intro event member
        rcases List.mem_cons.mp member with rfl | later
        · exact passing_requested jobId
        · rw [List.mem_singleton.mp later]
          exact passing_asked jobId
      have reported : ∀ message, ∀ event ∈ [JobEvent.requested jobId, .asked jobId] ++
          [.error message], Passing jobId event := by
        intro message event member
        rcases List.mem_append.mp member with old | new
        · exact asked event old
        · rw [List.mem_singleton.mp new]
          exact passing_error jobId message
      split
      · rename_i decision _
        simp only [record_record, List.singleton_append]
        cases decision with
        | error message =>
            rw [JobsState.afterDecision, record_record]
            exact Turn.pass (reported message)
        | ok decision =>
            cases decision with
            | accept =>
                rw [JobsState.afterDecision]
                split
                · exact attempt_turn asked job
                · rw [record_record]
                  exact Turn.pass (reported _)
            | reject =>
                have decided := @Turn.decide state jobId _ _ asked (concerns_rejected jobId) rfl
                  (by simp [acceptances, JobEvent.isAcceptance]) (by simp [Ordered])
                simpa only [JobsState.afterDecision, JobsState.settle, JobsState.record,
                  List.append_assoc] using decided
            | hold => exact Turn.pass asked
      · have decided := @Turn.decide state jobId _ [] requested
          (fun _ _ _ member => absurd member List.not_mem_nil) rfl (Nat.zero_le 1)
          List.Pairwise.nil
        simpa only [JobsState.settle, JobsState.record, List.append_nil] using decided

/-! ## What a job has seen so far -/

/-- While the job is not seen its counter holds every failure, and nothing has
decided about it. -/
structure Tracked (jobId : String) (state : JobsState) : Prop where
  failed : failures jobId state.events ≤ maxAcceptAttempts
  accepted : acceptances jobId state.events ≤ 1
  ordered : Ordered jobId state.events
  counted : jobId ∉ state.seenJobIds →
    failures jobId state.events = (state.acceptFailures.get? jobId).getD 0
  below : jobId ∉ state.seenJobIds → failures jobId state.events < maxAcceptAttempts
  undecided : jobId ∉ state.seenJobIds → Undecided jobId state.events

namespace Tracked

variable {jobId other : String} {state next : JobsState}

theorem initial (jobId : String) : Tracked jobId {} where
  failed := Nat.zero_le _
  accepted := Nat.zero_le _
  ordered := List.Pairwise.nil
  counted _ := rfl
  below _ := Nat.zero_lt_succ _
  undecided _ _ member := absurd member List.not_mem_nil

theorem unconcerned (tracked : Tracked jobId state) {news : List JobEvent}
    (unconcerned : Unconcerned jobId news) (events : next.events = state.events ++ news)
    (seen : jobId ∈ next.seenJobIds ↔ jobId ∈ state.seenJobIds)
    (counter : next.acceptFailures.get? jobId = state.acceptFailures.get? jobId) :
    Tracked jobId next := by
  have sameFailures : failures jobId next.events = failures jobId state.events := by
    rw [events, failures_append, unconcerned.failures, Nat.add_zero]
  have unseen : jobId ∉ next.seenJobIds → jobId ∉ state.seenJobIds := mt seen.mpr
  constructor
  · rw [sameFailures]
    exact tracked.failed
  · rw [events, acceptances_append, acceptances_of_undecided unconcerned.undecided]
    exact tracked.accepted
  · rw [events]
    exact unconcerned.ordered_append tracked.ordered
  · intro fresh
    rw [sameFailures, counter]
    exact tracked.counted (unseen fresh)
  · intro fresh
    rw [sameFailures]
    exact tracked.below (unseen fresh)
  · intro fresh
    rw [events]
    exact (tracked.undecided (unseen fresh)).append unconcerned.undecided

theorem otherTurn (tracked : Tracked jobId state) (apart : jobId ≠ other)
    (turn : Turn state other next) : Tracked jobId next := by
  cases turn with
  | opened concerns _ _ => exact tracked.unconcerned (concerns jobId apart) rfl Iff.rfl rfl
  | failed concerns _ _ _ _ =>
      refine tracked.unconcerned (concerns jobId apart) rfl Iff.rfl ?_
      rw [Record.get?_set, if_neg apart]
  | settled concerns counters _ _ _ =>
      refine tracked.unconcerned (concerns jobId apart) rfl ?_ ?_
      · rw [List.mem_append, List.mem_singleton]
        exact or_iff_left apart
      · rw [counters, if_neg apart]

theorem ownTurn (tracked : Tracked jobId state) (unseen : jobId ∉ state.seenJobIds)
    (turn : Turn state jobId next) : Tracked jobId next := by
  have undecided := tracked.undecided unseen
  have counted := tracked.counted unseen
  have below := tracked.below unseen
  cases turn with
  | @opened news _ none quiet =>
      have later := undecided.append quiet
      have same : failures jobId (state.events ++ news) = failures jobId state.events := by
        rw [failures_append, none, Nat.add_zero]
      constructor
      · exact same ▸ tracked.failed
      · exact (acceptances_of_undecided later).trans_le (Nat.zero_le 1)
      · exact later.ordered
      · exact fun _ => same.trans counted
      · exact fun _ => same.trans_lt below
      · exact fun _ => later
  | @failed news attempts _ next below once quiet =>
      have later := undecided.append quiet
      have more : failures jobId (state.events ++ news) = attempts := by
        rw [failures_append, once, counted, next]
      constructor
      · exact more.trans_le (Nat.le_of_lt below)
      · exact (acceptances_of_undecided later).trans_le (Nat.zero_le 1)
      · exact later.ordered
      · intro _
        rw [Record.get?_set, if_pos rfl]
        exact more
      · exact fun _ => more.trans_lt below
      · exact fun _ => later
  | @settled news _ _ _ failed accepted ordered =>
      have seen : jobId ∈ state.seenJobIds ++ [jobId] :=
        List.mem_append_right _ (List.mem_singleton_self jobId)
      constructor
      · have total := failures_append jobId state.events news
        change failures jobId (state.events ++ news) ≤ maxAcceptAttempts
        omega
      · have total := acceptances_append jobId state.events news
        rw [acceptances_of_undecided undecided, Nat.zero_add] at total
        exact total.trans_le accepted
      · exact undecided.ordered_append ordered
      · exact fun unseen => absurd seen unseen
      · exact fun unseen => absurd seen unseen
      · exact fun unseen => absurd seen unseen

theorem offer (tracked : Tracked jobId state) (job : JobOffer) :
    Tracked jobId (state.offer job) := by
  rcases offer_turn state job with same | ⟨turned, unseen, turn⟩
  · rw [same]
    exact tracked
  · by_cases own : jobId = turned
    · subst own
      exact tracked.ownTurn unseen turn
    · exact tracked.otherTurn own turn

theorem offers (tracked : Tracked jobId state) (jobs : List JobOffer) :
    Tracked jobId (jobs.foldl JobsState.offer state) := by
  induction jobs generalizing state with
  | nil => exact tracked
  | cons job jobs induction => exact induction (tracked.offer job)

end Tracked

/-! ## Polls -/

/-- The counters of jobs that may still be tried. -/
def Counted (state : JobsState) : Prop :=
  ∀ jobId count, state.acceptFailures.get? jobId = some count →
    1 ≤ count ∧ count < maxAcceptAttempts

theorem Counted.turn {state next : JobsState} {turned : String} (counted : Counted state)
    (turn : Turn state turned next) : Counted next := by
  intro jobId count found
  cases turn with
  | opened => exact counted jobId count found
  | failed _ attempts below _ _ =>
      rw [Record.get?_set] at found
      split at found
      · rw [← Option.some.inj found]
        omega
      · exact counted jobId count found
  | settled _ counters _ _ _ =>
      rw [counters] at found
      split at found
      · cases found
      · exact counted jobId count found

theorem Counted.offer {state : JobsState} (counted : Counted state) (job : JobOffer) :
    Counted (state.offer job) := by
  rcases offer_turn state job with same | ⟨turned, _, turn⟩
  · rw [same]
    exact counted
  · exact counted.turn turn

theorem Counted.offers {state : JobsState} (counted : Counted state) (jobs : List JobOffer) :
    Counted (jobs.foldl JobsState.offer state) := by
  induction jobs generalizing state with
  | nil => exact counted
  | cons job jobs induction => exact induction (counted.offer job)

/-- The state after the jobs of a poll have had their turns. -/
def offered (state : JobsState) (poll : Poll) (allJobs : List JobOffer) : JobsState :=
  ((allJobs.take poll.maxPerPoll).takeWhile JobOffer.running).foldl JobsState.offer state

theorem checkForJobs_ok {state : JobsState} {poll : Poll} {allJobs : List JobOffer}
    (answered : poll.getMyJobs = .ok allJobs) :
    state.checkForJobs poll =
      { seenJobIds := evict (offered state poll allJobs).seenJobIds
        acceptFailures := pruneAcceptFailures (offered state poll allJobs).acceptFailures
          (pendingIds allJobs)
        events := (offered state poll allJobs).events } := by
  rw [JobsState.checkForJobs, answered]
  rfl

theorem Counted.checkForJobs {state : JobsState} (counted : Counted state) (poll : Poll) :
    Counted (state.checkForJobs poll) := by
  cases answer : poll.getMyJobs with
  | error message =>
      rw [JobsState.checkForJobs, answer]
      exact counted
  | ok allJobs =>
      intro jobId count found
      rw [checkForJobs_ok answer] at found
      simp only [pruneAcceptFailures, Record.get?_filterKeys] at found
      split at found
      · exact counted.offers _ jobId count found
      · cases found

theorem evict_of_le {seen : List String} (within : seen.length ≤ maxSeenJobs) :
    evict seen = seen := by
  cases seen with
  | nil => rfl
  | cons first rest => rw [evict, if_neg (Nat.not_lt_of_le within)]

theorem length_evict {seen : List String} (grown : maxSeenJobs ≤ seen.length) :
    (evict seen).length = maxSeenJobs := by
  induction seen with
  | nil => exact (Nat.le_zero.mp grown).symm
  | cons first rest induction =>
      rw [evict]
      split
      · rename_i many
        exact induction (Nat.le_of_lt_succ many)
      · rename_i few
        exact Nat.le_antisymm (Nat.le_of_not_lt few) grown

theorem evict_eq {seen : List String} (few : (evict seen).length < maxSeenJobs) :
    evict seen = seen := by
  apply evict_of_le
  by_contra many
  rw [length_evict (Nat.le_of_not_le many)] at few
  exact absurd few (Nat.lt_irrefl _)

/-- Short of eviction, a poll keeps track of a job that is in its response. -/
theorem Tracked.checkForJobs {jobId : String} {state : JobsState} (tracked : Tracked jobId state)
    {poll : Poll} (few : (state.checkForJobs poll).seenJobIds.length < maxSeenJobs)
    (pending : ∀ allJobs, poll.getMyJobs = .ok allJobs → jobId ∈ pendingIds allJobs) :
    Tracked jobId (state.checkForJobs poll) := by
  cases answer : poll.getMyJobs with
  | error message =>
      rw [JobsState.checkForJobs, answer]
      refine tracked.unconcerned ?_ rfl Iff.rfl rfl
      intro event member
      rw [List.mem_singleton.mp member]
      exact ⟨rfl, rfl, rfl⟩
  | ok allJobs =>
      rw [checkForJobs_ok answer] at few ⊢
      have turned : Tracked jobId (offered state poll allJobs) := tracked.offers _
      have none : Unconcerned jobId [] := fun event member => absurd member List.not_mem_nil
      rw [evict_eq few]
      refine turned.unconcerned none (List.append_nil _).symm Iff.rfl ?_
      rw [pruneAcceptFailures, Record.get?_filterKeys,
        if_pos (decide_eq_true (pending allJobs answer))]

theorem polled_concat (polls : List Poll) (poll : Poll) :
    JobsState.polled (polls ++ [poll]) = (JobsState.polled polls).checkForJobs poll := by
  rw [JobsState.polled, List.foldl_append]
  rfl

theorem tracked_polled {jobId : String} {polls : List Poll}
    (few : ∀ earlier, earlier <+: polls →
      (JobsState.polled earlier).seenJobIds.length < maxSeenJobs)
    (pending : ∀ poll ∈ polls, ∀ allJobs, poll.getMyJobs = .ok allJobs →
      jobId ∈ pendingIds allJobs) :
    Tracked jobId (JobsState.polled polls) := by
  induction polls using List.reverseRecOn with
  | nil => exact Tracked.initial jobId
  | append_singleton polls poll induction =>
      have now := few _ (List.prefix_refl _)
      rw [polled_concat] at now ⊢
      apply Tracked.checkForJobs _ now
      · exact pending poll (List.mem_append_right _ (List.mem_singleton_self poll))
      · apply induction
        · exact fun earlier before => few earlier (before.trans (List.prefix_append _ _))
        · exact fun other member => pending other (List.mem_append_left _ member)

theorem counted_polled (polls : List Poll) : Counted (JobsState.polled polls) := by
  induction polls using List.reverseRecOn with
  | nil =>
      intro jobId count found
      cases found
  | append_singleton polls poll induction =>
      rw [polled_concat]
      exact induction.checkForJobs poll

/-- A completed poll leaves counters only for the jobs of its response. -/
theorem pending_of_counted {polls : List Poll} {poll : Poll} {allJobs : List JobOffer}
    (answered : poll.getMyJobs = .ok allJobs) {jobId : String} {count : Nat}
    (found : (JobsState.polled (polls ++ [poll])).acceptFailures.get? jobId = some count) :
    jobId ∈ pendingIds allJobs := by
  rw [polled_concat, JobsState.checkForJobs, answered] at found
  simp only [pruneAcceptFailures, Record.get?_filterKeys] at found
  split at found
  · rename_i kept
    exact of_decide_eq_true kept
  · cases found

/-- Over any polls, a job that every response lists fails and is accepted only so
often, and has no turn once it is decided; the counters stay small and current. -/
theorem job_acceptance_bounded (polls : List Poll)
    (few : ∀ earlier, earlier <+: polls →
      (JobsState.polled earlier).seenJobIds.length < maxSeenJobs) :
    (∀ jobId, (∀ poll ∈ polls, ∀ allJobs, poll.getMyJobs = .ok allJobs →
        jobId ∈ pendingIds allJobs) →
      failures jobId (JobsState.polled polls).events ≤ maxAcceptAttempts ∧
        acceptances jobId (JobsState.polled polls).events ≤ 1 ∧
        Ordered jobId (JobsState.polled polls).events) ∧
    (∀ earlier poll allJobs, earlier ++ [poll] <+: polls → poll.getMyJobs = .ok allJobs →
      ∀ jobId count,
        (JobsState.polled (earlier ++ [poll])).acceptFailures.get? jobId = some count →
          1 ≤ count ∧ count ≤ maxAcceptAttempts - 1 ∧ jobId ∈ pendingIds allJobs) := by
  constructor
  · intro jobId pending
    have tracked := tracked_polled few pending
    exact ⟨tracked.failed, tracked.accepted, tracked.ordered⟩
  · intro earlier poll allJobs _ answered jobId count found
    rcases counted_polled _ jobId count found with ⟨positive, below⟩
    exact ⟨positive, Nat.le_sub_one_of_lt below, pending_of_counted answered found⟩

def failingPoll : Poll where
  getMyJobs := .ok [{
    id := some "job"
    jobHash := some "hash"
    onJobRequested := some (.ok .accept)
    signBrokered := .ok ()
    acceptJob := .error "HTTP 503" }]
  maxPerPoll := 50

/-- The job is abandoned at the fifth poll, and passed over at the sixth. -/
theorem job_acceptance_bounded_abandoned :
    .failed "job" 5 true ∈ (JobsState.polled (List.replicate 6 failingPoll)).events ∧
      failures "job" (JobsState.polled (List.replicate 6 failingPoll)).events ≤
        maxAcceptAttempts ∧
      acceptances "job" (JobsState.polled (List.replicate 6 failingPoll)).events ≤ 1 ∧
      Ordered "job" (JobsState.polled (List.replicate 6 failingPoll)).events := by
  refine ⟨by decide, (job_acceptance_bounded (List.replicate 6 failingPoll) ?_).1 "job" ?_⟩
  · intro earlier before
    have seen : ∀ count < 7,
        (JobsState.polled (List.replicate count failingPoll)).seenJobIds.length < 2 := by
      decide
    rcases List.prefix_replicate_iff.mp before with ⟨within, same⟩
    have limit : 2 ≤ maxSeenJobs := by decide
    rw [same]
    exact Nat.lt_of_lt_of_le (seen earlier.length (Nat.lt_succ_of_le within)) limit
  · intro poll member allJobs answered
    rw [List.eq_of_mem_replicate member] at answered
    rw [← Except.ok.inj answered]
    decide

end SovAgent.JobPolling

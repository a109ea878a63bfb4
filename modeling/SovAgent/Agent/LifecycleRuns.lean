import SovAgent.Agent.Lifecycle

/-! # Runs of the agent

Polls never overlap, so that whatever calls and timers interleave, the agent
treats its jobs as polls that follow one another. A stopped agent takes no job
and leaves no new timer alive, and the field holds every timer that fires.
-/

namespace SovAgent.Lifecycle

open JobPolling AgentState

/-! ## A poll as its loop went -/

theorem foldl_offer_withRunning (running : Bool) (offers : List JobOffer) (jobs : JobsState) :
    (withRunning running offers).foldl JobsState.offer jobs =
      offers.foldl JobsState.offer jobs := by
  induction offers generalizing jobs with
  | nil => rfl
  | cons job offers induction => exact induction (jobs.offer job)

theorem pendingIds_withRunning (running : Bool) (offers : List JobOffer) :
    pendingIds (withRunning running offers) = pendingIds offers := by
  rw [pendingIds, withRunning, List.filterMap_map]
  rfl

theorem takeWhile_withRunning (offered rest : List JobOffer) :
    (withRunning true offered ++ withRunning false rest).takeWhile JobOffer.running =
      withRunning true offered := by
  induction offered with
  | nil =>
      cases rest with
      | nil => rfl
      | cons job rest => rfl
  | cons job offered induction => exact congrArg _ induction

/-- The loop, broken off or not, does what a poll does that is told when it stops. -/
theorem prune_eq_checkForJobs {offered rest allJobs : List JobOffer} {maxPerPoll : Nat}
    (split : offered ++ rest = allJobs.take maxPerPoll) (before : JobsState) :
    prune (offered.foldl JobsState.offer before) allJobs =
      before.checkForJobs (pollOf offered rest allJobs maxPerPoll) := by
  have turns : (withRunning true offered ++ withRunning false rest ++
      allJobs.drop maxPerPoll).take maxPerPoll =
        withRunning true offered ++ withRunning false rest := by
    have length : (withRunning true offered ++ withRunning false rest).length =
        min maxPerPoll allJobs.length := by
      rw [← List.length_take, ← split]
      simp [withRunning]
    rcases Nat.le_total maxPerPoll allJobs.length with long | short
    · exact List.take_left' (by rw [length, Nat.min_eq_left long])
    · rw [List.drop_eq_nil_of_le short, List.append_nil]
      exact List.take_of_length_le (by rw [length, Nat.min_eq_right short]; exact short)
  have ids : pendingIds (withRunning true offered ++ withRunning false rest ++
      allJobs.drop maxPerPoll) = pendingIds allJobs := by
    have append (first second : List JobOffer) :
        pendingIds (first ++ second) = pendingIds first ++ pendingIds second :=
      List.filterMap_append
    rw [append, append, pendingIds_withRunning, pendingIds_withRunning, ← append, ← append, split,
      List.take_append_drop]
  rw [JobsState.checkForJobs, pollOf]
  simp only [turns, ids, takeWhile_withRunning, foldl_offer_withRunning]
  rfl

/-! ## Polls follow one another -/

/-- How far a poll has come that found the jobs as `before`. -/
def Underway (before now : JobsState) : PollPhase → Prop
  | .fetching => now = before
  | .listing offered rest allJobs maxPerPoll =>
      offered ++ rest = allJobs.take maxPerPoll ∧ now = offered.foldl JobsState.offer before
  | .handling offered job rest allJobs maxPerPoll =>
      offered ++ job :: rest = allJobs.take maxPerPoll ∧
        now = offered.foldl JobsState.offer before

/-- At most one poll runs, and all before it have ended one after another. -/
inductive Sequential (state : AgentState) : Prop where
  | idle (none : state.polls = []) (free : state.polling = false)
      (jobs : state.jobs = JobsState.polled state.ended)
  | busy (run : PollRun) (one : state.polls = [run]) (polling : state.polling = true)
      (underway : Underway (JobsState.polled state.ended) state.jobs run.phase)

namespace Sequential

variable {state : AgentState}

theorem checkForJobs (sequential : Sequential state) (caller : Option Nat) :
    Sequential (state.checkForJobs caller) := by
  rw [AgentState.checkForJobs]
  split
  · exact sequential
  · rename_i guards
    cases sequential with
    | idle none _ jobs => exact .busy ⟨caller, .fetching⟩ (by rw [none]; rfl) rfl jobs
    | busy _ _ polling _ => exact absurd (Or.inr polling) guards

/-- The steps of `start`, `stop` and a timer leave polls and jobs alone. -/
theorem of_eq (sequential : Sequential state) {next : AgentState}
    (polls : next.polls = state.polls) (polling : next.polling = state.polling)
    (jobs : next.jobs = state.jobs) (ended : next.ended = state.ended) : Sequential next := by
  cases sequential with
  | idle none free same =>
      exact .idle (polls.trans none) (polling.trans free) (by rw [jobs, ended, same])
  | busy run one busy underway =>
      exact .busy run (polls.trans one) (polling.trans busy) (by rw [jobs, ended]; exact underway)

theorem endPoll {run : PollRun} {index : Nat} (one : state.polls = [run])
    (here : state.polls[index]? = some run) {jobs : JobsState} {poll : Poll}
    (checked : jobs = (JobsState.polled state.ended).checkForJobs poll) :
    Sequential ({ state with jobs }.endPoll index run poll) := by
  have first : index = 0 := by
    rw [one] at here
    cases index with
    | zero => rfl
    | succ index => cases here
  subst first
  apply Sequential.idle
  · change state.polls.eraseIdx 0 = []
    rw [one]
    rfl
  · rfl
  · change jobs = JobsState.polled (state.ended ++ [poll])
    rw [polled_concat]
    exact checked

theorem withPhase {run : PollRun} {index : Nat} (one : state.polls = [run])
    (here : state.polls[index]? = some run) (polling : state.polling = true) {jobs : JobsState}
    {phase : PollPhase} (underway : Underway (JobsState.polled state.ended) jobs phase) :
    Sequential ({ state with jobs }.withPhase index run phase) := by
  have first : index = 0 := by
    rw [one] at here
    cases index with
    | zero => rfl
    | succ index => cases here
  subst first
  refine .busy ⟨run.caller, phase⟩ ?_ polling underway
  change state.polls.set 0 _ = _
  rw [one]
  rfl

theorem only (sequential : Sequential state) {run : PollRun} {index : Nat}
    (here : state.polls[index]? = some run) :
    state.polls = [run] ∧ state.polling = true ∧
      Underway (JobsState.polled state.ended) state.jobs run.phase := by
  cases sequential with
  | idle none _ _ =>
      rw [none] at here
      cases here
  | busy other one polling underway =>
      have same : other = run := by
        rw [one] at here
        exact List.mem_singleton.mp (List.mem_of_getElem? here) |>.symm
      subst same
      exact ⟨one, polling, underway⟩

theorem start (sequential : Sequential state) (token : Bool) : Sequential (state.start token) := by
  rw [AgentState.start]
  split
  · exact sequential.of_eq rfl rfl rfl rfl
  · split
    · exact sequential.of_eq rfl rfl rfl rfl
    · apply Sequential.checkForJobs
      exact sequential.of_eq rfl rfl rfl rfl

theorem stop (sequential : Sequential state) : Sequential state.stop := by
  rw [AgentState.stop]
  split <;> exact sequential.of_eq rfl rfl rfl rfl

theorem resume (sequential : Sequential state) (call : Nat) : Sequential (state.resume call) := by
  rw [AgentState.resume]
  split <;> exact sequential.of_eq rfl rfl rfl rfl

theorem step (sequential : Sequential state) {event : AgentEvent} {next : AgentState}
    (stepped : lifecycleStep state event = some next) : Sequential next := by
  cases event with
  | setHandler =>
      cases stepped
      exact sequential.of_eq rfl rfl rfl rfl
  | start token =>
      cases stepped
      exact sequential.start token
  | stop =>
      cases stepped
      exact sequential.stop
  | tick timer =>
      rw [lifecycleStep] at stepped
      split at stepped
      · cases stepped
        split
        · exact sequential.checkForJobs none
        · exact sequential
      · cases stepped
  | respond index answer maxPerPoll =>
      rw [lifecycleStep] at stepped
      split at stepped
      · rename_i caller here
        cases stepped
        rcases sequential.only here with ⟨one, polling, underway⟩
        have same : state.jobs = JobsState.polled state.ended := underway
        cases answer with
        | error message =>
            apply Sequential.endPoll one here
            rw [same]
            rfl
        | ok allJobs => exact Sequential.withPhase one here polling ⟨rfl, same⟩
      · cases stepped
  | next index =>
      rw [lifecycleStep] at stepped
      split at stepped
      · rename_i caller offered rest allJobs maxPerPoll here
        cases stepped
        rcases sequential.only here with ⟨one, polling, split, same⟩
        have finished : Sequential ({ state with jobs := prune state.jobs allJobs }.endPoll index
            ⟨caller, .listing offered rest allJobs maxPerPoll⟩
              (pollOf offered rest allJobs maxPerPoll)) := by
          apply Sequential.endPoll one here
          rw [same]
          exact prune_eq_checkForJobs split _
        cases rest with
        | nil => exact finished
        | cons job rest =>
            rw [AgentState.next]
            split
            · have handled : Sequential (state.withPhase index
                  ⟨caller, .listing offered (job :: rest) allJobs maxPerPoll⟩
                  (.handling offered job rest allJobs maxPerPoll)) :=
                Sequential.withPhase one here polling ⟨split, same⟩
              exact handled.of_eq rfl rfl rfl rfl
            · exact finished
      · cases stepped
  | finishJob index =>
      rw [lifecycleStep] at stepped
      split at stepped
      · rename_i caller offered job rest allJobs maxPerPoll here
        cases stepped
        rcases sequential.only here with ⟨one, polling, split, same⟩
        apply Sequential.withPhase one here polling
        refine ⟨by rw [List.append_assoc]; exact split, ?_⟩
        rw [List.foldl_append, ← same]
        rfl
      · cases stepped
  | resume call =>
      rw [lifecycleStep] at stepped
      split at stepped
      · cases stepped
        exact sequential.resume call
      · cases stepped

end Sequential

/-- Every interleaving treats the jobs as polls that follow one another. -/
theorem lifecycle_sequential {events : List AgentEvent} {state : AgentState}
    (executed : lifecycleMachine.run {} events = some state) : Sequential state := by
  have runs : lifecycleMachine.Runs (fun _ _ => True) {} events state :=
    Machine.runs_of_run (fun _ _ _ => trivial) executed
  exact runs.preserves Sequential (fun _ _ _ _ sequential stepped => sequential.step stepped)
    (.idle rfl rfl rfl)

def brokenOff : List AgentEvent :=
  let job : JobOffer := { id := some "a", jobHash := some "h", onJobRequested := none,
                          signBrokered := .ok (), acceptJob := .ok () }
  [.setHandler, .start true, .respond 0 (.ok [job, { job with id := some "b" }]) 50, .next 0,
    .stop, .finishJob 0, .start true, .resume 1, .stop, .next 0, .resume 0]

theorem lifecycle_sequential_brokenOff :
    ∃ state, lifecycleMachine.run {} brokenOff = some state ∧ Sequential state := by
  rcases Option.isSome_iff_exists.mp (by rfl : (lifecycleMachine.run {} brokenOff).isSome = true)
    with ⟨state, executed⟩
  exact ⟨state, executed, lifecycle_sequential executed⟩

/-! ## After a stop -/

/-- How many polls have begun. -/
def AgentState.begun (state : AgentState) : Nat := state.polls.length + state.ended.length

theorem begun_endPoll {state : AgentState} {index : Nat} {run : PollRun} (poll : Poll)
    (here : state.polls[index]? = some run) :
    (state.endPoll index run poll).begun = state.begun := by
  rcases List.getElem?_eq_some_iff.mp here with ⟨within, _⟩
  change (state.polls.eraseIdx index).length + (state.ended ++ [poll]).length = state.begun
  rw [List.length_eraseIdx_of_lt within, List.length_append, List.length_singleton,
    AgentState.begun]
  omega

/-- What a stopped agent does not do. -/
structure Quiet (stopped state : AgentState) : Prop where
  running : state.running = false
  taken : state.taken = stopped.taken
  started : state.started = stopped.started
  begun : state.begun = stopped.begun
  timers : ∀ timer : Nat, state.timers[timer]? = some true → stopped.timers[timer]? = some true

namespace Quiet

variable {stopped state : AgentState}

theorem of_eq (quiet : Quiet stopped state) {next : AgentState}
    (running : next.running = state.running) (taken : next.taken = state.taken)
    (started : next.started = state.started) (begun : next.begun = state.begun)
    (timers : next.timers = state.timers) : Quiet stopped next where
  running := running.trans quiet.running
  taken := taken.trans quiet.taken
  started := started.trans quiet.started
  begun := begun.trans quiet.begun
  timers := by
    rw [timers]
    exact quiet.timers

theorem stop (quiet : Quiet stopped state) : Quiet stopped state.stop := by
  rw [AgentState.stop]
  split
  · rename_i timer _
    refine ⟨rfl, quiet.taken, quiet.started, quiet.begun, ?_⟩
    intro other fires
    apply quiet.timers
    change (state.timers.set timer false)[other]? = some true at fires
    rw [List.getElem?_set] at fires
    split at fires
    · split at fires <;> cases fires
    · exact fires
  · exact ⟨rfl, quiet.taken, quiet.started, quiet.begun, quiet.timers⟩

/-- The timer that `start` sets too late is cleared at once. -/
theorem resume (quiet : Quiet stopped state) (call : Nat) :
    Quiet stopped (state.resume call) := by
  rw [AgentState.resume, if_neg (by rw [quiet.running]; exact Bool.false_ne_true)]
  refine ⟨quiet.running, quiet.taken, quiet.started, quiet.begun, ?_⟩
  intro other fires
  apply quiet.timers
  change ((state.timers ++ [true]).set state.timers.length false)[other]? = some true at fires
  rw [List.getElem?_set] at fires
  split at fires
  · split at fires <;> cases fires
  · rename_i apart
    rcases Nat.lt_or_ge other state.timers.length with inside | outside
    · rw [List.getElem?_append_left inside] at fires
      exact fires
    · rw [List.getElem?_append_right outside] at fires
      have beyond : 1 ≤ other - state.timers.length := by omega
      rw [List.getElem?_eq_none (by simpa using beyond)] at fires
      cases fires

theorem step (quiet : Quiet stopped state) {event : AgentEvent}
    (noStart : ∀ token, event ≠ .start token) {next : AgentState}
    (stepped : lifecycleStep state event = some next) : Quiet stopped next := by
  have stays : ¬ state.running = true := by
    rw [quiet.running]
    exact Bool.false_ne_true
  cases event with
  | setHandler =>
      cases stepped
      exact quiet.of_eq rfl rfl rfl rfl rfl
  | start token => exact absurd rfl (noStart token)
  | stop =>
      cases stepped
      exact quiet.stop
  | tick timer =>
      rw [lifecycleStep, if_neg stays] at stepped
      split at stepped
      · cases stepped
        exact quiet
      · cases stepped
  | respond index answer maxPerPoll =>
      rw [lifecycleStep] at stepped
      split at stepped
      · rename_i caller here
        cases stepped
        cases answer with
        | error message => exact quiet.of_eq rfl rfl rfl (begun_endPoll _ here) rfl
        | ok allJobs =>
            exact quiet.of_eq rfl rfl rfl (congrArg (· + _) List.length_set) rfl
      · cases stepped
  | next index =>
      rw [lifecycleStep] at stepped
      split at stepped
      · rename_i caller offered rest allJobs maxPerPoll here
        cases stepped
        cases rest with
        | nil => exact quiet.of_eq rfl rfl rfl (begun_endPoll _ here) rfl
        | cons job rest =>
            rw [AgentState.next, if_neg stays]
            exact quiet.of_eq rfl rfl rfl (begun_endPoll _ here) rfl
      · cases stepped
  | finishJob index =>
      rw [lifecycleStep] at stepped
      split at stepped
      · cases stepped
        exact quiet.of_eq rfl rfl rfl (congrArg (· + _) List.length_set) rfl
      · cases stepped
  | resume call =>
      rw [lifecycleStep] at stepped
      split at stepped
      · cases stepped
        exact quiet.resume call
      · cases stepped

end Quiet

/-- Until `start` is called again, a stopped agent begins no poll, takes no job and leaves no new
timer alive. -/
theorem stop_quiesces {events : List AgentEvent} (noStart : ∀ event ∈ events, ∀ token,
    event ≠ .start token) {state final : AgentState}
    (executed : lifecycleMachine.run state (.stop :: events) = some final) :
    Quiet state.stop final := by
  have stopped : Quiet state.stop state.stop := by
    refine ⟨?_, rfl, rfl, rfl, fun _ fires => fires⟩
    rw [AgentState.stop]
    split <;> rfl
  have runs : lifecycleMachine.Runs (fun _ event => ∀ token, event ≠ .start token) state.stop
      events final := Machine.runs_of_run (fun event member _ => noStart event member) executed
  exact runs.preserves (Quiet state.stop)
    (fun _ _ _ noStart quiet stepped => quiet.step noStart stepped) stopped

/-- A stop while the first check of a start waits for the platform. -/
theorem stop_quiesces_waiting :
    let state : AgentState := { handler := true, running := true, polling := true,
                                calls := [.checking], polls := [⟨some 0, .fetching⟩] }
    ∃ final, lifecycleMachine.run state [.stop, .respond 0 (.ok []) 50, .next 0, .resume 0] =
      some final ∧ Quiet state.stop final := by
  intro state
  rcases Option.isSome_iff_exists.mp (by rfl : (lifecycleMachine.run state
    [.stop, .respond 0 (.ok []) 50, .next 0, .resume 0]).isSome = true) with ⟨final, executed⟩
  have noStart : ∀ event ∈ [AgentEvent.respond 0 (.ok []) 50, .next 0, .resume 0],
      ∀ token, event ≠ .start token := by simp
  exact ⟨final, executed, stop_quiesces noStart executed⟩

/-! ## Timers -/

/-- A call of `start` that has not come back from its first check. -/
def Pending (state : AgentState) (call : Nat) : Prop :=
  state.calls[call]? = some .checking ∨ state.calls[call]? = some .checked

/-- No call of `start` begins while another one is pending. -/
def OneStart (state : AgentState) : AgentEvent → Prop
  | .start _ => state.running = true ∨ ∀ call, ¬ Pending state call
  | _ => True

/-- The field names the timer that fires, and whoever is pending finds it empty. -/
structure Timed (state : AgentState) : Prop where
  fires : ∀ timer : Nat, state.timers[timer]? = some true ↔ state.pollTimer = some timer
  running : ∀ timer, state.pollTimer = some timer → state.running = true
  callers : ∀ run ∈ state.polls, ∀ call, run.caller = some call →
    state.calls[call]? = some .checking
  single : ∀ first second, Pending state first → Pending state second → first = second
  waiting : ∀ call, Pending state call → state.pollTimer = none

theorem getElem?_set_false {timers : List Bool} {cleared other : Nat} :
    (timers.set cleared false)[other]? = some true ↔
      cleared ≠ other ∧ timers[other]? = some true := by
  rw [List.getElem?_set]
  by_cases same : cleared = other
  · rw [if_pos same]
    split <;> simp [same]
  · rw [if_neg same]
    exact ⟨fun fires => ⟨same, fires⟩, And.right⟩

theorem getElem?_append_true {timers : List Bool} {other : Nat} :
    (timers ++ [true])[other]? = some true ↔
      timers[other]? = some true ∨ other = timers.length := by
  rcases Nat.lt_trichotomy other timers.length with inside | same | outside
  · rw [List.getElem?_append_left inside]
    simp [Nat.ne_of_lt inside]
  · subst same
    simp
  · have beyond : (timers ++ [true]).length ≤ other := by
      rw [List.length_append]
      exact outside
    rw [List.getElem?_eq_none beyond, List.getElem?_eq_none (Nat.le_of_lt outside)]
    simp [Nat.ne_of_gt outside]

namespace Timed

variable {state : AgentState}

theorem checkForJobs (timed : Timed state) {caller : Option Nat}
    (waits : ∀ call, caller = some call → state.pollBegins = true →
      state.calls[call]? = some .checking) :
    Timed (state.checkForJobs caller) := by
  rw [AgentState.checkForJobs]
  split
  · exact timed
  · rename_i guards
    refine ⟨timed.fires, timed.running, ?_, timed.single, timed.waiting⟩
    intro run listed call called
    rcases List.mem_append.mp listed with old | new
    · exact timed.callers run old call called
    · cases List.mem_singleton.mp new
      apply waits call called
      simpa [pollBegins, not_or] using guards

theorem start (timed : Timed state) {token : Bool} (one : OneStart state (.start token)) :
    Timed (state.start token) := by
  rw [AgentState.start]
  -- A call more that is not pending.
  have beside {call : StartCall} (settled : call ≠ .checking ∧ call ≠ .checked) :
      Timed { state with calls := state.calls ++ [call] } := by
    have pending (index : Nat)
        (holds : Pending { state with calls := state.calls ++ [call] } index) :
        Pending state index := by
      rcases Nat.lt_trichotomy index state.calls.length with inside | rfl | outside
      · simpa [Pending, List.getElem?_append_left inside] using holds
      · simp [Pending, settled] at holds
      · have beyond : (state.calls ++ [call]).length ≤ index := by
          rw [List.length_append]
          exact outside
        simp [Pending, List.getElem?_eq_none beyond] at holds
    refine ⟨timed.fires, timed.running, ?_, ?_, ?_⟩
    · intro run listed index called
      have there := timed.callers run listed index called
      exact (List.getElem?_append_left (List.getElem?_eq_some_iff.mp there).1).trans there
    · intro first second left right
      exact timed.single first second (pending _ left) (pending _ right)
    · exact fun index holds => timed.waiting index (pending _ holds)
  split
  · exact beside (by decide)
  · rename_i stopped
    split
    · exact beside (by decide)
    · have nobody := one.resolve_left stopped
      have noTimer : state.pollTimer = none := by
        cases named : state.pollTimer with
        | none => rfl
        | some timer => exact absurd (timed.running timer named) stopped
      apply Timed.checkForJobs
      · have only (call : StartCall) (index : Nat)
            (holds : Pending { state with calls := state.calls ++ [call] } index) :
            index = state.calls.length := by
          rcases Nat.lt_trichotomy index state.calls.length with inside | same | outside
          · have old : Pending state index := by
              simpa [Pending, List.getElem?_append_left inside] using holds
            exact absurd old (nobody index)
          · exact same
          · have beyond : (state.calls ++ [call]).length ≤ index := by
              rw [List.length_append]
              exact outside
            simp [Pending, List.getElem?_eq_none beyond] at holds
        refine ⟨timed.fires, fun _ _ => rfl, ?_, ?_, fun _ _ => noTimer⟩
        · intro run listed index called
          have there := timed.callers run listed index called
          exact (List.getElem?_append_left (List.getElem?_eq_some_iff.mp there).1).trans there
        · exact fun first second left right => (only _ first left).trans (only _ second right).symm
      · intro call same begins
        cases same
        have calls : state.pollBegins = true := begins
        simp [calls]

theorem stop (timed : Timed state) : Timed state.stop := by
  rw [AgentState.stop]
  split
  · rename_i timer named
    refine ⟨?_, (fun _ none => nomatch none), timed.callers, timed.single, fun _ _ => rfl⟩
    intro other
    change (state.timers.set timer false)[other]? = some true ↔ none = some other
    rw [getElem?_set_false, timed.fires, named]
    simp
  · rename_i none
    refine ⟨timed.fires, ?_, timed.callers, timed.single, timed.waiting⟩
    intro timer named
    exact absurd (none.symm.trans named) (fun same => nomatch same)

theorem resume (timed : Timed state) {call : Nat} (checked : state.calls[call]? = some .checked) :
    Timed (state.resume call) := by
  have noTimer := timed.waiting call (Or.inr checked)
  have noneFires (timer : Nat) : ¬ state.timers[timer]? = some true := by
    rw [timed.fires, noTimer]
    exact fun same => nomatch same
  have still {index : Nat} (apart : call ≠ index) :
      (state.calls.set call .returned)[index]? = state.calls[index]? :=
    List.getElem?_set_ne apart
  have nobody (index : Nat) : ¬ ((state.calls.set call .returned)[index]? = some .checking ∨
      (state.calls.set call .returned)[index]? = some .checked) := by
    intro pending
    by_cases same : call = index
    · subst same
      rw [List.getElem?_set_self (List.getElem?_eq_some_iff.mp checked).1] at pending
      rcases pending with equal | equal <;> cases equal
    · rw [still same] at pending
      exact same (timed.single call index (Or.inr checked) pending)
  have callers : ∀ run ∈ state.polls, ∀ other, run.caller = some other →
      (state.calls.set call .returned)[other]? = some .checking := by
    intro run listed other called
    have there := timed.callers run listed other called
    have apart : call ≠ other := by
      rintro rfl
      exact nomatch checked.symm.trans there
    rw [still apart]
    exact there
  rw [AgentState.resume]
  split
  · rename_i running
    refine ⟨?_, fun _ _ => running, callers, fun first _ left => absurd left (nobody first),
      fun index pending => absurd pending (nobody index)⟩
    intro timer
    change (state.timers ++ [true])[timer]? = some true ↔ some state.timers.length = some timer
    rw [getElem?_append_true, or_iff_right (noneFires timer), Option.some.injEq]
    exact eq_comm
  · refine ⟨?_, (fun _ none => nomatch none), callers,
      fun first _ left => absurd left (nobody first), fun _ _ => rfl⟩
    intro timer
    change ((state.timers ++ [true]).set state.timers.length false)[timer]? = some true ↔
      none = some timer
    rw [getElem?_set_false, getElem?_append_true, or_iff_right (noneFires timer)]
    simp [eq_comm]

theorem of_eq (timed : Timed state) {next : AgentState} (timers : next.timers = state.timers)
    (pollTimer : next.pollTimer = state.pollTimer) (running : next.running = state.running)
    (calls : next.calls = state.calls)
    (callers : ∀ run ∈ next.polls, ∃ old ∈ state.polls, run.caller = old.caller) :
    Timed next where
  fires := by rw [timers, pollTimer]; exact timed.fires
  running := by rw [pollTimer, running]; exact timed.running
  callers := by
    intro run listed call called
    rcases callers run listed with ⟨old, known, same⟩
    rw [calls]
    exact timed.callers old known call (same.symm.trans called)
  single := by
    intro first second
    rw [Pending, Pending, calls]
    exact timed.single first second
  waiting := by
    intro call
    rw [Pending, calls, pollTimer]
    exact timed.waiting call

theorem withPhase (timed : Timed state) {run : PollRun} {index : Nat}
    (here : state.polls[index]? = some run) (jobs : JobsState) (phase : PollPhase) :
    Timed ({ state with jobs }.withPhase index run phase) := by
  refine timed.of_eq rfl rfl rfl rfl ?_
  intro other listed
  rcases List.mem_or_eq_of_mem_set listed with old | rfl
  · exact ⟨other, old, rfl⟩
  · exact ⟨run, List.mem_of_getElem? here, rfl⟩

theorem endPoll (timed : Timed state) {run : PollRun} {index : Nat} (one : state.polls = [run])
    (here : state.polls[index]? = some run) (jobs : JobsState) (poll : Poll) :
    Timed ({ state with jobs }.endPoll index run poll) := by
  have first : index = 0 := by
    rw [one] at here
    cases index with
    | zero => rfl
    | succ index => cases here
  subst first
  have emptied : state.polls.eraseIdx 0 = [] := by rw [one]; rfl
  cases called : run.caller with
  | none =>
      apply timed.of_eq
      all_goals simp [AgentState.endPoll, called, emptied]
  | some call =>
      have checking := timed.callers run (List.mem_of_getElem? here) call called
      have inside := (List.getElem?_eq_some_iff.mp checking).1
      have pending (index : Nat) (holds : (state.calls.set call .checked)[index]? = some .checking ∨
          (state.calls.set call .checked)[index]? = some .checked) : Pending state index := by
        by_cases same : call = index
        · exact same ▸ Or.inl checking
        · rw [List.getElem?_set_ne same] at holds
          exact holds
      have calls : ({ state with jobs }.endPoll 0 run poll).calls =
          state.calls.set call .checked := by
        rw [AgentState.endPoll, called]
      refine ⟨timed.fires, timed.running, ?_, ?_, ?_⟩
      · intro other listed
        change other ∈ state.polls.eraseIdx 0 at listed
        rw [emptied] at listed
        cases listed
      · intro first second left right
        rw [Pending, calls] at left right
        exact timed.single first second (pending first left) (pending second right)
      · intro index holds
        rw [Pending, calls] at holds
        exact timed.waiting index (pending index holds)

theorem step (timed : Timed state) (sequential : Sequential state) {event : AgentEvent}
    (one : OneStart state event) {next : AgentState}
    (stepped : lifecycleStep state event = some next) : Timed next := by
  cases event with
  | setHandler =>
      cases stepped
      exact timed.of_eq rfl rfl rfl rfl fun run listed => ⟨run, listed, rfl⟩
  | start token =>
      cases stepped
      exact timed.start one
  | stop =>
      cases stepped
      exact timed.stop
  | tick timer =>
      rw [lifecycleStep] at stepped
      split at stepped
      · cases stepped
        split
        · exact timed.checkForJobs fun _ none => nomatch none
        · exact timed
      · cases stepped
  | respond index answer maxPerPoll =>
      rw [lifecycleStep] at stepped
      split at stepped
      · rename_i caller here
        cases stepped
        cases answer with
        | error message => exact timed.endPoll (sequential.only here).1 here _ _
        | ok allJobs => exact timed.withPhase here _ _
      · cases stepped
  | next index =>
      rw [lifecycleStep] at stepped
      split at stepped
      · rename_i caller offered rest allJobs maxPerPoll here
        cases stepped
        have finished := timed.endPoll (sequential.only here).1 here (prune state.jobs allJobs)
          (pollOf offered rest allJobs maxPerPoll)
        cases rest with
        | nil => exact finished
        | cons job rest =>
            rw [AgentState.next]
            split
            · have handled := timed.withPhase here state.jobs
                (.handling offered job rest allJobs maxPerPoll)
              exact handled.of_eq rfl rfl rfl rfl fun run listed => ⟨run, listed, rfl⟩
            · exact finished
      · cases stepped
  | finishJob index =>
      rw [lifecycleStep] at stepped
      split at stepped
      · rename_i caller offered job rest allJobs maxPerPoll here
        cases stepped
        exact timed.withPhase here _ _
      · cases stepped
  | resume call =>
      rw [lifecycleStep] at stepped
      split at stepped
      · rename_i checked
        cases stepped
        exact timed.resume checked
      · cases stepped

end Timed

/-- Where no start overlaps another one, the field holds the only timer that fires, so
that `stop` leaves none behind. -/
theorem lifecycle_timers {events : List AgentEvent} {state : AgentState}
    (runs : lifecycleMachine.Runs OneStart {} events state) :
    (∀ timer : Nat, state.timers[timer]? = some true ↔ state.pollTimer = some timer) ∧
      ∀ timer : Nat, ¬ state.stop.timers[timer]? = some true := by
  have invariant : Sequential state ∧ Timed state := by
    apply runs.preserves (fun state => Sequential state ∧ Timed state)
    · exact fun _ _ _ one holds stepped =>
        ⟨holds.1.step stepped, holds.2.step holds.1 one stepped⟩
    · refine ⟨.idle rfl rfl rfl, ?_⟩
      constructor <;> simp [Pending]
  refine ⟨invariant.2.fires, ?_⟩
  intro timer fires
  have named := (invariant.2.stop.fires timer).mp fires
  rw [AgentState.stop] at named
  split at named
  · cases named
  · rename_i none
    exact nomatch none.symm.trans named

theorem lifecycle_timers_restarted :
    ∃ state : AgentState, state.started = 1 ∧
      (∀ timer : Nat, state.timers[timer]? = some true ↔ state.pollTimer = some timer) ∧
      ∀ timer : Nat, ¬ state.stop.timers[timer]? = some true := by
  have runs : lifecycleMachine.Runs OneStart {} [.start true, .stop, .resume 0, .start true,
      .resume 1] _ :=
    .cons (Or.inr (by simp [Pending])) rfl (.cons trivial rfl (.cons trivial rfl
      (.cons (Or.inr (by
        rintro (_ | index) <;> simp [Pending, AgentState.start, AgentState.stop,
          AgentState.resume, AgentState.checkForJobs, AgentState.clearInterval, pollBegins]))
        rfl (.cons trivial rfl (.nil _)))))
  exact ⟨_, rfl, lifecycle_timers runs⟩

/-- A start that overlaps another one leaves a timer that no stop clears. -/
example : (lifecycleMachine.run {} [.setHandler, .start true, .stop, .start true, .resume 1,
    .respond 0 (.ok []) 50, .next 0, .resume 0, .stop]).map AgentState.timers =
      some [true, false] := rfl

end SovAgent.Lifecycle

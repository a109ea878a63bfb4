import SovAgent.Agent.JobAcceptance
import SovAgent.Foundation.Execution

/-! # Starting and stopping

The agent polls once when it starts and then whenever its timer fires. Calls of
`start` and `stop`, timers and the steps of a poll interleave as they like; a
segment of the program that does not suspend is one event.
-/

namespace SovAgent.Lifecycle

open JobPolling

/-! ## The state -/

/-- Where a call of `start` stands. -/
inductive StartCall where
  | checking
  | checked
  | returned
  | failed
deriving DecidableEq

/-- What `checkForJobs` waits for. -/
inductive PollPhase where
  | fetching
  | listing (offered rest : List JobOffer) (allJobs : List JobOffer) (maxPerPoll : Nat)
  /-- The handler, the signer or the platform has a job. -/
  | handling (offered : List JobOffer) (job : JobOffer) (rest : List JobOffer)
      (allJobs : List JobOffer) (maxPerPoll : Nat)

/-- A poll that has passed its guards, with the call of `start` that waits for it. -/
structure PollRun where
  caller : Option Nat
  phase : PollPhase

structure AgentState where
  handler : Bool := false
  running : Bool := false
  polling : Bool := false
  pollTimer : Option Nat := none
  calls : List StartCall := []
  polls : List PollRun := []
  jobs : JobsState := {}
  timers : List Bool := []
  /-- How often `started` was emitted. -/
  started : Nat := 0
  ended : List Poll := []
  taken : Nat := 0

inductive AgentEvent where
  | setHandler
  | start (token : Bool)
  | stop
  | tick (timer : Nat)
  | respond (poll : Nat) (answer : Except String (List JobOffer)) (maxPerPoll : Nat)
  | next (poll : Nat)
  | finishJob (poll : Nat)
  /-- A call of `start` goes on after its first check. -/
  | resume (call : Nat)

namespace AgentState

/-! ## The steps -/

def checkForJobs (state : AgentState) (caller : Option Nat) : AgentState :=
  if state.handler = false ∨ state.polling = true then state
  else { state with polling := true, polls := state.polls ++ [⟨caller, .fetching⟩] }

/-- The guards of `checkForJobs` let a poll begin. -/
def pollBegins (state : AgentState) : Bool := state.handler && !state.polling

def start (state : AgentState) (token : Bool) : AgentState :=
  if state.running then { state with calls := state.calls ++ [.returned] }
  else if token = false then { state with calls := state.calls ++ [.failed] }
  else
    let call : StartCall := if state.pollBegins then .checking else .checked
    { state with running := true, calls := state.calls ++ [call] }.checkForJobs
      (some state.calls.length)

def clearInterval (state : AgentState) (timer : Nat) : AgentState :=
  { state with timers := state.timers.set timer false }

def stop (state : AgentState) : AgentState :=
  match state.pollTimer with
  | some timer => { state.clearInterval timer with pollTimer := none, running := false }
  | none => { state with running := false }

/-- `start` after its first check: the timer, and the guard against a `stop` in between. -/
def resume (state : AgentState) (call : Nat) : AgentState :=
  let timer := state.timers.length
  let returned := { state with
    calls := state.calls.set call .returned
    timers := state.timers ++ [true]
    pollTimer := some timer }
  if returned.running then { returned with started := state.started + 1 }
  else { returned.clearInterval timer with pollTimer := none }

/-- The `finally` block, and the promise that the caller waits for. -/
def endPoll (state : AgentState) (index : Nat) (run : PollRun) (poll : Poll) : AgentState :=
  { state with
    polling := false
    polls := state.polls.eraseIdx index
    calls := match run.caller with
      | some call => state.calls.set call .checked
      | none => state.calls
    ended := state.ended ++ [poll] }

def withPhase (state : AgentState) (index : Nat) (run : PollRun) (phase : PollPhase) :
    AgentState :=
  { state with polls := state.polls.set index { run with phase } }

/-- The offers with what each of them found `running` to be. -/
def withRunning (running : Bool) (offers : List JobOffer) : List JobOffer :=
  offers.map fun job => { job with running }

/-- The poll as its loop went: the jobs that had their turn, and those that had none. -/
def pollOf (offered rest allJobs : List JobOffer) (maxPerPoll : Nat) : Poll where
  getMyJobs := .ok
    (withRunning true offered ++ withRunning false rest ++ allJobs.drop maxPerPoll)
  maxPerPoll := maxPerPoll

/-- The eviction and the pruning after the loop. -/
def prune (jobs : JobsState) (allJobs : List JobOffer) : JobsState :=
  { jobs with
    seenJobIds := evict jobs.seenJobIds
    acceptFailures := pruneAcceptFailures jobs.acceptFailures (pendingIds allJobs) }

def respond (state : AgentState) (index : Nat) (run : PollRun)
    (answer : Except String (List JobOffer)) (maxPerPoll : Nat) : AgentState :=
  match answer with
  | .error message =>
      { state with jobs := state.jobs.record [.error message] }.endPoll index run
        ⟨answer, maxPerPoll⟩
  | .ok allJobs =>
      state.withPhase index run (.listing [] (allJobs.take maxPerPoll) allJobs maxPerPoll)

def next (state : AgentState) (index : Nat) (run : PollRun)
    (offered rest allJobs : List JobOffer) (maxPerPoll : Nat) : AgentState :=
  let finish := { state with jobs := prune state.jobs allJobs }.endPoll index run
    (pollOf offered rest allJobs maxPerPoll)
  match rest with
  | [] => finish
  | job :: rest =>
      if state.running then
        { state.withPhase index run (.handling offered job rest allJobs maxPerPoll) with
          taken := state.taken + 1 }
      else finish

def finishJob (state : AgentState) (index : Nat) (run : PollRun) (offered : List JobOffer)
    (job : JobOffer) (rest allJobs : List JobOffer) (maxPerPoll : Nat) : AgentState :=
  { state with jobs := state.jobs.offer job }.withPhase index run
    (.listing (offered ++ [job]) rest allJobs maxPerPoll)

end AgentState

open AgentState

def lifecycleStep (state : AgentState) : AgentEvent → Option AgentState
  | .setHandler => some { state with handler := true }
  | .start token => some (state.start token)
  | .stop => some state.stop
  | .tick timer =>
      if state.timers[timer]? = some true then
        some (if state.running then state.checkForJobs none else state)
      else none
  | .respond index answer maxPerPoll =>
      match state.polls[index]? with
      | some ⟨caller, .fetching⟩ =>
          some (state.respond index ⟨caller, .fetching⟩ answer maxPerPoll)
      | _ => none
  | .next index =>
      match state.polls[index]? with
      | some ⟨caller, .listing offered rest allJobs maxPerPoll⟩ =>
          some (state.next index ⟨caller, .listing offered rest allJobs maxPerPoll⟩ offered rest
            allJobs maxPerPoll)
      | _ => none
  | .finishJob index =>
      match state.polls[index]? with
      | some ⟨caller, .handling offered job rest allJobs maxPerPoll⟩ =>
          some (state.finishJob index ⟨caller, .handling offered job rest allJobs maxPerPoll⟩
            offered job rest allJobs maxPerPoll)
      | _ => none
  | .resume call =>
      if state.calls[call]? = some .checked then some (state.resume call) else none

def lifecycleMachine : Machine AgentState AgentEvent where
  step := lifecycleStep

end SovAgent.Lifecycle

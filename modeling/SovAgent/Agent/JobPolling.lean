import SovAgent.Foundation.Record

/-! # Polling for job requests

Each poll offers the pending jobs of the platform's response to the handler. A
job is seen when its acceptance is decided; failed attempts to accept it are
counted until then, and a job that fails too often is abandoned. The handler,
the signer and the platform answer as they like.
-/

namespace SovAgent.JobPolling

def maxAcceptAttempts : Nat := 5

def maxSeenJobs : Nat := 10000

/-! ## Counting failures -/

abbrev AcceptFailures := Record String Nat

structure AcceptFailureResult where
  attempts : Nat
  giveUp : Bool

def recordAcceptFailure (failures : AcceptFailures) (jobId : String) (maxAttempts : Nat) :
    AcceptFailures × AcceptFailureResult :=
  let attempts := (failures.get? jobId).getD 0 + 1
  (failures.set jobId attempts, { attempts, giveUp := maxAttempts ≤ attempts })

def clearAcceptFailure (failures : AcceptFailures) (jobId : String) : AcceptFailures :=
  failures.filterKeys fun key => key ≠ jobId

def pruneAcceptFailures (failures : AcceptFailures) (stillPendingIds : List String) :
    AcceptFailures :=
  failures.filterKeys fun key => key ∈ stillPendingIds

/-! ## One job -/

inductive Decision where
  | accept
  | reject
  | hold
deriving DecidableEq, Repr

/-- A job of the response, with what happens when its turn comes. -/
structure JobOffer where
  id : Option String
  jobHash : Option String
  running : Bool := true
  /-- What the handler decides or throws, if it has `onJobRequested`. -/
  onJobRequested : Option (Except String Decision)
  /-- There are a key or a signer, and an i-address. -/
  canAccept : Bool := true
  signBrokered : Except String Unit
  acceptJob : Except String Unit

inductive JobEvent where
  | requested (jobId : String)
  | asked (jobId : String)
  | attempted (jobId : String)
  | acceptJob (jobId : String) (resolved : Bool)
  | failed (jobId : String) (attempts : Nat) (abandoned : Bool)
  | accepted (jobId : String)
  | rejected (jobId : String)
  | error (message : String)
deriving DecidableEq, Repr

structure JobsState where
  seenJobIds : List String := []
  acceptFailures : AcceptFailures := Record.empty
  events : List JobEvent := []

namespace JobsState

def record (state : JobsState) (news : List JobEvent) : JobsState :=
  { state with events := state.events ++ news }

def settle (state : JobsState) (jobId : String) : JobsState :=
  { state with
    seenJobIds := state.seenJobIds ++ [jobId]
    acceptFailures := clearAcceptFailure state.acceptFailures jobId }

def failAttempt (state : JobsState) (jobId : String)
    (abandonedMessage failedMessage : Nat → String) : JobsState :=
  let (acceptFailures, result) :=
    recordAcceptFailure state.acceptFailures jobId maxAcceptAttempts
  let counted := { state with acceptFailures }
  if result.giveUp then
    (counted.settle jobId).record
      [.failed jobId result.attempts true, .error (abandonedMessage result.attempts)]
  else
    counted.record [.failed jobId result.attempts false, .error (failedMessage result.attempts)]

/-- The `try` block of an accepted job. -/
def attempt (state : JobsState) (jobId : String) (job : JobOffer) : JobsState :=
  let attempted := state.record [.attempted jobId]
  match job.jobHash.filter (· ≠ "") with
  | none =>
      attempted.failAttempt jobId
        (fun attempts =>
          s!"Job {jobId} abandoned after {attempts} failed accept attempts: missing jobHash")
        (fun attempts => s!"Cannot accept job {jobId}: missing jobHash " ++
          s!"(attempt {attempts}/{maxAcceptAttempts})")
  | some _ =>
      let failed := fun (state : JobsState) (message : String) =>
        state.failAttempt jobId
          (fun attempts =>
            s!"Job {jobId} abandoned after {attempts} failed accept attempts: {message}")
          (fun attempts => s!"Failed to accept job {jobId} " ++
            s!"(attempt {attempts}/{maxAcceptAttempts}): {message}")
      match job.signBrokered with
      | .error message => failed attempted message
      | .ok _ =>
          match job.acceptJob with
          | .error message => failed (attempted.record [.acceptJob jobId false]) message
          | .ok _ =>
              ((attempted.record [.acceptJob jobId true]).settle jobId).record [.accepted jobId]

def afterDecision (state : JobsState) (jobId : String) (job : JobOffer) :
    Except String Decision → JobsState
  | .ok .accept =>
      if job.canAccept then state.attempt jobId job
      else state.record
        [.error s!"Cannot accept job {jobId}: WIF/remote-signer and i-address required"]
  | .ok .reject => (state.settle jobId).record [.rejected jobId]
  | .ok .hold => state
  | .error message => state.record [.error message]

def offer (state : JobsState) (job : JobOffer) : JobsState :=
  match job.id.filter (· ≠ "") with
  | none => state
  | some jobId =>
      if jobId ∈ state.seenJobIds then state
      else
        let requested := state.record [.requested jobId]
        match job.onJobRequested with
        | some decision => (requested.record [.asked jobId]).afterDecision jobId job decision
        | none => requested.settle jobId

end JobsState

/-! ## One poll -/

/-- A poll that gets past the guards on `handler` and `polling`, with the number
of jobs that the slice of the response keeps. -/
structure Poll where
  getMyJobs : Except String (List JobOffer)
  maxPerPoll : Nat

def pendingIds (allJobs : List JobOffer) : List String :=
  allJobs.filterMap fun job => job.id.filter (· ≠ "")

/-- The loop that deletes the oldest ids of a set that has grown too large. -/
def evict : List String → List String
  | [] => []
  | first :: rest => if maxSeenJobs < (first :: rest).length then evict rest else first :: rest

namespace JobsState

def checkForJobs (state : JobsState) (poll : Poll) : JobsState :=
  match poll.getMyJobs with
  | .error message => state.record [.error message]
  | .ok allJobs =>
      let jobs := (allJobs.take poll.maxPerPoll).takeWhile JobOffer.running
      let offered := jobs.foldl offer state
      { offered with
        seenJobIds := evict offered.seenJobIds
        acceptFailures := pruneAcceptFailures offered.acceptFailures (pendingIds allJobs) }

def polled (polls : List Poll) : JobsState := polls.foldl checkForJobs {}

end JobsState

end SovAgent.JobPolling

import SovAgent.Agent.LoginWaits

/-! # How long a login takes

Every answer and every continuation uses up some of what a state has left to
do, so without new calls only so many of them can happen.
-/

namespace SovAgent.Login

section Remaining

variable (maxRetries : Nat)

/-- A client's first attempt may enter a login with a request of its own. -/
def RequestPhase.remaining (forLogin : Bool) : RequestPhase → Nat
  | .attempting number =>
      3 * (maxRetries - number) + 3 +
        if forLogin = true ∨ number ≠ 0 then 0 else 3 * maxRetries + 8
  | .sessionExpired number _ => 3 * (maxRetries - number) + 1
  | .backingOff number => 3 * (maxRetries - number) + 1
  | .settled _ => 0

def Request.remaining (request : Request) : Nat :=
  request.phase.remaining maxRetries request.challengeOf.isSome

def LoginImpl.remaining : LoginImpl → Nat
  | .getConsentChallenge _ => 3
  | .signMessage => 2
  | .verify => 1
  | .settled _ => 0

def LoginCall.remaining (call : LoginCall) : Nat :=
  if call.result.isSome then 0 else 1

def AgentState.remaining (state : AgentState) : Nat :=
  (state.calls.map LoginCall.remaining).sum + (state.impls.map LoginImpl.remaining).sum +
    (state.requests.map (Request.remaining maxRetries)).sum

end Remaining

variable {maxRetries : Nat} {state next : AgentState}

theorem setRequest_remaining {request : Nat} {entry : Request}
    (found : state.requests[request]? = some entry) (phase : RequestPhase) :
    (state.setRequest request phase).remaining maxRetries + entry.remaining maxRetries =
      state.remaining maxRetries + phase.remaining maxRetries entry.challengeOf.isSome := by
  have changed := sum_map_modify (Request.remaining maxRetries)
    (fun entry => { entry with phase }) found
  simp only [AgentState.setRequest, AgentState.remaining]
  change _ = _ + phase.remaining maxRetries entry.challengeOf.isSome at changed
  omega

theorem setImpl_remaining {impl : Nat} {before : LoginImpl}
    (found : state.impls[impl]? = some before) (phase : LoginImpl) :
    (state.setImpl impl phase).remaining maxRetries + before.remaining =
      state.remaining maxRetries + phase.remaining := by
  have changed := sum_map_modify LoginImpl.remaining (fun _ => phase) found
  simp only [AgentState.setImpl, AgentState.remaining]
  omega

theorem afterLogin_remaining {call impl : Nat} {owner succeeded : Bool}
    (called : state.calls[call]? = some ⟨impl, owner, none⟩) :
    (state.afterLogin call owner succeeded).remaining maxRetries + 1 =
      state.remaining maxRetries := by
  have changed := sum_map_modify LoginCall.remaining
    (fun entry => { entry with result := some succeeded }) called
  simp only [AgentState.afterLogin, AgentState.remaining]
  simp only [LoginCall.remaining, Option.isSome_none, Option.isSome_some] at changed ⊢
  simp only [Bool.false_eq_true, if_false, if_true] at changed
  omega

theorem attempt_remaining (forLogin : Bool) (number : Nat) :
    (AgentState.attempt maxRetries number).remaining maxRetries forLogin ≤
      3 * (maxRetries - number) + 3 +
        if forLogin = true ∨ number ≠ 0 then 0 else 3 * maxRetries + 8 := by
  rw [AgentState.attempt]
  split
  · exact Nat.le_refl _
  · exact Nat.zero_le _

theorem attempt_succ_remaining (forLogin : Bool) (number : Nat) :
    (AgentState.attempt maxRetries (number + 1)).remaining maxRetries forLogin ≤
      3 * (maxRetries - number) := by
  rw [AgentState.attempt]
  split
  · simp only [RequestPhase.remaining, if_pos (Or.inr (Nat.succ_ne_zero number))]
    omega
  · exact Nat.zero_le _

theorem resume_remaining {request number : Nat} {entry : Request}
    (found : state.requests[request]? = some entry)
    (paused : entry.remaining maxRetries = 3 * (maxRetries - number) + 1) :
    (state.setRequest request (AgentState.attempt maxRetries (number + 1))).remaining maxRetries <
      state.remaining maxRetries := by
  have again := @attempt_succ_remaining maxRetries entry.challengeOf.isSome number
  have resumed := @setRequest_remaining maxRetries _ request _ found
    (AgentState.attempt maxRetries (number + 1))
  omega

theorem login_remaining (maxRetries : Nat) (state : AgentState) :
    (state.login maxRetries).remaining maxRetries ≤ state.remaining maxRetries +
      if state.loginPromise.isSome then 1 else 3 * maxRetries + 7 := by
  rw [AgentState.login]
  split
  · rename_i impl promise
    simp only [AgentState.remaining, sum_map_concat, promise, Option.isSome_some, if_true]
    simp only [LoginCall.remaining, Option.isSome_none, Bool.false_eq_true, if_false]
    omega
  · rename_i free
    simp only [free, Option.isSome_none, Bool.false_eq_true, if_false]
    split
    · have asked := @attempt_remaining maxRetries true 0
      simp only [AgentState.remaining, AgentState.request, sum_map_concat]
      simp only [LoginCall.remaining, LoginImpl.remaining, Request.remaining,
        Option.isSome_none, Option.isSome_some, Bool.false_eq_true, if_false]
      simp only [true_or, if_true] at asked
      omega
    · simp only [AgentState.remaining, sum_map_concat]
      simp only [LoginCall.remaining, LoginImpl.remaining, Option.isSome_none,
        Bool.false_eq_true, if_false]
      omega

theorem afterAttempt_remaining (wired : Wired state) {request number : Nat}
    {challengeOf : Option Nat}
    (found : state.requests[request]? = some ⟨challengeOf, .attempting number⟩)
    (outcome : Except Failure Unit) :
    (state.afterAttempt maxRetries request number outcome).remaining maxRetries <
      state.remaining maxRetries := by
  have settles := fun succeeded => @setRequest_remaining maxRetries state request _ found
    (.settled succeeded)
  simp only [Request.remaining, RequestPhase.remaining] at settles
  cases outcome with
  | ok _ =>
      have settled := settles true
      change (state.setRequest request (.settled true)).remaining maxRetries < _
      omega
  | error failure =>
      have failed := settles false
      rw [AgentState.afterAttempt]
      split
      · split
        · rename_i first
          subst first
          have entered := login_remaining maxRetries state
          have suspended := @setRequest_remaining maxRetries _ request _
            (@login_requests maxRetries _ _ _ found) (.sessionExpired 0 state.calls.length)
          simp only [Request.remaining, RequestPhase.remaining] at suspended
          cases challengeOf with
          | none =>
              simp only [Option.isSome_none, Bool.false_eq_true, false_or, ne_eq,
                not_true_eq_false, if_false] at suspended
              split at entered <;> omega
          | some impl =>
              have promise := wired.pending (wired.requestImpl found rfl) rfl
              simp only [promise, Option.isSome_some, true_or, if_true] at entered suspended
              omega
        · omega
      · split
        · omega
        · have suspended := @setRequest_remaining maxRetries _ request _ found (.backingOff number)
          simp only [Request.remaining, RequestPhase.remaining] at suspended
          omega

theorem step_remaining (wired : Wired state) {event : LoginEvent}
    (stepped : loginStep maxRetries state event = some next) (answers : event.subject ≠ none) :
    next.remaining maxRetries < state.remaining maxRetries := by
  cases steps_of_loginStep stepped with
  | configure => exact absurd rfl answers
  | login => exact absurd rfl answers
  | request => exact absurd rfl answers
  | response found => exact afterAttempt_remaining wired found _
  | backedOff found => exact resume_remaining found rfl
  | renewed found => exact resume_remaining found rfl
  | @notRenewed request _ _ _ found =>
      have failed := @setRequest_remaining maxRetries _ request _ found (.settled false)
      simp only [Request.remaining, RequestPhase.remaining] at failed
      omega
  | @challenged impl _ _ _ _ suspended =>
      have goesOn := fun phase => @setImpl_remaining maxRetries _ impl _ suspended phase
      split
      · have accepts := goesOn .signMessage
        simp only [LoginImpl.remaining] at accepts
        omega
      · have fails := goesOn (.settled false)
        simp only [LoginImpl.remaining] at fails
        omega
  | @signed impl _ suspended =>
      have goesOn := fun phase => @setImpl_remaining maxRetries _ impl _ suspended phase
      split
      · have signs := goesOn .verify
        simp only [LoginImpl.remaining] at signs
        omega
      · have fails := goesOn (.settled false)
        simp only [LoginImpl.remaining] at fails
        omega
  | @verified impl succeeded suspended =>
      have settles := @setImpl_remaining maxRetries _ impl _ suspended (.settled succeeded)
      simp only [LoginImpl.remaining] at settles
      omega
  | @loggedIn call impl owner succeeded called =>
      have settles := @afterLogin_remaining maxRetries _ call impl owner succeeded called
      omega

/-- Without new calls, a run is no longer than what there is left to do. -/
theorem run_length_le (wired : Wired state) {events : List LoginEvent}
    (answers : ∀ event ∈ events, event.subject ≠ none)
    (executed : (loginMachine maxRetries).run state events = some next) :
    events.length ≤ state.remaining maxRetries := by
  induction events generalizing state with
  | nil => exact Nat.zero_le _
  | cons event events induction =>
      rcases Option.bind_eq_some_iff.mp executed with ⟨middle, stepped, rest⟩
      have decreased := step_remaining wired stepped (answers event List.mem_cons_self)
      have later := induction (wired.step stepped)
        (fun other member => answers other (List.mem_cons_of_mem event member)) rest
      rw [List.length_cons]
      omega

end SovAgent.Login

import SovAgent.Foundation.Execution
import SovAgent.Foundation.ListUpdate

/-! # Logging in

Concurrent `login()` calls share one promise, the login asks for its challenge
through the client's `request`, and `request` calls `login()` when a session has
expired. What runs between two awaits is one event.
-/

namespace SovAgent.Login

inductive Failure where
  | j41Error (statusCode : Nat)
  /-- Any other `Error`. -/
  | error
  /-- An `AbortError`, or what is not an `Error`. -/
  | aborted
deriving DecidableEq, Repr

def Failure.isAuthError : Failure → Bool
  | .j41Error statusCode => statusCode = 401 || statusCode = 403
  | _ => false

def Failure.isRetryable : Failure → Bool
  | .j41Error statusCode => statusCode = 429 || 500 ≤ statusCode
  | .error => true
  | .aborted => false

/-- The await at which a `request` call is suspended. -/
inductive RequestPhase where
  | attempting (attempt : Nat)
  | sessionExpired (attempt loginCall : Nat)
  | backingOff (attempt : Nat)
  | settled (succeeded : Bool)
deriving DecidableEq, Repr

structure Request where
  /-- The login that asks for its challenge, if it is one. -/
  challengeOf : Option Nat
  phase : RequestPhase
deriving DecidableEq, Repr

/-- The await at which `_loginImpl` is suspended. -/
inductive LoginImpl where
  | getConsentChallenge (request : Nat)
  | signMessage
  | verify
  | settled (succeeded : Bool)
deriving DecidableEq, Repr

structure LoginCall where
  impl : Nat
  /-- The call that set `loginPromise`, and resets it. -/
  owner : Bool
  result : Option Bool := none
deriving DecidableEq, Repr

structure AgentState where
  /-- There are an identity name and a key or a signer. -/
  configured : Bool
  loginPromise : Option Nat := none
  calls : List LoginCall := []
  impls : List LoginImpl := []
  requests : List Request := []
deriving DecidableEq, Repr

def RequestPhase.isSettled : RequestPhase → Bool
  | .settled _ => true
  | _ => false

def LoginImpl.isSettled : LoginImpl → Bool
  | .settled _ => true
  | _ => false

namespace AgentState

def setRequest (state : AgentState) (request : Nat) (phase : RequestPhase) : AgentState :=
  { state with requests := state.requests.modify request fun entry => { entry with phase } }

def setImpl (state : AgentState) (impl : Nat) (phase : LoginImpl) : AgentState :=
  { state with impls := state.impls.modify impl fun _ => phase }

/-- The loop of `request` comes to an attempt. -/
def attempt (maxRetries number : Nat) : RequestPhase :=
  if number < maxRetries then .attempting number else .settled false

def request (maxRetries : Nat) (state : AgentState) (challengeOf : Option Nat) : AgentState :=
  { state with requests := state.requests ++ [⟨challengeOf, attempt maxRetries 0⟩] }

def login (maxRetries : Nat) (state : AgentState) : AgentState :=
  match state.loginPromise with
  | some impl => { state with calls := state.calls ++ [{ impl, owner := false }] }
  | none =>
      let impl := state.impls.length
      let entered : AgentState := { state with
        loginPromise := some impl
        calls := state.calls ++ [{ impl, owner := true }] }
      if state.configured then
        let suspended := LoginImpl.getConsentChallenge state.requests.length
        request maxRetries { entered with impls := state.impls ++ [suspended] } (some impl)
      else { entered with impls := state.impls ++ [.settled false] }

def afterAttempt (maxRetries : Nat) (state : AgentState) (request number : Nat) :
    Except Failure Unit → AgentState
  | .ok _ => state.setRequest request (.settled true)
  | .error failure =>
      if failure.isAuthError then
        if number = 0 then
          (state.login maxRetries).setRequest request (.sessionExpired number state.calls.length)
        else state.setRequest request (.settled false)
      else if failure.isRetryable = false ∨ number = maxRetries - 1 then
        state.setRequest request (.settled false)
      else state.setRequest request (.backingOff number)

def afterLogin (state : AgentState) (call : Nat) (owner succeeded : Bool) : AgentState :=
  { state with
    loginPromise := if owner then none else state.loginPromise
    calls := state.calls.modify call fun entry => { entry with result := some succeeded } }

end AgentState

inductive LoginEvent where
  | configure (configured : Bool)
  | login
  | request
  /-- An attempt of a request comes back. -/
  | response (request : Nat) (outcome : Except Failure Unit)
  | backedOff (request : Nat)
  | reauthenticated (request : Nat)
  /-- The challenge's request has settled, and the challenge is accepted or not. -/
  | challenged (impl : Nat) (accepted : Bool)
  | signed (impl : Nat) (succeeded : Bool)
  | verified (impl : Nat) (succeeded : Bool)
  | loggedIn (call : Nat)

def loginStep (maxRetries : Nat) (state : AgentState) : LoginEvent → Option AgentState
  | .configure configured => some { state with configured }
  | .login => some (state.login maxRetries)
  | .request => some (state.request maxRetries none)
  | .response request outcome =>
      match state.requests[request]? with
      | some ⟨_, .attempting number⟩ =>
          some (state.afterAttempt maxRetries request number outcome)
      | _ => none
  | .backedOff request =>
      match state.requests[request]? with
      | some ⟨_, .backingOff number⟩ =>
          some (state.setRequest request (AgentState.attempt maxRetries (number + 1)))
      | _ => none
  | .reauthenticated request =>
      match state.requests[request]? with
      | some ⟨_, .sessionExpired number call⟩ =>
          (state.calls[call]?.bind LoginCall.result).map fun succeeded =>
            if succeeded then
              state.setRequest request (AgentState.attempt maxRetries (number + 1))
            else state.setRequest request (.settled false)
      | _ => none
  | .challenged impl accepted =>
      match state.impls[impl]? with
      | some (.getConsentChallenge request) =>
          match state.requests[request]? with
          | some ⟨_, .settled succeeded⟩ =>
              if succeeded && accepted then some (state.setImpl impl .signMessage)
              else some (state.setImpl impl (.settled false))
          | _ => none
      | _ => none
  | .signed impl succeeded =>
      match state.impls[impl]? with
      | some .signMessage =>
          if succeeded then some (state.setImpl impl .verify)
          else some (state.setImpl impl (.settled false))
      | _ => none
  | .verified impl succeeded =>
      match state.impls[impl]? with
      | some .verify => some (state.setImpl impl (.settled succeeded))
      | _ => none
  | .loggedIn call =>
      match state.calls[call]? with
      | some ⟨impl, owner, none⟩ =>
          match state.impls[impl]? with
          | some (.settled succeeded) => some (state.afterLogin call owner succeeded)
          | _ => none
      | _ => none

def loginMachine (maxRetries : Nat) : Machine AgentState LoginEvent where
  step := loginStep maxRetries

/-! ## What a step can do -/

inductive Steps (maxRetries : Nat) (state : AgentState) : LoginEvent → AgentState → Prop
  | configure {configured} :
      Steps maxRetries state (.configure configured) { state with configured }
  | login : Steps maxRetries state .login (state.login maxRetries)
  | request : Steps maxRetries state .request (state.request maxRetries none)
  | response {request outcome challengeOf number} :
      state.requests[request]? = some ⟨challengeOf, .attempting number⟩ →
      Steps maxRetries state (.response request outcome)
        (state.afterAttempt maxRetries request number outcome)
  | backedOff {request challengeOf number} :
      state.requests[request]? = some ⟨challengeOf, .backingOff number⟩ →
      Steps maxRetries state (.backedOff request)
        (state.setRequest request (AgentState.attempt maxRetries (number + 1)))
  | renewed {request challengeOf number call} :
      state.requests[request]? = some ⟨challengeOf, .sessionExpired number call⟩ →
      Steps maxRetries state (.reauthenticated request)
        (state.setRequest request (AgentState.attempt maxRetries (number + 1)))
  | notRenewed {request challengeOf number call} :
      state.requests[request]? = some ⟨challengeOf, .sessionExpired number call⟩ →
      Steps maxRetries state (.reauthenticated request) (state.setRequest request (.settled false))
  | challenged {impl request challengeOf succeeded accepted} :
      state.impls[impl]? = some (.getConsentChallenge request) →
      state.requests[request]? = some ⟨challengeOf, .settled succeeded⟩ →
      Steps maxRetries state (.challenged impl accepted)
        (state.setImpl impl (if succeeded && accepted then .signMessage else .settled false))
  | signed {impl succeeded} :
      state.impls[impl]? = some .signMessage →
      Steps maxRetries state (.signed impl succeeded)
        (state.setImpl impl (if succeeded then .verify else .settled false))
  | verified {impl succeeded} :
      state.impls[impl]? = some .verify →
      Steps maxRetries state (.verified impl succeeded) (state.setImpl impl (.settled succeeded))
  | loggedIn {call impl owner succeeded} :
      state.calls[call]? = some ⟨impl, owner, none⟩ →
      state.impls[impl]? = some (.settled succeeded) →
      Steps maxRetries state (.loggedIn call) (state.afterLogin call owner succeeded)

theorem steps_of_loginStep {maxRetries : Nat} {state next : AgentState} {event : LoginEvent}
    (stepped : loginStep maxRetries state event = some next) :
    Steps maxRetries state event next := by
  cases event with
  | configure configured =>
      cases stepped
      exact .configure
  | login =>
      cases stepped
      exact .login
  | request =>
      cases stepped
      exact .request
  | response request outcome =>
      simp only [loginStep] at stepped
      split at stepped
      · rename_i found
        cases stepped
        exact .response found
      · cases stepped
  | backedOff request =>
      simp only [loginStep] at stepped
      split at stepped
      · rename_i found
        cases stepped
        exact .backedOff found
      · cases stepped
  | reauthenticated request =>
      simp only [loginStep] at stepped
      split at stepped
      · rename_i found
        rcases Option.map_eq_some_iff.mp stepped with ⟨succeeded, _, rfl⟩
        split
        · exact .renewed found
        · exact .notRenewed found
      · cases stepped
  | challenged impl accepted =>
      simp only [loginStep] at stepped
      split at stepped
      · rename_i suspended
        split at stepped
        · rename_i answered
          rw [← apply_ite some, ← apply_ite (state.setImpl impl), Option.some.injEq] at stepped
          subst stepped
          exact .challenged suspended answered
        · cases stepped
      · cases stepped
  | signed impl succeeded =>
      simp only [loginStep] at stepped
      split at stepped
      · rename_i suspended
        rw [← apply_ite some, ← apply_ite (state.setImpl impl), Option.some.injEq] at stepped
        subst stepped
        exact .signed suspended
      · cases stepped
  | verified impl succeeded =>
      simp only [loginStep] at stepped
      split at stepped
      · rename_i suspended
        cases stepped
        exact .verified suspended
      · cases stepped
  | loggedIn call =>
      simp only [loginStep] at stepped
      split at stepped
      · rename_i called
        split at stepped
        · rename_i settled
          cases stepped
          exact .loggedIn called settled
        · cases stepped
      · cases stepped

end SovAgent.Login

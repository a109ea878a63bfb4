import SovAgent.Agent.Login
import Mathlib.Logic.Relation

/-! # What a login waits for

A pending login is the one that `loginPromise` names, so a request that logs in
again while it fetches the challenge of that login waits for itself.
-/

namespace SovAgent.Login

/-! ## The fields of a reachable state -/

/-- How the calls, the logins and the requests of a state refer to each other. -/
structure Wired (state : AgentState) : Prop where
  callImpl : ∀ {index : Nat} {call : LoginCall}, state.calls[index]? = some call →
    call.impl < state.impls.length
  callResult : ∀ {index : Nat} {call : LoginCall} {phase : LoginImpl},
    state.calls[index]? = some call → call.result ≠ none →
      state.impls[call.impl]? = some phase → phase.isSettled = true
  challengeRequest : ∀ {impl request : Nat},
    state.impls[impl]? = some (.getConsentChallenge request) →
      ∃ phase, state.requests[request]? = some ⟨some impl, phase⟩
  requestImpl : ∀ {request impl : Nat} {phase : RequestPhase},
    state.requests[request]? = some ⟨some impl, phase⟩ → phase.isSettled = false →
      state.impls[impl]? = some (.getConsentChallenge request)
  pending : ∀ {impl : Nat} {phase : LoginImpl}, state.impls[impl]? = some phase →
    phase.isSettled = false → state.loginPromise = some impl
  promised : ∀ {impl : Nat}, state.loginPromise = some impl → impl < state.impls.length
  expired : ∀ {request : Nat} {challengeOf : Option Nat} {number index : Nat},
    state.requests[request]? = some ⟨challengeOf, .sessionExpired number index⟩ →
      ∃ call, state.calls[index]? = some call ∧ ∀ impl, challengeOf = some impl → call.impl = impl
  owner : ∀ {index : Nat} {call : LoginCall}, state.calls[index]? = some call →
    call.owner = true → call.result = none → state.loginPromise = some call.impl
  oneOwner : ∀ {first second : Nat} {call other : LoginCall},
    state.calls[first]? = some call → state.calls[second]? = some other →
      call.owner = true → other.owner = true → call.result = none → other.result = none →
        first = second

theorem attempt_ne_sessionExpired (maxRetries attempt number index : Nat) :
    AgentState.attempt maxRetries attempt ≠ .sessionExpired number index := by
  intro same
  rw [AgentState.attempt] at same
  split at same <;> cases same

namespace Wired

variable {state : AgentState} {maxRetries : Nat}

theorem initial (configured : Bool) : Wired { configured } where
  callImpl := by simp
  callResult := by simp
  challengeRequest := by simp
  requestImpl := by simp
  pending := by simp
  promised := by simp
  expired := by simp
  owner := by simp
  oneOwner := by simp

theorem configure (wired : Wired state) (configured : Bool) :
    Wired { state with configured } where
  callImpl := wired.callImpl
  callResult := wired.callResult
  challengeRequest := wired.challengeRequest
  requestImpl := wired.requestImpl
  pending := wired.pending
  promised := wired.promised
  expired := wired.expired
  owner := wired.owner
  oneOwner := wired.oneOwner

theorem request (wired : Wired state) : Wired (state.request maxRetries none) where
  callImpl := wired.callImpl
  callResult := wired.callResult
  challengeRequest := by
    intro impl request found
    rcases wired.challengeRequest found with ⟨phase, requested⟩
    exact ⟨phase, getElem?_concat_eq_some.mpr (.inl requested)⟩
  requestImpl := by
    intro request impl phase found unsettled
    rcases getElem?_concat_eq_some.mp found with old | ⟨_, new⟩
    · exact wired.requestImpl old unsettled
    · cases new
  pending := wired.pending
  promised := wired.promised
  expired := by
    intro request challengeOf number index found
    rcases getElem?_concat_eq_some.mp found with old | ⟨_, new⟩
    · exact wired.expired old
    · exact absurd (congrArg Request.phase new).symm (attempt_ne_sessionExpired _ _ _ _)
  owner := wired.owner
  oneOwner := wired.oneOwner

theorem setRequest (wired : Wired state) {request : Nat} {entry : Request}
    (found : state.requests[request]? = some entry) (unsettled : entry.phase.isSettled = false)
    {phase : RequestPhase} (waits : ∀ number index, phase = .sessionExpired number index →
      ∃ call, state.calls[index]? = some call ∧
        ∀ impl, entry.challengeOf = some impl → call.impl = impl) :
    Wired (state.setRequest request phase) where
  callImpl := wired.callImpl
  callResult := wired.callResult
  challengeRequest := by
    intro impl other suspended
    rcases wired.challengeRequest suspended with ⟨before, requested⟩
    by_cases same : request = other
    · refine ⟨phase, getElem?_modify_eq_some.mpr ⟨_, requested, ?_⟩⟩
      rw [if_pos same]
    · refine ⟨before, getElem?_modify_eq_some.mpr ⟨_, requested, ?_⟩⟩
      rw [if_neg same]
  requestImpl := by
    intro other impl later foundLater unsettledLater
    rcases getElem?_modify_eq_some.mp foundLater with ⟨before, requested, changed⟩
    split at changed
    · rename_i same
      subst same
      rw [found, Option.some.injEq] at requested
      subst requested
      have purpose : entry.challengeOf = some impl := (congrArg Request.challengeOf changed).symm
      apply wired.requestImpl _ unsettled
      rw [found, ← purpose]
    · rw [← changed] at requested
      exact wired.requestImpl requested unsettledLater
  pending := wired.pending
  promised := wired.promised
  expired := by
    intro other challengeOf number index foundLater
    rcases getElem?_modify_eq_some.mp foundLater with ⟨before, requested, changed⟩
    split at changed
    · rename_i same
      subst same
      rw [found, Option.some.injEq] at requested
      subst requested
      rw [Request.mk.injEq] at changed
      rw [changed.1]
      exact waits number index changed.2.symm
    · rw [← changed] at requested
      exact wired.expired requested
  owner := wired.owner
  oneOwner := wired.oneOwner

theorem setImpl (wired : Wired state) {impl : Nat} {before : LoginImpl}
    (found : state.impls[impl]? = some before) (unsettled : before.isSettled = false)
    (requested : ∀ request entry, before = .getConsentChallenge request →
      state.requests[request]? = some entry → entry.phase.isSettled = true)
    {phase : LoginImpl} (passed : ∀ request, phase ≠ .getConsentChallenge request) :
    Wired (state.setImpl impl phase) where
  callImpl := by
    intro index call called
    have within := wired.callImpl called
    simpa [AgentState.setImpl] using within
  callResult := by
    intro index call later called settled foundLater
    rcases getElem?_modify_eq_some.mp foundLater with ⟨old, oldFound, changed⟩
    have oldSettled := wired.callResult called settled oldFound
    split at changed
    · rename_i same
      rw [← same, found, Option.some.injEq] at oldFound
      rw [← oldFound, unsettled] at oldSettled
      cases oldSettled
    · rw [changed]
      exact oldSettled
  challengeRequest := by
    intro other request foundLater
    rcases getElem?_modify_eq_some.mp foundLater with ⟨old, oldFound, changed⟩
    split at changed
    · exact absurd changed.symm (passed request)
    · rw [← changed] at oldFound
      exact wired.challengeRequest oldFound
  requestImpl := by
    intro request other later foundLater unsettledLater
    have old := wired.requestImpl foundLater unsettledLater
    refine getElem?_modify_eq_some.mpr ⟨_, old, ?_⟩
    rw [if_neg]
    intro same
    rw [← same, found, Option.some.injEq] at old
    have settled := requested request _ old foundLater
    rw [unsettledLater] at settled
    cases settled
  pending := by
    intro other later foundLater unsettledLater
    rcases getElem?_modify_eq_some.mp foundLater with ⟨old, oldFound, changed⟩
    split at changed
    · rename_i same
      rw [← same] at oldFound ⊢
      exact wired.pending found unsettled
    · rw [changed] at unsettledLater
      exact wired.pending oldFound unsettledLater
  promised := by
    intro other promise
    have within := wired.promised promise
    simpa [AgentState.setImpl] using within
  expired := wired.expired
  owner := wired.owner
  oneOwner := wired.oneOwner

theorem join (wired : Wired state) {impl : Nat} (promise : state.loginPromise = some impl) :
    Wired { state with calls := state.calls ++ [{ impl, owner := false }] } where
  callImpl := by
    intro index call called
    rcases getElem?_concat_eq_some.mp called with old | ⟨_, rfl⟩
    · exact wired.callImpl old
    · exact wired.promised promise
  callResult := by
    intro index call phase called settled
    rcases getElem?_concat_eq_some.mp called with old | ⟨_, rfl⟩
    · exact wired.callResult old settled
    · exact absurd rfl settled
  challengeRequest := wired.challengeRequest
  requestImpl := wired.requestImpl
  pending := wired.pending
  promised := wired.promised
  expired := by
    intro request challengeOf number index found
    rcases wired.expired found with ⟨call, called, own⟩
    exact ⟨call, getElem?_concat_eq_some.mpr (.inl called), own⟩
  owner := by
    intro index call called owns
    rcases getElem?_concat_eq_some.mp called with old | ⟨_, rfl⟩
    · exact wired.owner old owns
    · cases owns
  oneOwner := by
    intro first second call other called otherCalled owns otherOwns
    rcases getElem?_concat_eq_some.mp called with old | ⟨_, rfl⟩
    · rcases getElem?_concat_eq_some.mp otherCalled with otherOld | ⟨_, rfl⟩
      · exact wired.oneOwner old otherOld owns otherOwns
      · cases otherOwns
    · cases owns

theorem enter (wired : Wired state) (free : state.loginPromise = none) {phase : LoginImpl}
    {requests : List Request}
    (kept : ∀ {request : Nat} {entry : Request}, state.requests[request]? = some entry →
      requests[request]? = some entry)
    (added : ∀ {request : Nat} {entry : Request}, requests[request]? = some entry →
      state.requests[request]? = some entry ∨
        entry.challengeOf = some state.impls.length ∧ phase = .getConsentChallenge request ∧
          ∀ number index, entry.phase ≠ .sessionExpired number index)
    (asks : ∀ request, phase = .getConsentChallenge request →
      ∃ asked, requests[request]? = some ⟨some state.impls.length, asked⟩) :
    Wired { state with
      loginPromise := some state.impls.length
      calls := state.calls ++ [{ impl := state.impls.length, owner := true }]
      impls := state.impls ++ [phase]
      requests } where
  callImpl := by
    intro index call called
    rw [List.length_append, List.length_singleton]
    rcases getElem?_concat_eq_some.mp called with old | ⟨_, rfl⟩
    · have within := wired.callImpl old
      omega
    · exact Nat.lt_succ_self _
  callResult := by
    intro index call later called settled found
    rcases getElem?_concat_eq_some.mp called with old | ⟨_, rfl⟩
    · have within := wired.callImpl old
      rw [List.getElem?_append_left within] at found
      exact wired.callResult old settled found
    · exact absurd rfl settled
  challengeRequest := by
    intro impl request found
    rcases getElem?_concat_eq_some.mp found with old | ⟨rfl, new⟩
    · rcases wired.challengeRequest old with ⟨before, requested⟩
      exact ⟨before, kept requested⟩
    · exact asks request new.symm
  requestImpl := by
    intro request impl before found unsettled
    apply getElem?_concat_eq_some.mpr
    rcases added found with old | ⟨purpose, suspended, _⟩
    · exact .inl (wired.requestImpl old unsettled)
    · exact .inr ⟨Option.some.inj purpose, suspended.symm⟩
  pending := by
    intro impl later found unsettled
    rcases getElem?_concat_eq_some.mp found with old | ⟨rfl, _⟩
    · have promise := wired.pending old unsettled
      rw [free] at promise
      cases promise
    · rfl
  promised := by
    intro impl promise
    rw [← Option.some.inj promise, List.length_append, List.length_singleton]
    exact Nat.lt_succ_self _
  expired := by
    intro request challengeOf number index found
    rcases added found with old | ⟨_, _, fresh⟩
    · rcases wired.expired old with ⟨call, called, own⟩
      exact ⟨call, getElem?_concat_eq_some.mpr (.inl called), own⟩
    · exact absurd rfl (fresh number index)
  owner := by
    intro index call called owns unsettled
    rcases getElem?_concat_eq_some.mp called with old | ⟨_, rfl⟩
    · have promise := wired.owner old owns unsettled
      rw [free] at promise
      cases promise
    · rfl
  oneOwner := by
    have none_before : ∀ {index : Nat} {call : LoginCall}, state.calls[index]? = some call →
        call.owner = true → call.result ≠ none := by
      intro index call called owns unsettled
      have promise := wired.owner called owns unsettled
      rw [free] at promise
      cases promise
    intro first second call other called otherCalled owns otherOwns unsettled otherUnsettled
    rcases getElem?_concat_eq_some.mp called with old | ⟨rfl, _⟩
    · exact absurd unsettled (none_before old owns)
    · rcases getElem?_concat_eq_some.mp otherCalled with otherOld | ⟨rfl, _⟩
      · exact absurd otherUnsettled (none_before otherOld otherOwns)
      · rfl

theorem login (wired : Wired state) : Wired (state.login maxRetries) := by
  rw [AgentState.login]
  split
  · rename_i impl promise
    exact wired.join promise
  · rename_i free
    split
    · apply wired.enter free
      · intro request entry found
        exact getElem?_concat_eq_some.mpr (.inl found)
      · intro request entry found
        rcases getElem?_concat_eq_some.mp found with old | ⟨rfl, rfl⟩
        · exact .inl old
        · exact .inr ⟨rfl, rfl, attempt_ne_sessionExpired maxRetries 0⟩
      · intro request asked
        rw [← LoginImpl.getConsentChallenge.inj asked]
        exact ⟨_, getElem?_concat_eq_some.mpr (.inr ⟨rfl, rfl⟩)⟩
    · apply wired.enter free
      · exact fun found => found
      · exact .inl
      · intro request asked
        cases asked

theorem afterLogin (wired : Wired state) {call impl : Nat} {owner succeeded : Bool}
    (called : state.calls[call]? = some ⟨impl, owner, none⟩)
    (settled : state.impls[impl]? = some (.settled succeeded)) :
    Wired (state.afterLogin call owner succeeded) where
  callImpl := by
    intro index entry found
    rcases getElem?_modify_eq_some.mp found with ⟨before, old, changed⟩
    have within := wired.callImpl old
    split at changed <;> rw [changed] <;> exact within
  callResult := by
    intro index entry phase found answered implFound
    rcases getElem?_modify_eq_some.mp found with ⟨before, old, changed⟩
    split at changed
    · rename_i same
      rw [← same, called, Option.some.injEq] at old
      rw [changed, ← old] at implFound
      change state.impls[impl]? = some phase at implFound
      rw [settled, Option.some.injEq] at implFound
      rw [← implFound]
      rfl
    · rw [changed] at answered implFound
      exact wired.callResult old answered implFound
  challengeRequest := wired.challengeRequest
  requestImpl := wired.requestImpl
  pending := by
    intro other phase found unsettled
    have promise := wired.pending found unsettled
    cases owner with
    | false => exact promise
    | true =>
        have own := wired.owner called rfl rfl
        rw [own, Option.some.injEq] at promise
        rw [← promise] at found
        change state.impls[impl]? = some phase at found
        rw [settled, Option.some.injEq] at found
        rw [← found] at unsettled
        cases unsettled
  promised := by
    intro other promise
    cases owner with
    | false => exact wired.promised promise
    | true => cases promise
  expired := by
    intro request challengeOf number index found
    rcases wired.expired found with ⟨before, old, own⟩
    refine ⟨_, getElem?_modify_eq_some.mpr ⟨before, old, rfl⟩, ?_⟩
    split <;> exact own
  owner := by
    intro index entry found owns unsettled
    rcases getElem?_modify_eq_some.mp found with ⟨before, old, changed⟩
    split at changed
    · rw [changed] at unsettled
      cases unsettled
    · rename_i apart
      subst changed
      cases owner with
      | false => exact wired.owner old owns unsettled
      | true => exact absurd (wired.oneOwner called old rfl owns rfl unsettled) apart
  oneOwner := by
    intro first second entry other found otherFound owns otherOwns unsettled otherUnsettled
    rcases getElem?_modify_eq_some.mp found with ⟨before, old, changed⟩
    rcases getElem?_modify_eq_some.mp otherFound with ⟨otherBefore, otherOld, otherChanged⟩
    split at changed
    · rw [changed] at unsettled
      cases unsettled
    · split at otherChanged
      · rw [otherChanged] at otherUnsettled
        cases otherUnsettled
      · subst changed otherChanged
        exact wired.oneOwner old otherOld owns otherOwns unsettled otherUnsettled

end Wired

/-! ## A step keeps the fields wired -/

theorem login_calls (maxRetries : Nat) (state : AgentState) :
    ∃ call, (state.login maxRetries).calls[state.calls.length]? = some call ∧
      call.result = none ∧ ∀ impl, state.loginPromise = some impl → call.impl = impl := by
  rw [AgentState.login]
  split
  · rename_i impl promise
    refine ⟨_, getElem?_concat_eq_some.mpr (.inr ⟨rfl, rfl⟩), rfl, ?_⟩
    intro other same
    exact Option.some.inj (promise.symm.trans same)
  · rename_i free
    have own : ∀ impl, state.loginPromise = some impl → state.impls.length = impl := by
      intro impl promise
      rw [free] at promise
      cases promise
    split
    · exact ⟨_, getElem?_concat_eq_some.mpr (.inr ⟨rfl, rfl⟩), rfl, own⟩
    · exact ⟨_, getElem?_concat_eq_some.mpr (.inr ⟨rfl, rfl⟩), rfl, own⟩

theorem login_requests {maxRetries : Nat} {state : AgentState} {request : Nat} {entry : Request}
    (found : state.requests[request]? = some entry) :
    (state.login maxRetries).requests[request]? = some entry := by
  rw [AgentState.login]
  split
  · exact found
  · split
    · exact getElem?_concat_eq_some.mpr (.inl found)
    · exact found

namespace Wired

variable {state : AgentState} {maxRetries : Nat}

theorem afterAttempt (wired : Wired state) {request number : Nat} {challengeOf : Option Nat}
    (found : state.requests[request]? = some ⟨challengeOf, .attempting number⟩)
    (outcome : Except Failure Unit) :
    Wired (state.afterAttempt maxRetries request number outcome) := by
  cases outcome with
  | ok _ => exact wired.setRequest found rfl fun _ _ same => by cases same
  | error failure =>
      rw [AgentState.afterAttempt]
      split
      · split
        · apply wired.login.setRequest (login_requests found) rfl
          intro later index same
          rcases login_calls maxRetries state with ⟨call, called, _, joins⟩
          cases same
          refine ⟨call, called, ?_⟩
          intro impl purpose
          apply joins
          change challengeOf = some impl at purpose
          subst purpose
          exact wired.pending (wired.requestImpl found rfl) rfl
        · exact wired.setRequest found rfl fun _ _ same => by cases same
      · split
        · exact wired.setRequest found rfl fun _ _ same => by cases same
        · exact wired.setRequest found rfl fun _ _ same => by cases same

theorem step (wired : Wired state) {event : LoginEvent} {next : AgentState}
    (stepped : loginStep maxRetries state event = some next) : Wired next := by
  cases steps_of_loginStep stepped with
  | configure => exact wired.configure _
  | login => exact wired.login
  | request => exact wired.request
  | response found => exact wired.afterAttempt found _
  | backedOff found =>
      exact wired.setRequest found rfl fun _ _ same =>
        absurd same (attempt_ne_sessionExpired _ _ _ _)
  | renewed found =>
      exact wired.setRequest found rfl fun _ _ same =>
        absurd same (attempt_ne_sessionExpired _ _ _ _)
  | notRenewed found => exact wired.setRequest found rfl fun _ _ same => by cases same
  | challenged suspended found =>
      apply wired.setImpl suspended rfl
      · intro request entry same entryFound
        rw [← LoginImpl.getConsentChallenge.inj same, found] at entryFound
        rw [← Option.some.inj entryFound]
        rfl
      · intro request same
        split at same <;> cases same
  | signed suspended =>
      apply wired.setImpl suspended rfl
      · intro request entry same
        cases same
      · intro request same
        split at same <;> cases same
  | verified suspended =>
      exact wired.setImpl suspended rfl (fun _ _ same => by cases same) fun _ same => by cases same
  | loggedIn called settled => exact wired.afterLogin called settled

end Wired

/-! ## Waiting -/

inductive Promised where
  | call (index : Nat)
  | impl (index : Nat)
  | request (index : Nat)
deriving DecidableEq, Repr

inductive Awaits (state : AgentState) : Promised → Promised → Prop
  | call {index : Nat} {call : LoginCall} (called : state.calls[index]? = some call)
      (unsettled : call.result = none) : Awaits state (.call index) (.impl call.impl)
  | impl {index request : Nat}
      (suspended : state.impls[index]? = some (.getConsentChallenge request)) :
      Awaits state (.impl index) (.request request)
  | request {index number call : Nat} {challengeOf : Option Nat}
      (expired : state.requests[index]? = some ⟨challengeOf, .sessionExpired number call⟩) :
      Awaits state (.request index) (.call call)

/-- A promise waits for itself, directly or through others. -/
def SelfWaiting (state : AgentState) : Prop :=
  ∃ promise, Relation.TransGen (Awaits state) promise promise

/-- The promise whose wait an event ends. -/
def LoginEvent.subject : LoginEvent → Option Promised
  | .response index _ => some (.request index)
  | .backedOff index => some (.request index)
  | .reauthenticated index => some (.request index)
  | .challenged index _ => some (.impl index)
  | .signed index _ => some (.impl index)
  | .verified index _ => some (.impl index)
  | .loggedIn index => some (.call index)
  | _ => none

/-- No promise waits for itself, and what a pending `login()` waits for can
happen: an answer is outstanding, or something that has settled goes on. -/
structure LoginsSettle (maxRetries : Nat) (state : AgentState) : Prop where
  acyclic : ¬ SelfWaiting state
  progress : ∀ {index : Nat} {call : LoginCall}, state.calls[index]? = some call →
    call.result = none → ∃ event subject, event.subject = some subject ∧
      Relation.ReflTransGen (Awaits state) (.call index) subject ∧
        (loginStep maxRetries state event).isSome = true

/-- No login's request for its challenge logs in again. -/
def ChallengeHolds (state : AgentState) : Prop :=
  ∀ request impl number call : Nat,
    state.requests[request]? ≠ some ⟨some impl, .sessionExpired number call⟩

/-- A request for the challenge of a login waits for that login. -/
theorem selfWaiting_of_expired {state : AgentState} (wired : Wired state)
    {request impl number index : Nat}
    (found : state.requests[request]? = some ⟨some impl, .sessionExpired number index⟩) :
    SelfWaiting state := by
  have suspended := wired.requestImpl found rfl
  rcases wired.expired found with ⟨call, called, joins⟩
  have same := joins impl rfl
  have unsettled : call.result = none := by
    by_contra answered
    rw [← same] at suspended
    cases wired.callResult called answered suspended
  have waits := Awaits.call called unsettled
  rw [same] at waits
  exact ⟨.impl impl, .head (.impl suspended) (.head (.request found) (.single waits))⟩

/-- Requests of the client may wait for a call, a call for a login, and a login
for the request for its challenge. -/
def Promised.depth (state : AgentState) : Promised → Nat
  | .call _ => 2
  | .impl _ => 1
  | .request index =>
      match state.requests[index]? with
      | some ⟨some _, _⟩ => 0
      | _ => 3

theorem depth_lt {state : AgentState} (wired : Wired state) (holds : ChallengeHolds state)
    {waiting awaited : Promised} (awaits : Awaits state waiting awaited) :
    awaited.depth state < waiting.depth state := by
  cases awaits with
  | call => exact Nat.lt_succ_self 1
  | impl suspended =>
      rcases wired.challengeRequest suspended with ⟨phase, found⟩
      simp only [Promised.depth, found]
      omega
  | @request index number call challengeOf expired =>
      cases challengeOf with
      | none =>
          simp only [Promised.depth, expired]
          omega
      | some impl => exact absurd expired (holds index impl number call)

theorem not_selfWaiting {state : AgentState} (wired : Wired state)
    (holds : ChallengeHolds state) : ¬ SelfWaiting state := by
  intro selfWaiting
  rcases selfWaiting with ⟨promise, waits⟩
  have falls : ∀ awaited, Relation.TransGen (Awaits state) promise awaited →
      awaited.depth state < promise.depth state := by
    intro awaited path
    induction path with
    | single awaits => exact depth_lt wired holds awaits
    | tail _ awaits induction => exact Nat.lt_trans (depth_lt wired holds awaits) induction
  exact absurd (falls promise waits) (Nat.lt_irrefl _)

theorem request_progress (maxRetries : Nat) {state : AgentState} {request impl : Nat}
    {phase : RequestPhase} (holds : ChallengeHolds state)
    (suspended : state.impls[impl]? = some (.getConsentChallenge request))
    (found : state.requests[request]? = some ⟨some impl, phase⟩) :
    ∃ event, (event.subject = some (.impl impl) ∨ event.subject = some (.request request)) ∧
      (loginStep maxRetries state event).isSome = true := by
  cases phase with
  | attempting number =>
      refine ⟨.response request (.ok ()), .inr rfl, ?_⟩
      simp only [loginStep, found]
      rfl
  | sessionExpired number call => exact absurd found (holds request impl number call)
  | backingOff number =>
      refine ⟨.backedOff request, .inr rfl, ?_⟩
      simp only [loginStep, found]
      rfl
  | settled succeeded =>
      refine ⟨.challenged impl true, .inl rfl, ?_⟩
      simp only [loginStep, suspended, found]
      split <;> rfl

theorem loginsSettle_of_holds {maxRetries : Nat} {state : AgentState} (wired : Wired state)
    (holds : ChallengeHolds state) : LoginsSettle maxRetries state where
  acyclic := not_selfWaiting wired holds
  progress := by
    intro index call called unsettled
    have waits := Relation.ReflTransGen.single (Awaits.call called unsettled)
    have within := wired.callImpl called
    rcases call with ⟨impl, owner, result⟩
    cases unsettled
    cases suspended : state.impls[impl]? with
    | none => exact absurd suspended (by simpa using within)
    | some phase =>
        cases phase with
        | getConsentChallenge request =>
            rcases wired.challengeRequest suspended with ⟨phase, found⟩
            rcases request_progress maxRetries holds suspended found with
              ⟨event, own | asked, enabled⟩
            · exact ⟨event, _, own, waits, enabled⟩
            · exact ⟨event, _, asked, waits.tail (.impl suspended), enabled⟩
        | signMessage =>
            refine ⟨.signed impl true, _, rfl, waits, ?_⟩
            simp only [loginStep, suspended]
            rfl
        | verify =>
            refine ⟨.verified impl true, _, rfl, waits, ?_⟩
            simp only [loginStep, suspended]
            rfl
        | settled succeeded =>
            refine ⟨.loggedIn index, _, rfl, .refl, ?_⟩
            simp only [loginStep, called, suspended]
            rfl

theorem loginsSettle_iff {maxRetries : Nat} {state : AgentState} (wired : Wired state) :
    LoginsSettle maxRetries state ↔ ChallengeHolds state := by
  constructor
  · intro settles request impl number call expired
    exact settles.acyclic (selfWaiting_of_expired wired expired)
  · exact loginsSettle_of_holds wired

/-! ## Runs -/

/-- The first attempt to fetch the challenge of a login is not answered with 401 or 403. -/
def FreshChallenge (state : AgentState) : LoginEvent → Prop
  | .response request (.error failure) => ∀ impl : Nat,
      state.requests[request]? = some ⟨some impl, .attempting 0⟩ → failure.isAuthError = false
  | _ => True

namespace ChallengeHolds

variable {state : AgentState} {maxRetries : Nat}

theorem setRequest (holds : ChallengeHolds state) {request : Nat} {entry : Request}
    (found : state.requests[request]? = some entry) {phase : RequestPhase}
    (kept : ∀ impl number call : Nat, entry.challengeOf = some impl →
      phase ≠ .sessionExpired number call) :
    ChallengeHolds (state.setRequest request phase) := by
  intro other impl number call expired
  rcases getElem?_modify_eq_some.mp expired with ⟨before, beforeFound, changed⟩
  split at changed
  · rename_i same
    rw [← same, found, Option.some.injEq] at beforeFound
    subst beforeFound
    rw [Request.mk.injEq] at changed
    exact kept impl number call changed.1.symm changed.2.symm
  · rw [← changed] at beforeFound
    exact holds other impl number call beforeFound

theorem request (holds : ChallengeHolds state) (challengeOf : Option Nat) :
    ChallengeHolds (state.request maxRetries challengeOf) := by
  intro other impl number call expired
  rcases getElem?_concat_eq_some.mp expired with old | ⟨_, new⟩
  · exact holds other impl number call old
  · exact attempt_ne_sessionExpired maxRetries 0 number call (congrArg Request.phase new).symm

theorem login (holds : ChallengeHolds state) : ChallengeHolds (state.login maxRetries) := by
  rw [AgentState.login]
  split
  · exact holds
  · split
    · intro other impl number call expired
      exact holds.request (some state.impls.length) other impl number call expired
    · exact holds

theorem afterAttempt_iff (holds : ChallengeHolds state) {request number : Nat}
    {challengeOf : Option Nat}
    (found : state.requests[request]? = some ⟨challengeOf, .attempting number⟩)
    (failure : Failure) :
    ChallengeHolds (state.afterAttempt maxRetries request number (.error failure)) ↔
      (∀ impl, challengeOf = some impl → number = 0 → failure.isAuthError = false) := by
  rw [AgentState.afterAttempt]
  split
  · rename_i expired
    split
    · rename_i first
      have requested := @login_requests maxRetries _ _ _ found
      constructor
      · intro after impl purpose _
        refine absurd ?_ (after request impl number state.calls.length)
        refine getElem?_modify_eq_some.mpr ⟨_, requested, ?_⟩
        rw [if_pos rfl, purpose]
      · intro refuses
        apply holds.login.setRequest requested
        intro impl later call purpose _
        have refused := refuses impl purpose first
        rw [expired] at refused
        cases refused
    · rename_i later
      apply iff_of_true
      · exact holds.setRequest found fun _ _ _ _ same => by cases same
      · exact fun _ _ first => absurd first later
  · rename_i other
    apply iff_of_true
    · split
      · exact holds.setRequest found fun _ _ _ _ same => by cases same
      · exact holds.setRequest found fun _ _ _ _ same => by cases same
    · exact fun _ _ _ => Bool.not_eq_true _ ▸ other

theorem step_iff (holds : ChallengeHolds state) {event : LoginEvent} {next : AgentState}
    (stepped : loginStep maxRetries state event = some next) :
    FreshChallenge state event ↔ ChallengeHolds next := by
  cases steps_of_loginStep stepped with
  | configure => exact iff_of_true trivial holds
  | login => exact iff_of_true trivial holds.login
  | request => exact iff_of_true trivial (holds.request none)
  | @response request outcome _ _ found =>
      cases outcome with
      | ok _ => exact iff_of_true trivial (holds.setRequest found fun _ _ _ _ same => by cases same)
      | error failure =>
          rw [holds.afterAttempt_iff found]
          constructor
          · intro fresh impl purpose first
            apply fresh impl
            rw [found, purpose, first]
          · intro refuses impl attempted
            rw [found] at attempted
            cases attempted
            exact refuses impl rfl rfl
  | backedOff found =>
      exact iff_of_true trivial (holds.setRequest found fun _ _ _ _ =>
        attempt_ne_sessionExpired _ _ _ _)
  | renewed found =>
      exact iff_of_true trivial (holds.setRequest found fun _ _ _ _ =>
        attempt_ne_sessionExpired _ _ _ _)
  | notRenewed found =>
      exact iff_of_true trivial (holds.setRequest found fun _ _ _ _ same => by cases same)
  | challenged => exact iff_of_true trivial holds
  | signed => exact iff_of_true trivial holds
  | verified => exact iff_of_true trivial holds
  | loggedIn => exact iff_of_true trivial holds

end ChallengeHolds

/-- In a run no login waits for itself, and what a pending `login()` waits for
can happen, exactly when no login is refused its challenge at the first attempt. -/
theorem logins_settle_iff_challenges_fresh {maxRetries : Nat} {configured : Bool}
    {events : List LoginEvent} {final : AgentState}
    (executed : (loginMachine maxRetries).run { configured } events = some final) :
    (loginMachine maxRetries).Runs FreshChallenge { configured } events final ↔
      (loginMachine maxRetries).Throughout (LoginsSettle maxRetries) { configured } events := by
  have preserved : ∀ state event next, Wired state →
      (loginMachine maxRetries).step state event = some next → Wired next :=
    fun _ _ _ wired stepped => wired.step stepped
  have exact_ : ∀ state event next, Wired state → LoginsSettle maxRetries state →
      (loginMachine maxRetries).step state event = some next →
        (FreshChallenge state event ↔ LoginsSettle maxRetries next) := by
    intro state event next wired settles stepped
    rw [loginsSettle_iff (wired.step stepped)]
    exact ((loginsSettle_iff wired).mp settles).step_iff stepped
  apply Machine.runs_iff_throughout preserved exact_ (Wired.initial configured) _ executed
  apply loginsSettle_of_holds (Wired.initial configured)
  intro request impl number call expired
  cases expired

def loginUnderway : List LoginEvent :=
  [.login, .response 0 (.ok ()), .challenged 0 true, .signed 0 true, .verified 0 true]

theorem logins_settle_underway :
    ∃ final, (loginMachine 3).run { configured := true } loginUnderway = some final ∧
      ((loginMachine 3).Runs FreshChallenge { configured := true } loginUnderway final ↔
        (loginMachine 3).Throughout (LoginsSettle 3) { configured := true } loginUnderway) :=
  ⟨_, rfl, logins_settle_iff_challenges_fresh rfl⟩

/-- A first answer of 401 to the request for the challenge: the login waits for
itself, and neither call ever settles. -/
theorem refused_challenge_waits_for_itself :
    ∃ final, (loginMachine 3).run { configured := true }
        [.login, .response 0 (.error (.j41Error 401))] = some final ∧
      final.loginPromise = some 0 ∧
      Relation.TransGen (Awaits final) (.impl 0) (.impl 0) := by
  refine ⟨_, rfl, rfl, ?_⟩
  apply Relation.TransGen.head (Awaits.impl rfl)
  apply Relation.TransGen.head (Awaits.request rfl)
  exact .single (@Awaits.call _ 1 ⟨0, false, none⟩ rfl rfl)

end SovAgent.Login

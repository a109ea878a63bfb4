import Mathlib.Algebra.Order.Ring.Nat
import Mathlib.Data.List.Basic
import SovAgent.Foundation.Checks
import SovAgent.Foundation.Json

/-! # Retries and re-authentication

`J41Client.request` repeats an attempt after a transient failure. On the first
attempt an expired session is renewed by the callback instead. One call is the
list of what it does, in order, and what it returns or throws.
-/

namespace SovAgent.Client

/-- What an attempt may throw: a `J41Error`, another `Error`, or a value that is
no error at all. The code of a `J41Error` is what the response has there. -/
inductive RequestError where
  | j41 (message : String) (code : Json) (statusCode : Nat) (detail : Option String)
  | native (name message : String)
  | other (text : String)
deriving DecidableEq, Repr

namespace RequestError

def isExpired : RequestError → Bool
  | .j41 _ _ statusCode _ => statusCode = 401 || statusCode = 403
  | .native _ _ | .other _ => false

def isRateLimited : RequestError → Bool
  | .j41 _ _ statusCode _ => statusCode = 429
  | .native _ _ | .other _ => false

def isRetryable : RequestError → Bool
  | .j41 _ _ statusCode _ => statusCode = 429 || 500 ≤ statusCode
  | .native name _ => name ≠ "AbortError"
  | .other _ => false

theorem isRetryable_of_isExpired {error : RequestError} (expired : error.isExpired) :
    error.isRetryable = false := by
  cases error with
  | j41 message code statusCode detail =>
      simp only [isExpired, Bool.or_eq_true, decide_eq_true_eq] at expired
      simp only [isRetryable, Bool.or_eq_false_iff, decide_eq_false_iff_not]
      omega
  | native name message => cases expired
  | other text => cases expired

end RequestError

variable {β : Type u}

/-- What the call does while it is awaited. -/
inductive RequestEvent (β : Type u) where
  | attempted (outcome : Except RequestError β)
  | reauthenticated (outcome : Except RequestError Unit)
  | slept (delay : Nat)
deriving Repr

def RequestEvent.outcome? : RequestEvent β → Option (Except RequestError β)
  | .attempted outcome => some outcome
  | .reauthenticated _ | .slept _ => none

def RequestEvent.isReauthentication : RequestEvent β → Bool
  | .reauthenticated _ => true
  | .attempted _ | .slept _ => false

/-- The events and the result of a call; `lastError` is undefined when there was
no attempt. -/
structure RequestRun (β : Type u) where
  events : List (RequestEvent β)
  result : Except (Option RequestError) β

def RequestRun.after (earlier : List (RequestEvent β)) (run : RequestRun β) : RequestRun β :=
  { run with events := earlier ++ run.events }

structure RequestClient where
  maxRetries : Nat
  onSessionExpired : Option (Except RequestError Unit)

def retryDelay (error : RequestError) (attempt : Nat) : Nat :=
  (if error.isRateLimited then 5000 else 1000) * 2 ^ attempt

/-- The loop from its `attempt`-th turn, with so many turns left. -/
def requestLoop (client : RequestClient) (attempts : Nat → Except RequestError β) :
    (turns attempt : Nat) → (lastError : Option RequestError) → RequestRun β
  | 0, _, lastError => ⟨[], .error lastError⟩
  | turns + 1, attempt, _ =>
      match attempts attempt with
      | .ok body => ⟨[.attempted (.ok body)], .ok body⟩
      | .error error =>
          let failed := RequestEvent.attempted (.error error)
          if error.isExpired then
            match if attempt = 0 then client.onSessionExpired else none with
            | some (.ok ()) =>
                -- `continue`: the next attempt, if a turn is left
                (requestLoop client attempts turns (attempt + 1) (some error)).after
                  [failed, .reauthenticated (.ok ())]
            | some (.error reauthError) =>
                ⟨[failed, .reauthenticated (.error reauthError)], .error (some error)⟩
            | none => ⟨[failed], .error (some error)⟩
          else if ¬ error.isRetryable ∨ attempt + 1 = client.maxRetries then
            ⟨[failed], .error (some error)⟩
          else
            (requestLoop client attempts turns (attempt + 1) (some error)).after
              [failed, .slept (retryDelay error attempt)]

def request (client : RequestClient) (attempts : Nat → Except RequestError β) : RequestRun β :=
  requestLoop client attempts client.maxRetries 0 none

/-! ## What a call should do -/

def RequestRun.outcomes (run : RequestRun β) : List (Except RequestError β) :=
  run.events.filterMap RequestEvent.outcome?

structure Obeys (attempts : Nat → Except RequestError β) (attempt turns : Nat)
    (run : RequestRun β) : Prop where
  bounded : run.outcomes.length ≤ turns
  inOrder : run.outcomes = (List.range' attempt run.outcomes.length).map attempts
  reauthenticatesOnce : run.events.countP RequestEvent.isReauthentication ≤ 1
  reattempts : ∀ earlier later,
    run.events = earlier ++ RequestEvent.reauthenticated (.ok ()) :: later →
    ∃ outcome, RequestEvent.attempted outcome ∈ later
  stops : ∀ earlier later error,
    run.events = earlier ++ RequestEvent.attempted (.error error) :: later →
    error.isRetryable = false → error.isExpired = false → later = []
  returns : ∀ earlier later body,
    run.events = earlier ++ RequestEvent.attempted (.ok body) :: later →
    later = [] ∧ run.result = .ok body
  throws : (∀ body, RequestEvent.attempted (.ok body) ∉ run.events) →
    ∃ error, run.outcomes.getLast? = some (.error error) ∧ run.result = .error (some error)

theorem cons_eq_append_cons {first found : α} {rest earlier later : List α}
    (split : first :: rest = earlier ++ found :: later) :
    found = first ∧ later = rest ∨ ∃ between, rest = between ++ found :: later := by
  cases earlier with
  | nil =>
      rw [List.nil_append, List.cons.injEq] at split
      exact .inl ⟨split.1.symm, split.2.symm⟩
  | cons head earlier =>
      rw [List.cons_append, List.cons.injEq] at split
      exact .inr ⟨earlier, split.2⟩

namespace Obeys

variable {attempts : Nat → Except RequestError β} {attempt turns : Nat} {run : RequestRun β}

theorem success {body : β} (succeeds : attempts attempt = .ok body) :
    Obeys attempts attempt (turns + 1) ⟨[.attempted (.ok body)], .ok body⟩ where
  bounded := Nat.le_add_left 1 turns
  inOrder := by simp [RequestRun.outcomes, RequestEvent.outcome?, succeeds]
  reauthenticatesOnce := by simp [RequestEvent.isReauthentication]
  reattempts earlier later split := by
    rcases cons_eq_append_cons split with ⟨same, _⟩ | ⟨between, rest⟩
    · cases same
    · simp at rest
  stops earlier later error split := by
    rcases cons_eq_append_cons split with ⟨same, _⟩ | ⟨between, rest⟩
    · cases same
    · simp at rest
  returns earlier later other split := by
    rcases cons_eq_append_cons split with ⟨same, rest⟩ | ⟨between, rest⟩
    · cases same
      exact ⟨rest, rfl⟩
    · simp at rest
  throws fails := absurd List.mem_cons_self (fails body)

theorem failure {error : RequestError} (fails : attempts attempt = .error error)
    {reauthError : List RequestError} (once : reauthError.length ≤ 1)
    (renews : reauthError ≠ [] → error.isExpired) :
    Obeys attempts attempt (turns + 1)
      ⟨.attempted (.error error) :: reauthError.map (.reauthenticated <| .error ·),
        .error (some error)⟩ := by
  have outcomes : (reauthError.map fun other => (RequestEvent.reauthenticated (.error other) :
      RequestEvent β)).filterMap RequestEvent.outcome? = [] := by
    simp [List.filterMap_map, Function.comp_def, RequestEvent.outcome?]
  have ofRun : RequestRun.outcomes (⟨.attempted (.error error) ::
      reauthError.map (.reauthenticated <| .error ·), .error (some error)⟩ : RequestRun β) =
      [.error error] := by
    change Except.error error :: List.filterMap RequestEvent.outcome? _ = _
    rw [outcomes]
  have later : ∀ event ∈ reauthError.map fun other =>
      (RequestEvent.reauthenticated (.error other) : RequestEvent β),
      ∃ other, event = .reauthenticated (.error other) := by
    intro event member
    rcases List.mem_map.mp member with ⟨other, _, rfl⟩
    exact ⟨other, rfl⟩
  constructor
  · rw [ofRun]
    exact Nat.le_add_left 1 turns
  · simp [ofRun, fails]
  · rw [List.countP_cons]
    have all := List.countP_le_length (p := RequestEvent.isReauthentication)
      (l := reauthError.map fun other =>
        (RequestEvent.reauthenticated (.error other) : RequestEvent β))
    rw [List.length_map] at all
    simp only [RequestEvent.isReauthentication, Bool.false_eq_true, if_false]
    omega
  · intro earlier rest split
    rcases cons_eq_append_cons split with ⟨same, _⟩ | ⟨between, renewed⟩
    · cases same
    · rcases later (.reauthenticated (.ok ())) (by rw [renewed]; simp) with ⟨other, impossible⟩
      cases impossible
  · intro earlier rest other split retryable expired
    rcases cons_eq_append_cons split with ⟨same, rfl⟩ | ⟨between, renewed⟩
    · cases same
      rw [List.map_eq_nil_iff]
      by_contra some
      rw [renews some] at expired
      cases expired
    · rcases later (.attempted (.error other)) (by rw [renewed]; simp) with ⟨_, impossible⟩
      cases impossible
  · intro earlier rest body split
    rcases cons_eq_append_cons split with ⟨same, _⟩ | ⟨between, renewed⟩
    · cases same
    · rcases later (.attempted (.ok body)) (by rw [renewed]; simp) with ⟨_, impossible⟩
      cases impossible
  · intro _
    exact ⟨error, by rw [ofRun]; rfl, rfl⟩

theorem failed {error : RequestError} (fails : attempts attempt = .error error) :
    Obeys attempts attempt (turns + 1) ⟨[.attempted (.error error)], .error (some error)⟩ :=
  @failure β attempts attempt turns error fails [] (Nat.zero_le 1) (absurd rfl)

theorem outcomes_after {outcome : Except RequestError β} {next : RequestEvent β}
    (noAttempt : next.outcome? = none) :
    (run.after [.attempted outcome, next]).outcomes = outcome :: run.outcomes := by
  change outcome :: (next :: run.events).filterMap RequestEvent.outcome? = _
  rw [List.filterMap_cons_none noAttempt]
  rfl

theorem retry {error : RequestError} {next : RequestEvent β}
    (fails : attempts attempt = .error error) (allowed : error.isRetryable ∨ error.isExpired)
    (noAttempt : next.outcome? = none)
    (once : (next :: run.events).countP RequestEvent.isReauthentication ≤ 1)
    (some : run.outcomes ≠ []) (obeys : Obeys attempts (attempt + 1) turns run) :
    Obeys attempts attempt (turns + 1) (run.after [.attempted (.error error), next]) where
  bounded := by
    rw [outcomes_after noAttempt, List.length_cons]
    exact Nat.succ_le_succ obeys.bounded
  inOrder := by
    rw [outcomes_after noAttempt, List.length_cons, List.range'_succ, List.map_cons, fails,
      ← obeys.inOrder]
  reauthenticatesOnce := once
  reattempts earlier later split := by
    rcases cons_eq_append_cons split with ⟨same, _⟩ | ⟨between, rest⟩
    · cases same
    · rcases cons_eq_append_cons rest with ⟨same, rfl⟩ | ⟨between, rest⟩
      · rcases List.exists_mem_of_ne_nil _ some with ⟨outcome, member⟩
        rcases List.mem_filterMap.mp member with ⟨event, eventMember, isAttempt⟩
        cases event with
        | attempted other => exact ⟨other, eventMember⟩
        | reauthenticated other => cases isAttempt
        | slept delay => cases isAttempt
      · exact obeys.reattempts between later rest
  stops earlier later other split retryable expired := by
    rcases cons_eq_append_cons split with ⟨same, _⟩ | ⟨between, rest⟩
    · cases same
      simp [retryable, expired] at allowed
    · rcases cons_eq_append_cons rest with ⟨same, _⟩ | ⟨between, rest⟩
      · rw [← same] at noAttempt
        cases noAttempt
      · exact obeys.stops between later other rest retryable expired
  returns earlier later body split := by
    rcases cons_eq_append_cons split with ⟨same, _⟩ | ⟨between, rest⟩
    · cases same
    · rcases cons_eq_append_cons rest with ⟨same, _⟩ | ⟨between, rest⟩
      · rw [← same] at noAttempt
        cases noAttempt
      · exact obeys.returns between later body rest
  throws noSuccess := by
    rcases obeys.throws fun body member => noSuccess body
      (List.mem_cons_of_mem _ (List.mem_cons_of_mem _ member)) with ⟨last, isLast, result⟩
    refine ⟨last, ?_, result⟩
    rw [outcomes_after noAttempt, List.getLast?_cons_of_ne_nil some, isLast]

end Obeys

/-! ## The loop -/

section Loop

variable {client : RequestClient} {attempts : Nat → Except RequestError β}

/-- After the first turn the callback is not consulted. -/
theorem requestLoop_later (turns attempt : Nat) (lastError : Option RequestError) :
    requestLoop client attempts (turns + 1) (attempt + 1) lastError =
      match attempts (attempt + 1) with
      | .ok body => ⟨[.attempted (.ok body)], .ok body⟩
      | .error error =>
          if error.isRetryable ∧ attempt + 2 ≠ client.maxRetries then
            (requestLoop client attempts turns (attempt + 2) (some error)).after
              [.attempted (.error error), .slept (retryDelay error (attempt + 1))]
          else ⟨[.attempted (.error error)], .error (some error)⟩ := by
  rw [requestLoop]
  cases attempts (attempt + 1) with
  | ok body => rfl
  | error error =>
      dsimp only
      by_cases expired : error.isExpired
      · have notRetryable := RequestError.isRetryable_of_isExpired expired
        simp [expired, notRetryable]
      · by_cases retryable : error.isRetryable
        · by_cases last : attempt + 2 = client.maxRetries
          · simp [expired, last]
          · simp [expired, retryable, last]
        · simp [expired, retryable]

theorem requestLoop_obeys (turns attempt : Nat) (lastError : Option RequestError)
    (turn : attempt + turns + 2 = client.maxRetries) :
    Obeys attempts (attempt + 1) (turns + 1)
        (requestLoop client attempts (turns + 1) (attempt + 1) lastError) ∧
      (requestLoop client attempts (turns + 1) (attempt + 1) lastError).events.countP
        RequestEvent.isReauthentication = 0 ∧
      (requestLoop client attempts (turns + 1) (attempt + 1) lastError).outcomes ≠ [] := by
  induction turns generalizing attempt lastError with
  | zero =>
      rw [requestLoop_later]
      split
      · rename_i body succeeds
        exact ⟨Obeys.success succeeds, rfl, List.cons_ne_nil _ _⟩
      · rename_i error fails
        rw [if_neg (by omega)]
        exact ⟨Obeys.failed fails, rfl, List.cons_ne_nil _ _⟩
  | succ turns induction =>
      rw [requestLoop_later]
      split
      · rename_i body succeeds
        exact ⟨Obeys.success succeeds, rfl, List.cons_ne_nil _ _⟩
      · rename_i error fails
        split
        · rename_i repeats
          rcases induction (attempt + 1) (some error) (by omega) with ⟨obeys, never, some⟩
          refine ⟨obeys.retry fails (.inl repeats.1) rfl ?_ some, ?_, ?_⟩
          · rw [List.countP_cons_of_neg (by simp [RequestEvent.isReauthentication]), never]
            exact Nat.zero_le 1
          · simpa [RequestRun.after, RequestEvent.isReauthentication] using never
          · rw [Obeys.outcomes_after rfl]
            exact List.cons_ne_nil _ _
        · exact ⟨Obeys.failed fails, rfl, List.cons_ne_nil _ _⟩

theorem requestLoop_after_first {turns : Nat} {error : RequestError} {next : RequestEvent β}
    (turn : turns + 2 = client.maxRetries) (fails : attempts 0 = .error error)
    (allowed : error.isRetryable ∨ error.isExpired) (noAttempt : next.outcome? = none) :
    Obeys attempts 0 (turns + 2)
      ((requestLoop client attempts (turns + 1) 1 (some error)).after
        [.attempted (.error error), next]) := by
  have later : 0 + turns + 2 = client.maxRetries := by omega
  rcases @requestLoop_obeys β client attempts turns 0 (some error) later with
    ⟨obeys, never, some⟩
  refine obeys.retry fails allowed noAttempt ?_ some
  rw [List.countP_cons, never, Nat.zero_add]
  split
  · exact Nat.le_refl 1
  · exact Nat.zero_le 1

end Loop

/-! ## The call -/

def RenewedInVain (client : RequestClient) (attempts : Nat → Except RequestError β) : Prop :=
  client.maxRetries = 1 ∧ (∃ error, attempts 0 = .error error ∧ error.isExpired) ∧
    client.onSessionExpired = some (.ok ())

/-- A call does what it should unless it renews a session that it has no turn
left to use. -/
theorem request_obeys_iff (client : RequestClient) (attempts : Nat → Except RequestError β)
    (tries : 1 ≤ client.maxRetries) :
    Obeys attempts 0 client.maxRetries (request client attempts) ↔
      ¬ RenewedInVain client attempts := by
  rcases Nat.exists_eq_add_of_le' tries with ⟨turns, isTurns⟩
  rw [request, isTurns, requestLoop, RenewedInVain]
  cases outcome : attempts 0 with
  | ok body => simp [Obeys.success outcome]
  | error error =>
      dsimp only
      by_cases expired : error.isExpired
      · rw [if_pos expired, if_pos rfl]
        cases renewal : client.onSessionExpired with
        | none => simp [Obeys.failed outcome]
        | some renewed =>
            cases renewed with
            | error reauthError =>
                have obeys := @Obeys.failure β attempts 0 turns error outcome [reauthError]
                  (Nat.le_refl 1) fun _ => expired
                simpa using obeys
            | ok renewed =>
                cases turns with
                | zero =>
                    refine iff_of_false ?_ (not_not_intro ⟨isTurns, ⟨error, rfl, expired⟩, rfl⟩)
                    intro obeys
                    rcases obeys.reattempts [.attempted (.error error)] [] rfl with ⟨_, member⟩
                    cases member
                | succ turns =>
                    have obeys : Obeys attempts 0 (turns + 2) _ :=
                      @requestLoop_after_first β client attempts turns error
                        (.reauthenticated (.ok ())) isTurns.symm outcome (.inr expired) rfl
                    refine iff_of_true obeys ?_
                    rintro ⟨one, _⟩
                    omega
      · rw [if_neg expired]
        have notRenewed : ¬ (client.maxRetries = 1 ∧
            (∃ other, Except.error error = (Except.error other : Except RequestError β) ∧
              other.isExpired) ∧ client.onSessionExpired = some (.ok ())) := by
          rintro ⟨_, ⟨other, same, otherExpired⟩, _⟩
          cases same
          exact expired otherExpired
        split
        · exact iff_of_true (Obeys.failed outcome) notRenewed
        · rename_i repeats
          rw [not_or, not_not] at repeats
          refine iff_of_true ?_ notRenewed
          cases turns with
          | zero => exact absurd isTurns.symm repeats.2
          | succ turns => exact requestLoop_after_first isTurns.symm outcome (.inl repeats.1) rfl

private def expiredSession : RequestError := .j41 "HTTP 401" (.string "HTTP_ERROR") 401 none

private def renewable : Nat → Except RequestError String
  | 0 => .error expiredSession
  | _ => .ok "body"

private def renewingClient (maxRetries : Nat) : RequestClient := ⟨maxRetries, some (.ok ())⟩

theorem request_obeys_renewed :
    Obeys renewable 0 3 (request (renewingClient 3) renewable) := by
  have notInVain : ¬ RenewedInVain (renewingClient 3) renewable := by
    rintro ⟨one, _⟩
    cases one
  exact (request_obeys_iff (renewingClient 3) renewable (by decide)).mpr notInVain

/-- The renewed session is not used. -/
theorem session_renewed_in_vain :
    (request (renewingClient 1) renewable).events =
        [.attempted (.error expiredSession), .reauthenticated (.ok ())] ∧
      ¬ Obeys renewable 0 1 (request (renewingClient 1) renewable) := by
  refine ⟨rfl, fun obeys => ?_⟩
  rcases obeys.reattempts [.attempted (.error expiredSession)] [] rfl with ⟨_, member⟩
  cases member

end SovAgent.Client

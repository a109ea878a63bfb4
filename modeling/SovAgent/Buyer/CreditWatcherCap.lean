import Mathlib.Algebra.Order.Ring.Rat
import Mathlib.Tactic.Linarith
import Mathlib.Tactic.NormNum
import Mathlib.Tactic.Ring
import SovAgent.Buyer.CreditWatcher
import SovAgent.Foundation.ListUpdate

/-! # The hard spend cap of the credit watcher

The ledger forgets a spend whose deposit report could not be signed, so the cap
is a property of the runs in which no signature is refused after a send.
-/

namespace SovAgent.Buyer

open Signing RollingWindow

/-! ## The decision -/

theorem CreditWatcher.spentInWindow_eq (watcher : CreditWatcher) (now : ℚ) :
    watcher.spentInWindow now = totalAfter (now - dayMs) watcher.spends := by
  have accumulated : ∀ (spends : List Spend) (total : ℚ),
      spends.foldl (fun total spend =>
          if now - dayMs < spend.time then total + spend.amount else total) total =
        total + totalAfter (now - dayMs) spends := by
    intro spends
    induction spends with
    | nil => simp
    | cons head tail induction =>
        intro total
        rw [List.foldl_cons, induction, ← List.singleton_append, totalAfter_append,
          totalAfter_singleton]
        split <;> ring
  simpa [CreditWatcher.spentInWindow] using accumulated watcher.spends 0

/-- Everything that a low-credit signal can do to the watcher. -/
inductive Decision (config : CreditWatcherConfig) (watcher : CreditWatcher) (now : ℚ) :
    Segment → Prop
  | declined (effects) : Decision config watcher now { watcher, effects }
  | granted (effects) :
      watcher.pending = false →
      (watcher.lastTopUpAt ≤ 0 ∨
        config.policy.minIntervalSec.toRat * 1000 ≤ now - watcher.lastTopUpAt) →
      watcher.spentInWindow now + config.policy.topUpAmount.toRat ≤
        config.policy.dailyCapVrsc.toRat →
      Decision config watcher now {
        watcher := { watcher with pending := true }
        suspended := some { now, suspended := .sendVrsc }
        effects }

theorem maybeTopUp_decision (config : CreditWatcherConfig) (watcher : CreditWatcher)
    (now : ℚ) : Decision config watcher now (maybeTopUp config watcher now) := by
  simp only [maybeTopUp]
  split
  · exact .declined _
  · rename_i free
    split
    · exact .declined _
    · rename_i spaced
      split
      · exact .declined _
      · rename_i fits
        apply Decision.granted
        · simpa using free
        · rw [not_and_or, not_lt, not_lt] at spaced
          exact spaced
        · exact not_lt.mp fits

theorem observeRemaining_decision (config : CreditWatcherConfig) (watcher : CreditWatcher)
    (remaining : Number) (now : ℚ) :
    Decision config watcher now (observeRemaining config watcher remaining now) := by
  unfold observeRemaining
  split
  · split
    · exact .declined _
    · exact maybeTopUp_decision config watcher now
  · exact .declined _

theorem onCreditLow_decision (config : CreditWatcherConfig) (watcher : CreditWatcher)
    (event : CreditLowEvent) (now : ℚ) :
    Decision config watcher now (onCreditLow config watcher event now) := by
  unfold onCreditLow
  split
  · exact .declined _
  · exact observeRemaining_decision config watcher _ now

/-! ## The account -/

namespace TopUp

/-- The spend that a granted decision may still cause or has caused. -/
def authorised (config : CreditWatcherConfig) (topUp : TopUp) : Spend :=
  ⟨topUp.now, config.policy.topUpAmount.toRat⟩

/-- The spend of a suspended call whose send has resolved. -/
def paid (config : CreditWatcherConfig) (topUp : TopUp) : List Spend :=
  match topUp.suspended with
  | .sendVrsc => []
  | _ => [topUp.authorised config]

theorem paid_sublist (config : CreditWatcherConfig) (topUp : TopUp) :
    (topUp.paid config).Sublist [topUp.authorised config] := by
  unfold paid
  split
  · exact List.nil_sublist _
  · exact List.Sublist.refl _

end TopUp

/-- The invariant of the runs that keep account. `booked` are the spends whose
calls have finished: the ledger agrees with them on every window that can still
be asked for. -/
structure Accounted (config : CreditWatcherConfig) (booked : List Spend)
    (state : WatcherState) : Prop where
  exclusive : state.inFlight = [] ∨
    state.watcher.pending = true ∧ ∃ topUp, state.inFlight = [topUp]
  resolved_eq : state.resolved = booked ++ state.inFlight.flatMap (TopUp.paid config)
  ledger : ∀ cutoff, state.clock - dayMs ≤ cutoff →
    totalAfter cutoff state.watcher.spends = totalAfter cutoff booked
  decided : ∀ topUp ∈ state.inFlight, topUp.now ≤ state.clock
  amounts : ∀ spend ∈ booked, spend.amount = config.policy.topUpAmount.toRat
  capped : ∀ instant, totalWithin dayMs instant
    (booked ++ state.inFlight.map (TopUp.authorised config)) ≤
      config.policy.dailyCapVrsc.toRat

namespace Accounted

variable {config : CreditWatcherConfig} {booked : List Spend} {state : WatcherState}

theorem initial (config : CreditWatcherConfig) (clock : ℚ)
    (capNonneg : 0 ≤ config.policy.dailyCapVrsc.toRat) :
    Accounted config [] { clock } where
  exclusive := .inl rfl
  resolved_eq := rfl
  ledger _ _ := rfl
  decided := by simp
  amounts := by simp
  capped instant := by simpa using capNonneg

theorem inFlight_eq_singleton (accounted : Accounted config booked state) {call : Nat}
    {topUp : TopUp} (suspended : state.inFlight[call]? = some topUp) :
    state.inFlight = [topUp] ∧ state.inFlight.eraseIdx call = [] := by
  rcases accounted.exclusive with idle | ⟨_, only, single⟩
  · simp [idle] at suspended
  · rw [single] at suspended ⊢
    rcases getElem?_singleton_eq_some suspended with ⟨rfl, erased⟩
    exact ⟨rfl, erased⟩

theorem enter (accounted : Accounted config booked state)
    (amountNonneg : 0 ≤ config.policy.topUpAmount.toRat) {now : ℚ}
    (later : state.clock ≤ now) {segment : Segment}
    (decision : Decision config state.watcher now segment) :
    Accounted config booked (state.enter now segment) := by
  have window : state.clock - dayMs ≤ now - dayMs := by linarith
  cases decision with
  | declined effects =>
      exact {
        exclusive := by simpa [WatcherState.enter] using accounted.exclusive
        resolved_eq := by simpa [WatcherState.enter] using accounted.resolved_eq
        ledger := fun cutoff after => accounted.ledger cutoff (window.trans after)
        decided := fun topUp member => by
          simp only [WatcherState.enter, Option.toList_none, List.append_nil] at member
          exact (accounted.decided topUp member).trans later
        amounts := accounted.amounts
        capped := by simpa [WatcherState.enter] using accounted.capped }
  | granted effects free spaced fits =>
      have idle : state.inFlight = [] := by
        rcases accounted.exclusive with idle | ⟨held, _⟩
        · exact idle
        · rw [free] at held
          cases held
      have cappedBooked := accounted.capped
      have resolvedBooked := accounted.resolved_eq
      rw [idle] at cappedBooked resolvedBooked
      simp only [List.map_nil, List.append_nil] at cappedBooked
      rw [CreditWatcher.spentInWindow_eq, accounted.ledger _ window] at fits
      exact {
        exclusive := .inr ⟨rfl, ⟨now, .sendVrsc⟩, by simp [WatcherState.enter, idle]⟩
        resolved_eq := by simpa [WatcherState.enter, idle, TopUp.paid] using resolvedBooked
        ledger := fun cutoff after => accounted.ledger cutoff (window.trans after)
        decided := by simp [WatcherState.enter, idle]
        amounts := accounted.amounts
        capped := fun instant => by
          have nonneg : ∀ spend ∈ booked, 0 ≤ spend.amount := fun spend member =>
            (accounted.amounts spend member).symm ▸ amountNonneg
          have admitted : totalWithin dayMs instant
              (booked ++ [TopUp.authorised config ⟨now, .sendVrsc⟩]) ≤
                config.policy.dailyCapVrsc.toRat := by
            refine totalWithin_admit nonneg cappedBooked ?_ instant
            exact fits
          simpa [WatcherState.enter, idle] using admitted }

/-- A call that stays suspended keeps the account, provided that a newly
resolved send is added to the resolved spends. -/
theorem suspend (accounted : Accounted config booked state) {call : Nat}
    {topUp next : TopUp} (suspended : state.inFlight[call]? = some topUp)
    {after : WatcherState} (watcher_eq : after.watcher = state.watcher)
    (inFlight_eq : after.inFlight = state.inFlight.eraseIdx call ++ [next])
    (sameDecision : next.now = topUp.now) (later : state.clock ≤ after.clock)
    (resolved_eq : after.resolved = booked ++ next.paid config) :
    Accounted config booked after := by
  rcases accounted.inFlight_eq_singleton suspended with ⟨single, erased⟩
  have decided := accounted.decided topUp (by simp [single])
  have held : state.watcher.pending = true := by
    rcases accounted.exclusive with idle | ⟨held, _⟩
    · simp [single] at idle
    · exact held
  have capped := accounted.capped
  simp only [single, List.map_cons, List.map_nil, TopUp.authorised] at capped
  rw [erased, List.nil_append] at inFlight_eq
  exact {
    exclusive := .inr ⟨watcher_eq ▸ held, next, inFlight_eq⟩
    resolved_eq := by simpa [inFlight_eq] using resolved_eq
    ledger := fun cutoff window => by
      rw [watcher_eq]
      exact accounted.ledger cutoff (by linarith)
    decided := by
      intro call member
      rw [inFlight_eq, List.mem_singleton] at member
      rw [member, sameDecision]
      exact decided.trans later
    amounts := accounted.amounts
    capped := by simpa [inFlight_eq, TopUp.authorised, sameDecision] using capped }

/-- A call that ends before its send has resolved leaves no spend behind. -/
theorem abandon (accounted : Accounted config booked state)
    (amountNonneg : 0 ≤ config.policy.topUpAmount.toRat) {call : Nat} {topUp : TopUp}
    (suspended : state.inFlight[call]? = some topUp) {after : WatcherState}
    (spends_eq : after.watcher.spends = state.watcher.spends)
    (inFlight_eq : after.inFlight = state.inFlight.eraseIdx call)
    (later : state.clock ≤ after.clock) (resolved_eq : after.resolved = booked) :
    Accounted config booked after := by
  rw [(accounted.inFlight_eq_singleton suspended).2] at inFlight_eq
  exact {
    exclusive := .inl inFlight_eq
    resolved_eq := by simpa [inFlight_eq] using resolved_eq
    ledger := fun cutoff window => by
      rw [spends_eq]
      exact accounted.ledger cutoff (by linarith)
    decided := by simp [inFlight_eq]
    amounts := accounted.amounts
    capped := fun instant => by
      refine le_trans ?_ (accounted.capped instant)
      apply totalWithin_sublist
      · simp [inFlight_eq]
      · intro spend member
        rcases List.mem_append.mp member with bookedMember | authorised
        · exact (accounted.amounts spend bookedMember).symm ▸ amountNonneg
        · rcases List.mem_map.mp authorised with ⟨_, _, rfl⟩
          exact amountNonneg }

/-- A settled report moves the paid call into the booked spends. -/
theorem record (accounted : Accounted config booked state) {call : Nat} {topUp : TopUp}
    (suspended : state.inFlight[call]? = some topUp)
    (paid : topUp.paid config = [topUp.authorised config]) {after : WatcherState}
    (spends_eq : after.watcher.spends =
      (state.watcher.recordSpend config.policy.topUpAmount.toRat topUp.now).spends)
    (inFlight_eq : after.inFlight = state.inFlight.eraseIdx call)
    (clock_eq : after.clock = state.clock) (resolved_eq : after.resolved = state.resolved) :
    Accounted config (booked ++ [topUp.authorised config]) after := by
  rcases accounted.inFlight_eq_singleton suspended with ⟨single, erased⟩
  rw [erased] at inFlight_eq
  have resolved := accounted.resolved_eq
  have decided := accounted.decided topUp (by simp [single])
  have capped := accounted.capped
  simp only [single, List.flatMap_cons, List.flatMap_nil, paid, List.append_nil] at resolved
  simp only [single, List.map_cons, List.map_nil] at capped
  exact {
    exclusive := .inl inFlight_eq
    resolved_eq := by simpa [inFlight_eq, resolved] using resolved_eq
    ledger := fun cutoff window => by
      rw [clock_eq] at window
      have pruned : topUp.now - dayMs ≤ cutoff := by linarith
      rw [spends_eq, CreditWatcher.recordSpend, totalAfter_append, totalAfter_append,
        totalAfter_prune pruned, accounted.ledger cutoff window]
      rfl
    decided := by simp [inFlight_eq]
    amounts := by
      intro spend member
      rcases List.mem_append.mp member with bookedMember | new
      · exact accounted.amounts spend bookedMember
      · rw [List.mem_singleton.mp new]
        rfl
    capped := by simpa [inFlight_eq] using capped }

theorem resolved_capped (accounted : Accounted config booked state)
    (amountNonneg : 0 ≤ config.policy.topUpAmount.toRat) (instant : ℚ) :
    totalWithin dayMs instant state.resolved ≤ config.policy.dailyCapVrsc.toRat := by
  refine le_trans ?_ (accounted.capped instant)
  rw [accounted.resolved_eq]
  apply totalWithin_sublist
  · apply List.Sublist.append_left
    induction state.inFlight with
    | nil => simp
    | cons head tail induction =>
        exact (head.paid_sublist config).append induction
  · intro spend member
    rcases List.mem_append.mp member with bookedMember | authorised
    · exact (accounted.amounts spend bookedMember).symm ▸ amountNonneg
    · rcases List.mem_map.mp authorised with ⟨_, _, rfl⟩
      exact amountNonneg

end Accounted

/-! ## Runs -/

/-- The events after which the ledger still holds every completed send: no
signature is refused and no nonce generator throws once a send has resolved. -/
def keepsAccount : WatcherEvent → Bool
  | .sendVrsc _ _ (.ok _) (.error _) => false
  | .signMessage _ (.error _) => false
  | _ => true

theorem Accounted.step {config : CreditWatcherConfig} {booked : List Spend}
    {state next : WatcherState} {event : WatcherEvent}
    (amountNonneg : 0 ≤ config.policy.topUpAmount.toRat)
    (accounted : Accounted config booked state) (kept : keepsAccount event)
    (stepped : watcherStep config state event = some next) :
    ∃ booked', Accounted config booked' next := by
  cases event with
  | observeRemaining now remaining =>
      simp only [watcherStep, Option.ite_none_left_eq_some, Option.some.injEq] at stepped
      rcases stepped with ⟨later, rfl⟩
      exact ⟨booked, accounted.enter amountNonneg (not_lt.mp later)
        (observeRemaining_decision config state.watcher remaining now)⟩
  | onCreditLow now event =>
      simp only [watcherStep, Option.ite_none_left_eq_some, Option.some.injEq] at stepped
      rcases stepped with ⟨later, rfl⟩
      exact ⟨booked, accounted.enter amountNonneg (not_lt.mp later)
        (onCreditLow_decision config state.watcher event now)⟩
  | sendVrsc call now sent randomNonce =>
      simp only [watcherStep, Option.ite_none_left_eq_some] at stepped
      rcases stepped with ⟨later, stepped⟩
      split at stepped
      · rename_i decidedAt suspended
        cases stepped
        have resolved := accounted.resolved_eq
        rw [(accounted.inFlight_eq_singleton suspended).1] at resolved
        simp only [List.flatMap_cons, TopUp.paid, List.flatMap_nil, List.append_nil] at resolved
        cases sent with
        | error error =>
            exact ⟨booked, accounted.abandon amountNonneg suspended rfl
              (List.append_nil _) (not_lt.mp later) resolved⟩
        | ok txid =>
            cases randomNonce with
            | error error => cases kept
            | ok nonce =>
                exact ⟨booked, accounted.suspend suspended rfl rfl rfl (not_lt.mp later)
                  (by rw [resolved]; rfl)⟩
      · cases stepped
  | signMessage call signed =>
      simp only [watcherStep] at stepped
      split at stepped
      · rename_i decidedAt txid nonce timestamp message suspended
        cases stepped
        have resolved := accounted.resolved_eq
        rw [(accounted.inFlight_eq_singleton suspended).1] at resolved
        cases signed with
        | error error => cases kept
        | ok signature =>
            exact ⟨booked, accounted.suspend suspended rfl rfl rfl le_rfl resolved⟩
      · cases stepped
  | reportDeposit call reported =>
      simp only [watcherStep] at stepped
      split at stepped
      · rename_i decidedAt report suspended
        cases stepped
        cases reported with
        | error error =>
            exact ⟨_, accounted.record suspended rfl rfl (List.append_nil _) rfl rfl⟩
        | ok accepted =>
            exact ⟨_, accounted.record suspended rfl rfl (List.append_nil _) rfl rfl⟩
      · cases stepped

/-- In every run that keeps account, the resolved sends decided within any
24 hours add up to at most the daily cap. -/
theorem resolved_sends_within_daily_cap (config : CreditWatcherConfig)
    (amountNonneg : 0 ≤ config.policy.topUpAmount.toRat)
    (capNonneg : 0 ≤ config.policy.dailyCapVrsc.toRat)
    {clock : ℚ} {events : List WatcherEvent} {final : WatcherState}
    (runs : (watcherMachine config).Runs (fun _ event => keepsAccount event)
      { clock } events final) (instant : ℚ) :
    totalWithin dayMs instant final.resolved ≤ config.policy.dailyCapVrsc.toRat := by
  have accounted : ∃ booked, Accounted config booked final := by
    apply runs.preserves (fun state => ∃ booked, Accounted config booked state)
    · intro state event next kept holds stepped
      rcases holds with ⟨booked, accounted⟩
      exact accounted.step amountNonneg kept stepped
    · exact ⟨[], Accounted.initial config clock capNonneg⟩
  rcases accounted with ⟨booked, accounted⟩
  exact accounted.resolved_capped amountNonneg instant

private def oneTopUpADay : CreditWatcherConfig where
  seller := { sellerVerusId := "bob.sovcompute@", buyerVerusId := "alice.sovagent@"
              payAddress := "RSellerPay" }
  policy := { threshold := 1, topUpAmount := 5, dailyCapVrsc := 5, minIntervalSec := 60 }

private def reportedTopUp : List WatcherEvent :=
  [.observeRemaining 0 0, .sendVrsc 0 0 (.ok "tx1") (.ok "n1"),
    .signMessage 0 (.ok "sig"), .reportDeposit 0 (.error "gateway timeout"),
    .observeRemaining 60000 0]

/-- A top-up whose report fails is followed by a refusal at the cap. -/
theorem resolved_sends_within_daily_cap_reported :
    ∃ final, (watcherMachine oneTopUpADay).run { clock := 0 } reportedTopUp = some final ∧
      final.resolved ≠ [] ∧ totalWithin dayMs 60000 final.resolved ≤ 5 := by
  rcases Option.isSome_iff_exists.mp (show ((watcherMachine oneTopUpADay).run
    { clock := 0 } reportedTopUp).isSome by decide +kernel) with ⟨final, executed⟩
  refine ⟨final, executed, ?_, ?_⟩
  · have spent : ((watcherMachine oneTopUpADay).run { clock := 0 } reportedTopUp).map
        (·.resolved.length) = some 1 := by decide +kernel
    rw [executed] at spent
    intro none
    simp [none] at spent
  · have kept : ∀ event ∈ reportedTopUp, keepsAccount event := by decide
    have runs : (watcherMachine oneTopUpADay).Runs (fun _ event => keepsAccount event)
        { clock := 0 } reportedTopUp final :=
      Machine.runs_of_run (fun event member _ => kept event member) executed
    exact (resolved_sends_within_daily_cap oneTopUpADay (by decide +kernel)
      (by decide +kernel) runs 60000).trans (by decide +kernel)

private def refusedSignatures : List WatcherEvent :=
  [.observeRemaining 0 0, .sendVrsc 0 0 (.ok "tx1") (.ok "n1"),
    .signMessage 0 (.error "broker unavailable"),
    .observeRemaining 1000 0, .sendVrsc 0 1000 (.ok "tx2") (.ok "n2")]

/-- Once a signature is refused after a send, the next signal a second later
sends again: ten coins leave the wallet under a cap of five. -/
theorem refused_signature_exceeds_daily_cap :
    0 ≤ oneTopUpADay.policy.topUpAmount.toRat ∧
    ∃ final, (watcherMachine oneTopUpADay).run { clock := 0 } refusedSignatures = some final ∧
      oneTopUpADay.policy.dailyCapVrsc.toRat < totalWithin dayMs 1000 final.resolved := by
  refine ⟨by decide +kernel, ?_⟩
  have exceeded : ((watcherMachine oneTopUpADay).run { clock := 0 } refusedSignatures).any
      fun final => oneTopUpADay.policy.dailyCapVrsc.toRat <
        totalWithin dayMs 1000 final.resolved := by decide +kernel
  simpa using (Option.any_eq_true _ _).mp exceeded

end SovAgent.Buyer

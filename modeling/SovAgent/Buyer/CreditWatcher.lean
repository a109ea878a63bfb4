import SovAgent.Foundation.Execution
import SovAgent.Foundation.RollingWindow
import SovAgent.Signing.Messages

/-! # CreditWatcher

The buyer-side auto-top-up of the prepaid proxy. A call runs without
interruption between two awaits, so each definition below is one such segment:
the decision up to `sendVrsc`, and one continuation for each awaited promise.
-/

namespace SovAgent.Buyer

open Signing RollingWindow

structure CreditWatcherSeller where
  sellerVerusId : String
  buyerVerusId : String
  payAddress : String

structure CreditWatcherPolicy where
  threshold : Decimal
  topUpAmount : Decimal
  dailyCapVrsc : Decimal
  minIntervalSec : Decimal

structure CreditLowEvent where
  sellerVerusId : String
  buyerVerusId : String
  balance : NumberOrString
  threshold : NumberOrString
  suggestedTopup : NumberOrString
  payAddress : String
  observedAt : Number

structure DepositReport where
  buyerVerusId : String
  sellerVerusId : String
  txid : String
  amount : NumberOrString
  nonce : String
  timestamp : Number
  signature : String
  message : String

inductive FailedStage where
  | send
  | report
deriving DecidableEq, Repr

inductive CreditWatcherAlert where
  | dailyCapReached (sellerVerusId : String)
      (spentToday dailyCapVrsc attemptedAmount : ℚ)
  | topupFailed (sellerVerusId : String) (stage : FailedStage) (error : String)

structure CreditWatcherConfig where
  seller : CreditWatcherSeller
  policy : CreditWatcherPolicy
  onAlert : Option (CreditWatcherAlert → Except String Unit) := none

inductive TopUpAction where
  | toppedUp
  | aboveThreshold
  | rateLimited
  | capReached
  | error
  | noOp
deriving DecidableEq, Repr

structure TopUpResult where
  action : TopUpAction
  txid : Option String := none
  amount : Option Decimal := none
  error : Option String := none

/-- What a segment does to its surroundings before it suspends or returns. -/
inductive Effect where
  | sendVrsc (payTo : String) (amount : Decimal)
  | signMessage (message : String)
  | reportDeposit (report : DepositReport)
  | alert (alert : CreditWatcherAlert)
  | returned (result : TopUpResult)
  | threw (error : String)

abbrev Spend := Entry ℚ ℚ

/-- The private fields of the watcher. Times are in milliseconds. -/
structure CreditWatcher where
  pending : Bool := false
  lastTopUpAt : ℚ := 0
  spends : List Spend := []

def dayMs : ℚ := 24 * 3600 * 1000

def toNumber : NumberOrString → Number
  | .number value => value
  | .string text => Number.parseFloat text

namespace CreditWatcher

def spentInWindow (watcher : CreditWatcher) (now : ℚ) : ℚ :=
  let cutoff := now - dayMs
  watcher.spends.foldl
    (fun total spend => if cutoff < spend.time then total + spend.amount else total) 0

def recordSpend (watcher : CreditWatcher) (amount at_ : ℚ) : CreditWatcher :=
  let cutoff := at_ - dayMs
  { watcher with
    spends := (watcher.spends.filter fun spend => cutoff < spend.time) ++ [⟨at_, amount⟩] }

end CreditWatcher

/-- The await at which a `maybeTopUp` call past its guard is suspended. -/
inductive Suspended where
  | sendVrsc
  | signMessage (txid nonce : String) (timestamp : Number) (message : String)
  | reportDeposit (report : DepositReport)

structure TopUp where
  now : ℚ
  suspended : Suspended

/-- Result of one segment: the fields it leaves, the call it leaves suspended
and what it did. -/
structure Segment where
  watcher : CreditWatcher
  suspended : Option TopUp := none
  effects : List Effect

section Segments

variable (config : CreditWatcherConfig)

/-- A faulty callback is caught. -/
def emitAlert (alert : CreditWatcherAlert) : Except String (List Effect) :=
  match config.onAlert with
  | none => .ok []
  | some onAlert =>
      tryCatch (do onAlert alert; .ok [.alert alert]) fun _ => .ok [.alert alert]

/-- `this.emitAlert(alert)` before `return result`. -/
def alertAndReturn (watcher : CreditWatcher) (alert : CreditWatcherAlert) (result : TopUpResult) :
    Segment where
  watcher
  effects :=
    match emitAlert config alert with
    | .ok effects => effects ++ [.returned result]
    | .error error => [.threw error]

def maybeTopUp (watcher : CreditWatcher) (now : ℚ) : Segment :=
  let policy := config.policy
  if watcher.pending then
    { watcher, effects := [.returned { action := .rateLimited }] }
  else if 0 < watcher.lastTopUpAt ∧
      now - watcher.lastTopUpAt < policy.minIntervalSec.toRat * 1000 then
    { watcher, effects := [.returned { action := .rateLimited }] }
  else
    let spentToday := watcher.spentInWindow now
    if policy.dailyCapVrsc.toRat < spentToday + policy.topUpAmount.toRat then
      alertAndReturn config watcher
        (.dailyCapReached config.seller.sellerVerusId spentToday policy.dailyCapVrsc.toRat
          policy.topUpAmount.toRat)
        { action := .capReached }
    else
      { watcher := { watcher with pending := true }
        suspended := some { now, suspended := .sendVrsc }
        effects := [.sendVrsc config.seller.payAddress policy.topUpAmount] }

def observeRemaining (watcher : CreditWatcher) (remaining : Number) (now : ℚ) : Segment :=
  match remaining with
  | .finite value =>
      if config.policy.threshold.toRat ≤ value.toRat then
        { watcher, effects := [.returned { action := .aboveThreshold }] }
      else maybeTopUp config watcher now
  | _ => { watcher, effects := [.returned { action := .noOp }] }

def onCreditLow (watcher : CreditWatcher) (event : CreditLowEvent) (now : ℚ) : Segment :=
  if event.sellerVerusId ≠ config.seller.sellerVerusId then
    { watcher, effects := [.returned { action := .noOp }] }
  else observeRemaining config watcher (toNumber event.balance) now

def failTopUp (watcher : CreditWatcher) (stage : FailedStage) (error : String) : Segment :=
  alertAndReturn config { watcher with pending := false }
    (.topupFailed config.seller.sellerVerusId stage error)
    { action := .error, error := some error }

/-- Continuation of `await sendVrsc`. The clock is read once more for the
report's timestamp, and the nonce generator may throw. -/
def afterSendVrsc (watcher : CreditWatcher) (topUp : TopUp) (sent : Except String String)
    (clock : ℚ) (randomNonce : Except String String) : Segment :=
  match sent with
  | .error error => failTopUp config watcher .send error
  | .ok txid =>
      match randomNonce with
      | .error error =>
          { watcher := { watcher with pending := false }, effects := [.threw error] }
      | .ok nonce =>
          let timestamp : Number := .finite (.ofInt (clock / 1000).floor)
          let message := buildDepositReportMessage {
            buyerVerusId := config.seller.buyerVerusId
            sellerVerusId := config.seller.sellerVerusId
            txid
            amount := .number (.finite config.policy.topUpAmount)
            nonce
            timestamp }
          { watcher
            suspended := some { topUp with
              suspended := .signMessage txid nonce timestamp message }
            effects := [.signMessage message] }

def afterSignMessage (watcher : CreditWatcher) (topUp : TopUp) (txid nonce : String)
    (timestamp : Number) (message : String) (signed : Except String String) : Segment :=
  match signed with
  | .error error => failTopUp config watcher .report error
  | .ok signature =>
      let report : DepositReport := {
        buyerVerusId := config.seller.buyerVerusId
        sellerVerusId := config.seller.sellerVerusId
        txid
        amount := .number (.finite config.policy.topUpAmount)
        nonce, timestamp, signature, message }
      { watcher
        suspended := some { topUp with suspended := .reportDeposit report }
        effects := [.reportDeposit report] }

/-- Continuation of `await reportDeposit`. The spend is recorded and the
debounce armed whether the report was accepted or not. -/
def afterReportDeposit (watcher : CreditWatcher) (topUp : TopUp) (report : DepositReport)
    (reported : Except String Unit) : Segment :=
  let recorded := { watcher.recordSpend config.policy.topUpAmount.toRat topUp.now with
    lastTopUpAt := topUp.now }
  match reported with
  | .error error => failTopUp config recorded .report error
  | .ok _ =>
      { watcher := { recorded with pending := false }
        effects := [.returned {
          action := .toppedUp
          txid := some report.txid
          amount := some config.policy.topUpAmount }] }

theorem alertAndReturn_eq (watcher : CreditWatcher) (alert : CreditWatcherAlert)
    (result : TopUpResult) :
    alertAndReturn config watcher alert result =
      { watcher, effects := (if config.onAlert.isSome then [.alert alert] else []) ++
          [.returned result] } := by
  have caught : emitAlert config alert =
      .ok (if config.onAlert.isSome then [.alert alert] else []) := by
    rw [emitAlert]
    cases config.onAlert with
    | none => rfl
    | some onAlert =>
        dsimp only [Option.isSome]
        cases onAlert alert <;> rfl
  rw [alertAndReturn, caught]

end Segments

/-! ## Interleavings -/

/-- A watcher, the calls suspended at an await, the last reading of the clock
and, for the record, every `sendVrsc` that resolved with its decision time. -/
structure WatcherState where
  watcher : CreditWatcher := {}
  inFlight : List TopUp := []
  clock : ℚ
  resolved : List Spend := []

inductive WatcherEvent where
  | observeRemaining (now : ℚ) (remaining : Number)
  | onCreditLow (now : ℚ) (event : CreditLowEvent)
  | sendVrsc (call : Nat) (now : ℚ) (sent randomNonce : Except String String)
  | signMessage (call : Nat) (signed : Except String String)
  | reportDeposit (call : Nat) (reported : Except String Unit)

namespace WatcherState

def enter (state : WatcherState) (now : ℚ) (segment : Segment) : WatcherState :=
  { state with
    watcher := segment.watcher
    inFlight := state.inFlight ++ segment.suspended.toList
    clock := now }

def resume (state : WatcherState) (call : Nat) (segment : Segment) : WatcherState :=
  { state with
    watcher := segment.watcher
    inFlight := state.inFlight.eraseIdx call ++ segment.suspended.toList }

end WatcherState

def watcherStep (config : CreditWatcherConfig) (state : WatcherState) :
    WatcherEvent → Option WatcherState
  | .observeRemaining now remaining =>
      if now < state.clock then none
      else some (state.enter now (observeRemaining config state.watcher remaining now))
  | .onCreditLow now event =>
      if now < state.clock then none
      else some (state.enter now (onCreditLow config state.watcher event now))
  | .sendVrsc call now sent randomNonce =>
      if now < state.clock then none
      else match state.inFlight[call]? with
        | some ⟨decidedAt, .sendVrsc⟩ =>
            let next := state.resume call
              (afterSendVrsc config state.watcher ⟨decidedAt, .sendVrsc⟩ sent now randomNonce)
            some { next with
              clock := now
              resolved := match sent with
                | .ok _ => state.resolved ++ [⟨decidedAt, config.policy.topUpAmount.toRat⟩]
                | .error _ => state.resolved }
        | _ => none
  | .signMessage call signed =>
      match state.inFlight[call]? with
      | some ⟨decidedAt, .signMessage txid nonce timestamp message⟩ =>
          some (state.resume call (afterSignMessage config state.watcher
            ⟨decidedAt, .signMessage txid nonce timestamp message⟩
            txid nonce timestamp message signed))
      | _ => none
  | .reportDeposit call reported =>
      match state.inFlight[call]? with
      | some ⟨decidedAt, .reportDeposit report⟩ =>
          some (state.resume call (afterReportDeposit config state.watcher
            ⟨decidedAt, .reportDeposit report⟩ report reported))
      | _ => none

def watcherMachine (config : CreditWatcherConfig) : Machine WatcherState WatcherEvent where
  step := watcherStep config

end SovAgent.Buyer

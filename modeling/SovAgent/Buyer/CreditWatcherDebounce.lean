import SovAgent.Buyer.CreditWatcherCap

/-! # Mutual exclusion and debounce of the credit watcher

The clock is any function here: it may also go backwards between two readings.
-/

namespace SovAgent.Buyer

/-! ## The history of a watcher -/

/-- What the debounce is about: a `sendVrsc` call made by the decision at an
instant, and a settled `reportDeposit` call of the top-up decided at an instant. -/
inductive TopUpRecord where
  | sendVrsc (now : ℚ)
  | settled (now : ℚ)
deriving DecidableEq

namespace Effect

def topUpRecord? (now : ℚ) : Effect → Option TopUpRecord
  | .sendVrsc _ _ => some (.sendVrsc now)
  | _ => none

end Effect

namespace Segment

def topUpRecords (segment : Segment) (now : ℚ) : List TopUpRecord :=
  segment.effects.filterMap (Effect.topUpRecord? now)

end Segment

namespace WatcherEvent

def reading : WatcherEvent → Option ℚ
  | .observeRemaining now _ | .onCreditLow now _ | .sendVrsc _ now _ _ => some now
  | .signMessage _ _ | .reportDeposit _ _ => none

end WatcherEvent

structure RecordedWatcher where
  state : WatcherState
  records : List TopUpRecord := []

/-- What an event that is enabled in the state adds to the history. -/
def recordsOf (config : CreditWatcherConfig) (state : WatcherState) :
    WatcherEvent → List TopUpRecord
  | .observeRemaining now remaining =>
      (observeRemaining config state.watcher remaining now).topUpRecords now
  | .onCreditLow now event => (onCreditLow config state.watcher event now).topUpRecords now
  | .reportDeposit call _ => (state.inFlight[call]?.map fun topUp => .settled topUp.now).toList
  | .sendVrsc _ _ _ _ | .signMessage _ _ => []

def recordedStep (config : CreditWatcherConfig) (recorded : RecordedWatcher)
    (event : WatcherEvent) : Option RecordedWatcher :=
  let state := { recorded.state with clock := event.reading.getD recorded.state.clock }
  (watcherStep config state event).map fun next =>
    { state := next, records := recorded.records ++ recordsOf config state event }

def recordedMachine (config : CreditWatcherConfig) :
    Machine RecordedWatcher WatcherEvent where
  step := recordedStep config

/-! ## One step -/

/-- A signal that is granted, unlike one that is declined, makes one
`sendVrsc` call. -/
inductive RecordedDecision (config : CreditWatcherConfig) (watcher : CreditWatcher) (now : ℚ)
    (segment : Segment) : Prop
  | declined :
      segment.watcher = watcher → segment.suspended = none → segment.topUpRecords now = [] →
      RecordedDecision config watcher now segment
  | granted :
      watcher.pending = false →
      (watcher.lastTopUpAt ≤ 0 ∨
        config.policy.minIntervalSec.toRat * 1000 ≤ now - watcher.lastTopUpAt) →
      segment.watcher = { watcher with pending := true } →
      segment.suspended = some { now, suspended := .sendVrsc } →
      segment.topUpRecords now = [.sendVrsc now] →
      RecordedDecision config watcher now segment

theorem alertAndReturn_records (config : CreditWatcherConfig) (watcher : CreditWatcher)
    (alert : CreditWatcherAlert) (result : TopUpResult) (now : ℚ) :
    (alertAndReturn config watcher alert result).topUpRecords now = [] := by
  rw [alertAndReturn_eq, Segment.topUpRecords]
  cases config.onAlert <;> rfl

theorem maybeTopUp_recorded (config : CreditWatcherConfig) (watcher : CreditWatcher) (now : ℚ) :
    RecordedDecision config watcher now (maybeTopUp config watcher now) := by
  simp only [maybeTopUp]
  split
  · exact .declined rfl rfl rfl
  · rename_i free
    split
    · exact .declined rfl rfl rfl
    · rename_i spaced
      split
      · exact .declined rfl rfl (alertAndReturn_records ..)
      · apply RecordedDecision.granted _ _ rfl rfl rfl
        · simpa using free
        · rw [not_and_or, not_lt, not_lt] at spaced
          exact spaced

theorem observeRemaining_recorded (config : CreditWatcherConfig) (watcher : CreditWatcher)
    (remaining : Number) (now : ℚ) :
    RecordedDecision config watcher now (observeRemaining config watcher remaining now) := by
  simp only [observeRemaining]
  split
  · split
    · exact .declined rfl rfl rfl
    · exact maybeTopUp_recorded config watcher now
  · exact .declined rfl rfl rfl

theorem onCreditLow_recorded (config : CreditWatcherConfig) (watcher : CreditWatcher)
    (event : CreditLowEvent) (now : ℚ) :
    RecordedDecision config watcher now (onCreditLow config watcher event now) := by
  simp only [onCreditLow]
  split
  · exact .declined rfl rfl rfl
  · exact observeRemaining_recorded config watcher _ now

/-- Everything that a step can do to the guard, the debounce anchor, the
suspended calls and the history. -/
inductive Move (config : CreditWatcherConfig) (before after : RecordedWatcher) : Prop
  | declined :
      after.state.watcher = before.state.watcher →
      after.state.inFlight = before.state.inFlight →
      after.records = before.records → Move config before after
  | granted :
      before.state.watcher.pending = false →
      (before.state.watcher.lastTopUpAt ≤ 0 ∨ config.policy.minIntervalSec.toRat * 1000 ≤
        after.state.clock - before.state.watcher.lastTopUpAt) →
      after.state.watcher = { before.state.watcher with pending := true } →
      after.state.inFlight =
        before.state.inFlight ++ [{ now := after.state.clock, suspended := .sendVrsc }] →
      after.records = before.records ++ [.sendVrsc after.state.clock] →
      Move config before after
  | continued (call : Nat) (topUp : TopUp) (next : Suspended) :
      before.state.inFlight[call]? = some topUp →
      after.state.watcher = before.state.watcher →
      after.state.inFlight =
        before.state.inFlight.eraseIdx call ++ [{ topUp with suspended := next }] →
      after.records = before.records → Move config before after
  | released (call : Nat) (topUp : TopUp) :
      before.state.inFlight[call]? = some topUp →
      after.state.watcher = { before.state.watcher with pending := false } →
      after.state.inFlight = before.state.inFlight.eraseIdx call →
      after.records = before.records → Move config before after
  | settled (call : Nat) (topUp : TopUp) :
      before.state.inFlight[call]? = some topUp →
      after.state.watcher.pending = false →
      after.state.watcher.lastTopUpAt = topUp.now →
      after.state.inFlight = before.state.inFlight.eraseIdx call →
      after.records = before.records ++ [.settled topUp.now] → Move config before after

theorem RecordedDecision.move {config : CreditWatcherConfig} {before after : RecordedWatcher}
    {segment : Segment}
    (decision : RecordedDecision config before.state.watcher after.state.clock segment)
    (watcher_eq : after.state.watcher = segment.watcher)
    (inFlight_eq : after.state.inFlight =
      before.state.inFlight ++ segment.suspended.toList)
    (records_eq : after.records =
      before.records ++ segment.topUpRecords after.state.clock) :
    Move config before after := by
  cases decision with
  | declined unchanged returned unrecorded =>
      apply Move.declined
      · rw [watcher_eq, unchanged]
      · simp [inFlight_eq, returned]
      · simp [records_eq, unrecorded]
  | granted free spaced claimed suspended sent =>
      apply Move.granted free spaced
      · rw [watcher_eq, claimed]
      · simp [inFlight_eq, suspended]
      · rw [records_eq, sent]

theorem recordedStep_move {config : CreditWatcherConfig} {before after : RecordedWatcher}
    {event : WatcherEvent} (stepped : recordedStep config before event = some after) :
    Move config before after ∧
      after.state.clock = event.reading.getD before.state.clock := by
  rw [recordedStep, Option.map_eq_some_iff] at stepped
  rcases stepped with ⟨next, stepped, rfl⟩
  cases event with
  | observeRemaining now remaining =>
      simp only [watcherStep, WatcherEvent.reading, Option.getD_some, lt_irrefl, if_false,
        Option.some.injEq] at stepped
      rw [← stepped]
      exact ⟨RecordedDecision.move
        (observeRemaining_recorded config before.state.watcher remaining now) rfl rfl rfl, rfl⟩
  | onCreditLow now event =>
      simp only [watcherStep, WatcherEvent.reading, Option.getD_some, lt_irrefl, if_false,
        Option.some.injEq] at stepped
      rw [← stepped]
      exact ⟨RecordedDecision.move
        (onCreditLow_recorded config before.state.watcher event now) rfl rfl rfl, rfl⟩
  | sendVrsc call now sent randomNonce =>
      simp only [watcherStep, WatcherEvent.reading, Option.getD_some, lt_irrefl,
        if_false] at stepped
      split at stepped
      · rename_i decidedAt suspended
        rw [← Option.some.inj stepped]
        refine ⟨?_, rfl⟩
        cases sent with
        | error error =>
            exact .released call _ suspended rfl (List.append_nil _) (List.append_nil _)
        | ok txid =>
            cases randomNonce with
            | error error =>
                exact .released call _ suspended rfl (List.append_nil _) (List.append_nil _)
            | ok nonce =>
                exact .continued call _ _ suspended rfl rfl (List.append_nil _)
      · cases stepped
  | signMessage call signed =>
      simp only [watcherStep, WatcherEvent.reading] at stepped
      split at stepped
      · rename_i decidedAt txid nonce timestamp message suspended
        rw [← Option.some.inj stepped]
        refine ⟨?_, rfl⟩
        cases signed with
        | error error =>
            exact .released call _ suspended rfl (List.append_nil _) (List.append_nil _)
        | ok signature =>
            exact .continued call _ _ suspended rfl rfl (List.append_nil _)
      · cases stepped
  | reportDeposit call reported =>
      simp only [watcherStep, WatcherEvent.reading] at stepped
      split at stepped
      · rename_i decidedAt report suspended
        rw [← Option.some.inj stepped]
        refine ⟨?_, rfl⟩
        have settled : recordsOf config { before.state with clock := before.state.clock }
            (.reportDeposit call reported) = [.settled decidedAt] := by
          simp only [recordsOf]
          rw [suspended]
          rfl
        have records_eq := congrArg (before.records ++ ·) settled
        cases reported with
        | error error =>
            exact .settled call _ suspended rfl rfl (List.append_nil _) records_eq
        | ok accepted =>
            exact .settled call _ suspended rfl rfl (List.append_nil _) records_eq
      · cases stepped

/-! ## Mutual exclusion -/

/-- The guard is held exactly by the one call that is past it. -/
def Exclusive (state : WatcherState) : Prop :=
  state.inFlight = [] ∧ state.watcher.pending = false ∨
    state.watcher.pending = true ∧ ∃ topUp, state.inFlight = [topUp]

namespace Exclusive

variable {state : WatcherState}

theorem inFlight_eq_nil (exclusive : Exclusive state) (free : state.watcher.pending = false) :
    state.inFlight = [] := by
  rcases exclusive with idle | held
  · exact idle.1
  · rw [held.1] at free
    cases free

theorem only_suspended (exclusive : Exclusive state) {call : Nat} {topUp : TopUp}
    (suspended : state.inFlight[call]? = some topUp) :
    state.watcher.pending = true ∧ state.inFlight = [topUp] ∧
      state.inFlight.eraseIdx call = [] := by
  rcases exclusive with idle | ⟨held, only, single⟩
  · simp [idle.1] at suspended
  · rw [single] at suspended ⊢
    rcases getElem?_singleton_eq_some suspended with ⟨rfl, erased⟩
    exact ⟨held, rfl, erased⟩

theorem move {config : CreditWatcherConfig} {before after : RecordedWatcher}
    (exclusive : Exclusive before.state) (move : Move config before after) :
    Exclusive after.state := by
  cases move with
  | declined watcher_eq inFlight_eq => rwa [Exclusive, watcher_eq, inFlight_eq]
  | granted free _ watcher_eq inFlight_eq =>
      rw [exclusive.inFlight_eq_nil free] at inFlight_eq
      exact .inr ⟨by rw [watcher_eq], _, inFlight_eq⟩
  | continued call topUp next suspended watcher_eq inFlight_eq =>
      rcases exclusive.only_suspended suspended with ⟨held, _, erased⟩
      rw [erased] at inFlight_eq
      exact .inr ⟨by rw [watcher_eq, held], _, inFlight_eq⟩
  | released call topUp suspended watcher_eq inFlight_eq =>
      rw [(exclusive.only_suspended suspended).2.2] at inFlight_eq
      exact .inl ⟨inFlight_eq, by rw [watcher_eq]⟩
  | settled call topUp suspended free _ inFlight_eq =>
      rw [(exclusive.only_suspended suspended).2.2] at inFlight_eq
      exact .inl ⟨inFlight_eq, free⟩

end Exclusive

/-! ## Debounce -/

/-- A `sendVrsc` call keeps its distance from an earlier settled top-up. -/
def Spaced (config : CreditWatcherConfig) (earlier later : TopUpRecord) : Prop :=
  ∀ topUpAt now, earlier = .settled topUpAt → later = .sendVrsc now → 0 < topUpAt →
    topUpAt + config.policy.minIntervalSec.toRat * 1000 ≤ now

/-- The clock reading of an event is not before the last one, unless the
policy's interval makes up for that. -/
def Timely (config : CreditWatcherConfig) (recorded : RecordedWatcher)
    (event : WatcherEvent) : Prop :=
  0 ≤ config.policy.minIntervalSec.toRat ∨ ∀ now ∈ event.reading, recorded.state.clock ≤ now

/-- The invariant of the debounce: the anchor is the latest decision among the
settled top-ups, and a call in flight was decided no earlier than any of them. -/
structure Debounced (config : CreditWatcherConfig) (recorded : RecordedWatcher) : Prop where
  exclusive : Exclusive recorded.state
  anchored : ∀ topUpAt, .settled topUpAt ∈ recorded.records → 0 < topUpAt →
    topUpAt ≤ recorded.state.watcher.lastTopUpAt
  ordered : ∀ topUpAt, .settled topUpAt ∈ recorded.records → 0 < topUpAt →
    ∀ topUp ∈ recorded.state.inFlight, topUpAt ≤ topUp.now
  current : config.policy.minIntervalSec.toRat < 0 →
    0 < recorded.state.watcher.lastTopUpAt →
      recorded.state.watcher.lastTopUpAt ≤ recorded.state.clock
  decided : config.policy.minIntervalSec.toRat < 0 →
    ∀ topUp ∈ recorded.state.inFlight, topUp.now ≤ recorded.state.clock
  spaced : recorded.records.Pairwise (Spaced config)

namespace Debounced

variable {config : CreditWatcherConfig} {before after : RecordedWatcher}

theorem initial (config : CreditWatcherConfig) (clock : ℚ) :
    Debounced config { state := { clock } } where
  exclusive := .inl ⟨rfl, rfl⟩
  anchored := by simp
  ordered := by simp
  current _ positive := absurd positive (lt_irrefl 0)
  decided := by simp
  spaced := .nil

theorem granted_spaced (debounced : Debounced config before) {now : ℚ}
    (later : config.policy.minIntervalSec.toRat < 0 → before.state.clock ≤ now)
    (spaced : before.state.watcher.lastTopUpAt ≤ 0 ∨
      config.policy.minIntervalSec.toRat * 1000 ≤ now - before.state.watcher.lastTopUpAt)
    {topUpAt : ℚ} (settled : .settled topUpAt ∈ before.records) (positive : 0 < topUpAt) :
    topUpAt ≤ now ∧ topUpAt + config.policy.minIntervalSec.toRat * 1000 ≤ now := by
  have anchored := debounced.anchored topUpAt settled positive
  have armed : 0 < before.state.watcher.lastTopUpAt := lt_of_lt_of_le positive anchored
  rcases spaced with unarmed | spaced
  · exact absurd armed (not_lt.mpr unarmed)
  · have apart : topUpAt + config.policy.minIntervalSec.toRat * 1000 ≤ now := by linarith
    refine ⟨?_, apart⟩
    rcases lt_or_ge config.policy.minIntervalSec.toRat 0 with negative | nonneg
    · have current := debounced.current negative armed
      linarith [later negative]
    · linarith

theorem move (debounced : Debounced config before)
    (later : config.policy.minIntervalSec.toRat < 0 → before.state.clock ≤ after.state.clock)
    (move : Move config before after) : Debounced config after := by
  have exclusive := debounced.exclusive.move move
  cases move with
  | declined watcher_eq inFlight_eq records_eq =>
      exact {
        exclusive
        anchored := by simpa only [watcher_eq, records_eq] using debounced.anchored
        ordered := by simpa only [inFlight_eq, records_eq] using debounced.ordered
        current := fun negative armed => by
          rw [watcher_eq] at armed ⊢
          exact (debounced.current negative armed).trans (later negative)
        decided := fun negative topUp member => by
          rw [inFlight_eq] at member
          exact (debounced.decided negative topUp member).trans (later negative)
        spaced := by simpa only [records_eq] using debounced.spaced }
  | granted free spaced watcher_eq inFlight_eq records_eq =>
      rw [debounced.exclusive.inFlight_eq_nil free, List.nil_append] at inFlight_eq
      have settledBefore : ∀ topUpAt, .settled topUpAt ∈ after.records →
          .settled topUpAt ∈ before.records := by
        intro topUpAt settled
        simpa [records_eq] using settled
      exact {
        exclusive
        anchored := fun topUpAt settled positive => by
          rw [watcher_eq]
          exact debounced.anchored topUpAt (settledBefore topUpAt settled) positive
        ordered := fun topUpAt settled positive topUp member => by
          rw [inFlight_eq, List.mem_singleton] at member
          rw [member]
          exact (debounced.granted_spaced later spaced
            (settledBefore topUpAt settled) positive).1
        current := fun negative armed => by
          rw [watcher_eq] at armed ⊢
          exact (debounced.current negative armed).trans (later negative)
        decided := fun _ topUp member => by
          rw [inFlight_eq, List.mem_singleton] at member
          rw [member]
        spaced := by
          rw [records_eq, List.pairwise_append]
          refine ⟨debounced.spaced, List.pairwise_singleton _ _, ?_⟩
          intro earlier member later' last topUpAt now settled sent positive
          rw [List.mem_singleton.mp last, TopUpRecord.sendVrsc.injEq] at sent
          rw [settled] at member
          rw [← sent]
          exact (debounced.granted_spaced later spaced member positive).2 }
  | continued call topUp next suspended watcher_eq inFlight_eq records_eq =>
      rcases debounced.exclusive.only_suspended suspended with ⟨_, single, erased⟩
      rw [erased, List.nil_append] at inFlight_eq
      have only : topUp ∈ before.state.inFlight := by simp [single]
      exact {
        exclusive
        anchored := by simpa only [watcher_eq, records_eq] using debounced.anchored
        ordered := fun topUpAt settled positive call member => by
          rw [records_eq] at settled
          rw [inFlight_eq, List.mem_singleton] at member
          rw [member]
          exact debounced.ordered topUpAt settled positive topUp only
        current := fun negative armed => by
          rw [watcher_eq] at armed ⊢
          exact (debounced.current negative armed).trans (later negative)
        decided := fun negative call member => by
          rw [inFlight_eq, List.mem_singleton] at member
          rw [member]
          exact (debounced.decided negative topUp only).trans (later negative)
        spaced := by simpa only [records_eq] using debounced.spaced }
  | released call topUp suspended watcher_eq inFlight_eq records_eq =>
      rw [(debounced.exclusive.only_suspended suspended).2.2] at inFlight_eq
      exact {
        exclusive
        anchored := by simpa only [watcher_eq, records_eq] using debounced.anchored
        ordered := by simp [inFlight_eq]
        current := fun negative armed => by
          rw [watcher_eq] at armed ⊢
          exact (debounced.current negative armed).trans (later negative)
        decided := by simp [inFlight_eq]
        spaced := by simpa only [records_eq] using debounced.spaced }
  | settled call topUp suspended _ anchor_eq inFlight_eq records_eq =>
      rcases debounced.exclusive.only_suspended suspended with ⟨_, single, erased⟩
      rw [erased] at inFlight_eq
      have only : topUp ∈ before.state.inFlight := by simp [single]
      exact {
        exclusive
        anchored := fun topUpAt settled positive => by
          rw [records_eq, List.mem_append] at settled
          rw [anchor_eq]
          rcases settled with earlier | now
          · exact debounced.ordered topUpAt earlier positive topUp only
          · rw [List.mem_singleton, TopUpRecord.settled.injEq] at now
            exact now.le
        ordered := by simp [inFlight_eq]
        current := fun negative _ => by
          rw [anchor_eq]
          exact (debounced.decided negative topUp only).trans (later negative)
        decided := by simp [inFlight_eq]
        spaced := by
          rw [records_eq, List.pairwise_append]
          refine ⟨debounced.spaced, List.pairwise_singleton _ _, ?_⟩
          intro earlier _ later' last topUpAt now _ sent
          rw [List.mem_singleton.mp last] at sent
          cases sent }

theorem step {event : WatcherEvent} (debounced : Debounced config before)
    (timely : Timely config before event)
    (stepped : recordedStep config before event = some after) : Debounced config after := by
  rcases recordedStep_move stepped with ⟨move, clock_eq⟩
  apply debounced.move _ move
  intro negative
  rcases timely with nonneg | later
  · exact absurd negative (not_lt.mpr nonneg)
  · rw [clock_eq]
    cases read : event.reading with
    | none => exact le_rfl
    | some now => exact later now read

end Debounced

/-! ## Runs -/

/-- A run with a policy interval that is not negative, or with a clock that
does not go backwards, takes timely steps only. -/
theorem timely_runs {config : CreditWatcherConfig} {start final : RecordedWatcher}
    {events : List WatcherEvent}
    (runs : (recordedMachine config).Runs (fun _ _ => True) start events final)
    (steady : 0 ≤ config.policy.minIntervalSec.toRat ∨
      (start.state.clock :: events.filterMap WatcherEvent.reading).Pairwise (· ≤ ·)) :
    (recordedMachine config).Runs (Timely config) start events final := by
  induction runs with
  | nil => exact .nil _
  | @cons start middle final event events _ stepped _ induction =>
      have clock_eq := (recordedStep_move stepped).2
      rcases steady with nonneg | sorted
      · exact .cons (.inl nonneg) stepped (induction (.inl nonneg))
      · cases read : event.reading with
        | none =>
            rw [List.filterMap_cons_none read] at sorted
            rw [read, Option.getD_none] at clock_eq
            rw [← clock_eq] at sorted
            refine .cons (.inr ?_) stepped (induction (.inr sorted))
            simp [read]
        | some now =>
            rw [List.filterMap_cons_some read] at sorted
            rw [read, Option.getD_some] at clock_eq
            rcases List.pairwise_cons.mp sorted with ⟨first, rest⟩
            rw [← clock_eq] at rest
            refine .cons (.inr ?_) stepped (induction (.inr rest))
            intro later member
            rw [read, Option.mem_some_iff] at member
            exact member ▸ first now List.mem_cons_self

/-- Under every policy and in every interleaving, with any clock, at most one
top-up is in progress and the guard is free whenever none is. A `sendVrsc` call
keeps the interval from every earlier settled top-up, unless the interval is
negative and the clock goes backwards. -/
theorem credit_watcher_exclusive_and_debounced (config : CreditWatcherConfig) {clock : ℚ}
    {events : List WatcherEvent} {final : RecordedWatcher}
    (runs : (recordedMachine config).Runs (fun _ _ => True)
      { state := { clock } } events final) :
    final.state.inFlight.length ≤ 1 ∧
    (final.state.inFlight = [] → final.state.watcher.pending = false) ∧
    (0 ≤ config.policy.minIntervalSec.toRat ∨
        (clock :: events.filterMap WatcherEvent.reading).Pairwise (· ≤ ·) →
      final.records.Pairwise (Spaced config)) := by
  have exclusive : Exclusive final.state := by
    apply runs.preserves fun recorded => Exclusive recorded.state
    · intro before event after _ exclusive stepped
      exact exclusive.move (recordedStep_move stepped).1
    · exact (Debounced.initial config clock).exclusive
  refine ⟨?_, ?_, ?_⟩
  · rcases exclusive with idle | ⟨_, topUp, single⟩
    · simp [idle.1]
    · simp [single]
  · intro idle
    rcases exclusive with free | ⟨_, topUp, single⟩
    · exact free.2
    · rw [idle] at single
      cases single
  · intro steady
    have debounced : Debounced config final := by
      apply (timely_runs runs steady).preserves (Debounced config)
      · intro before event after timely debounced stepped
        exact debounced.step timely stepped
      · exact Debounced.initial config clock
    exact debounced.spaced

private def everyMinute : CreditWatcherConfig where
  seller := { sellerVerusId := "bob.sovcompute@", buyerVerusId := "alice.sovagent@"
              payAddress := "RSellerPay" }
  policy := { threshold := 1, topUpAmount := 5, dailyCapVrsc := 100, minIntervalSec := 60 }

private def topUpAt (now : ℚ) : List WatcherEvent :=
  [.observeRemaining now 0, .sendVrsc 0 now (.ok "tx") (.ok "nonce"),
    .signMessage 0 (.ok "sig"), .reportDeposit 0 (.ok ())]

/-- Two top-ups a minute apart, with a signal in between that is refused. -/
theorem credit_watcher_exclusive_and_debounced_minute :
    ∃ final, (recordedMachine everyMinute).run { state := { clock := 0 } }
        (topUpAt 1000 ++ [.observeRemaining 60000 0] ++ topUpAt 61000) = some final ∧
      final.records = [.sendVrsc 1000, .settled 1000, .sendVrsc 61000, .settled 61000] ∧
      final.records.Pairwise (Spaced everyMinute) := by
  rcases Option.isSome_iff_exists.mp (show ((recordedMachine everyMinute).run
    { state := { clock := 0 } } (topUpAt 1000 ++ [.observeRemaining 60000 0] ++
      topUpAt 61000)).isSome by decide +kernel) with ⟨final, executed⟩
  have recorded : ((recordedMachine everyMinute).run { state := { clock := 0 } }
      (topUpAt 1000 ++ [.observeRemaining 60000 0] ++ topUpAt 61000)).map (·.records) =
      some [.sendVrsc 1000, .settled 1000, .sendVrsc 61000, .settled 61000] := by
    decide +kernel
  rw [executed] at recorded
  refine ⟨final, executed, Option.some.inj recorded, ?_⟩
  exact (credit_watcher_exclusive_and_debounced everyMinute
    (Machine.runs_of_run (fun _ _ _ => trivial) executed)).2.2 (.inl (by decide +kernel))

private def backwards : CreditWatcherConfig where
  seller := everyMinute.seller
  policy := { everyMinute.policy with minIntervalSec := .ofInt (-10) }

/-- With a negative interval and a clock that goes backwards, the third send is
15 seconds before the first top-up, which had settled. -/
theorem backwards_clock_undercuts_interval :
    ∃ final, (recordedMachine backwards).run { state := { clock := 0 } }
        (topUpAt 100000 ++ topUpAt 95000 ++ topUpAt 85000) = some final ∧
      ¬ final.records.Pairwise (Spaced backwards) := by
  rcases Option.isSome_iff_exists.mp (show ((recordedMachine backwards).run
    { state := { clock := 0 } } (topUpAt 100000 ++ topUpAt 95000 ++ topUpAt 85000)).isSome
      by decide +kernel) with ⟨final, executed⟩
  have recorded : ((recordedMachine backwards).run { state := { clock := 0 } }
      (topUpAt 100000 ++ topUpAt 95000 ++ topUpAt 85000)).map (·.records) =
      some [.sendVrsc 100000, .settled 100000, .sendVrsc 95000, .settled 95000,
        .sendVrsc 85000, .settled 85000] := by
    decide +kernel
  rw [executed] at recorded
  refine ⟨final, executed, ?_⟩
  intro spaced
  rw [show final.records = _ from Option.some.inj recorded] at spaced
  have first := (List.pairwise_cons.mp (List.pairwise_cons.mp spaced).2).1
    (.sendVrsc 85000) (by simp) 100000 85000 rfl rfl (by norm_num)
  have interval : backwards.policy.minIntervalSec.toRat = -10 := by decide +kernel
  rw [interval] at first
  norm_num at first

end SovAgent.Buyer

import SovAgent.Agent.UtxoChaining
import SovAgent.Foundation.NumberText

/-! # Payments whose broadcast is rejected

The inputs of a payment are recorded before its broadcast, and nothing takes
them back when the node refuses the transaction. Only `stop` forgets them.
-/

namespace SovAgent.Wallet

open Identity Inbox Tx

/-! ## The agent that may be stopped -/

inductive AgentEvent where
  | wallet (event : WalletEvent)
  | stop

namespace AgentEvent

def isStop : AgentEvent → Bool
  | .stop => true
  | .wallet _ => false

/-- The segments of a `sendCurrency` or `sendMultiPayment` call. -/
def ofPayment : AgentEvent → Bool
  | .wallet .startPayment | .wallet .paymentFails | .wallet (.paymentListed _ _)
  | .wallet (.paymentTip _) | .wallet (.paymentAnswered _) => true
  | _ => false

end AgentEvent

section Machine

variable (library : PaymentLibrary) (agent : InboxAgent)

/-- `stop` clears what the wallet tracks, also while a call is running. -/
def stoppableMachine : Machine AgentState AgentEvent where
  step state
    | .wallet event => (walletMachine library agent).step state event
    | .stop => some { state with tracking := UtxoTracking.empty }

end Machine

/-- What is left of the tracking after these events, none of a payment. -/
def afterStops (events : List AgentEvent) (tracking : UtxoTracking) : UtxoTracking :=
  if events.any AgentEvent.isStop then UtxoTracking.empty else tracking

/-- A call that starts, lists its outputs, builds and is rejected by the node,
with everything else that happens in between. -/
structure RejectedSend where
  payInfo : Except Thrown String
  listed : List Utxo
  tip : Option Int
  error : Thrown
  untilListed : List AgentEvent
  untilBuilt : List AgentEvent
  untilRejected : List AgentEvent
  others : ∀ event ∈ untilListed ++ (untilBuilt ++ untilRejected), event.ofPayment = false

namespace RejectedSend

def events (send : RejectedSend) : List AgentEvent :=
  .wallet .startPayment :: (send.untilListed ++
    .wallet (.paymentListed send.payInfo send.listed) :: (send.untilBuilt ++
      .wallet (.paymentTip send.tip) :: (send.untilRejected ++
        [.wallet (.paymentAnswered (.error send.error))])))

/-- The same events without those of the call. -/
def otherEvents (send : RejectedSend) : List AgentEvent :=
  send.untilListed ++ (send.untilBuilt ++ send.untilRejected)

end RejectedSend

/-! ## The run with the call beside the run without it -/

def UpdateStage.forget : UpdateStage → UpdateStage
  | .broadcasting _ => .broadcasting 0
  | stage => stage

/-- Two states whose identity updates are at the same points. -/
def Alongside (state spared : AgentState) : Prop :=
  state.updates.map UpdateStage.forget = spared.updates.map UpdateStage.forget

theorem Alongside.at_index {state spared : AgentState} (alongside : Alongside state spared)
    (index : Nat) :
    (state.updates[index]?).map UpdateStage.forget =
      (spared.updates[index]?).map UpdateStage.forget := by
  have same := congrArg (·[index]?) alongside
  simpa only [List.getElem?_map] using same

theorem map_set_forget {updates spared : List UpdateStage} {index : Nat}
    {stage other : UpdateStage}
    (same : updates.map UpdateStage.forget = spared.map UpdateStage.forget)
    (forgets : stage.forget = other.forget) :
    (updates.set index stage).map UpdateStage.forget =
      (spared.set index other).map UpdateStage.forget := by
  rw [List.map_set, List.map_set, same, forgets]

theorem forget_eq_called {stage : UpdateStage} {request : UpdateRequest} :
    stage.forget = .called request ↔ stage = .called request := by
  cases stage <;> simp [UpdateStage.forget]

theorem forget_eq_read {stage : UpdateStage} {request : UpdateRequest} {data : RawIdentityData}
    {utxos : Option (List Utxo)} :
    stage.forget = .read request data utxos ↔ stage = .read request data utxos := by
  cases stage <;> simp [UpdateStage.forget]

theorem forget_eq_broadcasting {stage : UpdateStage} :
    stage.forget = .broadcasting 0 ↔ ∃ position, stage = .broadcasting position := by
  cases stage <;> simp [UpdateStage.forget]

/-- The call is where it was, and the tracking is as the stops have left it. -/
structure Undisturbed (events : List AgentEvent) (state next : AgentState) : Prop where
  running : next.running = state.running
  tracking : next.tracking = afterStops events state.tracking

theorem Undisturbed.quiet {event : WalletEvent} {state next : AgentState}
    (running : next.running = state.running) (tracking : next.tracking = state.tracking) :
    Undisturbed [.wallet event] state next := ⟨running, tracking⟩

theorem Undisturbed.cons {event : AgentEvent} {events : List AgentEvent}
    {state middle next : AgentState} (first : Undisturbed [event] state middle)
    (rest : Undisturbed events middle next) : Undisturbed (event :: events) state next where
  running := rest.running.trans first.running
  tracking := by
    rw [rest.tracking, first.tracking, afterStops, afterStops, afterStops, List.any_cons,
      List.any_cons, List.any_nil]
    cases event.isStop with
    | true => simp
    | false => simp

section Steps

variable {library : PaymentLibrary} {agent : InboxAgent} {state next spared : AgentState}

theorem callPayment_alongside {payment : Payment} (alongside : Alongside state spared)
    (stepped : callPayment agent payment state = some next) :
    ∃ sparedNext, callPayment agent payment spared = some sparedNext ∧
      Alongside next sparedNext ∧ Undisturbed [.wallet (.callPayment payment)] state next ∧
      Undisturbed [.wallet (.callPayment payment)] spared sparedNext := by
  simp only [callPayment] at stepped ⊢
  split at stepped
  · rename_i keyed
    rw [if_pos keyed, ← Option.some.inj stepped]
    exact ⟨_, rfl, alongside, .quiet rfl rfl, .quiet rfl rfl⟩
  · cases stepped

theorem callUpdate_alongside {request : UpdateRequest} (alongside : Alongside state spared) :
    Alongside { state with updates := state.updates ++ [.called request] }
      { spared with updates := spared.updates ++ [.called request] } := by
  rw [Alongside, List.map_append, List.map_append, alongside]

theorem failUpdate_alongside {index : Nat} (alongside : Alongside state spared)
    (stepped : failUpdate index state = some next) :
    ∃ sparedNext, failUpdate index spared = some sparedNext ∧
      Alongside next sparedNext ∧ Undisturbed [.wallet (.updateFails index)] state next ∧
      Undisturbed [.wallet (.updateFails index)] spared sparedNext := by
  have same := alongside.at_index index
  simp only [failUpdate] at stepped
  split at stepped
  · rename_i request found
    rw [found] at same
    rcases Option.map_eq_some_iff.mp same.symm with ⟨stage, sparedFound, forgets⟩
    rw [forget_eq_called.mp forgets] at sparedFound
    rw [failUpdate, sparedFound, ← Option.some.inj stepped]
    exact ⟨_, rfl, map_set_forget alongside rfl, .quiet rfl rfl, .quiet rfl rfl⟩
  · rename_i request data utxos found
    rw [found] at same
    rcases Option.map_eq_some_iff.mp same.symm with ⟨stage, sparedFound, forgets⟩
    rw [forget_eq_read.mp forgets] at sparedFound
    rw [failUpdate, sparedFound, ← Option.some.inj stepped]
    exact ⟨_, rfl, map_set_forget alongside rfl, .quiet rfl rfl, .quiet rfl rfl⟩
  · cases stepped

theorem listUpdate_alongside {index : Nat} {data : RawIdentityData} {utxos : Option (List Utxo)}
    (alongside : Alongside state spared)
    (stepped : listUpdate index data utxos state = some next) :
    ∃ sparedNext, listUpdate index data utxos spared = some sparedNext ∧
      Alongside next sparedNext ∧
      Undisturbed [.wallet (.updateListed index data utxos)] state next ∧
      Undisturbed [.wallet (.updateListed index data utxos)] spared sparedNext := by
  have same := alongside.at_index index
  simp only [listUpdate] at stepped
  split at stepped
  · rename_i request found
    rw [found] at same
    rcases Option.map_eq_some_iff.mp same.symm with ⟨stage, sparedFound, forgets⟩
    rw [forget_eq_called.mp forgets] at sparedFound
    rw [listUpdate, sparedFound, ← Option.some.inj stepped]
    exact ⟨_, rfl, map_set_forget alongside rfl, .quiet rfl rfl, .quiet rfl rfl⟩
  · cases stepped

theorem buildUpdate_alongside {index : Nat} {tip : Option Int}
    (alongside : Alongside state spared)
    (stepped : buildUpdate library agent index tip state = some next) :
    ∃ sparedNext, buildUpdate library agent index tip spared = some sparedNext ∧
      Alongside next sparedNext ∧ Undisturbed [.wallet (.updateTip index tip)] state next ∧
      Undisturbed [.wallet (.updateTip index tip)] spared sparedNext := by
  have same := alongside.at_index index
  simp only [buildUpdate] at stepped
  split at stepped
  · rename_i request data utxos found
    rw [found] at same
    rcases Option.map_eq_some_iff.mp same.symm with ⟨stage, sparedFound, forgets⟩
    rw [forget_eq_read.mp forgets] at sparedFound
    simp only [buildUpdate, sparedFound]
    split at stepped
    · rw [← Option.some.inj stepped]
      exact ⟨_, rfl, map_set_forget alongside rfl, .quiet rfl rfl, .quiet rfl rfl⟩
    · rw [← Option.some.inj stepped]
      exact ⟨_, rfl, map_set_forget alongside rfl, .quiet rfl rfl, .quiet rfl rfl⟩
  · cases stepped

theorem answerUpdate_alongside {index : Nat} {answer : Except Thrown String}
    (alongside : Alongside state spared)
    (stepped : answerUpdate index answer state = some next) :
    ∃ sparedNext, answerUpdate index answer spared = some sparedNext ∧
      Alongside next sparedNext ∧
      Undisturbed [.wallet (.updateAnswered index answer)] state next ∧
      Undisturbed [.wallet (.updateAnswered index answer)] spared sparedNext := by
  have same := alongside.at_index index
  simp only [answerUpdate] at stepped
  split at stepped
  · rename_i position found
    rw [found] at same
    rcases Option.map_eq_some_iff.mp same.symm with ⟨stage, sparedFound, forgets⟩
    rcases forget_eq_broadcasting.mp forgets with ⟨sparedPosition, rfl⟩
    rw [answerUpdate, sparedFound, ← Option.some.inj stepped]
    exact ⟨_, rfl, map_set_forget alongside rfl, .quiet rfl rfl, .quiet rfl rfl⟩
  · cases stepped

/-- What is not part of a payment happens also in the run without the call. -/
theorem other_step {event : AgentEvent} (other : event.ofPayment = false)
    (alongside : Alongside state spared)
    (stepped : (stoppableMachine library agent).step state event = some next) :
    ∃ sparedNext, (stoppableMachine library agent).step spared event = some sparedNext ∧
      Alongside next sparedNext ∧ Undisturbed [event] state next ∧
      Undisturbed [event] spared sparedNext := by
  cases event with
  | stop =>
      cases stepped
      exact ⟨_, rfl, alongside, ⟨rfl, rfl⟩, ⟨rfl, rfl⟩⟩
  | wallet event =>
      cases event with
      | callPayment payment => exact callPayment_alongside alongside stepped
      | startPayment | paymentFails | paymentListed payInfo listed | paymentTip tip
      | paymentAnswered answer => cases other
      | callUpdate request =>
          cases stepped
          exact ⟨_, rfl, callUpdate_alongside alongside, .quiet rfl rfl, .quiet rfl rfl⟩
      | updateFails index => exact failUpdate_alongside alongside stepped
      | updateListed index data utxos => exact listUpdate_alongside alongside stepped
      | updateTip index tip => exact buildUpdate_alongside alongside stepped
      | updateAnswered index answer => exact answerUpdate_alongside alongside stepped

theorem others_run {events : List AgentEvent}
    (others : ∀ event ∈ events, event.ofPayment = false) (alongside : Alongside state spared)
    (executed : (stoppableMachine library agent).run state events = some next) :
    ∃ sparedNext, (stoppableMachine library agent).run spared events = some sparedNext ∧
      Alongside next sparedNext ∧ Undisturbed events state next ∧
      Undisturbed events spared sparedNext := by
  induction events generalizing state spared with
  | nil =>
      cases executed
      exact ⟨spared, rfl, alongside, ⟨rfl, rfl⟩, ⟨rfl, rfl⟩⟩
  | cons event events induction =>
      rcases Option.bind_eq_some_iff.mp executed with ⟨middle, stepped, rest⟩
      rcases other_step (others event List.mem_cons_self) alongside stepped with
        ⟨sparedMiddle, sparedStepped, sameMiddle, first, sparedFirst⟩
      rcases induction (fun later member => others later (List.mem_cons_of_mem event member))
        sameMiddle rest with ⟨sparedNext, sparedRest, sameNext, later, sparedLater⟩
      refine ⟨sparedNext, ?_, sameNext, first.cons later, sparedFirst.cons sparedLater⟩
      rw [Machine.run, sparedStepped]
      exact sparedRest

end Steps

/-! ## What a built payment records -/

theorem toSatoshis_nonneg {value : Decimal} (positive : 0 < value.mantissa) :
    0 ≤ toSatoshis value := by
  have amount : 0 ≤ value.toRat * satsPerCoin := by
    apply mul_nonneg
    · exact Decimal.toRat_nonneg_iff.mpr positive.le
    · norm_num [satsPerCoin]
  change 0 ≤ ⌊(value.toRat * satsPerCoin + 1 / 2 : ℚ)⌋
  rw [Int.le_floor, Int.cast_zero]
  linarith

theorem payableSatoshis_nonneg {name : String} {amount : Number} {satoshis : Int}
    (payable : payableSatoshis name amount = .ok satoshis) : 0 ≤ satoshis := by
  simp only [payableSatoshis] at payable
  split at payable
  · split at payable
    · rename_i positive
      rw [← Except.ok.inj payable]
      exact toSatoshis_nonneg positive
    · cases payable
  · cases payable

theorem payableOutputs_nonneg {outputs : List (String × Number)} {payable : List (String × Int)}
    (pays : payableOutputs outputs = .ok payable) : 0 ≤ (payable.map Prod.snd).sum := by
  induction outputs generalizing payable with
  | nil =>
      cases pays
      exact le_rfl
  | cons head tail induction =>
      simp only [payableOutputs, bind_eq_ok, Except.ok.injEq] at pays
      rcases pays with ⟨satoshis, first, rest, others, rfl⟩
      have positive := payableSatoshis_nonneg first
      have remaining := induction others
      rw [List.map_cons, List.sum_cons]
      omega

theorem buildOutputs_spends {library : PaymentLibrary} {options : PaymentOptions}
    {outputs : List (String × Int)} {built : MultiPaymentResult}
    (needs : 0 < (outputs.map Prod.snd).sum + options.fee)
    (builds : buildOutputs library options outputs = .ok built) : built.spentUtxos ≠ [] := by
  simp only [buildOutputs, bind_eq_ok, Except.ok.injEq] at builds
  rcases builds with ⟨⟨selected, total⟩, selects, _, _, _, _, _, _, _, _, rfl⟩
  rw [Tx.selectUtxos, roundHalfUp_coins] at selects
  rcases selectUtxos_covers selects with ⟨total_eq, covered⟩
  intro none
  change selected = [] at none
  rw [none, utxoTotal_nil] at total_eq
  omega

theorem buildFunded_spends {library : PaymentLibrary} {agent : InboxAgent} {wif : String}
    {funded : FundedPayment} {tip : Option Int} {built : MultiPaymentResult}
    (builds : buildFunded library agent wif funded tip = .ok built) : built.spentUtxos ≠ [] := by
  simp only [buildFunded] at builds
  split at builds
  · simp only [buildPayment, bind_eq_ok, exists_unit] at builds
    rcases builds with ⟨satoshis, payable, _, outputs⟩
    have positive := payableSatoshis_nonneg payable
    apply buildOutputs_spends _ outputs
    simp only [List.map_cons, List.map_nil, List.sum_cons, List.sum_nil, defaultFee]
    omega
  · simp only [buildMultiPayment, bind_eq_ok, exists_unit] at builds
    rcases builds with ⟨_, payable, pays, outputs⟩
    have positive := payableOutputs_nonneg pays
    apply buildOutputs_spends _ outputs
    simp only [defaultFee]
    omega

theorem foldl_addSpent_eq (utxos : List Utxo) (spentUtxos : List String) :
    ∃ added, utxos.foldl UtxoTracking.addSpent spentUtxos = spentUtxos ++ added ∧
      ∀ key ∈ added, ∃ utxo ∈ utxos, outpointKey utxo = key := by
  induction utxos generalizing spentUtxos with
  | nil => exact ⟨[], (List.append_nil _).symm, by simp⟩
  | cons head tail induction =>
      rcases induction (UtxoTracking.addSpent spentUtxos head) with ⟨added, folds, named⟩
      rw [List.foldl_cons, folds]
      unfold UtxoTracking.addSpent
      split
      · refine ⟨added, rfl, ?_⟩
        intro key member
        rcases named key member with ⟨utxo, listed, same⟩
        exact ⟨utxo, List.mem_cons_of_mem head listed, same⟩
      · refine ⟨outpointKey head :: added, by simp, ?_⟩
        intro key member
        rcases List.mem_cons.mp member with first | later
        · exact ⟨head, List.mem_cons_self, first.symm⟩
        · rcases named key later with ⟨utxo, listed, same⟩
          exact ⟨utxo, List.mem_cons_of_mem head listed, same⟩

theorem getLast?_dropOldest {limit : Nat} (entries : List α) (some : 0 < limit) :
    (UtxoTracking.dropOldest limit entries).getLast? = entries.getLast? := by
  rw [UtxoTracking.dropOldest, List.getLast?_drop]
  split
  · rename_i short
    have empty : entries.length = 0 := by omega
    rw [List.length_eq_zero_iff.mp empty, List.getLast?_nil]
  · rfl

/-- Whatever is dropped for it, some input of the payment stays recorded. -/
theorem recordSpent_keeps {tracking : UtxoTracking} (payment : Payment) {spent : List Utxo}
    (some : spent ≠ []) (fresh : ∀ utxo ∈ spent, outpointKey utxo ∉ tracking.spentUtxos) :
    ∃ utxo ∈ spent, outpointKey utxo ∈ (tracking.recordSpent payment spent).spentUtxos := by
  cases payment with
  | sendMultiPayment outputs =>
      rcases List.exists_mem_of_ne_nil spent some with ⟨utxo, member⟩
      exact ⟨utxo, member, mem_foldl_addSpent member⟩
  | sendCurrency destination amount options =>
      rcases List.exists_mem_of_ne_nil spent some with ⟨first, member⟩
      rcases foldl_addSpent_eq spent tracking.spentUtxos with ⟨added, folds, named⟩
      have grows : added ≠ [] := by
        intro none
        have recorded : outpointKey first ∈
            spent.foldl UtxoTracking.addSpent tracking.spentUtxos := mem_foldl_addSpent member
        rw [folds, none, List.append_nil] at recorded
        exact fresh first member recorded
      rcases named _ (List.getLast_mem grows) with ⟨utxo, chosen, same⟩
      refine ⟨utxo, chosen, ?_⟩
      apply List.mem_of_getLast?
      simp only [UtxoTracking.recordSpent]
      rw [getLast?_dropOldest _ (by decide), folds, same, List.getLast?_append_of_ne_nil _ grows]
      exact List.getLast?_eq_some_getLast grows

/-! ## The steps of the call -/

section Steps

variable {library : PaymentLibrary} {agent : InboxAgent} {state next : AgentState}

theorem startPayment_starts (stepped : startPayment state = some next) :
    next.updates = state.updates ∧ next.tracking = state.tracking := by
  simp only [startPayment] at stepped
  split at stepped
  · rw [← Option.some.inj stepped]
    exact ⟨rfl, rfl⟩
  · cases stepped

theorem listPayment_lists {payInfo : Except Thrown String} {listed : List Utxo}
    (stepped : listPayment library agent payInfo listed state = some next) :
    next.updates = state.updates ∧ next.tracking.spentUtxos = state.tracking.spentUtxos ∧
      ∀ funded, next.running = some (.funded funded) →
        ∀ utxo ∈ funded.funding.utxos, outpointKey utxo ∉ state.tracking.spentUtxos := by
  simp only [listPayment] at stepped
  split at stepped
  · rw [← Option.some.inj stepped]
    refine ⟨rfl, fundPayment_spentUtxos, ?_⟩
    intro funded runs
    rcases Option.map_eq_some_iff.mp runs with ⟨other, funds, same⟩
    cases same
    exact fundPayment_fresh (toOption_eq_some.mp funds)
  · cases stepped

theorem buildRunning_builds {tip : Option Int}
    (stepped : buildRunning library agent tip state = some next) :
    next.updates = state.updates ∧ (next.running = none ∨ ∃ funded built,
      state.running = some (.funded funded) ∧
      buildFunded library agent (walletKey agent) funded tip = .ok built ∧
      next.tracking = state.tracking.recordSpent funded.payment built.spentUtxos) := by
  simp only [buildRunning] at stepped
  split at stepped
  · rename_i funded running
    split at stepped
    · rw [← Option.some.inj stepped]
      exact ⟨rfl, .inl rfl⟩
    · rename_i built builds
      rw [← Option.some.inj stepped]
      exact ⟨rfl, .inr ⟨funded, built, running, builds, rfl⟩⟩
  · cases stepped

theorem answerPayment_rejects {error : Thrown}
    (stepped : answerPayment (.error error) state = some next) :
    state.running ≠ none ∧ next.tracking = state.tracking := by
  simp only [answerPayment] at stepped
  split at stepped
  · rename_i running
    rw [← Option.some.inj stepped]
    exact ⟨by simp [running], rfl⟩
  · cases stepped

end Steps

/-! ## The candidates after the rejection -/

/-- A listing that shows an output which one tracking records and another
does not. -/
theorem candidates_differ {tracking spared : UtxoTracking} (utxo : Utxo)
    (recorded : outpointKey utxo ∈ tracking.spentUtxos)
    (unspent : outpointKey utxo ∉ spared.spentUtxos) :
    candidates tracking [{ utxo with satoshis := 1 }] ≠
      candidates spared [{ utxo with satoshis := 1 }] := by
  intro same
  have candidate : outpointOf utxo ∈
      (candidates spared [{ utxo with satoshis := 1 }]).map outpointOf := by
    rw [mem_candidates]
    exact ⟨.inl List.mem_cons_self, unspent⟩
  rw [← same, mem_candidates] at candidate
  exact candidate.2 recorded

theorem afterStops_spentUtxos {events : List AgentEvent} {first second : UtxoTracking}
    (same : first.spentUtxos = second.spentUtxos) :
    (afterStops events first).spentUtxos = (afterStops events second).spentUtxos := by
  unfold afterStops
  split
  · rfl
  · exact same

theorem notMem_afterStops {events : List AgentEvent} {tracking : UtxoTracking} {key : String}
    (unspent : key ∉ tracking.spentUtxos) : key ∉ (afterStops events tracking).spentUtxos := by
  unfold afterStops
  split
  · exact List.not_mem_nil
  · exact unspent

/-- After a rejected send the next candidates are those of the run without it,
for every listing, exactly when the agent was stopped after the inputs had been
recorded. -/
theorem rejected_send_undone_iff (library : PaymentLibrary) (agent : InboxAgent)
    (start : AgentState) (send : RejectedSend) {final : AgentState}
    (executed : (stoppableMachine library agent).run start send.events = some final) :
    ∃ spared, (stoppableMachine library agent).run start send.otherEvents = some spared ∧
      ((∀ listed, candidates final.tracking listed = candidates spared.tracking listed) ↔
        send.untilRejected.any AgentEvent.isStop) := by
  have others := send.others
  simp only [List.forall_mem_append] at others
  rw [RejectedSend.events] at executed
  rcases Option.bind_eq_some_iff.mp executed with ⟨started, starts, executed⟩
  rw [Machine.run_append] at executed
  rcases Option.bind_eq_some_iff.mp executed with ⟨waits, first, executed⟩
  rcases Option.bind_eq_some_iff.mp executed with ⟨funds, lists, executed⟩
  rw [Machine.run_append] at executed
  rcases Option.bind_eq_some_iff.mp executed with ⟨waitsTip, second, executed⟩
  rcases Option.bind_eq_some_iff.mp executed with ⟨built, builds, executed⟩
  rw [Machine.run_append] at executed
  rcases Option.bind_eq_some_iff.mp executed with ⟨waitsAnswer, third, executed⟩
  rcases Option.bind_eq_some_iff.mp executed with ⟨rejected, answers, finishes⟩
  cases finishes
  rcases startPayment_starts starts with ⟨updates, tracking⟩
  have alongside : Alongside started start := by rw [Alongside, updates]
  rcases others_run others.1 alongside first with
    ⟨spared, sparedFirst, alongside, quiet, sparedQuiet⟩
  rcases listPayment_lists lists with ⟨updates, listedSpent, fresh⟩
  have alongside : Alongside funds spared := by rw [Alongside, updates, alongside]
  rcases others_run others.2.1 alongside second with
    ⟨sparedTip, sparedSecond, alongside, quietTip, sparedQuietTip⟩
  rcases buildRunning_builds builds with ⟨updates, outcome⟩
  have alongside : Alongside built sparedTip := by rw [Alongside, updates, alongside]
  rcases others_run others.2.2 alongside third with
    ⟨sparedAnswer, sparedThird, _, quietAnswer, sparedQuietAnswer⟩
  rcases answerPayment_rejects answers with ⟨broadcasting, kept⟩
  refine ⟨sparedAnswer, ?_, ?_⟩
  · rw [RejectedSend.otherEvents, Machine.run_append, sparedFirst, Option.bind_some,
      Machine.run_append, sparedSecond, Option.bind_some, sparedThird]
  · rcases outcome with none | ⟨funded, payment, running, builds, records⟩
    · rw [quietAnswer.running, none] at broadcasting
      exact absurd rfl broadcasting
    · rw [kept, quietAnswer.tracking, sparedQuietAnswer.tracking]
      constructor
      · intro same
        by_contra stays
        rw [afterStops, afterStops, if_neg stays, if_neg stays] at same
        -- both trackings have recorded the same outputs until the call builds
        have sameSpent : waitsTip.tracking.spentUtxos = sparedTip.tracking.spentUtxos := by
          rw [quietTip.tracking, sparedQuietTip.tracking]
          apply afterStops_spentUtxos
          rw [listedSpent, quiet.tracking, sparedQuiet.tracking, tracking]
        have unspent : ∀ utxo ∈ payment.spentUtxos,
            outpointKey utxo ∉ waitsTip.tracking.spentUtxos := by
          intro utxo chosen
          rw [quietTip.tracking]
          apply notMem_afterStops
          rw [listedSpent]
          rw [quietTip.running] at running
          exact fresh funded running utxo (mem_buildFunded builds chosen)
        rcases recordSpent_keeps funded.payment (buildFunded_spends builds) unspent with
          ⟨utxo, chosen, recorded⟩
        rw [← records] at recorded
        exact candidates_differ utxo recorded (sameSpent ▸ unspent utxo chosen) (same _)
      · intro stops listed
        rw [afterStops, afterStops, if_pos stops, if_pos stops]

private def refusingLibrary : PaymentLibrary :=
  { sampleLibrary with
    isIAddress := fun _ => false
    transactionId := fun _ => "refused" }

private def shopTransfer : Payment :=
  .sendCurrency "Rshop" (.finite (Decimal.ofScientific 1 (-4))) ⟨none, none, false⟩

private def aboutToSend : AgentState :=
  { AgentState.start with waiting := [shopTransfer] }

private def refusedSend (untilRejected : List AgentEvent)
    (others : ∀ event ∈ untilRejected, event.ofPayment = false) : RejectedSend where
  payInfo := .ok ""
  listed := [sampleUtxo]
  tip := some 120
  error := .error "rejected"
  untilListed := []
  untilBuilt := []
  untilRejected := untilRejected
  others := others

private def onlyRefused : RejectedSend := refusedSend [] (by simp)

private def stoppedWhileSending : RejectedSend :=
  refusedSend [.stop] (by simp [AgentEvent.ofPayment])

/-- Stopped while it waits for the node, the agent lists all its outputs again. -/
theorem rejected_send_undone_stopped :
    ∃ final spared,
      (stoppableMachine refusingLibrary sampleAgent).run aboutToSend stoppedWhileSending.events =
        some final ∧
      (stoppableMachine refusingLibrary sampleAgent).run aboutToSend
        stoppedWhileSending.otherEvents = some spared ∧
      ∀ listed, candidates final.tracking listed = candidates spared.tracking listed := by
  have executed : ((stoppableMachine refusingLibrary sampleAgent).run aboutToSend
      stoppedWhileSending.events).isSome := by decide +kernel
  rcases Option.isSome_iff_exists.mp executed with ⟨final, runs⟩
  rcases rejected_send_undone_iff refusingLibrary sampleAgent aboutToSend stoppedWhileSending runs
    with ⟨spared, sparedRuns, undone⟩
  exact ⟨final, spared, runs, sparedRuns, undone.mpr rfl⟩

/-- The only output of the wallet stays out of reach although nothing spent it. -/
theorem rejected_send_empties_wallet :
    ∃ final spared,
      (stoppableMachine refusingLibrary sampleAgent).run aboutToSend onlyRefused.events =
        some final ∧
      (stoppableMachine refusingLibrary sampleAgent).run aboutToSend onlyRefused.otherEvents =
        some spared ∧
      candidates final.tracking [sampleUtxo] = [] ∧
      candidates spared.tracking [sampleUtxo] = [sampleUtxo] := by
  have executed : ((stoppableMachine refusingLibrary sampleAgent).run aboutToSend
      onlyRefused.events).any fun final => candidates final.tracking [sampleUtxo] = [] := by
    decide +kernel
  rcases (Option.any_eq_true _ _).mp executed with ⟨final, runs, hidden⟩
  exact ⟨final, aboutToSend, runs, rfl, of_decide_eq_true hidden, by decide⟩

end SovAgent.Wallet

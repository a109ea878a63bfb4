import SovAgent.Agent.InboxBatchMap
import SovAgent.Agent.Wallet
import SovAgent.Foundation.ListUpdate

/-! # Which outputs the operations spend

Payments never spend an output twice among themselves. Identity updates neither
record nor consult the spent outputs, so between them and everything else only
an up-to-date listing keeps the funding apart.
-/

namespace SovAgent.Wallet

open Identity Inbox Tx

/-! ## Selection -/

theorem mem_takeUntil {target : Int} {utxos : List Utxo} {start : Int} {utxo : Utxo}
    (member : utxo ∈ (takeUntil Utxo.satoshis target utxos start).1) : utxo ∈ utxos := by
  induction utxos generalizing start with
  | nil => cases member
  | cons head tail induction =>
      rw [takeUntil] at member
      simp only [] at member
      split at member
      · rw [List.mem_singleton.mp member]
        exact List.mem_cons_self
      · rcases List.mem_cons.mp member with rfl | later
        · exact List.mem_cons_self
        · exact List.mem_cons_of_mem _ (induction later)

theorem mem_selectUtxos {utxos selected : List Utxo} {target total : Int}
    (selects : Identity.selectUtxos utxos target = .ok (selected, total)) {utxo : Utxo}
    (member : utxo ∈ selected) : utxo ∈ utxos := by
  unfold Identity.selectUtxos selectUtxosIn at selects
  simp only [] at selects
  split at selects
  · cases selects
  · cases selects
    exact (List.mergeSort_perm utxos _).subset (mem_takeUntil member)

theorem mem_buildOutputs {library : PaymentLibrary} {options : PaymentOptions}
    {outputs : List (String × Int)} {built : MultiPaymentResult}
    (builds : buildOutputs library options outputs = .ok built) {utxo : Utxo}
    (member : utxo ∈ built.spentUtxos) : utxo ∈ options.utxos := by
  simp only [buildOutputs, bind_eq_ok, Except.ok.injEq] at builds
  rcases builds with ⟨⟨selected, total⟩, selects, _, _, _, _, _, _, _, _, rfl⟩
  exact mem_selectUtxos selects member

theorem mem_buildFunded {library : PaymentLibrary} {agent : InboxAgent} {wif : String}
    {funded : FundedPayment} {tip : Option Int} {built : MultiPaymentResult}
    (builds : buildFunded library agent wif funded tip = .ok built) {utxo : Utxo}
    (member : utxo ∈ built.spentUtxos) : utxo ∈ funded.funding.utxos := by
  unfold buildFunded at builds
  split at builds
  · simp only [buildPayment, bind_eq_ok, exists_unit] at builds
    rcases builds with ⟨_, _, _, outputs⟩
    exact mem_buildOutputs outputs member
  · simp only [buildMultiPayment, bind_eq_ok, exists_unit] at builds
    rcases builds with ⟨_, _, _, outputs⟩
    exact mem_buildOutputs outputs member

/-! ## Candidates -/

theorem unspent_notMem {spentUtxos seen : List String} {utxos : List Utxo} {utxo : Utxo}
    (member : utxo ∈ UtxoTracking.unspent spentUtxos seen utxos) :
    outpointKey utxo ∉ spentUtxos := by
  induction utxos generalizing seen with
  | nil => cases member
  | cons head tail induction =>
      rw [UtxoTracking.unspent] at member
      split at member
      · exact induction member
      · rename_i fresh
        rcases List.mem_cons.mp member with rfl | later
        · exact fun spent => fresh (.inl spent)
        · exact induction later

theorem fundCurrency_subset {library : PaymentLibrary} {agent : InboxAgent} {wif : String}
    {options : SendOptions} {utxos : List Utxo} {funding : Funding}
    (funds : fundCurrency library agent wif options utxos = .ok funding) :
    ∀ utxo ∈ funding.utxos, utxo ∈ utxos := by
  simp only [fundCurrency, bind_eq_ok, exists_unit, Except.ok.injEq] at funds
  rcases funds with ⟨_, _, changeAddress, _, _, _, _, rfl⟩
  intro utxo member
  unfold fromSource at member
  split at member
  · exact List.mem_of_mem_filter member
  · exact member

theorem fundMulti_subset {library : PaymentLibrary} {agent : InboxAgent} {wif : String}
    {utxos : List Utxo} {funding : Funding}
    (funds : fundMulti library agent wif utxos = .ok funding) :
    ∀ utxo ∈ funding.utxos, utxo ∈ utxos := by
  simp only [fundMulti, bind_eq_ok, exists_unit, Except.ok.injEq] at funds
  rcases funds with ⟨_, changeAddress, _, rfl⟩
  exact fun utxo member => member

theorem fundPayment_fresh {library : PaymentLibrary} {agent : InboxAgent} {wif : String}
    {tracking : UtxoTracking} {payment : Payment} {payInfo : Except Thrown String}
    {listed : List Utxo} {funded : FundedPayment}
    (funds : (fundPayment library agent wif tracking payment payInfo listed).2 = .ok funded) :
    ∀ utxo ∈ funded.funding.utxos, outpointKey utxo ∉ tracking.spentUtxos := by
  intro utxo member
  unfold fundPayment at funds
  split at funds
  · split at funds
    · cases funds
    · rcases map_eq_ok.mp funds with ⟨funding, chosen, rfl⟩
      exact unspent_notMem (fundCurrency_subset chosen utxo member)
  · rcases map_eq_ok.mp funds with ⟨funding, chosen, rfl⟩
    exact unspent_notMem (fundMulti_subset chosen utxo member)

theorem fundPayment_spentUtxos {library : PaymentLibrary} {agent : InboxAgent} {wif : String}
    {tracking : UtxoTracking} {payment : Payment} {payInfo : Except Thrown String}
    {listed : List Utxo} :
    (fundPayment library agent wif tracking payment payInfo listed).1.spentUtxos =
      tracking.spentUtxos := by
  unfold fundPayment
  split
  · split <;> rfl
  · rfl

/-! ## Recording -/

theorem subset_foldl_addSpent {utxos : List Utxo} {spentUtxos : List String} {key : String}
    (recorded : key ∈ spentUtxos) : key ∈ utxos.foldl UtxoTracking.addSpent spentUtxos := by
  induction utxos generalizing spentUtxos with
  | nil => exact recorded
  | cons head tail induction =>
      apply induction
      unfold UtxoTracking.addSpent
      split
      · exact recorded
      · exact List.mem_append_left _ recorded

theorem mem_foldl_addSpent {utxos : List Utxo} {spentUtxos : List String} {utxo : Utxo}
    (member : utxo ∈ utxos) :
    outpointKey utxo ∈ utxos.foldl UtxoTracking.addSpent spentUtxos := by
  induction utxos generalizing spentUtxos with
  | nil => cases member
  | cons head tail induction =>
      rw [List.foldl_cons]
      rcases List.mem_cons.mp member with rfl | later
      · apply subset_foldl_addSpent
        unfold UtxoTracking.addSpent
        split
        · assumption
        · simp
      · exact induction later

theorem length_foldl_addSpent (utxos : List Utxo) (spentUtxos : List String) :
    (utxos.foldl UtxoTracking.addSpent spentUtxos).length ≤ spentUtxos.length + utxos.length := by
  induction utxos generalizing spentUtxos with
  | nil => rfl
  | cons head tail induction =>
      have rest := induction (UtxoTracking.addSpent spentUtxos head)
      have one : (UtxoTracking.addSpent spentUtxos head).length ≤ spentUtxos.length + 1 := by
        unfold UtxoTracking.addSpent
        split
        · omega
        · simp
      rw [List.foldl_cons, List.length_cons]
      omega

theorem recordSpent_spentUtxos {tracking : UtxoTracking} {payment : Payment} {spent : List Utxo}
    (few : tracking.spentUtxos.length + spent.length ≤ maxSpentUtxos) :
    (tracking.recordSpent payment spent).spentUtxos =
      spent.foldl UtxoTracking.addSpent tracking.spentUtxos := by
  have bound := length_foldl_addSpent spent tracking.spentUtxos
  have noneDropped : (spent.foldl UtxoTracking.addSpent tracking.spentUtxos).length -
      maxSpentUtxos = 0 := Nat.sub_eq_zero_of_le (bound.trans few)
  cases payment with
  | sendCurrency destination amount options =>
      simp [UtxoTracking.recordSpent, UtxoTracking.dropOldest, noneDropped]
  | sendMultiPayment outputs => simp [UtxoTracking.recordSpent]

theorem chainChange_spentUtxos (tracking : UtxoTracking) (payment : Payment)
    (change : Option Utxo) (txid : String) :
    (tracking.chainChange payment change txid).spentUtxos = tracking.spentUtxos := by
  cases change with
  | none => rfl
  | some change =>
      cases payment with
      | sendCurrency destination amount options => simp [UtxoTracking.chainChange]
      | sendMultiPayment outputs => rfl

/-! ## Identity updates -/

def FundedBy (library : TransactionLibrary) (agent : InboxAgent) (utxos : Option (List Utxo))
    (signed : SignedUpdate) : Prop :=
  ∃ params, buildIdentityUpdateTx library params = .ok signed ∧ agent.key? = some params.wif ∧
    params.network = agent.networkType ∧ ∀ utxo ∈ params.utxos, utxo ∈ utxos.getD []

theorem updateOnChainStatus_fundedBy {library : TransactionLibrary} {agent : InboxAgent}
    {data : RawIdentityData} {utxos : Option (List Utxo)} {tip : Option Int}
    {status : AgentStatus} {signed : SignedUpdate}
    (builds : updateOnChainStatus library agent data utxos tip status = .ok (some signed)) :
    FundedBy library agent utxos signed := by
  unfold updateOnChainStatus at builds
  split at builds
  · cases builds
  · cases builds
  · rename_i wif key _
    simp only [bind_eq_ok, Except.ok.injEq, Option.some.injEq] at builds
    rcases builds with ⟨_, built, rfl⟩
    exact ⟨_, built, key, rfl, fun utxo member => member⟩

theorem setOnChainStatus_fundedBy {library : TransactionLibrary} {agent : InboxAgent}
    {data : RawIdentityData} {utxos : Option (List Utxo)} {tip : Option Int}
    {status : AgentStatus} {signed : SignedUpdate}
    (builds : setOnChainStatus library agent data utxos tip status = .ok (some signed)) :
    FundedBy library agent utxos signed := by
  simp only [setOnChainStatus, bind_eq_ok, exists_unit, requireSome_eq_ok, Except.ok.injEq,
    Option.some.injEq] at builds
  rcases builds with ⟨wif, key, _, _, _, built, rfl⟩
  exact ⟨_, built, key, rfl, fun utxo member => List.mem_of_mem_filter member⟩

theorem setRevokeRecoverAuthorities_fundedBy {library : TransactionLibrary} {agent : InboxAgent}
    {data : RawIdentityData} {utxos : Option (List Utxo)} {tip : Option Int}
    {revokeAddress recoverAddress : String} {signed : SignedUpdate}
    (builds : setRevokeRecoverAuthorities library agent data utxos tip revokeAddress
      recoverAddress = .ok (some signed)) :
    FundedBy library agent utxos signed := by
  simp only [setRevokeRecoverAuthorities, bind_eq_ok, exists_unit, requireSome_eq_ok] at builds
  rcases builds with ⟨wif, key, _, _, _, rest⟩
  split at rest
  · cases rest
  · split at rest
    · cases rest
    · split at rest
      · cases rest
      · simp only [bind_eq_ok, Except.ok.injEq, Option.some.injEq] at rest
        rcases rest with ⟨_, built, rfl⟩
        exact ⟨_, built, key, rfl, fun utxo member => member⟩

theorem signed?_broadcast {calls : List Call} {signed : SignedUpdate}
    (found : calls.findSome? Call.signed? = some signed) :
    ∃ refs, Call.broadcast signed refs ∈ calls := by
  rcases List.exists_of_findSome?_eq_some found with ⟨call, member, isSigned⟩
  cases call with
  | acceptInboxItem id txid => cases isSigned
  | broadcast other refs =>
      cases isSigned
      exact ⟨refs, member⟩

theorem toOption_join {action : Except ε (Option α)} {result : α} :
    action.toOption.join = some result ↔ action = .ok (some result) := by
  rw [Option.join_eq_some_iff, toOption_eq_some]

theorem handsOver_fundedBy {library : TransactionLibrary} {agent : InboxAgent}
    {request : UpdateRequest} {data : RawIdentityData} {utxos : Option (List Utxo)}
    {tip : Option Int} {signed : SignedUpdate}
    (hands : request.handsOver library agent data utxos tip = some signed) :
    FundedBy library agent utxos signed := by
  cases request with
  | updateOnChainStatus status => exact updateOnChainStatus_fundedBy (toOption_join.mp hands)
  | setOnChainStatus status => exact setOnChainStatus_fundedBy (toOption_join.mp hands)
  | setRevokeRecoverAuthorities revokeAddress recoverAddress =>
      exact setRevokeRecoverAuthorities_fundedBy (toOption_join.mp hands)
  | acceptItem type id item nowMs =>
      rcases signed?_broadcast hands with ⟨refs, sent⟩
      rcases acceptByType_broadcast sent with
        ⟨_, _, _, _, wif, listed, _, _, _, _, key, funds, built⟩
      cases funds
      exact ⟨_, built, key, rfl, fun utxo member => member⟩
  | acceptInboxBatch items getInboxItem maxAdditionBytes nowMs =>
      rcases signed?_broadcast hands with ⟨refs, sent⟩
      rcases acceptInboxBatch_broadcast sent with
        ⟨_, wif, _, listed, _, _, _, key, _, funds, builds, isSigned, _, _⟩
      cases funds
      rcases buildPhase_signed builds isSigned with ⟨_, settles⟩
      rcases settle_built settles isSigned with ⟨_, built⟩ | ⟨_, built⟩
      · exact ⟨_, built, key, rfl, fun utxo member => member⟩
      · exact ⟨_, built, key, rfl, fun utxo member => member⟩

theorem FundedBy.funding {library : TransactionLibrary} {agent : InboxAgent}
    {utxos : Option (List Utxo)} {signed : SignedUpdate}
    (fundedBy : FundedBy library agent utxos signed) :
    ∃ wif address, agent.key? = some wif ∧ library.keyAddress wif agent.networkType = .ok address ∧
      ∀ outpoint ∈ (handedUpdate signed).funding,
        ∃ utxo ∈ spendableWith address (utxos.getD []), outpoint = (utxo.txid, utxo.vout) := by
  rcases fundedBy with ⟨params, built, key, network, listed⟩
  rcases buildIdentityUpdateTx_builds built with ⟨prevOutput, identity, address, selected, builds⟩
  rcases builds.selects with ⟨total, selects⟩
  refine ⟨params.wif, address, key, network ▸ builds.signsFor, ?_⟩
  intro outpoint member
  have inputs : (handedUpdate signed).funding =
      selected.map fun utxo => (utxo.txid, utxo.vout) := by
    have dropped := congrArg List.dropLast builds.inputs
    simpa [handedUpdate, List.map_dropLast] using dropped
  rw [inputs] at member
  rcases List.mem_map.mp member with ⟨utxo, chosen, rfl⟩
  have spendable := mem_selectUtxos selects chosen
  unfold spendableWith at spendable ⊢
  rw [List.mem_filter] at spendable
  exact ⟨utxo, List.mem_filter.mpr ⟨listed utxo spendable.1, spendable.2⟩, rfl⟩

/-! ## Steps -/

/-- An outpoint that funds a transaction of these which was not rejected. -/
def Taken (handed : List Handed) (outpoint : Outpoint) : Prop :=
  ∃ earlier ∈ handed, ¬ earlier.rejected ∧ outpoint ∈ earlier.funding

instance (handed : List Handed) (outpoint : Outpoint) : Decidable (Taken handed outpoint) :=
  inferInstanceAs (Decidable (∃ earlier ∈ handed, _))

/-- The candidates of a payment contain no output taken by an identity update. -/
def CandidatesFree (state : AgentState) : Prop :=
  match state.running with
  | some (.funded funded) => ∀ utxo ∈ funded.funding.utxos,
      ¬ Taken (state.handed.filter (·.spender = .identityUpdate)) (utxo.txid, utxo.vout)
  | _ => True

/-- What an identity update can spend from its listing contains no output taken
by any transaction. -/
def ListingFree (library : TransactionLibrary) (agent : InboxAgent) (state : AgentState)
    (index : Nat) : Prop :=
  match state.updates[index]?, agent.key?.map (library.keyAddress · agent.networkType) with
  | some (.read _ _ utxos), some (.ok address) =>
      ∀ utxo ∈ spendableWith address (utxos.getD []),
        ¬ Taken state.handed (utxo.txid, utxo.vout)
  | _, _ => True

/-- The listings are up to date where nothing else keeps the funding apart. -/
def UpToDate (library : TransactionLibrary) (agent : InboxAgent) (state : AgentState) :
    WalletEvent → Prop
  | .paymentTip _ => CandidatesFree state
  | .updateTip index _ => ListingFree library agent state index
  | _ => True

instance (state : AgentState) : Decidable (CandidatesFree state) := by
  unfold CandidatesFree
  split <;> infer_instance

instance (library : TransactionLibrary) (agent : InboxAgent) (state : AgentState)
    (index : Nat) : Decidable (ListingFree library agent state index) := by
  unfold ListingFree
  split <;> infer_instance

instance (library : TransactionLibrary) (agent : InboxAgent) (state : AgentState)
    (event : WalletEvent) : Decidable (UpToDate library agent state event) := by
  cases event <;> unfold UpToDate <;> infer_instance

/-- Everything that a step does to the spent outputs, the candidates of the
running payment and the transactions that were handed over. -/
inductive Progress (state next : AgentState) : Prop
  | quiet :
      next.handed = state.handed →
      next.tracking.spentUtxos = state.tracking.spentUtxos →
      (∀ funded, next.running = some (.funded funded) →
        state.running = some (.funded funded) ∨
          ∀ utxo ∈ funded.funding.utxos, outpointKey utxo ∉ state.tracking.spentUtxos) →
      Progress state next
  | answered (index answer) :
      next.handed = state.handed.modify index (Handed.settle answer) →
      next.tracking.spentUtxos = state.tracking.spentUtxos →
      (next.running = none ∨ next.running = state.running) →
      Progress state next
  | paid (funded built) :
      state.running = some (.funded funded) →
      (∀ utxo ∈ built.spentUtxos, utxo ∈ funded.funding.utxos) →
      (∀ utxo ∈ funded.funding.utxos,
        ¬ Taken (state.handed.filter (·.spender = .identityUpdate)) (utxo.txid, utxo.vout)) →
      next.handed = state.handed ++ [handedPayment built] →
      next.tracking = state.tracking.recordSpent funded.payment built.spentUtxos →
      (∀ funded, next.running ≠ some (.funded funded)) →
      Progress state next
  | updated (signed) :
      (∀ outpoint ∈ (handedUpdate signed).funding, ¬ Taken state.handed outpoint) →
      next.handed = state.handed ++ [handedUpdate signed] →
      next.tracking = state.tracking →
      next.running = state.running →
      Progress state next

section Steps

variable {library : PaymentLibrary} {agent : InboxAgent} {state next : AgentState}

theorem startPayment_progress (stepped : startPayment state = some next) :
    Progress state next := by
  unfold startPayment at stepped
  split at stepped
  · cases stepped
    exact .quiet rfl rfl (by simp)
  · cases stepped

theorem failPayment_progress (stepped : failPayment state = some next) : Progress state next := by
  unfold failPayment at stepped
  split at stepped
  · cases stepped
    exact .quiet rfl rfl (by simp)
  · cases stepped
    exact .quiet rfl rfl (by simp)
  · cases stepped

theorem listPayment_progress {payInfo : Except Thrown String} {listed : List Utxo}
    (stepped : listPayment library agent payInfo listed state = some next) :
    Progress state next := by
  unfold listPayment at stepped
  split at stepped
  · rename_i payment running
    rw [← Option.some.inj stepped]
    refine .quiet rfl fundPayment_spentUtxos ?_
    intro funded runs
    right
    rcases Option.map_eq_some_iff.mp runs with ⟨other, funds, same⟩
    cases same
    exact fundPayment_fresh (toOption_eq_some.mp funds)
  · cases stepped

theorem buildRunning_progress {tip : Option Int}
    (upToDate : UpToDate library.toTransactionLibrary agent state (.paymentTip tip))
    (stepped : buildRunning library agent tip state = some next) : Progress state next := by
  unfold buildRunning at stepped
  split at stepped
  · rename_i funded running
    split at stepped
    · cases stepped
      exact .quiet rfl rfl (by simp)
    · rename_i built builds
      cases stepped
      have free : CandidatesFree state := upToDate
      rw [CandidatesFree, running] at free
      exact .paid funded built running (fun utxo => mem_buildFunded builds) free rfl rfl (by simp)
  · cases stepped

theorem answerPayment_progress {answer : Except Thrown String}
    (stepped : answerPayment answer state = some next) : Progress state next := by
  unfold answerPayment at stepped
  split at stepped
  · rename_i payment change index running
    cases stepped
    refine .answered index answer rfl ?_ (.inl rfl)
    cases answer with
    | ok txid => exact chainChange_spentUtxos _ _ _ _
    | error error => rfl
  · cases stepped

theorem buildUpdate_progress {index : Nat} {tip : Option Int}
    (upToDate : UpToDate library.toTransactionLibrary agent state (.updateTip index tip))
    (stepped : buildUpdate library agent index tip state = some next) : Progress state next := by
  unfold buildUpdate at stepped
  split at stepped
  · rename_i request data utxos reads
    split at stepped
    · cases stepped
      exact .quiet rfl rfl fun funded running => .inl running
    · rename_i signed hands
      cases stepped
      refine .updated signed ?_ rfl rfl rfl
      intro outpoint member
      rcases (handsOver_fundedBy hands).funding with ⟨wif, address, key, address', funding⟩
      rcases funding outpoint member with ⟨utxo, spendable, rfl⟩
      have free : ListingFree library.toTransactionLibrary agent state index := upToDate
      rw [ListingFree, reads, key, Option.map_some, address'] at free
      exact free utxo spendable
  · cases stepped

theorem answerUpdate_progress {index : Nat} {answer : Except Thrown String}
    (stepped : answerUpdate index answer state = some next) : Progress state next := by
  unfold answerUpdate at stepped
  split at stepped
  · cases stepped
    exact .answered _ answer rfl rfl (.inr rfl)
  · cases stepped

theorem updateOnly_progress {index : Nat} {stage : UpdateStage}
    (same : next = { state with updates := state.updates.set index stage }) :
    Progress state next := by
  subst same
  exact .quiet rfl rfl fun funded running => .inl running

theorem step_progress {event : WalletEvent}
    (upToDate : UpToDate library.toTransactionLibrary agent state event)
    (stepped : (walletMachine library agent).step state event = some next) :
    Progress state next := by
  cases event with
  | callPayment payment =>
      change callPayment agent payment state = some next at stepped
      unfold callPayment at stepped
      split at stepped
      · cases stepped
        exact .quiet rfl rfl fun funded running => .inl running
      · cases stepped
  | startPayment => exact startPayment_progress stepped
  | paymentFails => exact failPayment_progress stepped
  | paymentListed payInfo listed => exact listPayment_progress stepped
  | paymentTip tip => exact buildRunning_progress upToDate stepped
  | paymentAnswered answer => exact answerPayment_progress stepped
  | callUpdate request =>
      cases stepped
      exact .quiet rfl rfl fun funded running => .inl running
  | updateFails index =>
      change failUpdate index state = some next at stepped
      unfold failUpdate at stepped
      split at stepped
      · exact updateOnly_progress (Option.some.inj stepped).symm
      · exact updateOnly_progress (Option.some.inj stepped).symm
      · cases stepped
  | updateListed index data utxos =>
      change listUpdate index data utxos state = some next at stepped
      unfold listUpdate at stepped
      split at stepped
      · exact updateOnly_progress (Option.some.inj stepped).symm
      · cases stepped
  | updateTip index tip => exact buildUpdate_progress upToDate stepped
  | updateAnswered index answer => exact answerUpdate_progress stepped

end Steps

/-! ## Runs -/

/-- Two different transactions share no funding, unless the first of them was
rejected. -/
def AgentState.NoDoubleSpend (state : AgentState) : Prop :=
  state.handed.Pairwise fun first second => first.transaction ≠ second.transaction →
    ¬ first.rejected → ∀ outpoint ∈ first.funding, outpoint ∉ second.funding

def countRecorded (handed : List Handed) : Nat :=
  (handed.map fun entry => if entry.spender = .payment then entry.funding.length else 0).sum

def AgentState.recorded (state : AgentState) : Nat := countRecorded state.handed

def outpointText (outpoint : Outpoint) : String := s!"{outpoint.1}:{outpoint.2}"

def Apart (first second : Handed) : Prop :=
  ¬ first.rejected → ∀ outpoint ∈ first.funding, outpoint ∉ second.funding

structure Tracked (state : AgentState) : Prop where
  apart : state.handed.Pairwise Apart
  recorded : ∀ handed ∈ state.handed, handed.spender = .payment →
    ∀ outpoint ∈ handed.funding, outpointText outpoint ∈ state.tracking.spentUtxos
  fresh : ∀ funded, state.running = some (.funded funded) →
    ∀ utxo ∈ funded.funding.utxos, outpointKey utxo ∉ state.tracking.spentUtxos
  bounded : state.tracking.spentUtxos.length ≤ state.recorded

theorem countRecorded_append (handed : List Handed) (last : Handed) :
    countRecorded (handed ++ [last]) =
      countRecorded handed + if last.spender = .payment then last.funding.length else 0 := by
  simp [countRecorded]

/-! ### Answers -/

theorem countRecorded_settle (handed : List Handed) (index : Nat)
    (answer : Except Thrown String) :
    countRecorded (handed.modify index (Handed.settle answer)) = countRecorded handed := by
  have unchanged : ∀ entry : Handed,
      (if (entry.settle answer).spender = .payment then (entry.settle answer).funding.length
        else 0) = if entry.spender = .payment then entry.funding.length else 0 :=
    fun _ => rfl
  exact congrArg List.sum (map_modify unchanged handed index)

theorem settle_rejected {answer : Except Thrown String} {handed : Handed}
    (rejected : handed.rejected) : (handed.settle answer).rejected := by
  unfold Handed.rejected at rejected
  split at rejected
  · rename_i error answered
    simp [Handed.settle, Handed.rejected, answered]
  · cases rejected

theorem Apart.settle_left {answer : Except Thrown String} {first second : Handed}
    (apart : Apart first second) : Apart (first.settle answer) second :=
  fun notRejected => apart fun rejected => notRejected (settle_rejected rejected)

theorem Apart.settle_right {answer : Except Thrown String} {first second : Handed}
    (apart : Apart first second) : Apart first (second.settle answer) := apart

/-! ### What a step preserves -/

section Tracked

variable {state next : AgentState}

theorem Progress.recorded_le (progress : Progress state next) : state.recorded ≤ next.recorded := by
  unfold AgentState.recorded
  cases progress with
  | quiet handed => rw [handed]
  | answered index answer handed =>
      rw [handed, countRecorded_settle]
  | paid funded built running chosen free handed => simp [handed, countRecorded_append]
  | updated signed free handed => simp [handed, countRecorded_append]

theorem Tracked.step (tracked : Tracked state) (progress : Progress state next)
    (few : next.recorded < maxSpentUtxos) : Tracked next := by
  cases progress with
  | quiet handed spentUtxos running =>
      refine ⟨handed ▸ tracked.apart, ?_, ?_, ?_⟩
      · rw [handed, spentUtxos]
        exact tracked.recorded
      · intro funded runs
        rw [spentUtxos]
        exact (running funded runs).elim (tracked.fresh funded) id
      · rw [spentUtxos, AgentState.recorded, handed]
        exact tracked.bounded
  | answered index answer handed spentUtxos running =>
      refine ⟨?_, ?_, ?_, ?_⟩
      · rw [handed]
        apply pairwise_modify _ _ tracked.apart
        · exact fun first second apart => apart.settle_left
        · exact fun first second apart => apart.settle_right
      · rw [handed, spentUtxos]
        intro entry member isPayment
        rcases mem_modify member with old | ⟨before, beforeMember, rfl⟩
        · exact tracked.recorded entry old isPayment
        · exact tracked.recorded before beforeMember isPayment
      · intro funded runs
        rw [spentUtxos]
        rcases running with none | same
        · rw [none] at runs
          cases runs
        · exact tracked.fresh funded (same ▸ runs)
      · rw [spentUtxos, AgentState.recorded, handed, countRecorded_settle]
        exact tracked.bounded
  | paid funded built running chosen free handed recorded notFunded =>
      have grows : next.recorded = state.recorded + built.spentUtxos.length := by
        simp [AgentState.recorded, handed, countRecorded_append, handedPayment]
      have bounded := tracked.bounded
      have spentUtxos : next.tracking.spentUtxos =
          built.spentUtxos.foldl UtxoTracking.addSpent state.tracking.spentUtxos := by
        rw [recorded]
        exact recordSpent_spentUtxos (by omega)
      refine ⟨?_, ?_, ?_, ?_⟩
      · rw [handed]
        apply pairwise_concat tracked.apart
        intro earlier member notRejected outpoint funds spent
        rcases List.mem_map.mp spent with ⟨utxo, utxoMember, rfl⟩
        cases spender : earlier.spender with
        | payment =>
            exact tracked.fresh funded running utxo (chosen utxo utxoMember)
              (tracked.recorded earlier member spender _ funds)
        | identityUpdate =>
            apply free utxo (chosen utxo utxoMember)
            exact ⟨earlier, List.mem_filter.mpr ⟨member, by simp [spender]⟩, notRejected, funds⟩
      · rw [handed, spentUtxos]
        intro entry member isPayment outpoint funds
        rcases List.mem_append.mp member with old | last
        · exact subset_foldl_addSpent (tracked.recorded entry old isPayment outpoint funds)
        · rw [List.mem_singleton.mp last] at funds
          rcases List.mem_map.mp funds with ⟨utxo, utxoMember, rfl⟩
          exact mem_foldl_addSpent utxoMember
      · exact fun funded runs => absurd runs (notFunded funded)
      · have length := length_foldl_addSpent built.spentUtxos state.tracking.spentUtxos
        rw [spentUtxos]
        omega
  | updated signed free handed tracking running =>
      refine ⟨?_, ?_, ?_, ?_⟩
      · rw [handed]
        apply pairwise_concat tracked.apart
        intro earlier member notRejected outpoint funds spent
        exact free outpoint spent ⟨earlier, member, notRejected, funds⟩
      · rw [handed, tracking]
        intro entry member isPayment
        rcases List.mem_append.mp member with old | last
        · exact tracked.recorded entry old isPayment
        · rw [List.mem_singleton.mp last] at isPayment
          cases isPayment
      · rw [running, tracking]
        exact tracked.fresh
      · rw [tracking, AgentState.recorded, handed, countRecorded_append]
        exact tracked.bounded.trans (Nat.le_add_right _ _)

end Tracked

theorem Tracked.start : Tracked AgentState.start :=
  ⟨.nil, by simp [AgentState.start], by simp [AgentState.start], le_rfl⟩

/-- While the listings are up to date where it matters, no output funds two
transactions, whatever the interleaving of the operations. -/
theorem wallet_no_double_spend (library : PaymentLibrary) (agent : InboxAgent)
    (events : List WalletEvent) (final : AgentState)
    (runs : (walletMachine library agent).Runs (UpToDate library.toTransactionLibrary agent)
      .start events final)
    (few : final.recorded < maxSpentUtxos) : final.NoDoubleSpend := by
  have invariant : final.recorded < maxSpentUtxos → Tracked final := by
    apply runs.preserves (fun state => state.recorded < maxSpentUtxos → Tracked state)
    · intro state event next upToDate tracked stepped nextFew
      have progress := step_progress upToDate stepped
      exact (tracked (progress.recorded_le.trans_lt nextFew)).step progress nextFew
    · exact fun _ => Tracked.start
  apply List.Pairwise.imp _ (invariant few).apart
  intro first second apart _
  exact apart

instance (state : AgentState) : Decidable state.NoDoubleSpend :=
  inferInstanceAs (Decidable (List.Pairwise _ _))

private def samplePayments : PaymentLibrary :=
  { sampleLibrary with
    isIAddress := fun _ => false
    transactionId := fun _ => "local" }

private def otherUtxo : Utxo := { sampleUtxo with txid := "cc" }

private def sendThenSetStatus (listed : List Utxo) : List WalletEvent :=
  [.callPayment (.sendCurrency "Rshop" (.finite (Decimal.ofScientific 1 (-4))) ⟨none, none, false⟩),
    .startPayment,
    .callUpdate (.setOnChainStatus .active),
    .paymentListed (.ok "") [sampleUtxo],
    .paymentTip (some 120),
    .updateListed 0 (sampleIdentity Record.empty) (some listed),
    .paymentAnswered (.ok "paid"),
    .updateTip 0 (some 120)]

/-- The listing still shows the output that the payment spent, and the status
update spends it again. -/
theorem status_update_double_spends : ∃ events final,
    (walletMachine samplePayments sampleAgent).Runs (fun _ _ => True) .start events final ∧
      final.recorded < maxSpentUtxos ∧ ¬ final.NoDoubleSpend := by
  have executed : ((walletMachine samplePayments sampleAgent).run .start
      (sendThenSetStatus [sampleUtxo])).any fun final =>
        final.recorded < maxSpentUtxos ∧ ¬ final.NoDoubleSpend := by decide +kernel
  rcases (Option.any_eq_true _ _).mp executed with ⟨final, runs, holds⟩
  exact ⟨_, final, Machine.runs_of_run (fun _ _ _ => trivial) runs, of_decide_eq_true holds⟩

theorem wallet_no_double_spend_other : ∃ final,
    (walletMachine samplePayments sampleAgent).run .start (sendThenSetStatus [otherUtxo]) =
      some final ∧ final.NoDoubleSpend := by
  have executed : ((walletMachine samplePayments sampleAgent).runAllowed
      (UpToDate samplePayments.toTransactionLibrary sampleAgent) .start
      (sendThenSetStatus [otherUtxo])).any fun final =>
        final.handed.length = 2 ∧ final.recorded < maxSpentUtxos := by decide +kernel
  rcases (Option.any_eq_true _ _).mp executed with ⟨final, allowed, holds⟩
  have runs := Machine.runs_of_runAllowed allowed
  exact ⟨final, runs.executes,
    wallet_no_double_spend _ _ _ _ runs (of_decide_eq_true holds).2⟩

end SovAgent.Wallet

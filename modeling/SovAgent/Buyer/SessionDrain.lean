import SovAgent.Agent.UtxoChaining
import SovAgent.Buyer.Session

/-! # What a hostile platform can make a session pay

Whatever the platform answers about the payment of the job and the outputs of
the wallet, the seller gets the amount, the platform at most as much again, and
the rest comes back but for the fee of the miners.
-/

namespace SovAgent.Buyer

open Identity Inbox Tx Wallet

/-! ## Outpoints in hexadecimal -/

def hexValue (digit : Char) : Nat :=
  if digit.isDigit then digit.toNat - '0'.toNat
  else if 'a' ≤ digit then digit.toNat - 'a'.toNat + 10
  else digit.toNat - 'A'.toNat + 10

/-- The outpoint that a transaction id in hexadecimal denotes. -/
def denoted (outpoint : Outpoint) : List Nat × Nat :=
  (outpoint.1.toList.map hexValue, outpoint.2)

def LowerHex (text : String) : Prop := ∀ digit ∈ text.toList, isLowerHex digit

instance : DecidablePred LowerHex := fun text =>
  decidable_of_iff (text.toList.all isLowerHex = true) List.all_eq_true

theorem hexValue_inj {left right : Char} (leftHex : isLowerHex left) (rightHex : isLowerHex right)
    (same : hexValue left = hexValue right) : left = right := by
  let digits := "0123456789abcdef".toList
  have distinct : digits.all fun left => digits.all fun right =>
      hexValue left = hexValue right → left = right := by decide
  have row := List.all_eq_true.mp distinct left (of_decide_eq_true leftHex)
  have entry := List.all_eq_true.mp row right (of_decide_eq_true rightHex)
  exact of_decide_eq_true entry same

theorem hexValues_inj {left right : List Char} (leftHex : ∀ digit ∈ left, isLowerHex digit)
    (rightHex : ∀ digit ∈ right, isLowerHex digit)
    (same : left.map hexValue = right.map hexValue) : left = right := by
  induction left generalizing right with
  | nil => exact (List.map_eq_nil_iff.mp same.symm).symm
  | cons head tail induction =>
      cases right with
      | nil => cases same
      | cons other rest =>
          rw [List.map_cons, List.map_cons, List.cons.injEq] at same
          have first := hexValue_inj (leftHex head List.mem_cons_self)
            (rightHex other List.mem_cons_self) same.1
          have later := induction
            (fun digit member => leftHex digit (List.mem_cons_of_mem _ member))
            (fun digit member => rightHex digit (List.mem_cons_of_mem _ member)) same.2
          rw [first, later]

theorem denoted_nodup {outpoints : List Outpoint} (distinct : outpoints.Nodup)
    (lower : ∀ outpoint ∈ outpoints, LowerHex outpoint.1) : (outpoints.map denoted).Nodup := by
  apply List.Nodup.map_on _ distinct
  intro left leftMember right rightMember same
  have parts := Prod.mk.inj same
  have txid := hexValues_inj (lower left leftMember) (lower right rightMember) parts.1
  exact Prod.ext (String.toList_inj.mp txid) parts.2

/-! ## The outputs -/

theorem verusAddr?_eq_some {answer : Option Member} {address : String}
    (reads : verusAddr? answer = some address) :
    answer = some (.json (.string address)) ∧ isVerusAddr address = true := by
  simp only [verusAddr?] at reads
  split at reads
  · rename_i text
    split at reads
    · rename_i shape
      rw [← Option.some.inj reads]
      exact ⟨rfl, shape⟩
    · cases reads
  · cases reads

theorem checkPayAddr_eq_ok {answer : Option Member} {address : String}
    (checks : checkPayAddr answer = .ok address) :
    answer = some (.json (.string address)) ∧ isVerusAddr address = true := by
  simp only [checkPayAddr] at checks
  split at checks
  · split at checks
    · rename_i found
      rw [← Except.ok.inj checks]
      exact verusAddr?_eq_some found
    · cases checks
  · cases checks

theorem plausibleFee?_eq_some {answer : Option Member} {amount : Number} {fee : Decimal}
    (reads : plausibleFee? answer amount = some fee) : exceeds fee amount = false := by
  simp only [plausibleFee?] at reads
  split at reads
  · split at reads
    · rename_i accepted
      rw [← Option.some.inj reads]
      exact accepted.2
    · cases reads
  · cases reads

theorem checkPlatformFee_eq_ok {payment : Option JobPayment} {amount : Number}
    {outputs : List (String × Number)}
    (checks : checkPlatformFee payment amount = .ok outputs) :
    outputs = [] ∨ ∃ address fee, outputs = [(address, .finite fee)] ∧
      isVerusAddr address = true ∧ exceeds fee amount = false := by
  simp only [checkPlatformFee] at checks
  split at checks
  · split at checks
    · rename_i address fee toAddress ofFee
      right
      exact ⟨address, fee, (Except.ok.inj checks).symm, (verusAddr?_eq_some toAddress).2,
        plausibleFee?_eq_some ofFee⟩
    · cases checks
  · exact .inl (Except.ok.inj checks).symm

theorem toSatoshis_mono {fee amount : Decimal} (bounded : fee.toRat ≤ amount.toRat) :
    toSatoshis fee ≤ toSatoshis amount := by
  change ⌊fee.toRat * satsPerCoin + 1 / 2⌋ ≤ ⌊amount.toRat * satsPerCoin + 1 / 2⌋
  have coins : (0 : ℚ) ≤ (satsPerCoin : Int) := by norm_num [satsPerCoin]
  apply Int.floor_le_floor
  gcongr

/-! ## The transaction -/

structure Sends (library : PaymentLibrary) (agent : InboxAgent) (tracking : UtxoTracking)
    (answers : SendAnswers) (wif : String) (listed : List Utxo) (options : PaymentOptions) :
    Prop where
  key : agent.wif = some wif
  lists : answers.getUtxos = .ok listed
  utxos : options.utxos = candidates tracking listed
  fee : options.fee = defaultFee
  network : options.network = agent.networkType
  changeTo : options.changeTo library = library.keyAddress wif agent.networkType

theorem buildMultiSend_sends {library : PaymentLibrary} {agent : InboxAgent}
    {tracking : UtxoTracking} {answers : SendAnswers} {outputs : List (String × Number)}
    {built : MultiPaymentResult}
    (builds : buildMultiSend library agent tracking answers outputs = .ok built) :
    ∃ wif listed options, Sends library agent tracking answers wif listed options ∧
      buildMultiPayment library options outputs = .ok built := by
  simp only [buildMultiSend, bind_eq_ok, exists_unit, requireSome_eq_ok] at builds
  rcases builds with ⟨wif, key, _, listed, lists, funded, funds, tip, _, builds⟩
  have utxos := fundPayment_candidates funds
  rcases map_eq_ok.mp funds with ⟨funding, chosen, rfl⟩
  simp only [fundMulti, bind_eq_ok, exists_unit, Except.ok.injEq] at chosen
  rcases chosen with ⟨_, changeAddress, own, rfl⟩
  refine ⟨wif, listed, _, ⟨key, lists, utxos, rfl, rfl, ?_⟩, builds⟩
  simp only [PaymentOptions.changeTo]
  split
  · rfl
  · exact own.symm

/-- The transaction of a session: the amount to the seller, at most the amount
to the platform, the change home, and little for the miners. -/
structure BoundedDrain (library : PaymentLibrary) (agent : InboxAgent)
    (config : BuyerSessionConfig) (job : Job) (transaction : Transaction) (wif payAddr : String)
    (amount : Decimal) (paid : String × Int) (fee change : Option (String × Int)) : Prop where
  key : agent.wif = some wif
  amount_eq : config.amount = .finite amount
  address_eq : job.payment.bind JobPayment.address = some (.json (.string payAddr))
  outputs : transaction.outputs = paid :: (fee.toList ++ change.toList)
  pays : Pays library agent.networkType (payAddr, amount) paid
  feeBounded : ∀ output ∈ fee, ∃ feeAddr feeAmount, isVerusAddr feeAddr = true ∧
    Pays library agent.networkType (feeAddr, feeAmount) output ∧
    feeAmount.toRat ≤ amount.toRat ∧ output.2 ≤ paid.2
  changeHome : ∀ output ∈ change, ∃ ownAddress,
    library.keyAddress wif agent.networkType = .ok ownAddress ∧
    library.outputScript ownAddress agent.networkType = .ok output.1
  distinct : (transaction.inputs.map fun input => denoted (input.txid, input.vout)).Nodup
  unaccounted : inputTotal transaction - outputTotal transaction.outputs ≤ 11000

theorem buildMultiPayment_distinct {library : PaymentLibrary} {options : PaymentOptions}
    {outputs : List (String × Number)} {built : MultiPaymentResult}
    (distinct : (options.utxos.map outpointOf).Nodup)
    (lower : ∀ outpoint ∈ options.utxos.map outpointOf, LowerHex outpoint.1)
    (builds : buildMultiPayment library options outputs = .ok built) :
    (built.transaction.inputs.map fun input => denoted (input.txid, input.vout)).Nodup := by
  simp only [buildMultiPayment, bind_eq_ok, exists_unit] at builds
  rcases builds with ⟨_, payable, _, builds⟩
  have inputs := buildOutputs_inputs builds
  simp only [buildOutputs, bind_eq_ok, Except.ok.injEq] at builds
  rcases builds with ⟨⟨selected, total⟩, selects, _, _, _, _, _, _, _, _, rfl⟩
  rw [Tx.selectUtxos] at selects
  have spent : (selected.map outpointOf).Nodup := selectUtxos_nodup distinct selects
  have spentLower : ∀ outpoint ∈ selected.map outpointOf, LowerHex outpoint.1 := by
    intro outpoint member
    rcases List.mem_map.mp member with ⟨utxo, chosen, rfl⟩
    exact lower _ (List.mem_map_of_mem (mem_selectUtxos selects chosen))
  have denotes := denoted_nodup spent spentLower
  rw [← inputs] at denotes
  rw [Handed.inputs, List.map_map] at denotes
  exact denotes

theorem outputTotal_append (left right : List (String × Int)) :
    outputTotal (left ++ right) = outputTotal left + outputTotal right := by
  simp [outputTotal]

theorem boundedDrain {library : PaymentLibrary} {agent : InboxAgent}
    {config : BuyerSessionConfig} {tracking : UtxoTracking} {answers : SendAnswers} {job : Job}
    {outputs : List (String × Number)} {built : MultiPaymentResult}
    (recorded : ∀ utxo ∈ tracking.pendingChange, LowerHex utxo.txid)
    (listedLower : ∀ listed, answers.getUtxos = .ok listed →
      ∀ utxo ∈ listed, LowerHex utxo.txid)
    (checks : paymentOutputs config job = .ok outputs)
    (builds : buildMultiSend library agent tracking answers outputs = .ok built) :
    ∃ wif payAddr amount paid fee change, BoundedDrain library agent config job
      built.transaction wif payAddr amount paid fee change := by
  rcases buildMultiSend_sends builds with ⟨wif, listed, options, sends, builds⟩
  simp only [paymentOutputs, bind_eq_ok, Except.ok.injEq] at checks
  rcases checks with ⟨payAddr, checksAddr, feeOutputs, checksFee, rfl⟩
  have address := (checkPayAddr_eq_ok checksAddr).1
  have lower : ∀ outpoint ∈ options.utxos.map outpointOf, LowerHex outpoint.1 := by
    intro outpoint member
    rw [sends.utxos] at member
    rcases (mem_candidates.mp member).1 with fetched | pending
    · rcases List.mem_map.mp fetched with ⟨utxo, utxoMember, rfl⟩
      exact listedLower listed sends.lists utxo (List.mem_of_mem_filter utxoMember)
    · rcases List.mem_map.mp pending with ⟨utxo, utxoMember, rfl⟩
      exact recorded utxo utxoMember
  have distinct : (options.utxos.map outpointOf).Nodup := by
    rw [sends.utxos]
    exact candidates_nodup _ _
  have spends := buildMultiPayment_distinct distinct lower builds
  rcases buildMultiPayment_conserves builds with ⟨requested, asks, recipients, change, feePaid,
    conserves⟩
  have paid := conserves.paid
  rw [sends.network] at paid
  have changeHome : ∀ output ∈ change, ∃ ownAddress,
      library.keyAddress wif agent.networkType = .ok ownAddress ∧
      library.outputScript ownAddress agent.networkType = .ok output.1 := by
    intro output isChange
    rcases conserves.changeTo output isChange with ⟨ownAddress, own, script⟩
    rw [sends.changeTo] at own
    rw [sends.network] at script
    exact ⟨ownAddress, own, script⟩
  have unaccounted : inputTotal built.transaction -
      outputTotal built.transaction.outputs ≤ 11000 := by
    have balance := conserves.balanced.balance
    have bounded := conserves.feeBounded
    rw [sends.fee, defaultFee] at bounded
    rw [conserves.balanced.outputs, outputTotal_append]
    omega
  rcases eq_cons_of_asked asks with ⟨amount, others, ofAmount, rfl, otherAsks⟩
  cases paid with
  | @cons _ paidOutput _ _ pays paidOthers =>
      rcases checkPlatformFee_eq_ok checksFee with rfl | ⟨feeAddr, fee, rfl, shape, bounded⟩
      · rcases eq_nil_of_asked otherAsks with rfl
        cases paidOthers
        exact ⟨wif, payAddr, amount, paidOutput, none, change, sends.key, ofAmount, address,
          conserves.balanced.outputs, pays, by simp, changeHome, spends, unaccounted⟩
      · rcases eq_cons_of_asked otherAsks with ⟨feeAmount, rest, ofFee, rfl, noOthers⟩
        rcases eq_nil_of_asked noOthers with rfl
        cases paidOthers with
        | @cons _ feeOutput _ _ paysFee paidRest =>
            cases paidRest
            rw [Number.finite.inj ofFee, ofAmount, exceeds, decide_eq_false_iff_not,
              not_lt] at bounded
            refine ⟨wif, payAddr, amount, paidOutput, some feeOutput, change, sends.key, ofAmount,
              address, conserves.balanced.outputs, pays, ?_, changeHome, spends, unaccounted⟩
            intro output isFee
            rw [← Option.some.inj isFee]
            refine ⟨feeAddr, feeAmount, shape, paysFee, bounded, ?_⟩
            rw [paysFee.satoshis, pays.satoshis]
            exact toSatoshis_mono bounded

/-- For every answer about the job and the wallet, a session either ends with an
error and signs nothing, or broadcasts one transaction, whose drain is bounded. -/
theorem start_bounded_drain (library : PaymentLibrary) (agent : InboxAgent)
    (config : BuyerSessionConfig) (tracking : UtxoTracking) (answers : SessionAnswers)
    (recorded : ∀ utxo ∈ tracking.pendingChange, LowerHex utxo.txid)
    (listedLower : ∀ listed, answers.send.getUtxos = .ok listed →
      ∀ utxo ∈ listed, LowerHex utxo.txid) :
    (start library agent config tracking answers).broadcasts = [] ∧
      (∃ error, (start library agent config tracking answers).outcome = .error error) ∨
    ∃ built job, (start library agent config tracking answers).broadcasts = [built] ∧
      createdJob config answers = .ok job ∧
      ∃ wif payAddr amount paid fee change, BoundedDrain library agent config job
        built.transaction wif payAddr amount paid fee change := by
  cases creates : createdJob config answers with
  | error error =>
      simp only [start, creates]
      exact .inl ⟨rfl, error, rfl⟩
  | ok job =>
      cases checks : paymentOutputs config job with
      | error error =>
          simp only [start, creates, checks]
          exact .inl ⟨rfl, error, rfl⟩
      | ok outputs =>
          cases builds : buildMultiSend library agent tracking answers.send outputs with
          | error error =>
              simp only [start, creates, checks, sendMultiPayment, builds]
              exact .inl ⟨rfl, error, rfl⟩
          | ok built =>
              have drains := boundedDrain recorded listedLower checks builds
              simp only [start, creates, checks, sendMultiPayment, builds]
              exact .inr ⟨built, job, rfl, rfl, drains⟩

private def drainLibrary : PaymentLibrary :=
  { sampleLibrary with
    isIAddress := fun _ => false
    transactionId := fun _ => "drain" }

private def tenthSession : BuyerSessionConfig where
  sellerVerusId := "bob@"
  description := "translate"
  amount := .finite (Decimal.ofScientific 1 (-1))
  currency := none
  serviceId := none

private def hostileAnswers : SessionAnswers where
  createJob _ := .ok (some {
    id := "job"
    status := none
    payment := some {
      address := some (.json (.string "RSe11erPaymentAddressBase58Check1"))
      platformFeeAddress := some (.json (.string "RP1atformFeeAddressBase58Check111"))
      feeAmount := some (.json (.number (Decimal.ofScientific 1 (-1)))) } })
  send := {
    login := .ok ()
    getUtxos := .ok [⟨"aa", 0, 30000000, none, none⟩, ⟨"aa", 0, 30000000, none, none⟩]
    getChainInfo := .ok none
    broadcast := .error (.error "timeout") }
  recordPaymentCombined _ _ := .ok ()
  getJob := []
  connectChat := .ok ()

theorem start_bounded_drain_hostile :
    ∃ built job, (start drainLibrary sampleAgent tenthSession .empty hostileAnswers).broadcasts =
        [built] ∧
      ∃ wif payAddr amount paid fee change, BoundedDrain drainLibrary sampleAgent tenthSession job
        built.transaction wif payAddr amount paid fee change := by
  have bounded := start_bounded_drain drainLibrary sampleAgent tenthSession .empty hostileAnswers
    (by simp [UtxoTracking.empty]) (by
      intro listed lists
      rw [← Except.ok.inj lists]
      decide)
  have handed : (start drainLibrary sampleAgent tenthSession .empty
      hostileAnswers).broadcasts.length = 1 := by decide +kernel
  rcases bounded with refused | ⟨built, job, broadcasts, _, drains⟩
  · rw [refused.1] at handed
    cases handed
  · exact ⟨built, job, broadcasts, drains⟩

end SovAgent.Buyer

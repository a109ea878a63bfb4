import Mathlib.Algebra.Order.BigOperators.Group.List
import Mathlib.Tactic.Linarith
import Mathlib.Tactic.NormNum
import SovAgent.Tx.Payment
import SovAgent.Identity.UpdateContents

/-! # Where every satoshi of a transaction goes

The inputs of a payment or an identity update add up to the recipients' outputs,
the change and the fee. Selection covers a target whenever the outputs do.
-/

namespace SovAgent.Tx

open Identity

/-! ## Rounding -/

theorem roundHalfUp_coins (satoshis : Int) :
    roundHalfUp ((satoshis : ℚ) / satsPerCoin * satsPerCoin) = satoshis := by
  have coins : ((satsPerCoin : Int) : ℚ) ≠ 0 := by norm_num [satsPerCoin]
  rw [div_mul_cancel₀ _ coins]
  change ⌊(satoshis : ℚ) + 1 / 2⌋ = satoshis
  rw [Int.floor_eq_iff]
  constructor
  · linarith
  · linarith

theorem toSatoshis_nearest (amount : Decimal) :
    |(toSatoshis amount : ℚ) - amount.toRat * satsPerCoin| ≤ 1 / 2 := by
  have below := Int.floor_le (amount.toRat * satsPerCoin + 1 / 2 : ℚ)
  have above := Int.lt_floor_add_one (amount.toRat * satsPerCoin + 1 / 2 : ℚ)
  change |((⌊amount.toRat * satsPerCoin + 1 / 2⌋ : Int) : ℚ) - amount.toRat * satsPerCoin| ≤ 1 / 2
  rw [abs_le]
  constructor
  · linarith
  · linarith

/-! ## Selection -/

def utxoTotal (utxos : List Utxo) : Int := (utxos.map Utxo.satoshis).sum

@[simp] theorem utxoTotal_nil : utxoTotal [] = 0 := rfl

@[simp] theorem utxoTotal_cons (utxo : Utxo) (utxos : List Utxo) :
    utxoTotal (utxo :: utxos) = utxo.satoshis + utxoTotal utxos := by
  simp [utxoTotal]

theorem utxoTotal_perm {left right : List Utxo} (perm : left.Perm right) :
    utxoTotal left = utxoTotal right := (perm.map Utxo.satoshis).sum_eq

theorem utxoTotal_nonneg {utxos : List Utxo} (nonneg : ∀ utxo ∈ utxos, 0 ≤ utxo.satoshis) :
    0 ≤ utxoTotal utxos := by
  apply List.sum_nonneg
  intro satoshis member
  rcases List.mem_map.mp member with ⟨utxo, listed, rfl⟩
  exact nonneg utxo listed

theorem takeUntil_total (target : Int) (utxos : List Utxo) (start : Int) :
    (takeUntil Utxo.satoshis target utxos start).2 =
      start + utxoTotal (takeUntil Utxo.satoshis target utxos start).1 := by
  induction utxos generalizing start with
  | nil => simp [takeUntil]
  | cons head tail induction =>
      simp only [takeUntil]
      split
      · simp
      · rw [induction, utxoTotal_cons]
        omega

theorem takeUntil_short {target : Int} {utxos : List Utxo} {start : Int}
    (short : (takeUntil Utxo.satoshis target utxos start).2 < target) :
    (takeUntil Utxo.satoshis target utxos start).2 = start + utxoTotal utxos := by
  induction utxos generalizing start with
  | nil => simp [takeUntil]
  | cons head tail induction =>
      simp only [takeUntil] at short ⊢
      split at short
      · omega
      · rename_i uncovered
        rw [if_neg uncovered, induction short, utxoTotal_cons]
        omega

theorem takeUntil_short_iff (target : Int) {utxos : List Utxo} (start : Int)
    (nonneg : ∀ utxo ∈ utxos, 0 ≤ utxo.satoshis) :
    (takeUntil Utxo.satoshis target utxos start).2 < target ↔ start + utxoTotal utxos < target := by
  induction utxos generalizing start with
  | nil => simp [takeUntil]
  | cons head tail induction =>
      have tailNonneg := fun utxo member => nonneg utxo (List.mem_cons_of_mem head member)
      have rest := utxoTotal_nonneg tailNonneg
      simp only [takeUntil, utxoTotal_cons]
      split
      · omega
      · rw [induction _ tailNonneg]
        omega

theorem takeUntil_sublist (target : Int) (utxos : List Utxo) (start : Int) :
    (takeUntil Utxo.satoshis target utxos start).1.Sublist utxos := by
  induction utxos generalizing start with
  | nil => exact List.nil_sublist _
  | cons head tail induction =>
      simp only [takeUntil]
      split
      · exact (List.nil_sublist tail).cons_cons head
      · exact (induction _).cons_cons head

theorem selectUtxos_nodup {key : Utxo → α} {utxos selected : List Utxo} {target total : Int}
    (distinct : (utxos.map key).Nodup)
    (selects : Identity.selectUtxos utxos target = .ok (selected, total)) :
    (selected.map key).Nodup := by
  simp only [Identity.selectUtxos, selectUtxosIn] at selects
  split at selects
  · cases selects
  · rw [← (Prod.mk.inj (Except.ok.inj selects)).1]
    have sorted := List.mergeSort_perm utxos fun left right => right.satoshis ≤ left.satoshis
    exact ((takeUntil_sublist _ _ _).map key).nodup ((sorted.map key).nodup_iff.mpr distinct)

def insufficientFunds (needed available : Int) : Thrown :=
  .error s!"Insufficient funds: need {needed} satoshis, have {available}"

theorem selectUtxos_covers {utxos selected : List Utxo} {target total : Int}
    (selects : Identity.selectUtxos utxos target = .ok (selected, total)) :
    total = utxoTotal selected ∧ target ≤ total := by
  simp only [Identity.selectUtxos, selectUtxosIn] at selects
  split at selects
  · cases selects
  · rename_i covered
    have same := Prod.mk.inj (Except.ok.inj selects)
    rw [← same.1, ← same.2]
    refine ⟨?_, not_lt.mp covered⟩
    rw [takeUntil_total, zero_add]

theorem selectUtxos_eq (target : Int) {utxos : List Utxo}
    (nonneg : ∀ utxo ∈ utxos, 0 ≤ utxo.satoshis) :
    if utxoTotal utxos < target then
      Identity.selectUtxos utxos target = .error (insufficientFunds target (utxoTotal utxos))
    else ∃ selected total, Identity.selectUtxos utxos target = .ok (selected, total) := by
  have sorted := List.mergeSort_perm utxos fun left right => right.satoshis ≤ left.satoshis
  have sortedNonneg : ∀ utxo ∈ utxos.mergeSort (fun left right => right.satoshis ≤ left.satoshis),
      0 ≤ utxo.satoshis := fun utxo member => nonneg utxo (sorted.subset member)
  have short := takeUntil_short_iff target 0 sortedNonneg
  rw [zero_add, utxoTotal_perm sorted] at short
  split
  · rename_i lacking
    have total := takeUntil_short (short.mpr lacking)
    rw [zero_add, utxoTotal_perm sorted] at total
    simp only [Identity.selectUtxos, selectUtxosIn]
    rw [if_pos (short.mpr lacking), total]
    rfl
  · rename_i enough
    simp only [Identity.selectUtxos, selectUtxosIn]
    rw [if_neg (mt short.mp enough)]
    exact ⟨_, _, rfl⟩

/-! ## The balance -/

def inputTotal (transaction : Transaction) : Int :=
  (transaction.inputs.map TransactionInput.value).sum

def outputTotal (outputs : List (String × Int)) : Int := (outputs.map Prod.snd).sum

@[simp] theorem outputTotal_nil : outputTotal [] = 0 := rfl

@[simp] theorem outputTotal_singleton (output : String × Int) :
    outputTotal [output] = output.2 := by simp [outputTotal]

/-- The outputs are the recipients' and then at most one of change; the inputs
add up to these and the fee that is paid. -/
structure Balanced (transaction : Transaction) (recipients : List (String × Int))
    (change : Option (String × Int)) (feePaid : Int) : Prop where
  outputs : transaction.outputs = recipients ++ change.toList
  balance : inputTotal transaction =
    outputTotal recipients + outputTotal change.toList + feePaid

structure Pays (library : PaymentLibrary) (network : Network) (requested : String × Decimal)
    (output : String × Int) : Prop where
  script : library.outputScript requested.1 network = .ok output.1
  satoshis : output.2 = toSatoshis requested.2
  nearest : |(output.2 : ℚ) - requested.2.toRat * satsPerCoin| ≤ 1 / 2

/-- What a payment builder accounts for. -/
structure Conserves (library : PaymentLibrary) (options : PaymentOptions)
    (requested : List (String × Decimal)) (built : MultiPaymentResult)
    (recipients : List (String × Int)) (change : Option (String × Int)) (feePaid : Int) :
    Prop where
  balanced : Balanced built.transaction recipients change feePaid
  paid : List.Forall₂ (Pays library options.network) requested recipients
  changeTo : ∀ output ∈ change, ∃ address, options.changeTo library = .ok address ∧
    library.outputScript address options.network = .ok output.1
  feeCovered : options.fee ≤ feePaid
  feeBounded : feePaid ≤ options.fee + 1000
  changeUtxo : built.changeUtxo.map (fun utxo => (utxo.vout, utxo.satoshis)) =
    change.map fun output => (recipients.length, output.2)
  spentUtxos : built.spentUtxos.map (fun utxo => (utxo.txid, utxo.vout)) =
    built.transaction.inputs.map fun input => (input.txid, input.vout)

/-! ## The payment builders -/

/-- The satoshis that the builders work with for a list of amounts. -/
def requestedSatoshis (requested : List (String × Decimal)) : List (String × Int) :=
  requested.map fun output => (output.1, toSatoshis output.2)

theorem outputScripts_eq_ok {library : PaymentLibrary} {network : Network}
    {outputs scripts : List (String × Int)}
    (decodes : outputScripts library network outputs = .ok scripts) :
    List.Forall₂ (fun output script =>
      library.outputScript output.1 network = .ok script.1 ∧ script.2 = output.2)
      outputs scripts := by
  induction outputs generalizing scripts with
  | nil =>
      cases decodes
      exact .nil
  | cons head tail induction =>
      simp only [outputScripts, bind_eq_ok, Except.ok.injEq] at decodes
      rcases decodes with ⟨script, first, rest, others, rfl⟩
      exact .cons ⟨first, rfl⟩ (induction others)

theorem outputScripts_total {library : PaymentLibrary} {network : Network}
    {outputs scripts : List (String × Int)}
    (decodes : outputScripts library network outputs = .ok scripts) :
    outputTotal scripts = outputTotal outputs := by
  have amounts := outputScripts_eq_ok decodes
  clear decodes
  induction amounts with
  | nil => rfl
  | cons first _ induction =>
      simp only [outputTotal, List.map_cons, List.sum_cons, first.2] at induction ⊢
      rw [induction]

theorem changeScripts_eq_ok {library : PaymentLibrary} {network : Network} {address : String}
    {change : Int} {scripts : List (String × Int)}
    (decodes : outputScripts library network
      (if dustSatoshis < change then [(address, change)] else []) = .ok scripts) :
    dustSatoshis < change ∧ (∃ script, library.outputScript address network = .ok script ∧
        scripts = [(script, change)]) ∨
      change ≤ dustSatoshis ∧ scripts = [] := by
  split at decodes
  · rename_i paid
    simp only [outputScripts, bind_eq_ok, Except.ok.injEq] at decodes
    rcases decodes with ⟨script, decoded, _, rfl, rfl⟩
    exact .inl ⟨paid, script, decoded, rfl⟩
  · rename_i dust
    cases decodes
    exact .inr ⟨not_lt.mp dust, rfl⟩

theorem payments_paid {library : PaymentLibrary} {network : Network}
    {requested : List (String × Decimal)} {scripts : List (String × Int)}
    (decodes : outputScripts library network (requestedSatoshis requested) = .ok scripts) :
    List.Forall₂ (Pays library network) requested scripts := by
  apply (List.forall₂_map_left_iff.mp (outputScripts_eq_ok decodes)).imp
  intro output script paid
  refine ⟨paid.1, paid.2, ?_⟩
  rw [paid.2]
  exact toSatoshis_nearest output.2

theorem buildOutputs_conserves {library : PaymentLibrary} {options : PaymentOptions}
    (requested : List (String × Decimal)) {built : MultiPaymentResult}
    (builds : buildOutputs library options (requestedSatoshis requested) = .ok built) :
    ∃ recipients change feePaid,
      Conserves library options requested built recipients change feePaid := by
  simp only [buildOutputs, bind_eq_ok, Except.ok.injEq] at builds
  rcases builds with ⟨⟨selected, total⟩, selects, changeAddress, changeTo, scripts, decodes,
    changeScripts, changes, rawhex, _, rfl⟩
  rw [selectUtxos, roundHalfUp_coins] at selects
  rcases selectUtxos_covers selects with ⟨total_eq, covered⟩
  have inputs : ((selected.map paymentInput).map TransactionInput.value).sum =
      utxoTotal selected := by
    rw [List.map_map]
    rfl
  have recipients := outputScripts_total decodes
  have count : scripts.length = (requestedSatoshis requested).length :=
    (outputScripts_eq_ok decodes).length_eq.symm
  have spent : selected.map (fun utxo => (utxo.txid, utxo.vout)) =
      (selected.map paymentInput).map fun input => (input.txid, input.vout) := by
    rw [List.map_map]
    rfl
  simp only [outputTotal] at recipients
  rcases changeScripts_eq_ok changes with ⟨paid, script, decoded, rfl⟩ | ⟨dust, rfl⟩
  · refine ⟨scripts, some (script, _), options.fee, ⟨rfl, ?_⟩, payments_paid decodes, ?_, le_rfl,
      by omega, ?_, spent⟩
    · simp only [inputTotal, inputs, outputTotal, recipients, Option.toList_some,
        List.map_cons, List.map_nil, List.sum_cons, List.sum_nil]
      omega
    · intro output isChange
      rw [← Option.some.inj isChange]
      exact ⟨changeAddress, changeTo, decoded⟩
    · simp [count]
  · refine ⟨scripts, none, total - outputTotal scripts, ⟨rfl, ?_⟩, payments_paid decodes,
      by simp, ?_, ?_, rfl, spent⟩
    · simp only [inputTotal, inputs, outputTotal, Option.toList_none, List.map_nil,
        List.sum_nil]
      omega
    · simp only [outputTotal, recipients]
      omega
    · simp only [outputTotal, recipients]
      simp only [dustSatoshis] at dust
      omega

theorem buildOutputs_lacking {library : PaymentLibrary} {options : PaymentOptions}
    {outputs : List (String × Int)} (nonneg : ∀ utxo ∈ options.utxos, 0 ≤ utxo.satoshis)
    (lacking : utxoTotal options.utxos < outputTotal outputs + options.fee) :
    buildOutputs library options outputs =
      .error (insufficientFunds (outputTotal outputs + options.fee)
        (utxoTotal options.utxos)) := by
  have fails := selectUtxos_eq (outputTotal outputs + options.fee) nonneg
  rw [if_pos lacking] at fails
  simp only [outputTotal] at fails ⊢
  simp only [buildOutputs]
  rw [selectUtxos, roundHalfUp_coins, fails]
  rfl

theorem payableSatoshis_eq_ok {name : String} {amount : Number} {satoshis : Int}
    (payable : payableSatoshis name amount = .ok satoshis) :
    ∃ value, amount = .finite value ∧ satoshis = toSatoshis value := by
  simp only [payableSatoshis] at payable
  split at payable
  · rename_i value
    split at payable
    · exact ⟨value, rfl, (Except.ok.inj payable).symm⟩
    · cases payable
  · cases payable

theorem payableSatoshis_positive (name : String) {value : Decimal}
    (positive : 0 < value.mantissa) :
    payableSatoshis name (.finite value) = .ok (toSatoshis value) := by
  simp [payableSatoshis, positive]

theorem buildPayment_payable (library : PaymentLibrary) (options : PaymentOptions)
    (toAddress : String) {value : Decimal} (positive : 0 < value.mantissa)
    (safe : toSatoshis value ≤ maxSafeInteger) :
    buildPayment library options toAddress (.finite value) =
      buildOutputs library options [(toAddress, toSatoshis value)] := by
  rw [buildPayment, payableSatoshis_positive _ positive]
  change (do
    require (toSatoshis value ≤ maxSafeInteger) _
    buildOutputs library options [(toAddress, toSatoshis value)]) = _
  rw [require, if_pos safe]
  rfl

def asked (requested : List (String × Decimal)) : List (String × Number) :=
  requested.map fun output => (output.1, .finite output.2)

theorem eq_nil_of_asked {requested : List (String × Decimal)} (asks : [] = asked requested) :
    requested = [] := List.map_eq_nil_iff.mp asks.symm

theorem eq_cons_of_asked {address : String} {amount : Number} {outputs : List (String × Number)}
    {requested : List (String × Decimal)} (asks : (address, amount) :: outputs = asked requested) :
    ∃ value others, amount = .finite value ∧ requested = (address, value) :: others ∧
      outputs = asked others := by
  cases requested with
  | nil => cases asks
  | cons first others =>
      simp only [asked, List.map_cons, List.cons.injEq, Prod.mk.injEq] at asks
      exact ⟨first.2, others, asks.1.2, by rw [asks.1.1], asks.2⟩

theorem payableOutputs_eq_ok {outputs : List (String × Number)} {payable : List (String × Int)}
    (pays : payableOutputs outputs = .ok payable) :
    ∃ requested, outputs = asked requested ∧ payable = requestedSatoshis requested := by
  induction outputs generalizing payable with
  | nil =>
      cases pays
      exact ⟨[], rfl, rfl⟩
  | cons head tail induction =>
      simp only [payableOutputs, bind_eq_ok, Except.ok.injEq] at pays
      rcases pays with ⟨satoshis, first, rest, others, rfl⟩
      rcases payableSatoshis_eq_ok first with ⟨value, amount, rfl⟩
      rcases induction others with ⟨requested, rfl, rfl⟩
      refine ⟨(head.1, value) :: requested, ?_, rfl⟩
      simp [asked, ← amount]

theorem buildPayment_conserves {library : PaymentLibrary} {options : PaymentOptions}
    {toAddress : String} {amount : Number} {built : MultiPaymentResult}
    (builds : buildPayment library options toAddress amount = .ok built) :
    ∃ value, amount = .finite value ∧ ∃ recipients change feePaid,
      Conserves library options [(toAddress, value)] built recipients change feePaid := by
  simp only [buildPayment, bind_eq_ok, exists_unit] at builds
  rcases builds with ⟨satoshis, payable, _, builds⟩
  rcases payableSatoshis_eq_ok payable with ⟨value, rfl, rfl⟩
  exact ⟨value, rfl, buildOutputs_conserves [(toAddress, value)] builds⟩

theorem buildMultiPayment_conserves {library : PaymentLibrary} {options : PaymentOptions}
    {outputs : List (String × Number)} {built : MultiPaymentResult}
    (builds : buildMultiPayment library options outputs = .ok built) :
    ∃ requested, outputs = asked requested ∧ ∃ recipients change feePaid,
      Conserves library options requested built recipients change feePaid := by
  simp only [buildMultiPayment, bind_eq_ok, exists_unit] at builds
  rcases builds with ⟨_, payable, pays, builds⟩
  rcases payableOutputs_eq_ok pays with ⟨requested, rfl, rfl⟩
  exact ⟨requested, rfl, buildOutputs_conserves requested builds⟩

theorem payableOutputs_positive {requested : List (String × Decimal)}
    (positive : ∀ output ∈ requested, 0 < output.2.mantissa) :
    payableOutputs (asked requested) = .ok (requestedSatoshis requested) := by
  induction requested with
  | nil => rfl
  | cons head tail induction =>
      have first := payableSatoshis_positive "output" (positive head List.mem_cons_self)
      have rest := induction fun output member => positive output (List.mem_cons_of_mem _ member)
      simp only [asked, requestedSatoshis] at rest
      simp only [asked, requestedSatoshis, List.map_cons, payableOutputs, first, rest]
      rfl

theorem buildMultiPayment_payable (library : PaymentLibrary) (options : PaymentOptions)
    {requested : List (String × Decimal)} (nonempty : requested ≠ [])
    (positive : ∀ output ∈ requested, 0 < output.2.mantissa) :
    buildMultiPayment library options (asked requested) =
      buildOutputs library options (requestedSatoshis requested) := by
  have asks : asked requested ≠ [] := by simpa [asked] using nonempty
  rw [buildMultiPayment, payableOutputs_positive positive, require, if_pos asks]
  rfl

/-! A library that decodes every address and signs everything. -/

private def permissive : PaymentLibrary where
  hash160Hex _ := none
  identityScript _ := .ok ""
  keyAddress _ _ := .ok "RKey"
  outputScript address _ := .ok s!"pays {address}"
  sign _ _ _ := .ok ⟨"04000080", by decide⟩
  isIAddress _ := false
  transactionId _ := "txid"

private theorem outputScripts_permissive (network : Network) (outputs : List (String × Int)) :
    ∃ scripts, outputScripts permissive network outputs = .ok scripts := by
  induction outputs with
  | nil => exact ⟨[], rfl⟩
  | cons head tail induction =>
      rcases induction with ⟨scripts, decodes⟩
      simp only [outputScripts, decodes]
      exact ⟨_, rfl⟩

private theorem buildOutputs_permissive (options : PaymentOptions)
    (outputs : List (String × Int)) (nonneg : ∀ utxo ∈ options.utxos, 0 ≤ utxo.satoshis)
    (enough : ¬ utxoTotal options.utxos < outputTotal outputs + options.fee) :
    ∃ built, buildOutputs permissive options outputs = .ok built := by
  have selects := selectUtxos_eq (outputTotal outputs + options.fee) nonneg
  rw [if_neg enough] at selects
  simp only [outputTotal] at selects
  rcases selects with ⟨selected, total, selects⟩
  rcases outputScripts_permissive options.network outputs with ⟨scripts, decodes⟩
  have changeTo : ∃ address, options.changeTo permissive = .ok address := by
    simp only [PaymentOptions.changeTo]
    split
    · exact ⟨_, rfl⟩
    · exact ⟨_, rfl⟩
  rcases changeTo with ⟨address, changeTo⟩
  have changes := outputScripts_permissive options.network
    (if dustSatoshis < total - ((outputs.map Prod.snd).sum + options.fee) then
      [(address, total - ((outputs.map Prod.snd).sum + options.fee))] else [])
  rcases changes with ⟨changeScripts, changes⟩
  simp only [buildOutputs, bind_eq_ok]
  rw [selectUtxos, roundHalfUp_coins]
  exact ⟨_, (selected, total), selects, address, changeTo, scripts, decodes, changeScripts,
    changes, _, rfl, rfl⟩

/-- A builder fails for lack of funds when no library gets another answer. -/
def LacksFunds (build : PaymentLibrary → Except Thrown MultiPaymentResult)
    (needed available : Int) : Prop :=
  ∀ library, build library = .error (insufficientFunds needed available)

theorem buildOutputs_lacks_iff {options : PaymentOptions} (outputs : List (String × Int))
    (nonneg : ∀ utxo ∈ options.utxos, 0 ≤ utxo.satoshis) :
    LacksFunds (buildOutputs · options outputs) (outputTotal outputs + options.fee)
        (utxoTotal options.utxos) ↔
      utxoTotal options.utxos < outputTotal outputs + options.fee := by
  constructor
  · intro lacks
    by_contra enough
    rcases buildOutputs_permissive _ _ nonneg enough with ⟨built, builds⟩
    have failed : buildOutputs permissive options outputs = .error _ := lacks permissive
    rw [builds] at failed
    cases failed
  · intro lacking library
    exact buildOutputs_lacking nonneg lacking

/-! ## The identity update -/

theorem toSatoshis_zero {value : Decimal} (zero : value.toRat = 0) : toSatoshis value = 0 := by
  rw [toSatoshis, zero, zero_mul, zero_add]
  decide +kernel

theorem buildIdentityUpdateTx_balanced {library : TransactionLibrary}
    {params : IdentityUpdateParams} {signed : SignedUpdate}
    (built : buildIdentityUpdateTx library params = .ok signed)
    (worthless : ∀ prevOutput ∈ params.identityData.prevOutput, prevOutput.value.toRat = 0) :
    ∃ identityScript change,
      Balanced signed.transaction [(identityScript, 0)] change params.fee := by
  simp only [buildIdentityUpdateTx, bind_eq_ok, exists_unit, require_eq_ok, requireSome_eq_ok,
    Except.ok.injEq] at built
  rcases built with ⟨prevOutput, hasPrevOutput, identity, _, _, contentmultimap, _,
    identityScript, _, agentAddress, _, agentScript, _, _, _, ⟨selected, total⟩, selects, hex,
    _, rfl⟩
  rcases selectUtxos_covers selects with ⟨total_eq, covered⟩
  have spent := toSatoshis_zero (worthless prevOutput hasPrevOutput)
  have funding : (selected.map fun utxo => utxo.satoshis).sum = total := total_eq.symm
  by_cases left : 0 < total - params.fee
  · refine ⟨identityScript, some (agentScript, total - params.fee), ?_, ?_⟩
    · simp only [updateTransaction, if_pos left]
      rfl
    · simp [inputTotal, updateTransaction, Function.comp_def, spent, funding]
  · refine ⟨identityScript, none, ?_, ?_⟩
    · simp only [updateTransaction, if_neg left]
      rfl
    · simp [inputTotal, updateTransaction, Function.comp_def, spent, funding]
      omega

/-! ## All three builders -/

/-- Both payment builders account for every satoshi and pay the fee and at most
the dust limit more; the identity update pays its fee exactly. A payment fails
for lack of funds exactly when the outputs are worth less than it needs. -/
theorem value_conservation (library : PaymentLibrary) :
    (∀ options toAddress amount built,
      buildPayment library options toAddress amount = .ok built →
      ∃ value, amount = .finite value ∧ ∃ recipients change feePaid,
        Conserves library options [(toAddress, value)] built recipients change feePaid) ∧
    (∀ options outputs built, buildMultiPayment library options outputs = .ok built →
      ∃ requested, outputs = asked requested ∧ ∃ recipients change feePaid,
        Conserves library options requested built recipients change feePaid) ∧
    (∀ params signed,
      buildIdentityUpdateTx library.toTransactionLibrary params = .ok signed →
      (∀ prevOutput ∈ params.identityData.prevOutput, prevOutput.value.toRat = 0) →
      ∃ identityScript change,
        Balanced signed.transaction [(identityScript, 0)] change params.fee) ∧
    (∀ options toAddress value, (∀ utxo ∈ options.utxos, 0 ≤ utxo.satoshis) →
      0 < value.mantissa → toSatoshis value ≤ maxSafeInteger →
      (LacksFunds (buildPayment · options toAddress (.finite value))
          (toSatoshis value + options.fee) (utxoTotal options.utxos) ↔
        utxoTotal options.utxos < toSatoshis value + options.fee)) ∧
    (∀ options requested, (∀ utxo ∈ options.utxos, 0 ≤ utxo.satoshis) →
      requested ≠ [] → (∀ output ∈ requested, 0 < output.2.mantissa) →
      (LacksFunds (buildMultiPayment · options (asked requested))
          (outputTotal (requestedSatoshis requested) + options.fee)
          (utxoTotal options.utxos) ↔
        utxoTotal options.utxos <
          outputTotal (requestedSatoshis requested) + options.fee)) := by
  refine ⟨?_, ?_, ?_, ?_, ?_⟩
  · intro options toAddress amount built builds
    exact buildPayment_conserves builds
  · intro options outputs built builds
    exact buildMultiPayment_conserves builds
  · intro params signed built worthless
    exact buildIdentityUpdateTx_balanced built worthless
  · intro options toAddress value nonneg positive safe
    have lacks := buildOutputs_lacks_iff [(toAddress, toSatoshis value)] nonneg
    rw [outputTotal_singleton] at lacks
    rw [← lacks]
    simp only [LacksFunds, buildPayment_payable _ _ _ positive safe]
  · intro options requested nonneg nonempty positive
    rw [← buildOutputs_lacks_iff _ nonneg]
    simp only [LacksFunds, buildMultiPayment_payable _ _ nonempty positive]

private def threeOutputs : PaymentOptions where
  wif := "wif"
  utxos := [⟨"aa", 0, 700, none, none⟩, ⟨"bb", 1, 50000, none, none⟩, ⟨"cc", 0, 20000, none, none⟩]
  changeAddress := ""
  network := .verustest
  expiryHeight := none

private def emptyWallet : PaymentOptions := { threeOutputs with utxos := [] }

private def sellerAndPlatform : List (String × Decimal) :=
  [("RSeller", .ofScientific 3 (-4)), ("RPlatform", .ofScientific 15 (-5))]

private def feeOnlyUpdate : IdentityUpdateParams where
  wif := "wif"
  identityData := ⟨some {
      version := none, flags := none, minimumsignatures := some (.number 1)
      primaryaddresses := some (.array [.string "RKey"])
      parent := none, name := none, contentmap := none, contentmultimap := none
      revocationauthority := none, recoveryauthority := none, systemid := none },
    100, some ⟨"aa", 0, "51", 0⟩⟩
  utxos := [⟨"bb", 1, 50000, none, none⟩]
  vdxfAdditions := Record.empty
  network := .verustest
  fee := defaultFee
  revocationauthority := none
  recoveryauthority := none
  clearContentmultimap := false
  expiryHeight := none

/-- A payment of two recipients with change, one that lacks the funds, and an
update that is not refused. -/
theorem value_conservation_two_recipients :
    (∃ built, buildMultiPayment permissive threeOutputs (asked sellerAndPlatform) = .ok built ∧
      ∃ requested recipients change feePaid,
        Conserves permissive threeOutputs requested built recipients change feePaid) ∧
    LacksFunds (buildPayment · threeOutputs "RSeller" (.finite 1)) 100010000 70700 ∧
    LacksFunds (buildMultiPayment · emptyWallet (asked sellerAndPlatform)) 55000 0 ∧
    ∃ signed, buildIdentityUpdateTx permissive.toTransactionLibrary feeOnlyUpdate = .ok signed ∧
      ∃ identityScript change,
        Balanced signed.transaction [(identityScript, 0)] change defaultFee := by
  have conserved := value_conservation permissive
  have positive : ∀ output ∈ sellerAndPlatform, 0 < output.2.mantissa := by decide
  refine ⟨?_, ?_, ?_, ?_⟩
  · have builds := buildOutputs_permissive threeOutputs
      (requestedSatoshis sellerAndPlatform) (by decide) (by decide +kernel)
    rw [← buildMultiPayment_payable permissive threeOutputs (by decide) positive] at builds
    rcases builds with ⟨built, builds⟩
    rcases conserved.2.1 threeOutputs _ built builds with ⟨requested, _, conserves⟩
    exact ⟨built, builds, requested, conserves⟩
  · have lacks := (conserved.2.2.2.1 threeOutputs "RSeller" 1 (by decide) (by decide)
      (by decide +kernel)).mpr (by decide +kernel)
    rwa [show toSatoshis 1 + threeOutputs.fee = 100010000 by decide +kernel,
      show utxoTotal threeOutputs.utxos = 70700 by decide +kernel] at lacks
  · have lacks := (conserved.2.2.2.2 emptyWallet sellerAndPlatform (by decide)
      (by decide) positive).mpr (by decide +kernel)
    rwa [show outputTotal (requestedSatoshis sellerAndPlatform) + emptyWallet.fee = 55000 by
        decide +kernel,
      show utxoTotal emptyWallet.utxos = 0 by decide +kernel] at lacks
  · have builds : (buildIdentityUpdateTx permissive.toTransactionLibrary
        feeOnlyUpdate).toOption.isSome := by decide +kernel
    cases built : buildIdentityUpdateTx permissive.toTransactionLibrary feeOnlyUpdate with
    | error error => simp [built, Except.toOption] at builds
    | ok signed =>
        refine ⟨signed, rfl, conserved.2.2.1 feeOnlyUpdate signed built ?_⟩
        intro prevOutput spent
        rw [← Option.some.inj spent]
        decide +kernel

end SovAgent.Tx

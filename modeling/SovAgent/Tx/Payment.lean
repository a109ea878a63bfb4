import SovAgent.Identity.Update

/-! # Payment transactions

`buildPayment` and `buildMultiPayment`: greedy selection, the payment outputs
and the change.
-/

namespace SovAgent.Tx

open Identity

structure PaymentLibrary extends TransactionLibrary where
  isIAddress : String → Bool
  transactionId : TransactionHex → String

structure PaymentOptions where
  wif : String
  utxos : List Utxo
  fee : Int := defaultFee
  /-- Empty when the change goes to the address of the key. -/
  changeAddress : String
  network : Network
  expiryHeight : Option Int

structure MultiPaymentResult where
  rawhex : TransactionHex
  transaction : Transaction
  spentUtxos : List Utxo
  changeUtxo : Option Utxo

/-- Smaller change is left to the miners. -/
def dustSatoshis : Int := 1000

def maxSafeInteger : Int := 2 ^ 53 - 1

/-- Outputs by script; the first address that does not decode throws. -/
def outputScripts (library : PaymentLibrary) (network : Network) :
    List (String × Int) → Except Thrown (List (String × Int))
  | [] => .ok []
  | (address, satoshis) :: rest => do
      let script ← library.outputScript address network
      let scripts ← outputScripts library network rest
      .ok ((script, satoshis) :: scripts)

def paymentInput (utxo : Utxo) : TransactionInput where
  txid := utxo.txid
  vout := utxo.vout
  script := utxo.script.getD ""
  value := utxo.satoshis

/-- `Math.round`. -/
def roundHalfUp (value : ℚ) : Int := (value + 1 / 2).floor

/-- Selection by a target in coins, otherwise the one of the identity update: in exact numbers,
as doubles hold them up to 2^50 satoshis. -/
def selectUtxos (utxos : List Utxo) (targetAmount : ℚ) : Except Thrown (List Utxo × Int) :=
  Identity.selectUtxos utxos (roundHalfUp (targetAmount * satsPerCoin))

def PaymentOptions.changeTo (options : PaymentOptions) (library : PaymentLibrary) :
    Except Thrown String :=
  if options.changeAddress = "" then library.keyAddress options.wif options.network
  else .ok options.changeAddress

/-- The part that both builders share: pay the outputs, then the change. -/
def buildOutputs (library : PaymentLibrary) (options : PaymentOptions)
    (outputs : List (String × Int)) : Except Thrown MultiPaymentResult := do
  let totalNeeded := (outputs.map Prod.snd).sum + options.fee
  let (selected, total) ← selectUtxos options.utxos (totalNeeded / satsPerCoin)
  let changeAddress ← options.changeTo library
  let change := total - totalNeeded
  let scripts ← outputScripts library options.network outputs
  let changeOutputs := if dustSatoshis < change then [(changeAddress, change)] else []
  let changeScripts ← outputScripts library options.network changeOutputs
  let transaction : Transaction := {
    version := 4
    versionGroupId := 0x892f2085
    expiryHeight := (options.expiryHeight.filter (0 < ·)).getD 0
    inputs := selected.map paymentInput
    outputs := scripts ++ changeScripts }
  let rawhex ← library.sign options.wif options.network transaction
  .ok {
    rawhex
    transaction
    spentUtxos := selected
    changeUtxo := changeScripts.head?.map fun output => {
      txid := library.transactionId rawhex
      vout := outputs.length
      satoshis := output.2
      script := some output.1
      address := some changeAddress } }

/-- `Math.round(amount * SATS_PER_COIN)` of an amount that may be paid. -/
def payableSatoshis (name : String) (amount : Number) : Except Thrown Int :=
  match amount with
  | .finite value =>
      if 0 < value.mantissa then .ok (toSatoshis value)
      else .error (.error s!"Invalid {name} amount: {amount}")
  | _ => .error (.error s!"Invalid {name} amount: {amount}")

def buildPayment (library : PaymentLibrary) (options : PaymentOptions) (toAddress : String)
    (amount : Number) : Except Thrown MultiPaymentResult := do
  let satoshis ← payableSatoshis "payment" amount
  require (satoshis ≤ maxSafeInteger) (.error "Payment amount too large")
  buildOutputs library options [(toAddress, satoshis)]

def payableOutputs : List (String × Number) → Except Thrown (List (String × Int))
  | [] => .ok []
  | (address, amount) :: rest => do
      let satoshis ← payableSatoshis "output" amount
      let payable ← payableOutputs rest
      .ok ((address, satoshis) :: payable)

def buildMultiPayment (library : PaymentLibrary) (options : PaymentOptions)
    (outputs : List (String × Number)) : Except Thrown MultiPaymentResult := do
  require (outputs ≠ []) (.error "At least one output required")
  let payable ← payableOutputs outputs
  buildOutputs library options payable

end SovAgent.Tx

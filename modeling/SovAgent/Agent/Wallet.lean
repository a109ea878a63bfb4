import SovAgent.Agent.IdentityUpdates
import SovAgent.Foundation.Execution
import SovAgent.Tx.Payment

/-! # The agent's wallet

Payments run one after the other and remember the outputs that they spent.
Identity updates run at any time and take their fee from the outputs that the
platform lists. One event is one segment between two suspensions.
-/

namespace SovAgent.Wallet

open Identity Inbox Tx

/-! ## Recorded outputs -/

def maxSpentUtxos : Nat := 10000
def maxPendingChange : Nat := 1000

def outpointKey (utxo : Utxo) : String := s!"{utxo.txid}:{utxo.vout}"

/-- `_spentUtxos`, oldest first, and `_pendingChange`. -/
structure UtxoTracking where
  spentUtxos : List String
  pendingChange : List Utxo
deriving DecidableEq, Repr

namespace UtxoTracking

def empty : UtxoTracking := ⟨[], []⟩

def unspent (spentUtxos : List String) : (seen : List String) → List Utxo → List Utxo
  | _, [] => []
  | seen, utxo :: rest =>
      let key := outpointKey utxo
      if key ∈ spentUtxos ∨ key ∈ seen then unspent spentUtxos seen rest
      else utxo :: unspent spentUtxos (key :: seen) rest

/-- Forget pending change that is spent or listed, then merge. -/
def mergeUtxos (tracking : UtxoTracking) (apiUtxos : List Utxo) : UtxoTracking × List Utxo :=
  let apiKeys := apiUtxos.map outpointKey
  let pendingChange := tracking.pendingChange.filter fun utxo =>
    outpointKey utxo ∉ tracking.spentUtxos ∧ outpointKey utxo ∉ apiKeys
  ({ tracking with pendingChange },
    unspent tracking.spentUtxos [] (apiUtxos ++ pendingChange))

/-- `Set.add`, in insertion order. -/
def addSpent (spentUtxos : List String) (utxo : Utxo) : List String :=
  if outpointKey utxo ∈ spentUtxos then spentUtxos else spentUtxos ++ [outpointKey utxo]

/-- Drop the oldest entries above a limit. -/
def dropOldest (limit : Nat) (entries : List α) : List α := entries.drop (entries.length - limit)

end UtxoTracking

/-! ## Payments -/

structure SendOptions where
  changeAddress : Option String
  sourceAddress : Option String
  /-- The option, or else the environment variable. -/
  trustPlatformResolution : Bool
deriving DecidableEq, Repr

inductive Payment where
  | sendCurrency (destination : String) (amount : Number) (options : SendOptions)
  | sendMultiPayment (outputs : List (String × Number))
deriving DecidableEq, Repr

inductive TransferDirection where
  | toIdentity
  | toRAddress
deriving DecidableEq, Repr

/-- The `sendCurrency` call that a transfer makes. -/
def transferFunds (iAddress rAddress : String) (direction : TransferDirection) (amount : Number)
    (trustPlatformResolution : Bool) : Payment :=
  match direction with
  | .toIdentity => .sendCurrency iAddress amount
      ⟨some rAddress, some rAddress, trustPlatformResolution⟩
  | .toRAddress => .sendCurrency rAddress amount
      ⟨some iAddress, some iAddress, trustPlatformResolution⟩

section Payment

variable (library : PaymentLibrary) (agent : InboxAgent) (wif : String)

/-- The address to pay. `payInfo` is the platform's answer for a VerusID. -/
def resolveRecipient (destination : String) (trust : Bool) (payInfo : Except Thrown String) :
    Except Thrown String :=
  if includes destination "@" ∨ includes destination "." then
    if trust then .ok (match payInfo with
      | .ok address => if address = "" then destination else address
      | .error _ => destination)
    else .error (.error (s!"sendCurrency refused: '{destination}' is a VerusID; " ++
      "platform-resolved addresses are not trusted by default (audit 2026-06-02 H2). " ++
      "Pass an R-address or i-address, OR set trustPlatformResolution: true " ++
      "(or env J41_TRUST_PLATFORM_RESOLUTION=1) to opt in to the legacy behavior."))
  else .ok destination

/-- Change stays on the i-address when everything comes from i-addresses. -/
def defaultChangeAddress (utxos : List Utxo) : Except Thrown String :=
  let onIAddress := fun (utxo : Utxo) =>
    (utxo.address.filter (· ≠ "")).any library.isIAddress
  match agent.iAddress.filter fun _ => utxos.all onIAddress with
  | some iAddress => .ok iAddress
  | none => library.keyAddress wif agent.networkType

def chooseChangeAddress (options : SendOptions) (utxos : List Utxo) : Except Thrown String :=
  match options.changeAddress.filter (· ≠ "") with
  | some address => .ok address
  | none => defaultChangeAddress library agent wif utxos

def fromSource (sourceAddress : Option String) (utxos : List Utxo) : List Utxo :=
  match sourceAddress.filter (· ≠ "") with
  | some source => utxos.filter (·.address = some source)
  | none => utxos

structure Funding where
  utxos : List Utxo
  changeAddress : String

def fundCurrency (options : SendOptions) (utxos : List Utxo) : Except Thrown Funding := do
  require (utxos ≠ []) (.error "No UTXOs available — wallet is empty")
  let spendable := fromSource options.sourceAddress utxos
  let source := options.sourceAddress.getD ""
  require (spendable ≠ []) (.error s!"No spendable UTXOs on {source}")
  let changeAddress ← chooseChangeAddress library agent wif options spendable
  let ownRAddress ← library.keyAddress wif agent.networkType
  require (changeAddress = ownRAddress ∨ agent.iAddress = some changeAddress) (.error
    (s!"Refusing to send change to a non-self address ({changeAddress}); " ++
      "change must go to the agent's own R-address or i-address."))
  .ok ⟨spendable, changeAddress⟩

def fundMulti (utxos : List Utxo) : Except Thrown Funding := do
  require (utxos ≠ [])
    (.error "No UTXOs available — wallet is empty or all outputs are unconfirmed")
  let changeAddress ← library.keyAddress wif agent.networkType
  .ok ⟨utxos, changeAddress⟩

/-- A payment whose outputs are chosen, with the resolved recipient. -/
structure FundedPayment where
  payment : Payment
  recipient : String
  funding : Funding

/-- From the platform's answers to the candidate outputs. -/
def fundPayment (tracking : UtxoTracking) (payment : Payment) (payInfo : Except Thrown String)
    (listed : List Utxo) : UtxoTracking × Except Thrown FundedPayment :=
  match payment with
  | .sendCurrency destination _ options =>
      match resolveRecipient destination options.trustPlatformResolution payInfo with
      | .error error => (tracking, .error error)
      | .ok recipient =>
          let (tracking, utxos) := tracking.mergeUtxos (listed.filter (0 < ·.satoshis))
          (tracking, (fundCurrency library agent wif options utxos).map (⟨payment, recipient, ·⟩))
  | .sendMultiPayment _ =>
      let (tracking, utxos) := tracking.mergeUtxos (listed.filter (0 < ·.satoshis))
      (tracking, (fundMulti library agent wif utxos).map (⟨payment, "", ·⟩))

def paymentExpiryDelta : Int := 60

def buildFunded (funded : FundedPayment) (tip : Option Int) : Except Thrown MultiPaymentResult :=
  let options : PaymentOptions := {
    wif
    utxos := funded.funding.utxos
    changeAddress := funded.funding.changeAddress
    network := agent.networkType
    expiryHeight := computeExpiryHeight tip paymentExpiryDelta }
  match funded.payment with
  | .sendCurrency _ amount _ => buildPayment library options funded.recipient amount
  | .sendMultiPayment outputs => buildMultiPayment library options outputs

end Payment

/-- Only `sendCurrency` bounds what is recorded. -/
def UtxoTracking.recordSpent (tracking : UtxoTracking) (payment : Payment)
    (spent : List Utxo) : UtxoTracking :=
  let spentUtxos := spent.foldl UtxoTracking.addSpent tracking.spentUtxos
  match payment with
  | .sendCurrency _ _ _ =>
      { tracking with spentUtxos := UtxoTracking.dropOldest maxSpentUtxos spentUtxos }
  | .sendMultiPayment _ => { tracking with spentUtxos }

/-- Chain the change under the txid that the broadcast returned. -/
def UtxoTracking.chainChange (tracking : UtxoTracking) (payment : Payment) (change : Option Utxo)
    (txid : String) : UtxoTracking :=
  match change with
  | none => tracking
  | some change =>
      let pendingChange := tracking.pendingChange ++ [{ change with txid }]
      match payment with
      | .sendCurrency _ _ _ =>
          { tracking with
            pendingChange := UtxoTracking.dropOldest maxPendingChange pendingChange }
      | .sendMultiPayment _ => { tracking with pendingChange }

/-! ## Interleaved operations -/

inductive Spender where
  | payment
  | identityUpdate
deriving DecidableEq, Repr

abbrev Outpoint := String × Nat

/-- A transaction that was handed to `client.broadcast`, with the outputs that
fund it and the answer, once there is one. -/
structure Handed where
  spender : Spender
  transaction : Transaction
  funding : List Outpoint
  answer : Option (Except Thrown String)

def Handed.rejected (handed : Handed) : Bool :=
  match handed.answer with
  | some (.error _) => true
  | _ => false

/-- A broadcast is answered once. -/
def Handed.settle (answer : Except Thrown String) (handed : Handed) : Handed :=
  { handed with answer := handed.answer.or (some answer) }

def handedPayment (built : MultiPaymentResult) : Handed where
  spender := .payment
  transaction := built.transaction
  funding := built.spentUtxos.map fun utxo => (utxo.txid, utxo.vout)
  answer := none

/-- The last input of an update is the identity's previous output. -/
def handedUpdate (signed : SignedUpdate) : Handed where
  spender := .identityUpdate
  transaction := signed.transaction
  funding := signed.transaction.inputs.dropLast.map fun input => (input.txid, input.vout)
  answer := none

inductive PaymentStage where
  | started (payment : Payment)
  | funded (funded : FundedPayment)
  | broadcasting (payment : Payment) (change : Option Utxo) (index : Nat)

inductive UpdateStage where
  | called (request : UpdateRequest)
  | read (request : UpdateRequest) (data : RawIdentityData) (utxos : Option (List Utxo))
  | broadcasting (index : Nat)
  | finished

/-- The agent: what it tracks, the chain of payments, the identity updates that
were called, and everything handed to the broadcast, oldest first. -/
structure AgentState where
  tracking : UtxoTracking
  waiting : List Payment
  running : Option PaymentStage
  updates : List UpdateStage
  handed : List Handed

def AgentState.start : AgentState := ⟨UtxoTracking.empty, [], none, [], []⟩

inductive WalletEvent where
  | callPayment (payment : Payment)
  | startPayment
  | paymentFails
  | paymentListed (payInfo : Except Thrown String) (listed : List Utxo)
  | paymentTip (tip : Option Int)
  | paymentAnswered (answer : Except Thrown String)
  | callUpdate (request : UpdateRequest)
  | updateFails (index : Nat)
  | updateListed (index : Nat) (data : RawIdentityData) (utxos : Option (List Utxo))
  | updateTip (index : Nat) (tip : Option Int)
  | updateAnswered (index : Nat) (answer : Except Thrown String)

section Machine

variable (library : PaymentLibrary) (agent : InboxAgent)

def walletKey : String := agent.wif.getD ""

def callPayment (payment : Payment) (state : AgentState) : Option AgentState :=
  if agent.wif.isSome then some { state with waiting := state.waiting ++ [payment] } else none

def startPayment (state : AgentState) : Option AgentState :=
  match state.running, state.waiting with
  | none, payment :: waiting => some { state with waiting, running := some (.started payment) }
  | _, _ => none

def failPayment (state : AgentState) : Option AgentState :=
  match state.running with
  | some (.started _) | some (.funded _) => some { state with running := none }
  | _ => none

def listPayment (payInfo : Except Thrown String) (listed : List Utxo) (state : AgentState) :
    Option AgentState :=
  match state.running with
  | some (.started payment) =>
      let (tracking, funded) :=
        fundPayment library agent (walletKey agent) state.tracking payment payInfo listed
      some { state with tracking, running := funded.toOption.map .funded }
  | _ => none

/-- Inputs are recorded as spent before the broadcast. -/
def buildRunning (tip : Option Int) (state : AgentState) : Option AgentState :=
  match state.running with
  | some (.funded funded) =>
      match buildFunded library agent (walletKey agent) funded tip with
      | .error _ => some { state with running := none }
      | .ok built => some { state with
          tracking := state.tracking.recordSpent funded.payment built.spentUtxos
          running := some (.broadcasting funded.payment built.changeUtxo state.handed.length)
          handed := state.handed ++ [handedPayment built] }
  | _ => none

/-- A rejected broadcast leaves the inputs recorded. -/
def answerPayment (answer : Except Thrown String) (state : AgentState) : Option AgentState :=
  match state.running with
  | some (.broadcasting payment change index) =>
      let tracking := match answer with
        | .ok txid => state.tracking.chainChange payment change txid
        | .error _ => state.tracking
      some { state with
        tracking
        running := none
        handed := state.handed.modify index (Handed.settle answer) }
  | _ => none

def failUpdate (index : Nat) (state : AgentState) : Option AgentState :=
  match state.updates[index]? with
  | some (.called _) | some (.read _ _ _) =>
      some { state with updates := state.updates.set index .finished }
  | _ => none

def listUpdate (index : Nat) (data : RawIdentityData) (utxos : Option (List Utxo))
    (state : AgentState) : Option AgentState :=
  match state.updates[index]? with
  | some (.called request) =>
      some { state with updates := state.updates.set index (.read request data utxos) }
  | _ => none

/-- Nothing is recorded. -/
def buildUpdate (index : Nat) (tip : Option Int) (state : AgentState) : Option AgentState :=
  match state.updates[index]? with
  | some (.read request data utxos) =>
      match request.handsOver library.toTransactionLibrary agent data utxos tip with
      | none => some { state with updates := state.updates.set index .finished }
      | some signed => some { state with
          updates := state.updates.set index (.broadcasting state.handed.length)
          handed := state.handed ++ [handedUpdate signed] }
  | _ => none

def answerUpdate (index : Nat) (answer : Except Thrown String) (state : AgentState) :
    Option AgentState :=
  match state.updates[index]? with
  | some (.broadcasting position) =>
      some { state with
        updates := state.updates.set index .finished
        handed := state.handed.modify position (Handed.settle answer) }
  | _ => none

def walletMachine : Machine AgentState WalletEvent where
  step state
    | .callPayment payment => callPayment agent payment state
    | .startPayment => startPayment state
    | .paymentFails => failPayment state
    | .paymentListed payInfo listed => listPayment library agent payInfo listed state
    | .paymentTip tip => buildRunning library agent tip state
    | .paymentAnswered answer => answerPayment answer state
    | .callUpdate request => some { state with updates := state.updates ++ [.called request] }
    | .updateFails index => failUpdate index state
    | .updateListed index data utxos => listUpdate index data utxos state
    | .updateTip index tip => buildUpdate library agent index tip state
    | .updateAnswered index answer => answerUpdate index answer state

end Machine

end SovAgent.Wallet

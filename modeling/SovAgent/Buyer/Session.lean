import SovAgent.Agent.Wallet
import SovAgent.Foundation.Text

/-! # BuyerSession

`BuyerSession.start`: create a job, check what the platform answers about its
payment, and pay seller and platform in one transaction. Everything that the
platform or the agent's other modules answer enters through `SessionAnswers`.
-/

namespace SovAgent.Buyer

open Identity Inbox Tx Wallet

/-- A member of a parsed answer. `JSON.parse` reads a number that is too large
for a double as infinite. -/
inductive Member where
  | json (value : Json)
  | infinite (negative : Bool)
deriving DecidableEq

namespace Member

def truthy : Member → Bool
  | .json value => value.truthy
  | .infinite _ => true

/-- `value != null`. -/
def isPresent : Option Member → Bool
  | none | some (.json .null) => false
  | some _ => true

def templateText : Option Member → String
  | none => "undefined"
  | some (.json value) => value.templateText
  | some (.infinite negative) => (Number.infinity negative).toString

end Member

structure JobPayment where
  address : Option Member
  platformFeeAddress : Option Member
  feeAmount : Option Member

structure Job where
  id : String
  status : Option Member
  payment : Option JobPayment

structure BuyerSessionConfig where
  sellerVerusId : String
  description : String
  amount : Number
  currency : Option String
  serviceId : Option String

structure CreateJobData where
  sellerVerusId : String
  description : String
  amount : Number
  currency : String
  serviceId : Option String

/-- What the calls of one `sendMultiPayment` answer. -/
structure SendAnswers where
  login : Except Thrown Unit
  getUtxos : Except Thrown (List Utxo)
  getChainInfo : Except Thrown (Option Int)
  broadcast : Except Thrown String

structure SessionAnswers where
  createJob : CreateJobData → Except Thrown (Option Job)
  send : SendAnswers
  recordPaymentCombined : String → String → Except Thrown Unit
  getJob : List (ℚ × Except Thrown Job)
  connectChat : Except Thrown Unit

/-- What a call hands to `client.broadcast`, and how it ends. -/
structure Session (α : Type) where
  broadcasts : List MultiPaymentResult
  outcome : Except Thrown α

namespace Session

def throw (error : Thrown) : Session α := ⟨[], .error error⟩

/-- Continue without another broadcast. -/
def andThen (session : Session α) (next : α → Except Thrown β) : Session β where
  broadcasts := session.broadcasts
  outcome := session.outcome.bind next

end Session

/-! ## The payment -/

def isVerusAddr (text : String) : Bool :=
  match text.toList with
  | first :: rest => (first = 'R' ∨ first = 'i') ∧ rest.all isBase58 ∧
      25 ≤ rest.length ∧ rest.length ≤ 40
  | [] => false

def verusAddr? : Option Member → Option String
  | some (.json (.string text)) => if isVerusAddr text then some text else none
  | _ => none

/-- `fee > amount`. -/
def exceeds (fee : Decimal) : (amount : Number) → Bool
  | .finite amount => amount.toRat < fee.toRat
  | .infinity negative => negative
  | .nan => false

/-- A fee that is finite, positive and at most the amount of the job. -/
def plausibleFee? (feeAmt : Option Member) (amount : Number) : Option Decimal :=
  match feeAmt with
  | some (.json (.number fee)) =>
      if 0 < fee.mantissa ∧ exceeds fee amount = false then some fee else none
  | _ => none

def checkPayAddr (payAddr : Option Member) : Except Thrown String :=
  if payAddr.any Member.truthy then
    match verusAddr? payAddr with
    | some address => .ok address
    | none =>
        let shown := Member.templateText payAddr
        .error (.error s!"Refusing to pay job: malformed payment address {shown}")
  else .error (.error
    "No payment address on job — backend may not have resolved seller R-address")

/-- The output of the platform fee, if the job names one or both of its fields. -/
def checkPlatformFee (payment : Option JobPayment) (amount : Number) :
    Except Thrown (List (String × Number)) :=
  let feeAddr := payment.bind JobPayment.platformFeeAddress
  let feeAmt := payment.bind JobPayment.feeAmount
  if Member.isPresent feeAddr ∨ Member.isPresent feeAmt then
    match verusAddr? feeAddr, plausibleFee? feeAmt amount with
    | some address, some fee => .ok [(address, .finite fee)]
    | _, _ =>
        let shown := Member.templateText feeAmt
        .error (.error
          s!"Refusing to pay implausible/ malformed platform fee (amount={shown}, job={amount}).")
  else .ok []

def paymentOutputs (config : BuyerSessionConfig) (job : Job) :
    Except Thrown (List (String × Number)) := do
  let payAddr ← checkPayAddr (job.payment.bind JobPayment.address)
  let fee ← checkPlatformFee job.payment config.amount
  .ok ((payAddr, config.amount) :: fee)

section Send

variable (library : PaymentLibrary) (agent : InboxAgent)

/-- `sendMultiPayment` up to its broadcast, over what the agent tracks. -/
def buildMultiSend (tracking : UtxoTracking) (answers : SendAnswers)
    (outputs : List (String × Number)) : Except Thrown MultiPaymentResult := do
  let wif ← requireSome agent.wif "Agent not initialized with WIF"
  answers.login
  let listed ← answers.getUtxos
  let funded ← (fundPayment library agent wif tracking (.sendMultiPayment outputs) (.ok "")
    listed).2
  let tip ← answers.getChainInfo
  buildFunded library agent wif funded tip

def sendMultiPayment (tracking : UtxoTracking) (answers : SendAnswers)
    (outputs : List (String × Number)) : Session String :=
  match buildMultiSend library agent tracking answers outputs with
  | .error error => .throw error
  | .ok built => ⟨[built], answers.broadcast⟩

end Send

/-! ## The session -/

def maxWaitMs : ℚ := 15 * 60 * 1000

def hasStatus (job : Job) (status : String) : Bool :=
  job.status = some (.json (.string status))

/-- Poll until the job is in progress, has ended or the time is up. -/
def awaitProgress (job : Job) : List (ℚ × Except Thrown Job) → Except Thrown Job
  | [] => .ok job
  | (waited, answer) :: rest =>
      if waited < maxWaitMs then do
        let check ← answer
        if hasStatus check "in_progress" then .ok check
        else if hasStatus check "cancelled" ∨ hasStatus check "failed" then
          let status := Member.templateText check.status
          .error (.error s!"Job {status}")
        else awaitProgress job rest
      else .ok job

/-- The steps after the broadcast. -/
def finishStart (answers : SessionAnswers) (job : Job) (txid : String) : Except Thrown Job := do
  answers.recordPaymentCombined job.id txid
  let job ← awaitProgress job answers.getJob
  require (hasStatus job "in_progress")
    (.error "Payment verification timeout — job did not start within 15 minutes")
  answers.connectChat
  .ok job

def createdJob (config : BuyerSessionConfig) (answers : SessionAnswers) : Except Thrown Job := do
  let job ← answers.createJob {
    sellerVerusId := config.sellerVerusId
    description := config.description
    amount := config.amount
    currency := (config.currency.filter (· ≠ "")).getD "VRSCTEST"
    serviceId := config.serviceId }
  requireSome job "Cannot read properties of null (reading 'id')"

def start (library : PaymentLibrary) (agent : InboxAgent) (config : BuyerSessionConfig)
    (tracking : UtxoTracking) (answers : SessionAnswers) : Session Job :=
  match createdJob config answers with
  | .error error => .throw error
  | .ok job =>
      match paymentOutputs config job with
      | .error error => .throw error
      | .ok outputs =>
          (sendMultiPayment library agent tracking answers.send outputs).andThen
            (finishStart answers job)

end SovAgent.Buyer

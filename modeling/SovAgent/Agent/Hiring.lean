import SovAgent.Foundation.Checks
import SovAgent.Foundation.Json
import SovAgent.Signing.Messages

/-! # Hiring: job creation, job completion and reviews

The platform, the remote signer and the message signature are code outside the
repository and enter as the fields of `Platform`, `Agent` and `SignMessage`.
-/

namespace SovAgent.Hiring

inductive NetworkType where
  | verus
  | verustest
deriving DecidableEq, Repr

inductive Failure where
  | error (message : String)
  | typeError
deriving DecidableEq, Repr

structure Agent where
  wif : Option String
  signer : Option (String → Except Failure String)
  identityName : Option String
  iAddress : Option String
  networkType : NetworkType

namespace Agent

def canSign (agent : Agent) : Bool := agent.wif.isSome || agent.signer.isSome

def defaultCurrency (agent : Agent) : String :=
  match agent.networkType with
  | .verus => "VRSC"
  | .verustest => "VRSCTEST"

/-- `_signMessageBuilt`: the remote signer when there is one, else the key. -/
def signMessageBuilt (agent : Agent)
    (signMessage : String → String → NetworkType → Except Failure String) (message : String) :
    Except Failure String :=
  match agent.signer, agent.wif with
  | some signer, _ => signer message
  | none, some wif => signMessage wif message agent.networkType
  | none, none => .error (.error "WIF key required (no remote signer configured)")

end Agent

structure JobMessageParams where
  sellerVerusId : String
  description : String
  amount : Number
  currency : Option String
  deadline : Option String
  timestamp : Int
  sovguardEnabled : Option Bool

structure ReviewMessageParams where
  agentVerusId : String
  jobHash : String
  message : String
  rating : Number
  timestamp : Int

structure JobData where
  sellerVerusId : String
  description : String
  amount : Number
  currency : Option String
  deadline : Option String
  paymentAddress : Option String
  sovguardEnabled : Option Bool

structure SignedJob where
  data : JobData
  currency : String
  timestamp : Int
  signature : String

structure ReviewParams where
  agentVerusId : String
  jobHash : String
  rating : Number
  message : Option String

structure SignedReview where
  agentVerusId : String
  buyerVerusId : String
  jobHash : String
  rating : Number
  message : String
  timestamp : Option Json
  signature : String

/-- Answers of the platform. The `data` of a response may be any value. -/
structure Platform where
  login : Except Failure String
  getAgentPaymentAddress : String → Except Failure (Option String)
  getJobRequestMessage : JobMessageParams → Except Failure (Option Json)
  getReviewMessage : ReviewMessageParams → Except Failure (Option Json)
  getJob : String → Except Failure (Option Json)

/-- The string value `text`, or the default when it is missing or empty. -/
def orElse (text : Option String) (default : String) : String :=
  match text with
  | some "" | none => default
  | some text => text

def login (agent : Agent) (platform : Platform) : Except Failure String := do
  require (agent.canSign) (.error "WIF key or remote signer required")
  require (agent.identityName.isSome) (.error "Identity name required")
  platform.login

/-- `(await request).message`: reading a property of `null` throws. -/
def readProperty (response : Except Failure (Option Json)) (key : String) :
    Except Failure (Option Json) := do
  match ← response with
  | none | some .null => .error .typeError
  | some value => .ok (value.get? key)

/-- The shape test that `createJob` and `submitReview` share: a string that
starts with `J41-` and includes every given field. -/
def requireBoundMessage (message : Option Json) (fields : List String) (notBound : String) :
    Except Failure String :=
  match message with
  | some (.string text) => do
      require (startsWith text "J41-")
        (.error "Refusing to sign platform-supplied bytes that do not start with J41-")
      require (∀ field ∈ fields, includes text field) (.error notBound)
      .ok text
  | _ => .error
      (.error "Refusing to sign platform-supplied bytes that do not start with J41-")

def requireSigner (agent : Agent) : Except Failure Unit :=
  require (agent.canSign) (.error "Agent not initialized with WIF or remote signer")

/-- `Math.floor(Date.now() / 1000)`. -/
def unixSeconds (nowMs : Int) : Int := nowMs / 1000

def secondsNumber (timestamp : Int) : Number := .finite (Decimal.ofInt timestamp)

def resolvePaymentAddress (platform : Platform) (data : JobData) : JobData :=
  match data.paymentAddress with
  | some "" | none =>
      match platform.getAgentPaymentAddress data.sellerVerusId with
      | .ok (some address) =>
          if address = "" then data else { data with paymentAddress := some address }
      | _ => data
  | some _ => data

/-! ## Job creation -/

def jobMessageParams (data : JobData) (timestamp : Int) : JobMessageParams where
  sellerVerusId := data.sellerVerusId
  description := data.description
  amount := data.amount
  currency := data.currency
  deadline := data.deadline
  timestamp := timestamp
  sovguardEnabled := data.sovguardEnabled

/-- The part of `createJob` before the signature: its result is what gets
signed. -/
def jobMessageToSign (agent : Agent) (platform : Platform) (data : JobData) (nowMs : Int) :
    Except Failure String := do
  requireSigner agent
  let _ ← login agent platform
  let data := resolvePaymentAddress platform data
  let timestamp := unixSeconds nowMs
  let message ← readProperty
    (platform.getJobRequestMessage (jobMessageParams data timestamp)) "message"
  requireBoundMessage message
    [data.sellerVerusId, data.amount.toString, (secondsNumber timestamp).toString]
    "Refusing to sign job-request bytes that do not bind our seller/amount/timestamp"

def createJob (agent : Agent)
    (signMessage : String → String → NetworkType → Except Failure String)
    (platform : Platform) (data : JobData) (nowMs : Int) : Except Failure SignedJob := do
  let message ← jobMessageToSign agent platform data nowMs
  let signature ← agent.signMessageBuilt signMessage message
  .ok {
    data := resolvePaymentAddress platform data
    currency := orElse data.currency agent.defaultCurrency
    timestamp := unixSeconds nowMs
    signature }

/-- The message that `completeJob` signs: only the job hash is the platform's. -/
def completionMessageToSign (agent : Agent) (platform : Platform) (jobId : String)
    (nowMs : Int) : Except Failure String := do
  requireSigner agent
  let _ ← login agent platform
  let jobHash ← readProperty (platform.getJob jobId) "jobHash"
  let jobHash := (jobHash.map Json.templateText).getD "undefined"
  .ok (Signing.buildCompleteMessage jobHash (secondsNumber (unixSeconds nowMs)))

/-! ## Reviews -/

def reviewMessageParams (params : ReviewParams) (timestamp : Int) : ReviewMessageParams where
  agentVerusId := params.agentVerusId
  jobHash := params.jobHash
  message := params.message.getD ""
  rating := params.rating
  timestamp := timestamp

/-- The part of `submitReview` before the signature. -/
def reviewMessageToSign (agent : Agent) (platform : Platform) (params : ReviewParams)
    (nowMs : Int) : Except Failure String := do
  requireSigner agent
  let _ ← login agent platform
  let message ← readProperty
    (platform.getReviewMessage (reviewMessageParams params (unixSeconds nowMs))) "message"
  requireBoundMessage message [params.jobHash, params.rating.toString]
    "Refusing to sign review bytes that do not bind our jobHash + rating"

/-- The buyer a review is filed under: the name with one `@`, else the address. -/
def reviewBuyer (agent : Agent) : String :=
  match agent.identityName with
  | some name => if name.endsWith "@" then name else name ++ "@"
  | none => agent.iAddress.getD ""

/-- `submitReview` up to the request that posts the signed review. -/
def submitReview (agent : Agent)
    (signMessage : String → String → NetworkType → Except Failure String)
    (platform : Platform) (params : ReviewParams) (nowMs : Int) :
    Except Failure SignedReview := do
  let message ← reviewMessageToSign agent platform params nowMs
  let signature ← agent.signMessageBuilt signMessage message
  -- The same response again: `getReviewMessage` was requested once.
  let timestamp ← readProperty
    (platform.getReviewMessage (reviewMessageParams params (unixSeconds nowMs))) "timestamp"
  .ok {
    agentVerusId := params.agentVerusId
    buyerVerusId := reviewBuyer agent
    jobHash := params.jobHash
    rating := params.rating
    message := params.message.getD ""
    timestamp
    signature }

end SovAgent.Hiring

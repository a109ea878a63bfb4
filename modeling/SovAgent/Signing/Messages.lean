import SovAgent.Foundation.Number
import SovAgent.Foundation.Text

/-! # Signing message formats

The strings that the platform expects signatures over. Every builder is one
template literal of the source.
-/

namespace SovAgent.Signing

/-- A field typed `number | string`. -/
inductive NumberOrString where
  | number (value : Number)
  | string (text : String)
deriving DecidableEq, Repr

namespace NumberOrString

def toString : NumberOrString → String
  | .number value => value.toString
  | .string text => text

instance : ToString NumberOrString := ⟨toString⟩

end NumberOrString

structure AcceptMessageParams where
  jobHash : String
  buyerVerusId : String
  amount : NumberOrString
  currency : String
  timestamp : Number

def buildAcceptMessage (params : AcceptMessageParams) : String :=
  s!"J41-ACCEPT|Job:{params.jobHash}|Buyer:{params.buyerVerusId}" ++
    s!"|Amt:{params.amount} {params.currency}|Ts:{params.timestamp}" ++
    "|I accept this job and commit to delivering the work."

structure DeliverMessageParams where
  jobHash : String
  deliveryHash : String
  timestamp : Number

def buildDeliverMessage (params : DeliverMessageParams) : String :=
  s!"J41-DELIVER|Job:{params.jobHash}|Delivery:{params.deliveryHash}|Ts:{params.timestamp}" ++
    "|I have delivered the work for this job."

inductive DisputeAction where
  | refund
  | rework
  | rejected
deriving DecidableEq, Repr

def DisputeAction.toString : DisputeAction → String
  | .refund => "refund"
  | .rework => "rework"
  | .rejected => "rejected"

instance : ToString DisputeAction := ⟨DisputeAction.toString⟩

structure DisputeRespondMessageParams where
  jobHash : String
  action : DisputeAction
  timestamp : Number

def buildDisputeRespondMessage (params : DisputeRespondMessageParams) : String :=
  s!"J41-DISPUTE-RESPOND|Job:{sliceStart params.jobHash 16}|Action:{params.action}" ++
    s!"|Ts:{params.timestamp}"

structure ReworkAcceptMessageParams where
  jobHash : String
  timestamp : Number

def buildReworkAcceptMessage (params : ReworkAcceptMessageParams) : String :=
  s!"J41-REWORK-ACCEPT|Job:{sliceStart params.jobHash 16}|Ts:{params.timestamp}"

def buildCompleteMessage (jobHash : String) (timestamp : Number) : String :=
  s!"J41-COMPLETE|Job:{jobHash}|Ts:{timestamp}" ++
    "|I confirm the work has been delivered satisfactorily."

def buildDisputeMessage (jobHash reason : String) (timestamp : Number) : String :=
  s!"J41-DISPUTE|Job:{jobHash}|Reason:{reason}|Ts:{timestamp}|I am raising a dispute on this job."

/-! ## Bounties -/

def buildPostBountyMessage (title : String) (amount : NumberOrString) (currency : String)
    (timestamp : Number) : String :=
  s!"J41-BOUNTY|Post:{title}|Amount:{amount}|Currency:{currency}|Ts:{timestamp}" ++
    "|I commit to funding this bounty."

def buildApplyBountyMessage (bountyId : String) (timestamp : Number) : String :=
  s!"J41-BOUNTY-APPLY|Bounty:{bountyId}|Ts:{timestamp}"

def buildSelectClaimantsMessage (bountyId : String) (applicantIds : List String)
    (timestamp : Number) : String :=
  let selected := ",".intercalate applicantIds
  s!"J41-BOUNTY-SELECT|Bounty:{bountyId}|Selected:{selected}|Ts:{timestamp}"

/-! ## Deposit reporting -/

structure DepositReportParams where
  buyerVerusId : String
  sellerVerusId : String
  txid : String
  amount : NumberOrString
  nonce : String
  timestamp : Number

def buildDepositReportMessage (params : DepositReportParams) : String :=
  s!"J41-DEPOSIT-REPORT|Buyer:{params.buyerVerusId}|Seller:{params.sellerVerusId}" ++
    s!"|Txid:{params.txid}|Amt:{params.amount}|Nonce:{params.nonce}|Ts:{params.timestamp}" ++
    "|I attest I sent this deposit and claim its credit."

end SovAgent.Signing

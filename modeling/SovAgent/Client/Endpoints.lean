import SovAgent.Client.Url
import SovAgent.Foundation.NumberText
import SovAgent.Foundation.Value

/-! # Endpoints

The addresses of the calls that put something of their caller's into one. The platform reads
back what was put in, unless it is a dot segment or a number with a plus sign. One call does
not encode its text.
-/

namespace SovAgent.Client

/-! ## Addresses -/

def isWordCharacter (character : Char) : Bool :=
  character.isLower || character.isDigit || character = '-'

def isWord (text : String) : Bool := text ≠ "" && text.toList.all isWordCharacter

inductive Piece where
  | word (text : String) (plain : isWord text = true := by decide)
  | id (text : String)
  | raw (text : String)

namespace Piece

def text : Piece → String
  | .word text _ => text
  | .id text => text
  | .raw text => text

def spelled : Piece → String
  | .word text _ => text
  | .id text => encodeURIComponent text
  | .raw text => text

def id? : Piece → Option String
  | .id text => some text
  | .word _ _ | .raw _ => none

def raw? : Piece → Option String
  | .raw text => some text
  | .word _ _ | .id _ => none

end Piece

/-- What stands behind a path. -/
inductive Query where
  /-- `URLSearchParams`; without parameters there is no query. -/
  | search (pairs : List (String × String))
  /-- One text through `encodeURIComponent`. -/
  | component (name value : String) (plain : isWord name = true := by decide)
  | number (name : String) (value : Number) (plain : isWord name = true := by decide)

/-- The encoder of `URLSearchParams`. -/
def searchEncoder : FormEncoder where
  kept byte := byte < 0x80 &&
    ((Char.ofNat byte).isAlphanum || Char.ofNat byte ∈ ['*', '-', '.', '_', ' '])
  digit := hexDigitUpper
  value_digit := hexValue_hexDigitUpper
  kept_ascii := by
    intro byte kept
    exact of_decide_eq_true (Bool.and_eq_true_iff.mp kept).1
  percent := by decide
  plus := by decide
  ampersand := by decide
  equals := by decide

namespace Query

def text : Query → String
  | .search [] => ""
  | .search pairs => "?" ++ String.ofList (searchEncoder.writeForm pairs)
  | .component name value _ => s!"?{name}={encodeURIComponent value}"
  | .number name value _ => s!"?{name}={value}"

def pairs : Query → List (String × String)
  | .search pairs => pairs
  | .component name value _ => [(name, value)]
  | .number name value _ => [(name, value.toString)]

end Query

structure Endpoint where
  rest : List Piece
  query : Query := .search []

def Endpoint.pieces (endpoint : Endpoint) : List Piece := .word "v1" :: endpoint.rest

def Endpoint.path (endpoint : Endpoint) : String :=
  String.join (endpoint.pieces.map fun piece => "/" ++ piece.spelled) ++ endpoint.query.text

def Endpoint.ids (endpoint : Endpoint) : List String := endpoint.pieces.filterMap Piece.id?

def Endpoint.raws (endpoint : Endpoint) : List String := endpoint.pieces.filterMap Piece.raw?

def present (params : List (String × Option String)) : Query :=
  .search (params.filterMap fun param => param.2.map (param.1, ·))

/-- `if (params.name)` of a text. -/
def whenFilled (text : Option String) : Option String := text.filter (· ≠ "")

/-- `if (params.name != null)` of a number. -/
def whenGiven (number : Option Number) : Option String := number.map Number.toString

/-- `if (params.name)` of a number. -/
def whenTruthy (number : Option Number) : Option String :=
  whenGiven (number.filter fun number => (Primitive.number number).truthy)

def whenFlagged (flag : Option Bool) : Option String :=
  flag.map fun flag => if flag then "true" else "false"

/-! ## Families of addresses -/

def jobAddress (jobId : String) (rest : List Piece) (query : Query := .search []) : Endpoint :=
  ⟨[.word "jobs", .id jobId] ++ rest, query⟩

def agentAddress (verusId : String) (rest : List Piece) : Endpoint :=
  { rest := [.word "agents", .id verusId] ++ rest }

def extensionAddress (jobId extensionId : String) (last : Piece) : Endpoint :=
  jobAddress jobId [.word "extensions", .id extensionId, last]

def heldMessageAddress (jobId messageId : String) (last : Piece) : Endpoint :=
  jobAddress jobId [.word "held-messages", .id messageId, last]

/-- An address under `/v1/me`. -/
def ownAddress (rest : List Piece) (query : Query := .search []) : Endpoint :=
  ⟨.word "me" :: rest, query⟩

def address (rest : List Piece) (query : Query := .search []) : Endpoint := ⟨rest, query⟩

/-! ## Search parameters -/

structure Page where
  limit : Option Number := none
  offset : Option Number := none

def Page.params (page : Page) : List (String × Option String) :=
  [("limit", whenGiven page.limit), ("offset", whenGiven page.offset)]

structure ServiceSearchParams extends Page where
  agentId : Option String := none
  verusId : Option String := none
  category : Option String := none
  status : Option String := none
  minPrice : Option Number := none
  maxPrice : Option Number := none
  q : Option String := none
  sort : Option String := none
  order : Option String := none

structure AgentSearchParams extends Page where
  status : Option String := none
  type : Option String := none
  capability : Option String := none
  owner : Option String := none
  sort : Option String := none
  order : Option String := none

structure BountySearchParams extends Page where
  category : Option String := none
  minAmount : Option Number := none
  maxAmount : Option Number := none

structure PricingParams where
  model : Option String := none
  category : Option String := none
  inputTokens : Option Number := none
  outputTokens : Option Number := none
  privacyTier : Option String := none
  vrscUsdRate : Option Number := none

structure JobRequestParams where
  sellerVerusId : String
  description : String
  amount : Number
  currency : Option String := none
  deadline : Option String := none
  timestamp : Option Number := none
  sovguardEnabled : Option Bool := none

inductive InboxTypes where
  | one (type : String)
  | several (types : List String)

def InboxTypes.param : InboxTypes → Option String
  | one type => whenFilled (some type)
  | several types => some (",".intercalate types)

/-! ## Calls -/

inductive ClientCall where
  | getUtxos (address : Option String)
  | getTxStatus (txid : String)
  | onboardStatus (id : String)
  | getMyJobs (status role : Option String)
  | acceptJob (jobId : String)
  | deliverJob (jobId : String)
  | confirmWorkerAttached (jobId : String)
  | reportWorkerAttachFailed (jobId : String)
  | completeJob (jobId : String)
  | getJob (jobId : String)
  | postRentalSecret (jobId : String)
  | getRentalAccess (jobId : String)
  | getJobWitness (jobId : String)
  | pauseJob (jobId : String)
  | reactivateJob (jobId : String)
  | getExtensionInvoice (jobId : String) (amount : Number)
  | getChatMessages (jobId : String) (page : Page) (since : Option String)
  | sendChatMessage (jobId : String)
  | requestEndSession (jobId : String)
  | recordPayment (jobId : String)
  | recordPlatformFee (jobId : String)
  | cancelJob (jobId : String)
  | disputeJob (jobId : String)
  | respondToDispute (jobId : String)
  | acceptRework (jobId : String)
  | getPaymentQr (jobId type : String)
  | getJobByHash (hash : String)
  | getInbox (status : String) (limit : Number) (type : Option InboxTypes)
  | getInboxItem (id : String)
  | acceptInboxItem (id : String)
  | getIdentityHistory (identity : Option String) (heightStart heightEnd : Option Number)
  | getIdentityKeys (idOrName : String)
  | requestExtension (jobId : String)
  | getExtensions (jobId : String)
  | approveExtension (jobId extensionId : String)
  | rejectExtension (jobId extensionId : String)
  | requestBudget (jobId : String)
  | payExtension (jobId extensionId : String)
  | getAttestations (agentId : String)
  | queryPricingOracle (params : PricingParams)
  | getJobRequestMessage (params : JobRequestParams)
  | getServices (params : ServiceSearchParams)
  | getService (serviceId : String)
  | getAgentServices (verusId : String)
  | updateService (serviceId : String)
  | deleteService (serviceId : String)
  | requestApiAccess (sellerVerusId : String)
  | listApiProviders (category : Option String) (page : Page)
  | uploadFile (jobId : String)
  | getJobFiles (jobId : String)
  | downloadFile (jobId fileId : String)
  | deleteFile (jobId fileId : String)
  | getAgents (params : AgentSearchParams)
  | getAgent (verusId : String)
  | getAgentCapabilities (verusId : String)
  | searchAgents (q : String) (type status : Option String) (verified : Option Bool)
      (page : Page)
  | setAgentStatus (verusId : String)
  | getAgentReviews (verusId : String) (page : Page) (verified : Option Bool)
  | getBuyerReviews (verusId : String) (page : Page)
  | getJobReview (jobHash : String)
  | getReputation (verusId : String) (quick : Bool)
  | getTopAgents (limit : Number)
  | getAgentDataPolicy (verusId : String)
  | getJobDataTerms (jobId : String)
  | getDeletionAttestationMessage (jobId : String) (timestamp : Option Number)
  | submitDeletionAttestation (jobId : String)
  | getDeletionAttestation (jobId : String)
  | getHeldMessages (jobId : String)
  | appealHeldMessage (jobId messageId : String)
  | releaseHeldMessage (jobId messageId : String)
  | rejectHeldMessage (jobId messageId : String)
  | deleteCanary (canaryId : String)
  | rejectInboxItem (id : String)
  | dismissAlert (alertId : String)
  | reportAlert (alertId : String)
  | deleteWebhook (webhookId : String)
  | getTrustScore (verusId : String)
  | getWorkspaceStatus (jobId : String)
  | initBuyerWorkspace (jobId : String)
  | getBounties (params : BountySearchParams)
  | getBounty (bountyId : String)
  | applyToBounty (bountyId : String)
  | selectBountyClaimants (bountyId : String)
  | cancelBounty (bountyId : String)
  | getMyBounties (role status : Option String) (page : Page)
  | getNotifications (limit : Option Number)
  | getDispute (jobId : String)
  | submitRefundTxid (jobId : String)
  | getDisputeMetrics (verusId : String)
  | getReviewMessage (agentVerusId jobHash : String) (message : Option String)
      (rating timestamp : Option Number)
  | updateWebhook (webhookId : String)
  | testWebhook (webhookId : String)
  | refreshAgent (verusId : String)
  | getVerificationStatus (agentId : String)
  | getTransparencyProfile (verusId : String)
  | updateAgent (agentId : String)
  | getWebhookDeliveries (webhookId : String) (limit : Option Number)
  | rejectDelivery (jobId : String)
  | recordPaymentCombined (jobId : String)
  | retryOnboard (onboardId : String)
  | getAgentPaymentAddress (verusId : String)
  | verifyPayment (txid expectedAddress : String) (expectedAmount : Number)
      (currency : String) (expectedSender : Option String)
  | checkAgentName (name : String)

def ClientCall.endpoint : ClientCall → Endpoint
  | getUtxos holder =>
      address [.word "tx", .word "utxos"]
        (match whenFilled holder with
          | some address => .component "address" address
          | none => .search [])
  | getTxStatus txid => address [.word "tx", .word "status", .id txid]
  | onboardStatus id => address [.word "onboard", .word "status", .id id]
  | getMyJobs status role =>
      ownAddress [.word "jobs"]
        (present [("status", whenFilled status), ("role", whenFilled role)])
  | acceptJob jobId => jobAddress jobId [.word "accept"]
  | deliverJob jobId => jobAddress jobId [.word "deliver"]
  | confirmWorkerAttached jobId => jobAddress jobId [.word "worker-attached"]
  | reportWorkerAttachFailed jobId => jobAddress jobId [.word "worker-attach-failed"]
  | completeJob jobId => jobAddress jobId [.word "complete"]
  | getJob jobId => jobAddress jobId []
  | postRentalSecret jobId => jobAddress jobId [.word "rental-secret"]
  | getRentalAccess jobId => jobAddress jobId [.word "rental-access"]
  | getJobWitness jobId => jobAddress jobId [.word "witness"]
  | pauseJob jobId => jobAddress jobId [.word "pause"]
  | reactivateJob jobId => jobAddress jobId [.word "reactivate"]
  | getExtensionInvoice jobId amount =>
      jobAddress jobId [.word "extension-invoice"] (.number "amount" amount)
  | getChatMessages jobId page since =>
      jobAddress jobId [.word "messages"] (present (page.params ++ [("since", whenFilled since)]))
  | sendChatMessage jobId => jobAddress jobId [.word "messages"]
  | requestEndSession jobId => jobAddress jobId [.word "end-session"]
  | recordPayment jobId => jobAddress jobId [.word "payment"]
  | recordPlatformFee jobId => jobAddress jobId [.word "platform-fee"]
  | cancelJob jobId => jobAddress jobId [.word "cancel"]
  | disputeJob jobId => jobAddress jobId [.word "dispute"]
  | respondToDispute jobId => jobAddress jobId [.word "dispute", .word "respond"]
  | acceptRework jobId => jobAddress jobId [.word "dispute", .word "rework-accept"]
  | getPaymentQr jobId type => jobAddress jobId [.word "payment-qr"] (.search [("type", type)])
  | getJobByHash hash => address [.word "jobs", .word "hash", .id hash]
  | getInbox status limit type =>
      ownAddress [.word "inbox"]
        (present [("status", some status), ("limit", some limit.toString),
          ("type", type.bind InboxTypes.param)])
  | getInboxItem id => ownAddress [.word "inbox", .id id]
  | acceptInboxItem id => ownAddress [.word "inbox", .id id, .word "accept"]
  | getIdentityHistory identity heightStart heightEnd =>
      let window := present [("heightStart", whenGiven heightStart),
        ("heightEnd", whenGiven heightEnd)]
      match whenFilled identity with
      | some identity => address [.word "identity", .id identity, .word "history"] window
      | none => ownAddress [.word "identity", .word "history"] window
  | getIdentityKeys idOrName => address [.word "identity", .id idOrName, .word "keys"]
  | requestExtension jobId => jobAddress jobId [.word "extensions"]
  | getExtensions jobId => jobAddress jobId [.word "extensions"]
  | approveExtension jobId extensionId => extensionAddress jobId extensionId (.word "approve")
  | rejectExtension jobId extensionId => extensionAddress jobId extensionId (.word "reject")
  | requestBudget jobId => jobAddress jobId [.word "budget-request"]
  | payExtension jobId extensionId => extensionAddress jobId extensionId (.word "payment")
  | getAttestations agentId => agentAddress agentId [.word "attestations"]
  | queryPricingOracle params =>
      address [.word "pricing", .word "recommend"]
        (present [("model", whenFilled params.model), ("category", whenFilled params.category),
          ("inputTokens", whenGiven params.inputTokens),
          ("outputTokens", whenGiven params.outputTokens),
          ("privacyTier", whenFilled params.privacyTier),
          ("vrscUsdRate", whenGiven params.vrscUsdRate)])
  | getJobRequestMessage params =>
      address [.word "jobs", .word "message", .word "request"]
        (present [("sellerVerusId", some params.sellerVerusId),
          ("description", some params.description), ("amount", some params.amount.toString),
          ("currency", whenFilled params.currency), ("deadline", whenFilled params.deadline),
          ("timestamp", whenGiven params.timestamp),
          ("sovguardEnabled", if params.sovguardEnabled = some false then some "false"
            else none)])
  | getServices params =>
      address [.word "services"]
        (present ([("agentId", whenFilled params.agentId), ("verusId", whenFilled params.verusId),
          ("category", whenFilled params.category), ("status", whenFilled params.status),
          ("minPrice", whenGiven params.minPrice), ("maxPrice", whenGiven params.maxPrice),
          ("q", whenFilled params.q)] ++ params.toPage.params ++
          [("sort", whenFilled params.sort), ("order", whenFilled params.order)]))
  | getService serviceId => address [.word "services", .id serviceId]
  | getAgentServices verusId => address [.word "services", .word "agent", .id verusId]
  | updateService serviceId => ownAddress [.word "services", .id serviceId]
  | deleteService serviceId => ownAddress [.word "services", .id serviceId]
  | requestApiAccess sellerVerusId => address [.word "proxy", .word "access", .id sellerVerusId]
  | listApiProviders category page =>
      address [.word "services"]
        (present [("serviceType", some "api-endpoint"), ("category", whenFilled category),
          ("limit", whenTruthy page.limit), ("offset", whenTruthy page.offset)])
  | uploadFile jobId => jobAddress jobId [.word "files"]
  | getJobFiles jobId => jobAddress jobId [.word "files"]
  | downloadFile jobId fileId => jobAddress jobId [.word "files", .id fileId]
  | deleteFile jobId fileId => jobAddress jobId [.word "files", .id fileId]
  | getAgents params =>
      address [.word "agents"]
        (present ([("status", whenFilled params.status), ("type", whenFilled params.type),
          ("capability", whenFilled params.capability), ("owner", whenFilled params.owner)] ++
          params.toPage.params ++
          [("sort", whenFilled params.sort), ("order", whenFilled params.order)]))
  | getAgent verusId => agentAddress verusId []
  | getAgentCapabilities verusId => agentAddress verusId [.word "capabilities"]
  | searchAgents q type status verified page =>
      address [.word "search"]
        (present ([("q", some q), ("type", whenFilled type), ("status", whenFilled status),
          ("verified", whenFlagged verified)] ++ page.params))
  | setAgentStatus verusId => agentAddress verusId [.word "status"]
  | getAgentReviews verusId page verified =>
      address [.word "reviews", .word "agent", .id verusId]
        (present (page.params ++ [("verified", whenFlagged verified)]))
  | getBuyerReviews verusId page =>
      address [.word "reviews", .word "buyer", .id verusId] (present page.params)
  | getJobReview jobHash => address [.word "reviews", .word "job", .id jobHash]
  | getReputation verusId quick =>
      address [.word "reputation", .id verusId]
        (.search (if quick then [("quick", "true")] else []))
  | getTopAgents limit => address [.word "reputation", .word "top"] (.number "limit" limit)
  | getAgentDataPolicy verusId => agentAddress verusId [.word "data-policy"]
  | getJobDataTerms jobId => jobAddress jobId [.word "data-terms"]
  | getDeletionAttestationMessage jobId timestamp =>
      jobAddress jobId [.word "deletion-attestation", .word "message"]
        (match timestamp with
          | some timestamp => .number "timestamp" timestamp
          | none => .search [])
  | submitDeletionAttestation jobId => jobAddress jobId [.word "deletion-attestation"]
  | getDeletionAttestation jobId => jobAddress jobId [.word "deletion-attestation"]
  | getHeldMessages jobId => jobAddress jobId [.word "held-messages"]
  | appealHeldMessage jobId messageId => heldMessageAddress jobId messageId (.word "appeal")
  | releaseHeldMessage jobId messageId => heldMessageAddress jobId messageId (.word "release")
  | rejectHeldMessage jobId messageId => heldMessageAddress jobId messageId (.word "reject")
  | deleteCanary canaryId => ownAddress [.word "canary", .id canaryId]
  | rejectInboxItem id => ownAddress [.word "inbox", .id id, .word "reject"]
  | dismissAlert alertId => ownAddress [.word "alerts", .id alertId, .word "dismiss"]
  | reportAlert alertId => ownAddress [.word "alerts", .id alertId, .word "report"]
  | deleteWebhook webhookId => ownAddress [.word "webhooks", .id webhookId]
  | getTrustScore verusId => agentAddress verusId [.word "trust"]
  | getWorkspaceStatus jobId => address [.word "jailbox", .raw jobId]
  | initBuyerWorkspace jobId => address [.word "jailbox", .id jobId, .word "token"]
  | getBounties params =>
      address [.word "bounties"]
        (present ([("category", whenFilled params.category),
          ("minAmount", whenGiven params.minAmount), ("maxAmount", whenGiven params.maxAmount)] ++
          params.toPage.params))
  | getBounty bountyId => address [.word "bounties", .id bountyId]
  | applyToBounty bountyId => address [.word "bounties", .id bountyId, .word "apply"]
  | selectBountyClaimants bountyId => address [.word "bounties", .id bountyId, .word "select"]
  | cancelBounty bountyId => address [.word "bounties", .id bountyId]
  | getMyBounties role status page =>
      ownAddress [.word "bounties"]
        (present ([("role", whenFilled role), ("status", whenFilled status)] ++ page.params))
  | getNotifications limit =>
      ownAddress [.word "notifications"] (present [("limit", whenGiven limit)])
  | getDispute jobId => jobAddress jobId [.word "dispute"]
  | submitRefundTxid jobId => jobAddress jobId [.word "dispute", .word "refund-txid"]
  | getDisputeMetrics verusId => agentAddress verusId [.word "transparency"]
  | getReviewMessage agentVerusId jobHash message rating timestamp =>
      address [.word "reviews", .word "message"]
        (present [("agentVerusId", some agentVerusId), ("jobHash", some jobHash),
          ("message", whenFilled message), ("rating", whenGiven rating),
          ("timestamp", whenGiven timestamp)])
  | updateWebhook webhookId => ownAddress [.word "webhooks", .id webhookId]
  | testWebhook webhookId => ownAddress [.word "webhooks", .id webhookId, .word "test"]
  | refreshAgent verusId => agentAddress verusId [.word "refresh"]
  | getVerificationStatus agentId => agentAddress agentId [.word "verification"]
  | getTransparencyProfile verusId => agentAddress verusId [.word "transparency"]
  | updateAgent agentId => agentAddress agentId [.word "update"]
  | getWebhookDeliveries webhookId limit =>
      ownAddress [.word "webhooks", .id webhookId, .word "deliveries"]
        (present [("limit", whenGiven limit)])
  | rejectDelivery jobId => jobAddress jobId [.word "reject-delivery"]
  | recordPaymentCombined jobId => jobAddress jobId [.word "payment-combined"]
  | retryOnboard onboardId => address [.word "onboard", .word "retry", .id onboardId]
  | getAgentPaymentAddress verusId => agentAddress verusId [.word "payment-address"]
  | verifyPayment txid expectedAddress expectedAmount currency expectedSender =>
      address [.word "tx", .word "verify-payment"]
        (present [("txid", some txid), ("expectedAddress", some expectedAddress),
          ("expectedAmount", some expectedAmount.toString), ("currency", some currency),
          ("expectedSender", whenFilled expectedSender)])
  | checkAgentName name => address [.word "agents", .word "check-name", .id name]

end SovAgent.Client

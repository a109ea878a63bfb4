import SovAgent.Agent.Hiring

/-! # What the hiring paths can be made to sign

`createJob` and `submitReview` sign text that the platform chose, once it
starts with `J41-` and includes the caller's fields. Most messages of the
protocol have a field that takes any text, and the caller's fields fit there.
-/

namespace SovAgent.Hiring

open Signing

/-- The outputs of the other message builders. -/
inductive ProtocolMessage : String → Prop
  | accept (params) : ProtocolMessage (buildAcceptMessage params)
  | deliver (params) : ProtocolMessage (buildDeliverMessage params)
  | complete (jobHash timestamp) : ProtocolMessage (buildCompleteMessage jobHash timestamp)
  | dispute (jobHash reason timestamp) :
      ProtocolMessage (buildDisputeMessage jobHash reason timestamp)
  | disputeRespond (params) : ProtocolMessage (buildDisputeRespondMessage params)
  | reworkAccept (params) : ProtocolMessage (buildReworkAcceptMessage params)
  | postBounty (title amount currency timestamp) :
      ProtocolMessage (buildPostBountyMessage title amount currency timestamp)
  | applyBounty (bountyId timestamp) : ProtocolMessage (buildApplyBountyMessage bountyId timestamp)
  | selectClaimants (bountyId applicantIds timestamp) :
      ProtocolMessage (buildSelectClaimantsMessage bountyId applicantIds timestamp)
  | depositReport (params) : ProtocolMessage (buildDepositReportMessage params)

/-! ## The shape test -/

theorem requireBoundMessage_eq_ok {message : Option Json} {fields : List String}
    {notBound text : String} :
    requireBoundMessage message fields notBound = .ok text ↔
      message = some (.string text) ∧ startsWith text "J41-" ∧
        ∀ field ∈ fields, includes text field := by
  unfold requireBoundMessage
  split
  · rename_i found
    simp only [bind_eq_ok, exists_unit, require_eq_ok, Except.ok.injEq, Option.some.injEq,
      Json.string.injEq]
    constructor
    · intro holds
      rcases holds with ⟨starts, bound, rfl⟩
      exact ⟨rfl, starts, bound⟩
    · intro holds
      rcases holds with ⟨rfl, starts, bound⟩
      exact ⟨starts, bound, rfl⟩
  · rename_i other
    constructor
    · intro accepted
      cases accepted
    · intro holds
      rcases holds with ⟨equal, _⟩
      exact absurd equal (other text)

/-- An agent that has something to sign with and a name to log in as. -/
structure Ready (agent : Agent) : Prop where
  canSign : agent.canSign
  named : agent.identityName.isSome

theorem login_eq_ok {agent : Agent} {platform : Platform} {token : String} :
    login agent platform = .ok token ↔ Ready agent ∧ platform.login = .ok token := by
  simp only [login, bind_eq_ok, exists_unit, require_eq_ok]
  constructor
  · intro holds
    rcases holds with ⟨canSign, named, answered⟩
    exact ⟨⟨canSign, named⟩, answered⟩
  · intro holds
    rcases holds with ⟨⟨canSign, named⟩, answered⟩
    exact ⟨canSign, named, answered⟩

def substituting (text : String) : Platform where
  login := .ok ""
  getAgentPaymentAddress _ := .ok none
  getJobRequestMessage _ := .ok (some (.object [("message", .string text)]))
  getReviewMessage _ := .ok (some (.object [("message", .string text)]))
  getJob _ := .ok none

theorem readProperty_substituted (text : String) :
    readProperty (.ok (some (.object [("message", .string text)]))) "message" =
      .ok (some (.string text)) := rfl

variable {agent : Agent} {data : JobData} {params : ReviewParams} {nowMs : Int} {text : String}

theorem resolvePaymentAddress_fields (platform : Platform) (data : JobData) :
    (resolvePaymentAddress platform data).sellerVerusId = data.sellerVerusId ∧
      (resolvePaymentAddress platform data).amount = data.amount := by
  unfold resolvePaymentAddress
  split
  · split
    · split <;> exact ⟨rfl, rfl⟩
    · exact ⟨rfl, rfl⟩
  · split
    · split <;> exact ⟨rfl, rfl⟩
    · exact ⟨rfl, rfl⟩
  · exact ⟨rfl, rfl⟩

def jobFields (data : JobData) (nowMs : Int) : List String :=
  [data.sellerVerusId, data.amount.toString, (secondsNumber (unixSeconds nowMs)).toString]

def reviewFields (params : ReviewParams) : List String :=
  [params.jobHash, params.rating.toString]

theorem createJob_signs_substituted (ready : Ready agent) (starts : startsWith text "J41-")
    (bound : ∀ field ∈ jobFields data nowMs, includes text field) :
    jobMessageToSign agent (substituting text) data nowMs = .ok text := by
  have fields := resolvePaymentAddress_fields (substituting text) data
  simp only [jobMessageToSign, bind_eq_ok, exists_unit, requireSigner, require_eq_ok, login_eq_ok,
    requireBoundMessage_eq_ok, fields.1, fields.2]
  exact ⟨ready.canSign, "", ⟨ready, rfl⟩, _, readProperty_substituted text, rfl, starts, bound⟩

theorem submitReview_signs_substituted (ready : Ready agent) (starts : startsWith text "J41-")
    (bound : ∀ field ∈ reviewFields params, includes text field) :
    reviewMessageToSign agent (substituting text) params nowMs = .ok text := by
  simp only [reviewMessageToSign, bind_eq_ok, exists_unit, requireSigner, require_eq_ok,
    login_eq_ok, requireBoundMessage_eq_ok]
  exact ⟨ready.canSign, "", ⟨ready, rfl⟩, _, readProperty_substituted text, rfl, starts, bound⟩

/-! ## Messages with room for any text -/

/-- A layout that starts like a protocol message and keeps what is filled into
it. -/
structure Embeds (layout : String → String) : Prop where
  starts : ∀ filler, startsWith (layout filler) "J41-"
  keeps : ∀ filler, includes (layout filler) filler

theorem Embeds.of_append {layout : String → String} (head tail : String)
    (starts : startsWith head "J41-") (equal : ∀ filler, layout filler = head ++ filler ++ tail) :
    Embeds layout := by
  constructor
  · intro filler
    rw [equal, String.append_assoc]
    exact startsWith_append _ starts
  · intro filler
    exact includes_iff.mpr ⟨head, tail, equal filler⟩

theorem accept_embeds (params : AcceptMessageParams) :
    Embeds fun currency => buildAcceptMessage { params with currency } := by
  refine Embeds.of_append
    ("J41-ACCEPT|Job:" ++ s!"{params.jobHash}|Buyer:{params.buyerVerusId}|Amt:{params.amount} ")
    s!"|Ts:{params.timestamp}|I accept this job and commit to delivering the work." ?_ ?_
  · exact startsWith_append _ (by decide)
  · intro currency
    unfold buildAcceptMessage
    simp only [toString_text, String.append_assoc]

theorem deliver_embeds (params : DeliverMessageParams) :
    Embeds fun deliveryHash => buildDeliverMessage { params with deliveryHash } := by
  refine Embeds.of_append ("J41-DELIVER|Job:" ++ s!"{params.jobHash}|Delivery:")
    s!"|Ts:{params.timestamp}|I have delivered the work for this job." ?_ ?_
  · exact startsWith_append _ (by decide)
  · intro deliveryHash
    unfold buildDeliverMessage
    simp only [toString_text, String.append_assoc]

theorem complete_embeds (timestamp : Number) :
    Embeds fun jobHash => buildCompleteMessage jobHash timestamp := by
  refine Embeds.of_append "J41-COMPLETE|Job:"
    s!"|Ts:{timestamp}|I confirm the work has been delivered satisfactorily." ?_ ?_
  · decide
  · intro jobHash
    unfold buildCompleteMessage
    simp only [toString_text, String.append_assoc]

theorem dispute_embeds (jobHash : String) (timestamp : Number) :
    Embeds fun reason => buildDisputeMessage jobHash reason timestamp := by
  refine Embeds.of_append ("J41-DISPUTE|Job:" ++ s!"{jobHash}|Reason:")
    s!"|Ts:{timestamp}|I am raising a dispute on this job." ?_ ?_
  · exact startsWith_append _ (by decide)
  · intro reason
    unfold buildDisputeMessage
    simp only [toString_text, String.append_assoc]

theorem postBounty_embeds (amount : NumberOrString) (currency : String) (timestamp : Number) :
    Embeds fun title => buildPostBountyMessage title amount currency timestamp := by
  refine Embeds.of_append "J41-BOUNTY|Post:"
    s!"|Amount:{amount}|Currency:{currency}|Ts:{timestamp}|I commit to funding this bounty." ?_ ?_
  · decide
  · intro title
    unfold buildPostBountyMessage
    simp only [toString_text, String.append_assoc]

theorem applyBounty_embeds (timestamp : Number) :
    Embeds fun bountyId => buildApplyBountyMessage bountyId timestamp := by
  refine Embeds.of_append "J41-BOUNTY-APPLY|Bounty:" s!"|Ts:{timestamp}" ?_ ?_
  · decide
  · intro bountyId
    unfold buildApplyBountyMessage
    simp only [toString_text, String.append_assoc]

theorem selectClaimants_embeds (applicantIds : List String) (timestamp : Number) :
    Embeds fun bountyId => buildSelectClaimantsMessage bountyId applicantIds timestamp := by
  refine Embeds.of_append "J41-BOUNTY-SELECT|Bounty:"
    ("|Selected:" ++ ",".intercalate applicantIds ++ s!"|Ts:{timestamp}") ?_ ?_
  · decide
  · intro bountyId
    unfold buildSelectClaimantsMessage
    simp only [toString_text, String.append_assoc]

theorem depositReport_embeds (params : DepositReportParams) :
    Embeds fun nonce => buildDepositReportMessage { params with nonce } := by
  refine Embeds.of_append
    ("J41-DEPOSIT-REPORT|Buyer:" ++
      (s!"{params.buyerVerusId}|Seller:{params.sellerVerusId}" ++
        s!"|Txid:{params.txid}|Amt:{params.amount}|Nonce:"))
    s!"|Ts:{params.timestamp}|I attest I sent this deposit and claim its credit." ?_ ?_
  · exact startsWith_append _ (by decide)
  · intro nonce
    unfold buildDepositReportMessage
    simp only [toString_text, String.append_assoc]

/-- The layouts of the other builders, open in a field that takes any text. Only
the two messages that cut the job hash to sixteen characters have none. -/
inductive OpenLayout : (String → String) → Prop
  | accept (params : AcceptMessageParams) :
      OpenLayout fun currency => buildAcceptMessage { params with currency }
  | deliver (params : DeliverMessageParams) :
      OpenLayout fun deliveryHash => buildDeliverMessage { params with deliveryHash }
  | complete (timestamp) : OpenLayout fun jobHash => buildCompleteMessage jobHash timestamp
  | dispute (jobHash timestamp) :
      OpenLayout fun reason => buildDisputeMessage jobHash reason timestamp
  | postBounty (amount currency timestamp) :
      OpenLayout fun title => buildPostBountyMessage title amount currency timestamp
  | applyBounty (timestamp) : OpenLayout fun bountyId => buildApplyBountyMessage bountyId timestamp
  | selectClaimants (applicantIds timestamp) :
      OpenLayout fun bountyId => buildSelectClaimantsMessage bountyId applicantIds timestamp
  | depositReport (params : DepositReportParams) :
      OpenLayout fun nonce => buildDepositReportMessage { params with nonce }

theorem OpenLayout.protocolMessage {layout : String → String} (isOpen : OpenLayout layout)
    (filler : String) : ProtocolMessage (layout filler) := by
  cases isOpen with
  | accept params => exact .accept _
  | deliver params => exact .deliver _
  | complete timestamp => exact .complete _ _
  | dispute jobHash timestamp => exact .dispute _ _ _
  | postBounty amount currency timestamp => exact .postBounty _ _ _ _
  | applyBounty timestamp => exact .applyBounty _ _
  | selectClaimants applicantIds timestamp => exact .selectClaimants _ _ _
  | depositReport params => exact .depositReport _

theorem OpenLayout.embeds {layout : String → String} (isOpen : OpenLayout layout) :
    Embeds layout := by
  cases isOpen with
  | accept params => exact accept_embeds params
  | deliver params => exact deliver_embeds params
  | complete timestamp => exact complete_embeds timestamp
  | dispute jobHash timestamp => exact dispute_embeds jobHash timestamp
  | postBounty amount currency timestamp => exact postBounty_embeds amount currency timestamp
  | applyBounty timestamp => exact applyBounty_embeds timestamp
  | selectClaimants applicantIds timestamp => exact selectClaimants_embeds applicantIds timestamp
  | depositReport params => exact depositReport_embeds params

/-! ## Substitution -/

theorem includes_of_join {text : String} {fields : List String}
    (found : includes text (String.join fields)) : ∀ field ∈ fields, includes text field := by
  intro field member
  apply includes_trans found
  rcases List.append_of_mem member with ⟨before, after, rfl⟩
  refine includes_iff.mpr ⟨String.join before, String.join after, ?_⟩
  simp [String.append_assoc]

/-- Whatever the other fields of an open layout are, the platform can have it
signed as the answer to any job request. -/
theorem OpenLayout.createJob_signs {layout : String → String} (isOpen : OpenLayout layout)
    (ready : Ready agent) (data : JobData) (nowMs : Int) :
    ∃ platform filler, jobMessageToSign agent platform data nowMs = .ok (layout filler) := by
  refine ⟨_, String.join (jobFields data nowMs), createJob_signs_substituted ready ?_ ?_⟩
  · exact isOpen.embeds.starts _
  · exact includes_of_join (isOpen.embeds.keeps _)

theorem OpenLayout.submitReview_signs {layout : String → String} (isOpen : OpenLayout layout)
    (ready : Ready agent) (params : ReviewParams) (nowMs : Int) :
    ∃ platform filler, reviewMessageToSign agent platform params nowMs = .ok (layout filler) := by
  refine ⟨_, String.join (reviewFields params), submitReview_signs_substituted ready ?_ ?_⟩
  · exact isOpen.embeds.starts _
  · exact includes_of_join (isOpen.embeds.keeps _)

theorem jobMessageToSign_ready {platform : Platform}
    (signed : jobMessageToSign agent platform data nowMs = .ok text) : Ready agent := by
  simp only [jobMessageToSign, bind_eq_ok, exists_unit, login_eq_ok] at signed
  rcases signed with ⟨_, _, ⟨ready, _⟩, _⟩
  exact ready

theorem reviewMessageToSign_ready {platform : Platform}
    (signed : reviewMessageToSign agent platform params nowMs = .ok text) : Ready agent := by
  simp only [reviewMessageToSign, bind_eq_ok, exists_unit, login_eq_ok] at signed
  rcases signed with ⟨_, _, ⟨ready, _⟩, _⟩
  exact ready

/-- Whatever the caller asks for, some answer of the platform makes `createJob`
and `submitReview` sign another builder's message, unless the agent cannot log
in and signs nothing. -/
theorem hiring_signs_only_its_own_iff (agent : Agent) (data : JobData) (params : ReviewParams)
    (nowMs : Int) :
    ((∀ platform message, jobMessageToSign agent platform data nowMs = .ok message →
        ¬ ProtocolMessage message) ↔ ¬ Ready agent) ∧
    ((∀ platform message, reviewMessageToSign agent platform params nowMs = .ok message →
        ¬ ProtocolMessage message) ↔ ¬ Ready agent) := by
  have isOpen := OpenLayout.depositReport ⟨"", "", "", .string "", "", 0⟩
  constructor
  · constructor
    · intro safe ready
      rcases isOpen.createJob_signs ready data nowMs with ⟨platform, nonce, signed⟩
      exact safe platform _ signed (isOpen.protocolMessage nonce)
    · intro notReady platform message signed
      exact absurd (jobMessageToSign_ready signed) notReady
  · constructor
    · intro safe ready
      rcases isOpen.submitReview_signs ready params nowMs with ⟨platform, nonce, signed⟩
      exact safe platform _ signed (isOpen.protocolMessage nonce)
    · intro notReady platform message signed
      exact absurd (reviewMessageToSign_ready signed) notReady

private def hiringAgent : Agent := ⟨some "wif", none, some "carol@", none, .verustest⟩

private def smallJob : JobData := ⟨"bob@", "translate", 5, none, none, none, none⟩

private def forgedReport : DepositReportParams :=
  ⟨"carol@", "mallory@", "ab12", .string "5000", "bob@ 5 1750000000", 1⟩

theorem createJob_signs_forged_deposit_report :
    (∃ platform, jobMessageToSign hiringAgent platform smallJob 1750000000000 =
      .ok (buildDepositReportMessage forgedReport)) ∧
    ProtocolMessage (buildDepositReportMessage forgedReport) := by
  have embeds := depositReport_embeds forgedReport
  have bound : ∀ field ∈ jobFields smallJob 1750000000000,
      includes "bob@ 5 1750000000" field := by decide
  constructor
  · refine ⟨_, createJob_signs_substituted ⟨rfl, rfl⟩ (embeds.starts _) ?_⟩
    intro field member
    exact includes_trans (embeds.keeps _) (bound field member)
  · exact .depositReport forgedReport

end SovAgent.Hiring

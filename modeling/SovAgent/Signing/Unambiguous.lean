import SovAgent.Foundation.Delimited
import SovAgent.Signing.ProtocolGuard

/-! # Signed texts are unambiguous

No text is what two builders return, or what one returns for two lists of fields.
-/

namespace SovAgent.Signing

open Delimited

inductive Builder where
  | accept
  | deliver
  | disputeRespond
  | reworkAccept
  | complete
  | dispute
  | postBounty
  | applyBounty
  | selectClaimants
  | depositReport
  | accessRequest
  | accessEnvelope
  | status
deriving DecidableEq, Repr

inductive SignedMessage where
  | accept (params : AcceptMessageParams)
  | deliver (params : DeliverMessageParams)
  | disputeRespond (params : DisputeRespondMessageParams)
  | reworkAccept (params : ReworkAcceptMessageParams)
  | complete (jobHash : String) (timestamp : Number)
  | dispute (jobHash reason : String) (timestamp : Number)
  | postBounty (title : String) (amount : NumberOrString) (currency : String) (timestamp : Number)
  | applyBounty (bountyId : String) (timestamp : Number)
  | selectClaimants (bountyId : String) (applicantIds : List String) (timestamp : Number)
  | depositReport (params : DepositReportParams)
  | accessRequest (request : AccessRequest)
  | accessEnvelope (envelope : AccessEnvelope)
  | status (verusId : String) (active : Bool) (timestamp : Number) (nonce : String)

namespace SignedMessage

def builder : SignedMessage → Builder
  | .accept _ => .accept
  | .deliver _ => .deliver
  | .disputeRespond _ => .disputeRespond
  | .reworkAccept _ => .reworkAccept
  | .complete _ _ => .complete
  | .dispute _ _ _ => .dispute
  | .postBounty _ _ _ _ => .postBounty
  | .applyBounty _ _ => .applyBounty
  | .selectClaimants _ _ _ => .selectClaimants
  | .depositReport _ => .depositReport
  | .accessRequest _ => .accessRequest
  | .accessEnvelope _ => .accessEnvelope
  | .status _ _ _ _ => .status

def text : SignedMessage → String
  | .accept params => buildAcceptMessage params
  | .deliver params => buildDeliverMessage params
  | .disputeRespond params => buildDisputeRespondMessage params
  | .reworkAccept params => buildReworkAcceptMessage params
  | .complete jobHash timestamp => buildCompleteMessage jobHash timestamp
  | .dispute jobHash reason timestamp => buildDisputeMessage jobHash reason timestamp
  | .postBounty title amount currency timestamp =>
      buildPostBountyMessage title amount currency timestamp
  | .applyBounty bountyId timestamp => buildApplyBountyMessage bountyId timestamp
  | .selectClaimants bountyId applicantIds timestamp =>
      buildSelectClaimantsMessage bountyId applicantIds timestamp
  | .depositReport params => buildDepositReportMessage params
  | .accessRequest request => request.canonical
  | .accessEnvelope envelope => envelope.canonical
  | .status verusId active timestamp nonce => statusMessage verusId active timestamp nonce

/-- The fields as strings. Of a job hash that the text holds 16 characters of, these. -/
def fields : SignedMessage → List String
  | .accept params =>
      [params.jobHash, params.buyerVerusId, toString params.amount, params.currency,
        toString params.timestamp]
  | .deliver params => [params.jobHash, params.deliveryHash, toString params.timestamp]
  | .disputeRespond params =>
      [sliceStart params.jobHash 16, toString params.action, toString params.timestamp]
  | .reworkAccept params => [sliceStart params.jobHash 16, toString params.timestamp]
  | .complete jobHash timestamp => [jobHash, toString timestamp]
  | .dispute jobHash reason timestamp => [jobHash, reason, toString timestamp]
  | .postBounty title amount currency timestamp =>
      [title, toString amount, currency, toString timestamp]
  | .applyBounty bountyId timestamp => [bountyId, toString timestamp]
  | .selectClaimants bountyId applicantIds timestamp =>
      bountyId :: toString timestamp :: applicantIds
  | .depositReport params =>
      [params.buyerVerusId, params.sellerVerusId, params.txid, toString params.amount,
        params.nonce, toString params.timestamp]
  | .accessRequest request =>
      [request.buyerVerusId, request.sellerVerusId, request.ephemeralPubKey, request.nonce,
        toString request.timestamp]
  | .accessEnvelope envelope =>
      [envelope.ciphertext, envelope.iv, envelope.authTag, envelope.dispatcherEphPub,
        toString envelope.timestamp, envelope.expiresAt]
  | .status verusId active timestamp nonce =>
      [verusId, if active then "active" else "inactive", toString timestamp, nonce]

/-- The fields that are identifiers, hashes, amounts, currencies, nonces, timestamps or
key material: all but the title of a bounty and the reason of a dispute. -/
def identifiers : SignedMessage → List String
  | .disputeRespond params =>
      [params.jobHash, toString params.action, toString params.timestamp]
  | .reworkAccept params => [params.jobHash, toString params.timestamp]
  | .dispute jobHash _ timestamp => [jobHash, toString timestamp]
  | .postBounty _ amount currency timestamp => [toString amount, currency, toString timestamp]
  | message => message.fields

end SignedMessage

structure Plain (field : String) : Prop where
  nonempty : field ≠ ""
  noBar : '|' ∉ field.toList
  noComma : ',' ∉ field.toList
  noSpace : ' ' ∉ field.toList

instance (field : String) : Decidable (Plain field) :=
  decidable_of_iff
    (field ≠ "" ∧ '|' ∉ field.toList ∧ ',' ∉ field.toList ∧ ' ' ∉ field.toList)
    ⟨fun holds => ⟨holds.1, holds.2.1, holds.2.2.1, holds.2.2.2⟩,
      fun plain => ⟨plain.nonempty, plain.noBar, plain.noComma, plain.noSpace⟩⟩

/-! ## The texts as pieces -/

/-- A text cut at its bars, with the piece apart that free text may stand in. -/
structure Pieces where
  left : List String
  free : String
  right : List String

def Pieces.join (pieces : Pieces) : List Char :=
  framed '|' (pieces.left.map String.toList) pieces.free.toList (pieces.right.map String.toList)

namespace Builder

def tag : Builder → String
  | .accept => "J41-ACCEPT"
  | .deliver => "J41-DELIVER"
  | .disputeRespond => "J41-DISPUTE-RESPOND"
  | .reworkAccept => "J41-REWORK-ACCEPT"
  | .complete => "J41-COMPLETE"
  | .dispute => "J41-DISPUTE"
  | .postBounty => "J41-BOUNTY"
  | .applyBounty => "J41-BOUNTY-APPLY"
  | .selectClaimants => "J41-BOUNTY-SELECT"
  | .depositReport => "J41-DEPOSIT-REPORT"
  | .accessRequest => "J41-ACCESS-REQUEST"
  | .accessEnvelope => "J41-ACCESS-ENVELOPE"
  | .status => "J41-STATUS"

theorem tag_inj {first second : Builder} (equal : first.tag = second.tag) : first = second := by
  cases first
  all_goals
    cases second
    all_goals first
      | rfl
      | exact absurd equal (by decide)

theorem tag_noBar (builder : Builder) : '|' ∉ builder.tag.toList := by
  cases builder
  all_goals decide

def leading : Builder → Nat
  | .accept => 4
  | .deliver => 3
  | .disputeRespond => 2
  | .reworkAccept => 1
  | .complete => 2
  | .dispute => 1
  | .postBounty => 0
  | .applyBounty => 1
  | .selectClaimants => 2
  | .depositReport => 6
  | .accessRequest => 4
  | .accessEnvelope => 5
  | .status => 3

def trailing : Builder → Nat
  | .dispute => 2
  | .postBounty => 4
  | _ => 0

end Builder

namespace SignedMessage

def left : SignedMessage → List String
  | .accept params =>
      ["Job:" ++ params.jobHash, "Buyer:" ++ params.buyerVerusId,
        "Amt:" ++ (toString params.amount ++ " " ++ params.currency),
        "Ts:" ++ toString params.timestamp]
  | .deliver params =>
      ["Job:" ++ params.jobHash, "Delivery:" ++ params.deliveryHash,
        "Ts:" ++ toString params.timestamp]
  | .disputeRespond params =>
      ["Job:" ++ sliceStart params.jobHash 16, "Action:" ++ toString params.action]
  | .reworkAccept params => ["Job:" ++ sliceStart params.jobHash 16]
  | .complete jobHash timestamp => ["Job:" ++ jobHash, "Ts:" ++ toString timestamp]
  | .dispute jobHash _ _ => ["Job:" ++ jobHash]
  | .postBounty _ _ _ _ => []
  | .applyBounty bountyId _ => ["Bounty:" ++ bountyId]
  | .selectClaimants bountyId applicantIds _ =>
      ["Bounty:" ++ bountyId, "Selected:" ++ ",".intercalate applicantIds]
  | .depositReport params =>
      ["Buyer:" ++ params.buyerVerusId, "Seller:" ++ params.sellerVerusId,
        "Txid:" ++ params.txid, "Amt:" ++ toString params.amount, "Nonce:" ++ params.nonce,
        "Ts:" ++ toString params.timestamp]
  | .accessRequest request =>
      ["Buyer:" ++ request.buyerVerusId, "Seller:" ++ request.sellerVerusId,
        "EphPub:" ++ request.ephemeralPubKey, "Nonce:" ++ request.nonce]
  | .accessEnvelope envelope =>
      ["Cipher:" ++ envelope.ciphertext, "IV:" ++ envelope.iv, "Tag:" ++ envelope.authTag,
        "DispPub:" ++ envelope.dispatcherEphPub, "Ts:" ++ toString envelope.timestamp]
  | .status verusId active timestamp _ =>
      ["Agent:" ++ verusId, "Status:" ++ if active then "active" else "inactive",
        "Ts:" ++ toString timestamp]

def free : SignedMessage → String
  | .accept _ => "I accept this job and commit to delivering the work."
  | .deliver _ => "I have delivered the work for this job."
  | .disputeRespond params => "Ts:" ++ toString params.timestamp
  | .reworkAccept params => "Ts:" ++ toString params.timestamp
  | .complete _ _ => "I confirm the work has been delivered satisfactorily."
  | .dispute _ reason _ => "Reason:" ++ reason
  | .postBounty title _ _ _ => "Post:" ++ title
  | .applyBounty _ timestamp => "Ts:" ++ toString timestamp
  | .selectClaimants _ _ timestamp => "Ts:" ++ toString timestamp
  | .depositReport _ => "I attest I sent this deposit and claim its credit."
  | .accessRequest request => "Ts:" ++ toString request.timestamp
  | .accessEnvelope envelope => "Expires:" ++ envelope.expiresAt
  | .status _ _ _ nonce => "Nonce:" ++ nonce

def right : SignedMessage → List String
  | .dispute _ _ timestamp =>
      ["Ts:" ++ toString timestamp, "I am raising a dispute on this job."]
  | .postBounty _ amount currency timestamp =>
      ["Amount:" ++ toString amount, "Currency:" ++ currency, "Ts:" ++ toString timestamp,
        "I commit to funding this bounty."]
  | _ => []

def pieces (message : SignedMessage) : Pieces where
  left := message.builder.tag :: message.left
  free := message.free
  right := message.right

theorem left_length (message : SignedMessage) :
    message.left.length = message.builder.leading := by
  cases message
  all_goals rfl

theorem right_length (message : SignedMessage) :
    message.right.length = message.builder.trailing := by
  cases message
  all_goals rfl

theorem literals_cut :
    "J41-ACCEPT|Job:" = "J41-ACCEPT" ++ "|" ++ "Job:" ∧ "|Buyer:" = "|" ++ "Buyer:" ∧
      "|Amt:" = "|" ++ "Amt:" ∧ "|Ts:" = "|" ++ "Ts:" ∧
      "|I accept this job and commit to delivering the work." =
        "|" ++ "I accept this job and commit to delivering the work." ∧
      "J41-DELIVER|Job:" = "J41-DELIVER" ++ "|" ++ "Job:" ∧ "|Delivery:" = "|" ++ "Delivery:" ∧
      "|I have delivered the work for this job." =
        "|" ++ "I have delivered the work for this job." ∧
      "J41-DISPUTE-RESPOND|Job:" = "J41-DISPUTE-RESPOND" ++ "|" ++ "Job:" ∧
      "|Action:" = "|" ++ "Action:" ∧
      "J41-REWORK-ACCEPT|Job:" = "J41-REWORK-ACCEPT" ++ "|" ++ "Job:" ∧
      "J41-COMPLETE|Job:" = "J41-COMPLETE" ++ "|" ++ "Job:" ∧
      "|I confirm the work has been delivered satisfactorily." =
        "|" ++ "I confirm the work has been delivered satisfactorily." ∧
      "J41-DISPUTE|Job:" = "J41-DISPUTE" ++ "|" ++ "Job:" ∧ "|Reason:" = "|" ++ "Reason:" ∧
      "|I am raising a dispute on this job." = "|" ++ "I am raising a dispute on this job." ∧
      "J41-BOUNTY|Post:" = "J41-BOUNTY" ++ "|" ++ "Post:" ∧ "|Amount:" = "|" ++ "Amount:" ∧
      "|Currency:" = "|" ++ "Currency:" ∧
      "|I commit to funding this bounty." = "|" ++ "I commit to funding this bounty." ∧
      "J41-BOUNTY-APPLY|Bounty:" = "J41-BOUNTY-APPLY" ++ "|" ++ "Bounty:" ∧
      "J41-BOUNTY-SELECT|Bounty:" = "J41-BOUNTY-SELECT" ++ "|" ++ "Bounty:" ∧
      "|Selected:" = "|" ++ "Selected:" ∧
      "J41-DEPOSIT-REPORT|Buyer:" = "J41-DEPOSIT-REPORT" ++ "|" ++ "Buyer:" ∧
      "|Seller:" = "|" ++ "Seller:" ∧ "|Txid:" = "|" ++ "Txid:" ∧ "|Nonce:" = "|" ++ "Nonce:" ∧
      "|I attest I sent this deposit and claim its credit." =
        "|" ++ "I attest I sent this deposit and claim its credit." ∧
      "J41-ACCESS-REQUEST|Buyer:" = "J41-ACCESS-REQUEST" ++ "|" ++ "Buyer:" ∧
      "|EphPub:" = "|" ++ "EphPub:" ∧
      "J41-ACCESS-ENVELOPE|Cipher:" = "J41-ACCESS-ENVELOPE" ++ "|" ++ "Cipher:" ∧
      "|IV:" = "|" ++ "IV:" ∧ "|Tag:" = "|" ++ "Tag:" ∧ "|DispPub:" = "|" ++ "DispPub:" ∧
      "|Expires:" = "|" ++ "Expires:" ∧ "J41-STATUS|Agent:" = "J41-STATUS" ++ "|" ++ "Agent:" ∧
      "|Status:" = "|" ++ "Status:" := by
  and_intros
  all_goals rfl

theorem text_toList (message : SignedMessage) : message.text.toList = message.pieces.join := by
  have bar : "|".toList = ['|'] := by decide
  cases message
  case' accept params => unfold text buildAcceptMessage
  case' deliver params => unfold text buildDeliverMessage
  case' disputeRespond params => unfold text buildDisputeRespondMessage
  case' reworkAccept params => unfold text buildReworkAcceptMessage
  case' complete jobHash timestamp => unfold text buildCompleteMessage
  case' dispute jobHash reason timestamp => unfold text buildDisputeMessage
  case' postBounty title amount currency timestamp => unfold text buildPostBountyMessage
  case' applyBounty bountyId timestamp => unfold text buildApplyBountyMessage
  case' selectClaimants bountyId applicantIds timestamp =>
    unfold text buildSelectClaimantsMessage
  case' depositReport params => unfold text buildDepositReportMessage
  case' accessRequest request => unfold text AccessRequest.canonical
  case' accessEnvelope envelope => unfold text AccessEnvelope.canonical
  case' status verusId active timestamp nonce => unfold text statusMessage
  all_goals
    simp only [Pieces.join, pieces, framed, closed, opened, builder, Builder.tag, left, free, right,
      toString_text, literals_cut, String.toList_append, bar, List.map_cons, List.map_nil,
      List.append_assoc, List.cons_append, List.append_nil, List.nil_append]

end SignedMessage

/-! ## Where the bars are -/

theorem map_toList_inj {texts texts' : List String}
    (equal : texts.map String.toList = texts'.map String.toList) : texts = texts' :=
  List.map_injective_iff.mpr (fun _ _ => String.toList_injective) equal

theorem takeUnits_mem {character : Char} : ∀ {units : Nat} {text : List Char},
    character ∈ takeUnits units text → character ∈ text
  | _, [], member => by
      rw [takeUnits] at member
      exact member
  | units, head :: rest, member => by
      rw [takeUnits] at member
      split at member
      · rcases List.mem_cons.mp member with rfl | later
        · exact List.mem_cons_self
        · exact List.mem_cons_of_mem head (takeUnits_mem later)
      · cases member

theorem sliceStart_noBar {text : String} (noBar : '|' ∉ text.toList) (units : Nat) :
    '|' ∉ (sliceStart text units).toList := by
  rw [sliceStart, String.toList_ofList]
  exact fun member => noBar (takeUnits_mem member)

theorem intercalate_noBar {fields : List String} (noBar : ∀ field ∈ fields, '|' ∉ field.toList) :
    '|' ∉ (",".intercalate fields).toList := by
  induction fields with
  | nil => simp
  | cons head tail induction =>
      have first := noBar head List.mem_cons_self
      have later := induction fun field member => noBar field (List.mem_cons_of_mem head member)
      by_cases empty : tail = []
      · subst empty
        rwa [String.intercalate_singleton]
      · rw [String.intercalate_cons_of_ne_nil empty, String.toList_append, String.toList_append]
        simp only [List.mem_append, not_or]
        exact ⟨⟨first, by decide⟩, later⟩

namespace SignedMessage

theorem pieces_noBar {message : SignedMessage}
    (noBar : ∀ field ∈ message.identifiers, '|' ∉ field.toList) :
    ∀ piece ∈ message.left ++ message.right, '|' ∉ piece.toList := by
  cases message
  case selectClaimants bountyId applicantIds timestamp =>
    have ids := intercalate_noBar fun field member =>
      noBar field (List.mem_cons_of_mem _ (List.mem_cons_of_mem _ member))
    simp [identifiers, fields] at noBar
    simp [left, right, noBar]
    simpa using ids
  case disputeRespond params =>
    simp [identifiers] at noBar
    simp [left, right, sliceStart_noBar, noBar]
  case reworkAccept params =>
    simp [identifiers] at noBar
    simp [left, right, sliceStart_noBar, noBar]
  all_goals
    simp [identifiers, fields] at noBar
    simp [left, right, noBar]

theorem pieces_absent {message : SignedMessage}
    (noBar : ∀ field ∈ message.identifiers, '|' ∉ field.toList) :
    Absent '|' (message.pieces.left.map String.toList ++
      message.pieces.right.map String.toList) := by
  intro piece member
  rw [← List.map_append] at member
  rcases List.mem_map.mp member with ⟨text, inside, rfl⟩
  rcases List.mem_cons.mp inside with rfl | inside
  · exact message.builder.tag_noBar
  · exact pieces_noBar noBar text inside

theorem builder_of_text (message : SignedMessage) :
    message.text.toList.takeWhile (· ≠ '|') = message.builder.tag.toList := by
  rw [message.text_toList]
  exact takeWhile_framed message.builder.tag_noBar

theorem text_tagged_iff {message : SignedMessage} {builder : Builder} :
    startsWith message.text (builder.tag ++ "|") = true ↔ message.builder = builder := by
  constructor
  · intro starts
    rcases startsWith_iff.mp starts with ⟨rest, equal⟩
    apply Builder.tag_inj
    apply String.toList_inj.mp
    rw [← message.builder_of_text, equal, String.toList_append, String.toList_append,
      List.append_assoc, List.takeWhile_append_of_pos]
    · simp
    · intro character member
      exact decide_eq_true fun bar => builder.tag_noBar (bar ▸ member)
  · intro same
    subst same
    rw [startsWith, List.isPrefixOf_iff_prefix, text_toList, String.toList_append]
    refine ⟨closed '|' (message.left.map String.toList) ++ message.free.toList ++
      opened '|' (message.right.map String.toList), ?_⟩
    simp [Pieces.join, pieces, framed, closed]

theorem pieces_of_text {first second : SignedMessage}
    (noBar : ∀ field ∈ first.identifiers, '|' ∉ field.toList)
    (noBar' : ∀ field ∈ second.identifiers, '|' ∉ field.toList)
    (equal : first.text = second.text) :
    first.builder = second.builder ∧ first.left = second.left ∧ first.free = second.free ∧
      first.right = second.right := by
  have same : first.builder = second.builder := by
    apply Builder.tag_inj
    apply String.toList_inj.mp
    rw [← first.builder_of_text, ← second.builder_of_text, equal]
  have joined : first.pieces.join = second.pieces.join := by
    rw [← first.text_toList, ← second.text_toList, equal]
  have lefts : first.left.length = second.left.length := by
    rw [left_length, left_length, same]
  have rights : first.right.length = second.right.length := by
    rw [right_length, right_length, same]
  rcases framed_inj (by simp [pieces, lefts]) (by simp [pieces, rights]) (pieces_absent noBar)
    (pieces_absent noBar') joined with ⟨leftEqual, freeEqual, rightEqual⟩
  exact ⟨same, (List.cons.inj (map_toList_inj leftEqual)).2, String.toList_inj.mp freeEqual,
    map_toList_inj rightEqual⟩

/-- A text that has the pieces of a message without bars has no bars moved into them:
where a builder returns it, it is from fields with the same pieces. -/
theorem pieces_of_noBar {first second : SignedMessage} (same : first.builder = second.builder)
    (noBar : ∀ piece ∈ second.left ++ second.free :: second.right, '|' ∉ piece.toList)
    (equal : first.text = second.text) :
    first.left = second.left ∧ first.free = second.free ∧ first.right = second.right := by
  have joined : first.pieces.join = second.pieces.join := by
    rw [← first.text_toList, ← second.text_toList, equal]
  have lefts : first.pieces.left.length = second.pieces.left.length := by
    rw [pieces, pieces, List.length_cons, List.length_cons, left_length, left_length, same]
  have rights : first.pieces.right.length = second.pieces.right.length := by
    rw [pieces, pieces, right_length, right_length, same]
  have absent' : Absent '|' (second.pieces.left.map String.toList ++
      second.pieces.free.toList :: second.pieces.right.map String.toList) := by
    intro piece member
    rw [← List.map_cons, ← List.map_append] at member
    rcases List.mem_map.mp member with ⟨text, inside, rfl⟩
    rcases List.mem_cons.mp inside with rfl | inside
    · exact second.builder.tag_noBar
    · exact noBar text inside
  have absent := absent_of_framed (by simpa using lefts) (by simpa using rights) joined absent'
  have around : ∀ {left right : List (List Char)} {free : List Char},
      Absent '|' (left ++ free :: right) → Absent '|' (left ++ right) := by
    intro left right free absent piece member
    apply absent
    simp only [List.mem_append, List.mem_cons] at member ⊢
    exact member.imp_right Or.inr
  rcases framed_inj (by simpa using lefts) (by simpa using rights) (around absent)
    (around absent') joined with ⟨leftEqual, freeEqual, rightEqual⟩
  exact ⟨(List.cons.inj (map_toList_inj leftEqual)).2, String.toList_inj.mp freeEqual,
    map_toList_inj rightEqual⟩

end SignedMessage

/-! ## Fields that share a piece -/

theorem amount_inj {amount amount' currency currency' : String} (plain : Plain currency)
    (plain' : Plain currency')
    (equal : amount ++ " " ++ currency = amount' ++ " " ++ currency') :
    amount = amount' ∧ currency = currency' := by
  have chars := congrArg String.toList equal
  simp only [String.toList_append, List.append_assoc] at chars
  rcases append_cons_inj chars plain.noSpace plain'.noSpace with ⟨amounts, currencies⟩
  exact ⟨String.toList_inj.mp amounts, String.toList_inj.mp currencies⟩

theorem selected_inj {ids ids' : List String} (plain : ∀ id ∈ ids, Plain id)
    (plain' : ∀ id ∈ ids', Plain id) (equal : ",".intercalate ids = ",".intercalate ids') :
    ids = ids' := by
  have absent : ∀ {ids : List String}, (∀ id ∈ ids, Plain id) →
      Absent ',' (ids.map String.toList) ∧ [] ∉ ids.map String.toList := by
    intro ids plain
    constructor
    · intro piece member
      rcases List.mem_map.mp member with ⟨id, inside, rfl⟩
      exact (plain id inside).noComma
    · intro member
      rcases List.mem_map.mp member with ⟨id, inside, empty⟩
      exact (plain id inside).nonempty (String.toList_eq_nil_iff.mp empty)
  have chars := congrArg String.toList equal
  rw [String.toList_intercalate, String.toList_intercalate] at chars
  have pieces := intercalate_inj (absent plain).1 (absent plain').1 (absent plain).2
    (absent plain').2 chars
  exact map_toList_inj pieces

/-- Equal texts are of the same builder with the same fields. -/
theorem SignedMessage.text_injective {first second : SignedMessage}
    (plain : ∀ field ∈ first.identifiers, Plain field)
    (plain' : ∀ field ∈ second.identifiers, Plain field) (equal : first.text = second.text) :
    first.builder = second.builder ∧ first.fields = second.fields := by
  rcases pieces_of_text (fun field member => (plain field member).noBar)
    (fun field member => (plain' field member).noBar) equal with ⟨same, pieces⟩
  refine ⟨same, ?_⟩
  cases first
  all_goals
    cases second
    all_goals try cases same
    all_goals simp [left, free, right] at pieces
  case accept.accept.refl params params' =>
    rcases pieces with ⟨jobHash, buyer, amount, timestamp⟩
    have currency : params.currency ∈ (SignedMessage.accept params).identifiers := by
      simp [identifiers, fields]
    have currency' : params'.currency ∈ (SignedMessage.accept params').identifiers := by
      simp [identifiers, fields]
    rcases amount_inj (plain _ currency) (plain' _ currency') amount with ⟨amounts, currencies⟩
    simp [fields, jobHash, buyer, amounts, currencies, timestamp]
  case selectClaimants.selectClaimants.refl bountyId ids timestamp bountyId' ids' timestamp' =>
    have selected := selected_inj
      (fun id member => plain id (List.mem_cons_of_mem _ (List.mem_cons_of_mem _ member)))
      (fun id member => plain' id (List.mem_cons_of_mem _ (List.mem_cons_of_mem _ member)))
      pieces.1.2
    simp [fields, pieces.1.1, pieces.2, selected]
  all_goals simp [fields, pieces]

/-- The amount as a number in one message and as a string in the other. -/
theorem text_injective_amounts :
    (SignedMessage.accept ⟨"1f2e", "buyer@", .number 5, "VRSC", 1700⟩).builder =
        (SignedMessage.accept ⟨"1f2e", "buyer@", .string "5", "VRSC", 1700⟩).builder ∧
      (SignedMessage.accept ⟨"1f2e", "buyer@", .number 5, "VRSC", 1700⟩).fields =
        (SignedMessage.accept ⟨"1f2e", "buyer@", .string "5", "VRSC", 1700⟩).fields := by
  apply SignedMessage.text_injective
  · decide
  · decide
  · decide

end SovAgent.Signing

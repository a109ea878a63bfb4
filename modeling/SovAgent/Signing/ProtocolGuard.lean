import SovAgent.Foundation.Checks
import SovAgent.Signing.Messages

/-! # The guard on opaque challenges

`assertNotProtocolMessage` and the protocol messages that it is there to refuse.
Unicode normalization is a parameter.
-/

namespace SovAgent.Signing

/-! ## Messages of other modules -/

/-- The members of an `AccessRequest` that its buyer signs. -/
structure AccessRequest where
  buyerVerusId : String
  sellerVerusId : String
  ephemeralPubKey : String
  nonce : String
  timestamp : Number

/-- `canonical` of `buildAccessRequest` and `verifyAccessRequest`. -/
def AccessRequest.canonical (request : AccessRequest) : String :=
  s!"J41-ACCESS-REQUEST|Buyer:{request.buyerVerusId}|Seller:{request.sellerVerusId}" ++
    s!"|EphPub:{request.ephemeralPubKey}|Nonce:{request.nonce}|Ts:{request.timestamp}"

/-- The members of an `AccessEnvelope` that its dispatcher signs. -/
structure AccessEnvelope where
  ciphertext : String
  iv : String
  authTag : String
  dispatcherEphPub : String
  timestamp : Number
  expiresAt : String

/-- `canonical` of `mintAccessEnvelope` and `openAccessEnvelope`. -/
def AccessEnvelope.canonical (envelope : AccessEnvelope) : String :=
  s!"J41-ACCESS-ENVELOPE|Cipher:{envelope.ciphertext}|IV:{envelope.iv}|Tag:{envelope.authTag}" ++
    s!"|DispPub:{envelope.dispatcherEphPub}|Ts:{envelope.timestamp}|Expires:{envelope.expiresAt}"

/-- `message` of `deactivate` and `activate`. -/
def statusMessage (verusId : String) (active : Bool) (timestamp : Number) (nonce : String) :
    String :=
  let status := if active then "active" else "inactive"
  s!"J41-STATUS|Agent:{verusId}|Status:{status}|Ts:{timestamp}|Nonce:{nonce}"

inductive ProtocolMessage : String → Prop
  | accept params : ProtocolMessage (buildAcceptMessage params)
  | deliver params : ProtocolMessage (buildDeliverMessage params)
  | disputeRespond params : ProtocolMessage (buildDisputeRespondMessage params)
  | reworkAccept params : ProtocolMessage (buildReworkAcceptMessage params)
  | complete jobHash timestamp : ProtocolMessage (buildCompleteMessage jobHash timestamp)
  | dispute jobHash reason timestamp :
      ProtocolMessage (buildDisputeMessage jobHash reason timestamp)
  | postBounty title amount currency timestamp :
      ProtocolMessage (buildPostBountyMessage title amount currency timestamp)
  | applyBounty bountyId timestamp : ProtocolMessage (buildApplyBountyMessage bountyId timestamp)
  | selectClaimants bountyId applicantIds timestamp :
      ProtocolMessage (buildSelectClaimantsMessage bountyId applicantIds timestamp)
  | depositReport params : ProtocolMessage (buildDepositReportMessage params)
  | accessRequest request : ProtocolMessage (AccessRequest.canonical request)
  | accessEnvelope envelope : ProtocolMessage (AccessEnvelope.canonical envelope)
  | status verusId active timestamp nonce :
      ProtocolMessage (statusMessage verusId active timestamp nonce)

/-! ## The guard -/

/-- `/[\u200B-\u200F\u2028\u2029\u2060\uFEFF]/`. -/
def isFormatCharacter (character : Char) : Bool :=
  let point := character.toNat
  (0x200B ≤ point ∧ point ≤ 0x200F) ∨ point ∈ [0x2028, 0x2029, 0x2060, 0xFEFF]

/-- `/[\u2010-\u2015\u2212]/`, replaced by a hyphen. -/
def plainDash (character : Char) : Char :=
  let point := character.toNat
  if (0x2010 ≤ point ∧ point ≤ 0x2015) ∨ point = 0x2212 then '-' else character

def isSpace (character : Char) : Bool :=
  let point := character.toNat
  (0x09 ≤ point ∧ point ≤ 0x0D) ∨ (0x2000 ≤ point ∧ point ≤ 0x200A) ∨
    point ∈ [0x20, 0xA0, 0x1680, 0x2028, 0x2029, 0x202F, 0x205F, 0x3000, 0xFEFF]

/-- `/[a-z0-9-]/i`. -/
def isActionCharacter (character : Char) : Bool := character.isAlphanum || character = '-'

/-- `/^j41-[a-z0-9-]*\|/i`. -/
def isProtocolFormatted : List Char → Bool
  | letter :: '4' :: '1' :: '-' :: rest =>
      (letter = 'j' ∨ letter = 'J') ∧ (rest.dropWhile isActionCharacter).head? = some '|'
  | _ => false

section Guard

-- `text.normalize('NFKC')`
variable (nfkc : String → String)

def challengeHead (text : String) : List Char :=
  ((nfkc text).toList.map plainDash).dropWhile isSpace

def assertNotProtocolMessage (text : String) : Except String Unit := do
  require (¬ text.toList.any isFormatCharacter)
    "Refusing to sign a challenge containing zero-width or format characters."
  require (¬ isProtocolFormatted (challengeHead nfkc text))
    "Refusing to sign a J41-protocol-formatted challenge (possible MITM/forgery attempt)."

example : assertNotProtocolMessage id "j41-onboard:1f2e" = .ok () := by decide +kernel
example : assertNotProtocolMessage id " j41\u2010complete|Job:1f2e" = .error
    "Refusing to sign a J41-protocol-formatted challenge (possible MITM/forgery attempt)." := by
  decide +kernel

end Guard

/-! ## No protocol message passes -/

def isAscii (character : Char) : Bool := character.toNat < 0x80

/-- Normalization leaves ASCII characters as they are, and never joins one to what
is before it. -/
structure Normalizes (nfkc : String → String) : Prop where
  ascii : ∀ text, text.toList.all isAscii → nfkc text = text
  append : ∀ before after, after.toList.head?.any isAscii →
    nfkc (before ++ after) = nfkc before ++ nfkc after

theorem plainDash_ascii {character : Char} (ascii : isAscii character = true) :
    plainDash character = character := by
  have small : character.toNat < 0x80 := of_decide_eq_true ascii
  apply if_neg
  omega

theorem isProtocolFormatted_append {text : List Char} (formatted : isProtocolFormatted text = true)
    (rest : List Char) : isProtocolFormatted (text ++ rest) = true := by
  unfold isProtocolFormatted at formatted
  split at formatted
  · rename_i letter tail
    rw [decide_eq_true_eq] at formatted
    simp only [List.cons_append, isProtocolFormatted, decide_eq_true_eq]
    refine ⟨formatted.1, ?_⟩
    rw [List.dropWhile_append]
    split
    · rename_i empty
      rw [List.isEmpty_iff.mp empty] at formatted
      cases formatted.2
    · exact List.head?_append.trans (by rw [formatted.2]; rfl)
  · cases formatted

theorem dropWhile_isSpace_formatted {text : List Char}
    (formatted : isProtocolFormatted text = true) : text.dropWhile isSpace = text := by
  unfold isProtocolFormatted at formatted
  split at formatted
  · rw [decide_eq_true_eq] at formatted
    rcases formatted.1 with rfl | rfl
    · rfl
    · rfl
  · cases formatted

/-- ASCII text in the format of a protocol message is refused, whatever follows it
from an ASCII character on. -/
theorem assertNotProtocolMessage_formatted {nfkc : String → String} (normalizes : Normalizes nfkc)
    {before after : String} (ascii : before.toList.all isAscii)
    (formatted : isProtocolFormatted before.toList = true)
    (joins : after.toList.head?.any isAscii) :
    assertNotProtocolMessage nfkc (before ++ after) ≠ .ok () := by
  intro passes
  simp only [assertNotProtocolMessage, seq_eq_ok, require_eq_ok] at passes
  apply passes.2
  have plain : before.toList.map plainDash = before.toList := by
    rw [List.map_congr_left fun character member =>
      plainDash_ascii (List.all_eq_true.mp ascii character member)]
    exact List.map_id before.toList
  have whole := isProtocolFormatted_append formatted ((nfkc after).toList.map plainDash)
  rw [challengeHead, normalizes.append before after joins, normalizes.ascii before ascii,
    String.toList_append, List.map_append, plain, dropWhile_isSpace_formatted whole]
  exact whole

/-- What the protocol messages start with: a format, and the first field's name. -/
def protocolTags : List String :=
  ["J41-ACCEPT|Job:", "J41-DELIVER|Job:", "J41-DISPUTE-RESPOND|Job:", "J41-REWORK-ACCEPT|Job:",
    "J41-COMPLETE|Job:", "J41-DISPUTE|Job:", "J41-BOUNTY|Post:", "J41-BOUNTY-APPLY|Bounty:",
    "J41-BOUNTY-SELECT|Bounty:", "J41-DEPOSIT-REPORT|Buyer:", "J41-ACCESS-REQUEST|Buyer:",
    "J41-ACCESS-ENVELOPE|Cipher:", "J41-STATUS|Agent:"]

theorem ProtocolMessage.tagged {message : String} (built : ProtocolMessage message) :
    ∃ tag ∈ protocolTags, startsWith message tag = true := by
  cases built
  case' accept =>
    refine ⟨"J41-ACCEPT|Job:", by decide, ?_⟩
    unfold buildAcceptMessage
  case' deliver =>
    refine ⟨"J41-DELIVER|Job:", by decide, ?_⟩
    unfold buildDeliverMessage
  case' disputeRespond =>
    refine ⟨"J41-DISPUTE-RESPOND|Job:", by decide, ?_⟩
    unfold buildDisputeRespondMessage
  case' reworkAccept =>
    refine ⟨"J41-REWORK-ACCEPT|Job:", by decide, ?_⟩
    unfold buildReworkAcceptMessage
  case' complete =>
    refine ⟨"J41-COMPLETE|Job:", by decide, ?_⟩
    unfold buildCompleteMessage
  case' dispute =>
    refine ⟨"J41-DISPUTE|Job:", by decide, ?_⟩
    unfold buildDisputeMessage
  case' postBounty =>
    refine ⟨"J41-BOUNTY|Post:", by decide, ?_⟩
    unfold buildPostBountyMessage
  case' applyBounty =>
    refine ⟨"J41-BOUNTY-APPLY|Bounty:", by decide, ?_⟩
    unfold buildApplyBountyMessage
  case' selectClaimants =>
    refine ⟨"J41-BOUNTY-SELECT|Bounty:", by decide, ?_⟩
    unfold buildSelectClaimantsMessage
  case' depositReport =>
    refine ⟨"J41-DEPOSIT-REPORT|Buyer:", by decide, ?_⟩
    unfold buildDepositReportMessage
  case' accessRequest =>
    refine ⟨"J41-ACCESS-REQUEST|Buyer:", by decide, ?_⟩
    unfold AccessRequest.canonical
  case' accessEnvelope =>
    refine ⟨"J41-ACCESS-ENVELOPE|Cipher:", by decide, ?_⟩
    unfold AccessEnvelope.canonical
  case' status =>
    refine ⟨"J41-STATUS|Agent:", by decide, ?_⟩
    unfold statusMessage
  all_goals
    apply startsWith_iff.mpr
    simp only [String.append_assoc]
    exact ⟨_, rfl⟩

theorem ProtocolMessage.refused {nfkc : String → String} (normalizes : Normalizes nfkc)
    {message : String} (built : ProtocolMessage message) :
    assertNotProtocolMessage nfkc message ≠ .ok () := by
  rcases built.tagged with ⟨tag, member, starts⟩
  rcases startsWith_iff.mp starts with ⟨rest, rfl⟩
  have formats : ∀ tag ∈ protocolTags, tag.toList.dropLast.all isAscii ∧
      isProtocolFormatted tag.toList.dropLast = true ∧ tag.toList.getLast?.any isAscii := by
    decide
  rcases formats tag member with ⟨ascii, formatted, lastAscii⟩
  rcases (Option.any_eq_true _ _).mp lastAscii with ⟨last, ends, lastAscii⟩
  have parts : tag ++ rest =
      String.ofList tag.toList.dropLast ++ String.ofList (last :: rest.toList) := by
    apply String.toList_inj.mp
    rw [String.toList_append, String.toList_append, String.toList_ofList, String.toList_ofList,
      List.append_cons, List.dropLast_append_getLast? last ends]
  rw [parts]
  apply assertNotProtocolMessage_formatted normalizes
  · rwa [String.toList_ofList]
  · rwa [String.toList_ofList]
  · rwa [String.toList_ofList]

end SovAgent.Signing

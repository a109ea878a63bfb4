import SovAgent.Crypto.Canonical
import Mathlib.Tactic.Tauto

/-! # The envelopes that validation accepts

The shape rules are stated on their own, the checks are shown to be exactly
those rules, and the window tests are compared with the window of instants that
the two timestamps denote.
-/

namespace SovAgent.Crypto

/-! ## Shape rules -/

def StringProperty (members : List (String × Json)) (key : String)
    (pattern : String → Bool) : Prop :=
  ∃ text, members.lookup key = some (.string text) ∧ pattern text

structure PartyRules (members : List (String × Json)) : Prop where
  known : ∀ key ∈ members.map Prod.fst, key ∈ allowedBuyerSellerKeys
  iaddress : StringProperty members "iaddress" matchesIAddress
  name : ∀ name ∈ members.lookup "name", name.isString

structure ContentHashRules (members : List (String × Json)) : Prop where
  known : ∀ key ∈ members.map Prod.fst, key ∈ allowedContentHashKeys
  alg : members.lookup "alg" = some (.string "sha256")
  digest : StringProperty members "digest" matchesDigest

structure ShapeRules (members : List (String × Json)) (action : Action)
    (issuedAt expiresAt : String) : Prop where
  known : ∀ key ∈ members.map Prod.fst, key ∈ allowedTopLevelKeys
  required : ∀ key ∈ requiredTopLevelKeys, (members.lookup key).isSome
  version : members.lookup "version" = some (.number 1)
  cryptoSuite : members.lookup "cryptoSuite" = some (.string "verus-signmessage-v1")
  actionName : members.lookup "action" = some (.string action.name)
  buyer : ∃ party, members.lookup "buyer" = some (.object party) ∧ PartyRules party
  seller : ∃ party, members.lookup "seller" = some (.object party) ∧ PartyRules party
  payload : ∃ payload, members.lookup "payload" = some (.object payload)
  contentHash : ∀ contentHash ∈ members.lookup "contentHash",
    ∃ fields, contentHash = .object fields ∧ ContentHashRules fields
  nonce : StringProperty members "nonce" matchesNonce
  issuedAtText : members.lookup "issuedAt" = some (.string issuedAt)
  issuedAtPattern : matchesRfc3339Ms issuedAt
  expiresAtText : members.lookup "expiresAt" = some (.string expiresAt)
  expiresAtPattern : matchesRfc3339Ms expiresAt

theorem ShapeRules.unique {members : List (String × Json)} {action action' : Action}
    {issuedAt issuedAt' expiresAt expiresAt' : String}
    (left : ShapeRules members action issuedAt expiresAt)
    (right : ShapeRules members action' issuedAt' expiresAt') :
    issuedAt = issuedAt' ∧ expiresAt = expiresAt' := by
  have issued := left.issuedAtText.symm.trans right.issuedAtText
  have expires := left.expiresAtText.symm.trans right.expiresAtText
  simp only [Option.some.injEq, Json.string.injEq] at issued expires
  exact ⟨issued, expires⟩

/-! ## The checks are the rules -/

@[simp] theorem requireKeys_eq_ok {owner : String} {allowed : List String}
    {members : List (String × Json)} :
    requireKeys owner allowed members = .ok () ↔
      ∀ key ∈ members.map Prod.fst, key ∈ allowed := by
  simp [requireKeys]

@[simp] theorem requireMatch_eq_ok {property : Option Json} {pattern : String → Bool}
    {message text : String} :
    requireMatch property pattern message = .ok text ↔
      property = some (.string text) ∧ pattern text := by
  unfold requireMatch
  split
  · split
    · rename_i matched
      constructor
      · intro accepted
        cases accepted
        exact ⟨rfl, matched⟩
      · intro holds
        rcases holds with ⟨equal, _⟩
        cases equal
        rfl
    · rename_i unmatched
      constructor
      · intro accepted
        cases accepted
      · intro holds
        rcases holds with ⟨equal, matched⟩
        cases equal
        exact absurd matched unmatched
  · rename_i other
    constructor
    · intro accepted
      cases accepted
    · intro holds
      rcases holds with ⟨equal, _⟩
      exact absurd equal (other text)

theorem ofJson?_eq_some {value : Json} {action : Action} :
    Action.ofJson? value = some action ↔ value = .string action.name := by
  constructor
  · intro found
    simpa using List.find?_some found
  · rintro rfl
    cases action <;> decide

@[simp] theorem requireAction_eq_ok {property : Option Json} {action : Action} :
    requireAction property = .ok action ↔ property = some (.string action.name) := by
  cases property with
  | none => simp [requireAction]
  | some value =>
      rw [Option.some.injEq, ← ofJson?_eq_some]
      cases found : Action.ofJson? value <;> simp [requireAction, found]

theorem validatePartyObject_eq_ok {party : Option Json} {label : String} :
    validatePartyObject party label = .ok () ↔
      ∃ members, party = some (.object members) ∧ PartyRules members := by
  unfold validatePartyObject
  split
  · rename_i members
    simp only [bind_eq_ok, exists_unit, requireKeys_eq_ok, requireMatch_eq_ok, require_eq_ok]
    constructor
    · intro holds
      rcases holds with ⟨known, iaddress, ⟨found, matched⟩, name⟩
      exact ⟨members, rfl, known, ⟨iaddress, found, matched⟩, (Option.all_eq_true _ _).mp name⟩
    · intro holds
      rcases holds with ⟨_, equal, rules⟩
      cases equal
      rcases rules.iaddress with ⟨iaddress, found, matched⟩
      exact ⟨rules.known, iaddress, ⟨found, matched⟩, (Option.all_eq_true _ _).mpr rules.name⟩
  · rename_i other
    constructor
    · intro accepted
      cases accepted
    · intro holds
      rcases holds with ⟨members, equal, _⟩
      exact absurd equal (other members)

theorem validateContentHash_eq_ok {contentHash : Json} :
    validateContentHash contentHash = .ok () ↔
      ∃ fields, contentHash = .object fields ∧ ContentHashRules fields := by
  unfold validateContentHash
  split
  · rename_i fields
    simp only [bind_eq_ok, exists_unit, requireKeys_eq_ok, requireMatch_eq_ok, require_eq_ok]
    constructor
    · intro holds
      rcases holds with ⟨known, alg, digest, matched, _⟩
      exact ⟨fields, rfl, known, alg, digest, matched⟩
    · intro holds
      rcases holds with ⟨_, equal, rules⟩
      cases equal
      rcases rules.digest with ⟨digest, matched⟩
      exact ⟨rules.known, rules.alg, digest, matched, rfl⟩
  · rename_i other
    constructor
    · intro accepted
      cases accepted
    · intro holds
      rcases holds with ⟨fields, equal, _⟩
      exact absurd equal (other fields)

theorem validateEnvelope_eq_ok {legacy : String → Option Int} {envelope : Json} {now : Int} :
    validateEnvelope legacy envelope now = .ok () ↔
      ∃ members action issuedAt expiresAt, envelope = .object members ∧
        ShapeRules members action issuedAt expiresAt ∧
        validateWindow action (dateParse legacy issuedAt) (dateParse legacy expiresAt) now =
          .ok () := by
  unfold validateEnvelope
  split
  · rename_i members
    simp only [bind_eq_ok, exists_unit, requireKeys_eq_ok, checkAll_eq_ok, require_eq_ok,
      requireAction_eq_ok, requireMatch_eq_ok, validatePartyObject_eq_ok,
      validateContentHash_eq_ok, Option.mem_toList]
    constructor
    · intro holds
      rcases holds with ⟨known, required, version, suite, action, actionName, buyer, seller,
        payload, contentHash, nonce, nonceMatched, issuedAt, ⟨issued, issuedPattern⟩, expiresAt,
        ⟨expires, expiresPattern⟩, window⟩
      refine ⟨members, action, issuedAt, expiresAt, rfl, ?_, window⟩
      exact {
        known, required, buyer, seller, contentHash, actionName
        version := by simpa [Option.any_eq_true, supportedVersions] using version
        cryptoSuite := by simpa [Option.any_eq_true, supportedSuites] using suite
        payload := by
          rcases (Option.any_eq_true _ _).mp payload with ⟨value, found, isObject⟩
          cases value <;> simp_all [Json.isObject]
        nonce := ⟨nonce, nonceMatched⟩
        issuedAtText := issued, issuedAtPattern := issuedPattern
        expiresAtText := expires, expiresAtPattern := expiresPattern }
    · intro holds
      rcases holds with ⟨_, action, issuedAt, expiresAt, equal, rules, window⟩
      cases equal
      rcases rules.payload with ⟨payload, payloadFound⟩
      rcases rules.nonce with ⟨nonce, nonceMatched⟩
      exact ⟨rules.known, rules.required, by simp [rules.version, supportedVersions],
        by simp [rules.cryptoSuite, supportedSuites], action, rules.actionName, rules.buyer,
        rules.seller, by simp [payloadFound, Json.isObject], rules.contentHash, nonce,
        nonceMatched, issuedAt, ⟨rules.issuedAtText, rules.issuedAtPattern⟩, expiresAt,
        ⟨rules.expiresAtText, rules.expiresAtPattern⟩, window⟩
  · rename_i other
    constructor
    · intro accepted
      cases accepted
    · intro holds
      rcases holds with ⟨members, _, _, _, equal, _⟩
      exact absurd equal (other members)

/-! ## The window -/

structure ValidityWindow (action : Action) (issued expires now : Int) : Prop where
  ordered : issued < expires
  bounded : expires - issued ≤ action.maxWindowMs
  unexpired : now ≤ expires + clockSkewMs
  begun : issued ≤ now + clockSkewMs

/-- Two times that pass the window tests. A test that meets a `NaN` is passed. -/
inductive PassesWindow (action : Action) (now : Int) : (issued expires : Option Int) → Prop
  | neither : PassesWindow action now none none
  | noIssue {expires : Int} : now ≤ expires + clockSkewMs →
      PassesWindow action now none (some expires)
  | noExpiry {issued : Int} : issued ≤ now + clockSkewMs →
      PassesWindow action now (some issued) none
  | both {issued expires : Int} : ValidityWindow action issued expires now →
      PassesWindow action now (some issued) (some expires)

theorem passesWindow_some_iff {action : Action} {issued expires now : Int} :
    PassesWindow action now (some issued) (some expires) ↔
      ValidityWindow action issued expires now := by
  constructor
  · intro passes
    cases passes with
    | both window => exact window
  · exact .both

theorem validateWindow_eq_ok {action : Action} {issued expires : Option Int} {now : Int} :
    validateWindow action issued expires now = .ok () ↔
      PassesWindow action now issued expires := by
  simp only [validateWindow, seq_eq_ok, require_eq_ok]
  cases issued with
  | none =>
      cases expires with
      | none => exact iff_of_true (by simp [nanLe, nanGt, nanSub, nanAdd]) .neither
      | some expires =>
          simp only [nanLe, nanGt, nanSub, nanAdd, Option.map_some, decide_eq_true_eq, Int.not_lt,
            Bool.false_eq_true, not_false_eq_true, true_and, and_true]
          constructor
          · exact .noIssue
          · intro passes
            cases passes with
            | noIssue unexpired => exact unexpired
  | some issued =>
      cases expires with
      | none =>
          simp only [nanLe, nanGt, nanSub, nanAdd, Option.map_none, decide_eq_true_eq, Int.not_lt,
            Bool.false_eq_true, not_false_eq_true, true_and]
          constructor
          · exact .noExpiry
          · intro passes
            cases passes with
            | noExpiry begun => exact begun
      | some expires =>
          simp only [nanLe, nanGt, nanSub, nanAdd, Option.map_some, decide_eq_true_eq,
            Int.not_le, Int.not_lt]
          constructor
          · rintro ⟨ordered, bounded, unexpired, begun⟩
            exact .both ⟨ordered, bounded, unexpired, begun⟩
          · intro passes
            cases passes with
            | both window =>
                exact ⟨window.ordered, window.bounded, window.unexpired, window.begun⟩

/-- The envelope is well shaped and its timestamps denote instants within the
window rules. -/
def CurrentEnvelope (envelope : Json) (now : Int) : Prop :=
  ∃ members action issuedAt expiresAt issued expires, envelope = .object members ∧
    ShapeRules members action issuedAt expiresAt ∧
    instantOf issuedAt = some issued ∧ instantOf expiresAt = some expires ∧
    ValidityWindow action issued expires now

/-- Each timestamp of a well-shaped envelope denotes an instant, or a window
test fires on what `Date.parse` makes of the two. -/
def TimesDenoteOrReject (legacy : String → Option Int) (envelope : Json) (now : Int) : Prop :=
  ∀ members action issuedAt expiresAt, envelope = .object members →
    ShapeRules members action issuedAt expiresAt →
    ((instantOf issuedAt).isSome ∧ (instantOf expiresAt).isSome) ∨
    nanLe (dateParse legacy expiresAt) (dateParse legacy issuedAt) ∨
    nanGt (nanSub (dateParse legacy expiresAt) (dateParse legacy issuedAt))
      (some action.maxWindowMs) ∨
    nanGt (some now) (nanAdd (dateParse legacy expiresAt) clockSkewMs) ∨
    nanGt (dateParse legacy issuedAt) (some (now + clockSkewMs))

/-- Two timestamps slip past the tests where the text of one denotes no instant: both are `NaN`,
one is and the other passes the only test on it alone, or what the engine reads passes. -/
theorem timesDenoteOrReject_iff (legacy : String → Option Int) (envelope : Json) (now : Int) :
    TimesDenoteOrReject legacy envelope now ↔
      ∀ members action issuedAt expiresAt, envelope = .object members →
        ShapeRules members action issuedAt expiresAt →
        PassesWindow action now (dateParse legacy issuedAt) (dateParse legacy expiresAt) →
          (instantOf issuedAt).isSome ∧ (instantOf expiresAt).isSome := by
  simp only [← validateWindow_eq_ok, validateWindow, seq_eq_ok, require_eq_ok]
  constructor
  · intro readable members action issuedAt expiresAt equal rules passes
    rcases readable members action issuedAt expiresAt equal rules with denote | fires
    · exact denote
    · tauto
  · intro slipsNot members action issuedAt expiresAt equal rules
    have slips := slipsNot members action issuedAt expiresAt equal rules
    tauto

/-- Validation accepts exactly the current envelopes if and only if no
timestamp that denotes no instant slips past the window tests. -/
theorem validateEnvelope_accepts_current_iff (legacy : String → Option Int)
    (envelope : Json) (now : Int) :
    (validateEnvelope legacy envelope now = .ok () ↔ CurrentEnvelope envelope now) ↔
      TimesDenoteOrReject legacy envelope now := by
  rw [validateEnvelope_eq_ok, timesDenoteOrReject_iff]
  constructor
  · intro agrees members action issuedAt expiresAt equal rules passes
    rcases agrees.mp ⟨members, action, issuedAt, expiresAt, equal, rules,
      validateWindow_eq_ok.mpr passes⟩ with
      ⟨_, _, _, _, issued, expires, equal', rules', issuedDenotes, expiresDenotes, _⟩
    cases equal.symm.trans equal'
    rcases rules.unique rules' with ⟨rfl, rfl⟩
    simp [issuedDenotes, expiresDenotes]
  · intro readable
    constructor
    · intro holds
      rcases holds with ⟨members, action, issuedAt, expiresAt, equal, rules, accepted⟩
      have passes := validateWindow_eq_ok.mp accepted
      have denote := readable members action issuedAt expiresAt equal rules passes
      rcases Option.isSome_iff_exists.mp denote.1 with ⟨issued, issuedDenotes⟩
      rcases Option.isSome_iff_exists.mp denote.2 with ⟨expires, expiresDenotes⟩
      rw [dateParse_of_instantOf issuedDenotes, dateParse_of_instantOf expiresDenotes,
        passesWindow_some_iff] at passes
      exact ⟨members, action, issuedAt, expiresAt, issued, expires, equal, rules,
        issuedDenotes, expiresDenotes, passes⟩
    · intro holds
      rcases holds with ⟨members, action, issuedAt, expiresAt, issued, expires, equal, rules,
        issuedDenotes, expiresDenotes, window⟩
      refine ⟨members, action, issuedAt, expiresAt, equal, rules, ?_⟩
      rw [dateParse_of_instantOf issuedDenotes, dateParse_of_instantOf expiresDenotes]
      exact validateWindow_eq_ok.mpr (.both window)

private def partyAt (iaddress : String) : Json := .object [("iaddress", .string iaddress)]

private def timelessEnvelope : Json := .object [
  ("version", .number 1),
  ("cryptoSuite", .string "verus-signmessage-v1"),
  ("action", .string "request-access"),
  ("buyer", partyAt "iBuyerBuyerBuyerBuyerBuyerBuyerBuy"),
  ("seller", partyAt "iSe11erSe11erSe11erSe11erSe11erSe1"),
  ("payload", .object []),
  ("nonce", .string "0123456789abcdef0123456789abcdef"),
  ("issuedAt", .string "2026-13-01T00:00:00.000Z"),
  ("expiresAt", .string "2026-13-01T00:05:00.000Z")]

/-- It is accepted two centuries later by an engine that parses it to `NaN`. -/
theorem timeless_envelope_never_expires :
    validateEnvelope (fun _ => none) timelessEnvelope 8078400000000 = .ok () ∧
      ¬ CurrentEnvelope timelessEnvelope 8078400000000 := by
  constructor
  · decide
  · intro holds
    rcases holds with ⟨members, action, issuedAt, expiresAt, issued, expires, equal, rules,
      issuedDenotes, _⟩
    cases equal
    have text : Json.string "2026-13-01T00:00:00.000Z" = .string issuedAt :=
      Option.some.inj rules.issuedAtText
    cases text
    have undenoted : instantOf "2026-13-01T00:00:00.000Z" = none := by decide
    rw [undenoted] at issuedDenotes
    cases issuedDenotes

end SovAgent.Crypto

import SovAgent.Crypto.CanonicalWindow
import SovAgent.Foundation.JsonCanonical

/-! # Validation of a canonical text

Validation does not depend on the order of members, nor, but for the two ends
of the window, on the clock. So a text can be checked by parsing it.
-/

namespace SovAgent.Crypto

open Json

/-! ## The order of members -/

variable {members : List (String × Json)}

theorem known_canonicalMembers {allowed : List String}
    (known : ∀ key ∈ members.map Prod.fst, key ∈ allowed) :
    ∀ key ∈ (canonicalMembers members).map Prod.fst, key ∈ allowed := by
  intro key member
  exact known key ((keys_canonicalMembers members).mem_iff.mp member)

theorem lookup_canonicalMembers_string (distinct : (members.map Prod.fst).Nodup)
    {key text : String} (found : members.lookup key = some (.string text)) :
    (canonicalMembers members).lookup key = some (.string text) := by
  rw [lookup_canonicalMembers distinct, found]
  rfl

theorem StringProperty.sorted (distinct : (members.map Prod.fst).Nodup) {key : String}
    {pattern : String → Bool} (property : StringProperty members key pattern) :
    StringProperty (canonicalMembers members) key pattern := by
  rcases property with ⟨text, found, matched⟩
  exact ⟨text, lookup_canonicalMembers_string distinct found, matched⟩

theorem PartyRules.sorted (distinct : (members.map Prod.fst).Nodup) (rules : PartyRules members) :
    PartyRules (canonicalMembers members) where
  known := known_canonicalMembers rules.known
  iaddress := rules.iaddress.sorted distinct
  name name found := by
    rw [lookup_canonicalMembers distinct] at found
    rcases Option.map_eq_some_iff.mp found with ⟨value, present, rfl⟩
    have text := rules.name value present
    cases value with
    | string text => rfl
    | null | bool _ | number _ | array _ | object _ => cases text

theorem ContentHashRules.sorted (distinct : (members.map Prod.fst).Nodup)
    (rules : ContentHashRules members) : ContentHashRules (canonicalMembers members) where
  known := known_canonicalMembers rules.known
  alg := lookup_canonicalMembers_string distinct rules.alg
  digest := rules.digest.sorted distinct

theorem distinct_of_lookup (distinct : (Json.object members).Distinct) {key : String}
    {value : Json} (found : members.lookup key = some value) : value.Distinct :=
  distinctMembers_iff.mp distinct.2 _ ((Record.lookup_eq_some_iff distinct.1).mp found)

theorem lookup_canonicalMembers_object (distinct : (members.map Prod.fst).Nodup)
    {key : String} {fields : List (String × Json)}
    (found : members.lookup key = some (.object fields)) :
    (canonicalMembers members).lookup key = some (.object (canonicalMembers fields)) := by
  rw [lookup_canonicalMembers distinct, found, Option.map_some, sorted_object]

theorem party_sorted (distinct : (Json.object members).Distinct) {key : String}
    (rules : ∃ party, members.lookup key = some (.object party) ∧ PartyRules party) :
    ∃ party, (canonicalMembers members).lookup key = some (.object party) ∧ PartyRules party := by
  rcases rules with ⟨party, found, rules⟩
  exact ⟨_, lookup_canonicalMembers_object distinct.1 found,
    rules.sorted (distinct_of_lookup distinct found).1⟩

theorem ShapeRules.sorted (distinct : (Json.object members).Distinct) {action : Action}
    {issuedAt expiresAt : String} (rules : ShapeRules members action issuedAt expiresAt) :
    ShapeRules (canonicalMembers members) action issuedAt expiresAt where
  known := known_canonicalMembers rules.known
  required key needed := by
    rw [lookup_canonicalMembers distinct.1, Option.isSome_map]
    exact rules.required key needed
  version := by
    rw [lookup_canonicalMembers distinct.1, rules.version]
    rfl
  cryptoSuite := lookup_canonicalMembers_string distinct.1 rules.cryptoSuite
  actionName := lookup_canonicalMembers_string distinct.1 rules.actionName
  buyer := party_sorted distinct rules.buyer
  seller := party_sorted distinct rules.seller
  payload := by
    rcases rules.payload with ⟨payload, found⟩
    exact ⟨_, lookup_canonicalMembers_object distinct.1 found⟩
  contentHash contentHash found := by
    rw [lookup_canonicalMembers distinct.1] at found
    rcases Option.map_eq_some_iff.mp found with ⟨value, present, rfl⟩
    rcases rules.contentHash value present with ⟨fields, rfl, fieldRules⟩
    exact ⟨_, sorted_object fields, fieldRules.sorted (distinct_of_lookup distinct present).1⟩
  nonce := rules.nonce.sorted distinct.1
  issuedAtText := lookup_canonicalMembers_string distinct.1 rules.issuedAtText
  issuedAtPattern := rules.issuedAtPattern
  expiresAtText := lookup_canonicalMembers_string distinct.1 rules.expiresAtText
  expiresAtPattern := rules.expiresAtPattern

theorem validateEnvelope_sorted {legacy : String → Option Int} {envelope : Json} {now : Int}
    (distinct : envelope.Distinct) (valid : validateEnvelope legacy envelope now = .ok ()) :
    validateEnvelope legacy envelope.sorted now = .ok () := by
  rcases validateEnvelope_eq_ok.mp valid with
    ⟨members, action, issuedAt, expiresAt, rfl, rules, window⟩
  exact validateEnvelope_eq_ok.mpr
    ⟨_, action, issuedAt, expiresAt, sorted_object members, rules.sorted distinct, window⟩

/-! ## The clock -/

/-- When an envelope is issued, or, where that is no date, when it expires. -/
def windowInstant (legacy : String → Option Int) (envelope : Json) : Int :=
  let instant (key : String) := match envelope.get? key with
    | some (.string text) => dateParse legacy text
    | _ => none
  ((instant "issuedAt").or (instant "expiresAt")).getD 0

theorem validateEnvelope_windowInstant {legacy : String → Option Int} {envelope : Json} {now : Int}
    (valid : validateEnvelope legacy envelope now = .ok ()) :
    validateEnvelope legacy envelope (windowInstant legacy envelope) = .ok () := by
  rcases validateEnvelope_eq_ok.mp valid with
    ⟨members, action, issuedAt, expiresAt, rfl, rules, window⟩
  refine validateEnvelope_eq_ok.mpr ⟨members, action, issuedAt, expiresAt, rfl, rules, ?_⟩
  have instant : windowInstant legacy (.object members) =
      ((dateParse legacy issuedAt).or (dateParse legacy expiresAt)).getD 0 := by
    simp only [windowInstant, Json.get?, rules.issuedAtText, rules.expiresAtText]
  rw [instant]
  have skew : (0 : Int) < clockSkewMs := by decide
  simp only [validateWindow, seq_eq_ok, require_eq_ok] at window ⊢
  refine ⟨window.1, window.2.1, ?_, ?_⟩
  · cases expires : dateParse legacy expiresAt with
    | none => simp [nanAdd, nanGt]
    | some expiry =>
        cases issued : dateParse legacy issuedAt with
        | none =>
            simp only [nanAdd, nanGt, Option.map_some, Option.none_or, Option.getD_some,
              decide_eq_true_eq]
            omega
        | some issue =>
            have ordered := window.1
            simp only [issued, expires, nanLe, decide_eq_true_eq] at ordered
            simp only [nanAdd, nanGt, Option.map_some, Option.some_or, Option.getD_some,
              decide_eq_true_eq]
            omega
  · cases issued : dateParse legacy issuedAt with
    | none => simp [nanGt]
    | some issue =>
        intro late
        have early : issue + clockSkewMs < issue := of_decide_eq_true late
        omega

/-! ## Canonical texts -/

/-- What RFC 8785 says that a canonical text is. -/
def Canonicalizes (canonicalize : Json → String) : Prop :=
  ∀ value, value.Distinct → canonicalize value = Json.stringify value.sorted

/-- The text, parsed, is an envelope whose canonical text it is and which is valid
at the beginning of its window. -/
def isEnvelopeText (legacy : String → Option Int) (canonicalize : Json → String)
    (text : String) : Bool :=
  match Json.parse text with
  | some envelope => canonicalBytes canonicalize envelope = .ok text ∧
      validateEnvelope legacy envelope (windowInstant legacy envelope) = .ok ()
  | none => false

theorem canonicalBytes_eq_ok {canonicalize : Json → String} {envelope : Json} {text : String} :
    canonicalBytes canonicalize envelope = .ok text ↔
      canonicalize envelope = text ∧ text.utf8ByteSize ≤ canonicalMaxBytes := by
  rw [canonicalBytes]
  split
  · rename_i large
    constructor
    · intro made
      cases made
    · intro parts
      rw [parts.1] at large
      exact absurd large (Nat.not_lt.mpr parts.2)
  · rename_i small
    rw [Except.ok.injEq]
    constructor
    · intro made
      exact ⟨made, made ▸ Nat.not_lt.mp small⟩
    · intro parts
      exact parts.1

theorem isEnvelopeText_iff {legacy : String → Option Int} {canonicalize : Json → String}
    (canonicalizes : Canonicalizes canonicalize) {text : String} :
    isEnvelopeText legacy canonicalize text = true ↔
      ∃ envelope now, envelope.Distinct ∧ validateEnvelope legacy envelope now = .ok () ∧
        canonicalBytes canonicalize envelope = .ok text := by
  constructor
  · intro reads
    unfold isEnvelopeText at reads
    split at reads
    · rename_i envelope parsed
      rcases of_decide_eq_true reads with ⟨bytes, valid⟩
      exact ⟨envelope, _, Json.parse_distinct parsed, valid, bytes⟩
    · cases reads
  · intro found
    rcases found with ⟨envelope, now, distinct, valid, bytes⟩
    rcases canonicalBytes_eq_ok.mp bytes with ⟨rfl, small⟩
    have distinct' := distinct_sorted envelope distinct
    have parsed : Json.parse (canonicalize envelope) = some envelope.sorted := by
      rw [canonicalizes envelope distinct]
      exact Json.parse_stringify distinct'
    have again : canonicalize envelope.sorted = canonicalize envelope := by
      rw [canonicalizes _ distinct', canonicalizes _ distinct, sorted_sorted]
    rw [isEnvelopeText, parsed]
    exact decide_eq_true ⟨canonicalBytes_eq_ok.mpr ⟨again, small⟩,
      validateEnvelope_windowInstant (validateEnvelope_sorted distinct valid)⟩

end SovAgent.Crypto

import SovAgent.Client.IdentityKeys
import SovAgent.Crypto.Canonical

/-! # What a pinned response is bound to

A pinned call returns only data that the platform signed. The data is not
compared with the identity that was asked for, so the binding to an identity
holds exactly for the responses that happen to be about it.
-/

namespace SovAgent.Client

open Crypto

/-! ## Statements -/

/-- A keys statement about an identity, by address or by name. -/
def Identifies (statement : Json) (idOrName : String) : Prop :=
  statement.get? "iaddress" = some (.string idOrName) ∨
    statement.get? "name" = some (.string idOrName)

instance : Decidable (Identifies statement idOrName) :=
  inferInstanceAs (Decidable (_ ∨ _))

def SameKeys (left right : Json) : Prop :=
  left.get? "primaryAddresses" = right.get? "primaryAddresses" ∧
    left.get? "minimumSignatures" = right.get? "minimumSignatures"

/-- A signed response: the statement it carries and the platform's signature. -/
def Presents (data : Json) (statement : Json) (signature : String) : Prop :=
  takeSignature data = (some (.string signature), statement) ∧ signature ≠ ""

instance : Decidable (Presents data statement signature) :=
  inferInstanceAs (Decidable (_ ∧ _))

theorem Presents.unique {data statement statement' : Json} {signature signature' : String}
    (left : Presents data statement signature) (right : Presents data statement' signature') :
    statement = statement' ∧ signature = signature' := by
  have equal := left.1.symm.trans right.1
  simp only [Prod.mk.injEq, Option.some.injEq, Json.string.injEq] at equal
  exact ⟨equal.2, equal.1⟩

theorem lookup_filter_ne {members : List (String × Json)} {key removed : String}
    (different : key ≠ removed) :
    (members.filter fun member => member.1 ≠ removed).lookup key = members.lookup key := by
  induction members with
  | nil => rfl
  | cons head tail induction =>
      rcases head with ⟨name, value⟩
      by_cases dropped : name = removed
      · subst name
        have absent : (key == removed) = false := beq_eq_false_iff_ne.mpr different
        simpa [List.lookup_cons, absent] using induction
      · simp only [List.filter_cons, ne_eq, dropped, not_false_eq_true, decide_true, if_true,
          List.lookup_cons]
        cases key == name
        · exact induction
        · rfl

theorem Presents.get?_eq {data statement : Json} {signature key : String}
    (presents : Presents data statement signature) (different : key ≠ "platformSignature") :
    statement.get? key = data.get? key := by
  have taken := presents.1
  cases data with
  | object members =>
      simp only [takeSignature, Prod.mk.injEq] at taken
      rw [← taken.2]
      exact lookup_filter_ne different
  | null | bool | number | string | array => simp [takeSignature] at taken

theorem Presents.sameKeys {data statement : Json} {signature : String}
    (presents : Presents data statement signature) : SameKeys statement data :=
  ⟨presents.get?_eq (by decide), presents.get?_eq (by decide)⟩

/-! ## Accepted responses -/

section Pinned

variable {canonicalize : Json → String} {verifyMessage : String → String → String → Bool}
variable {environment : Environment} {pinned : String}
variable {request : String → Except ClientError (Option Json)} {idOrName : String}

theorem requirePlatformSignature_eq_ok {data : Option Json} :
    requirePlatformSignature canonicalize verifyMessage pinned data = .ok () ↔
      ∃ value statement signature, data = some value ∧ Presents value statement signature ∧
        verifyMessage (canonicalize statement) pinned signature := by
  unfold requirePlatformSignature
  split
  · simp
  · constructor
    · intro accepted
      cases accepted
    · intro holds
      rcases holds with ⟨value, statement, signature, equal, presents, _⟩
      cases equal
      have taken := presents.1
      simp [takeSignature] at taken
  · rename_i value _
    split
    · rename_i signature statement taken
      simp only [bind_eq_ok, exists_unit, require_eq_ok]
      constructor
      · intro holds
        rcases holds with ⟨nonempty, verified⟩
        exact ⟨value, statement, signature, rfl, ⟨taken, nonempty⟩, verified⟩
      · intro holds
        rcases holds with ⟨_, statement', signature', equal, presents, verified⟩
        cases equal
        have parts := presents.1.symm.trans taken
        simp only [Prod.mk.injEq, Option.some.injEq, Json.string.injEq] at parts
        rcases parts with ⟨rfl, rfl⟩
        exact ⟨presents.2, verified⟩
    · rename_i other
      constructor
      · intro accepted
        cases accepted
      · intro holds
        rcases holds with ⟨_, statement, signature, equal, presents, _⟩
        cases equal
        exact absurd presents.1 (other signature statement)

/-- The response to the request carries this value as its `data`. -/
def Answers (request : String → Except ClientError (Option Json)) (idOrName : String)
    (data : Option Json) : Prop :=
  ∃ body, request (identityKeysPath idOrName) = .ok body ∧ responseData body = .ok data

theorem getIdentityKeys_eq_ok (isPinned : environment.pinned = some pinned)
    {data : Option Json} :
    getIdentityKeys canonicalize verifyMessage environment request idOrName = .ok data ↔
      ∃ value statement signature, data = some value ∧ Answers request idOrName (some value) ∧
        Presents value statement signature ∧
        verifyMessage (canonicalize statement) pinned signature := by
  simp only [getIdentityKeys, isPinned, bind_eq_ok, exists_unit, require_eq_ok,
    requirePlatformSignature_eq_ok, reduceCtorEq, and_false, not_false_eq_true, true_and,
    Except.ok.injEq]
  constructor
  · intro holds
    rcases holds with ⟨body, answered, _, carried, ⟨value, statement, signature, rfl, presents,
      verified⟩, rfl⟩
    exact ⟨value, statement, signature, rfl, ⟨body, answered, carried⟩, presents, verified⟩
  · intro holds
    rcases holds with ⟨value, statement, signature, rfl, ⟨body, answered, carried⟩, presents,
      verified⟩
    exact ⟨body, answered, _, carried, ⟨value, statement, signature, rfl, presents, verified⟩, rfl⟩

/-! ## Binding to the requested identity -/

/-- Signatures presented with the response are not forged: what verifies under
the pinned key, the platform signed. -/
def Unforged (canonicalize : Json → String) (verifyMessage : String → String → String → Bool)
    (pinned : String) (signedByPlatform : String → Prop) (data : Json) : Prop :=
  ∀ statement signature, Presents data statement signature →
    verifyMessage (canonicalize statement) pinned signature →
    signedByPlatform (canonicalize statement)

/-- The platform signed a statement about this identity that carries the keys
in `data`. -/
def KeysBound (canonicalize : Json → String) (signedByPlatform : String → Prop)
    (idOrName : String) (data : Json) : Prop :=
  ∃ statement, signedByPlatform (canonicalize statement) ∧ SameKeys statement data ∧
    Identifies statement idOrName

/-- Canonical text determines the identity that a statement is about. -/
def TextIdentifies (canonicalize : Json → String) (statement : Json) : Prop :=
  ∀ other, canonicalize other = canonicalize statement →
    ∀ idOrName, Identifies other idOrName → Identifies statement idOrName

/-- A response without a valid pinned signature, or about the requested
identity. -/
def AboutRequested (canonicalize : Json → String)
    (verifyMessage : String → String → String → Bool) (pinned idOrName : String) (data : Json) :
    Prop :=
  ∀ statement signature, Presents data statement signature →
    verifyMessage (canonicalize statement) pinned signature → Identifies statement idOrName

/-- The identity that `verifyCanonicalSignatures` resolves for an envelope. -/
def BuyerIs (envelope : Json) (idOrName : String) : Prop :=
  ∃ buyer, envelope.get? "buyer" = some buyer ∧ propertyText (buyer.get? "iaddress") = idOrName

def AuthenticatedAs (canonicalize : Json → String)
    (verifyVerusMessage : String → String → String → Bool) (signedByPlatform : String → Prop)
    (idOrName : String) (envelope : Json) (signatures : List String) : Prop :=
  ∃ statement, signedByPlatform (canonicalize statement) ∧ Identifies statement idOrName ∧
    verifyCanonicalSignatures canonicalize verifyVerusMessage
      (fun _ => (.ok (some statement) : Except ClientError (Option Json))) envelope signatures =
        .ok true

variable {signedByPlatform : String → Prop} {data : Json}

theorem KeysBound.of_aboutRequested (isPinned : environment.pinned = some pinned)
    (about : AboutRequested canonicalize verifyMessage pinned idOrName data)
    (unforged : Unforged canonicalize verifyMessage pinned signedByPlatform data)
    (returned : getIdentityKeys canonicalize verifyMessage environment request idOrName =
      .ok (some data)) :
    KeysBound canonicalize signedByPlatform idOrName data := by
  rcases (getIdentityKeys_eq_ok isPinned).mp returned with
    ⟨_, statement, signature, equal, _, presents, verified⟩
  cases equal
  exact ⟨statement, unforged _ _ presents verified, presents.sameKeys,
    about _ _ presents verified⟩

theorem Unforged.only_presented {statement : Json} {signature : String}
    (presents : Presents data statement signature) :
    Unforged canonicalize verifyMessage pinned (· = canonicalize statement) data := by
  intro other otherSignature presentsOther _
  rw [(presents.unique presentsOther).1]

theorem aboutRequested_of_keysBound (isPinned : environment.pinned = some pinned)
    (answers : Answers request idOrName (some data))
    (determined : ∀ statement signature, Presents data statement signature →
      TextIdentifies canonicalize statement)
    (bound : ∀ signedByPlatform,
      Unforged canonicalize verifyMessage pinned signedByPlatform data →
      getIdentityKeys canonicalize verifyMessage environment request idOrName = .ok (some data) →
      KeysBound canonicalize signedByPlatform idOrName data) :
    AboutRequested canonicalize verifyMessage pinned idOrName data := by
  intro statement signature presents verified
  have returned := (getIdentityKeys_eq_ok isPinned).mpr
    ⟨data, statement, signature, rfl, answers, presents, verified⟩
  rcases bound _ (Unforged.only_presented presents) returned with ⟨other, sameText, _, identifies⟩
  exact determined _ _ presents other sameText idOrName identifies

/-! ## Authentication -/

theorem Presents.data_ne_null {statement : Json} {signature : String}
    (presents : Presents data statement signature) : data ≠ .null ∧ statement ≠ .null := by
  have taken := presents.1
  cases data with
  | object members =>
      simp only [takeSignature, Prod.mk.injEq] at taken
      rw [← taken.2]
      simp
  | null | bool | number | string | array => simp [takeSignature] at taken

theorem meetsThreshold_of_sameKeys {validates : Json → String → Bool} {signatures : List String}
    {statement : Json} (same : SameKeys statement data) :
    meetsThreshold validates signatures statement = meetsThreshold validates signatures data := by
  rw [meetsThreshold, meetsThreshold, same.1, same.2]

theorem authenticate_some {validates : Json → String → Bool} {signatures : List String}
    (notNull : data ≠ .null) :
    authenticate validates signatures (.ok (some data) : Except ClientError (Option Json)) =
      .ok (meetsThreshold validates signatures data) := by
  cases data with
  | null => exact absurd rfl notNull
  | bool | number | string | array | object => rfl

theorem authenticate_true {validates : Json → String → Bool} {signatures : List String}
    {resolution : Except ClientError (Option Json)}
    (authenticated : authenticate validates signatures resolution = .ok true) :
    ∃ value, resolution = .ok (some value) := by
  unfold authenticate at authenticated
  split at authenticated
  · cases authenticated
  · cases authenticated
  · cases authenticated
  · exact ⟨_, rfl⟩

theorem returned_of_authenticated {verifyVerusMessage : String → String → String → Bool}
    {resolve : String → Except ClientError (Option Json)} {envelope : Json}
    {signatures : List String} (buyerIs : BuyerIs envelope idOrName)
    (authenticated : verifyCanonicalSignatures canonicalize verifyVerusMessage resolve envelope
      signatures = .ok true) :
    ∃ value, resolve idOrName = .ok (some value) := by
  rcases buyerIs with ⟨buyer, found, rfl⟩
  unfold verifyCanonicalSignatures at authenticated
  rw [found] at authenticated
  split at authenticated
  · cases authenticated
  · split at authenticated
    · cases authenticated
    · split at authenticated
      · cases authenticated
      · cases authenticated
      · rename_i equal
        cases equal
        exact authenticate_true authenticated

theorem verifyCanonicalSignatures_of_sameKeys
    {verifyVerusMessage : String → String → String → Bool}
    {resolve resolve' : String → Except ClientError (Option Json)} {envelope statement : Json}
    {signatures : List String} (buyerIs : BuyerIs envelope idOrName)
    (resolved : resolve idOrName = .ok (some data))
    (resolved' : resolve' idOrName = .ok (some statement))
    (notNull : data ≠ .null ∧ statement ≠ .null) (same : SameKeys statement data) :
    verifyCanonicalSignatures canonicalize verifyVerusMessage resolve' envelope signatures =
      verifyCanonicalSignatures canonicalize verifyVerusMessage resolve envelope signatures := by
  rcases buyerIs with ⟨buyer, found, rfl⟩
  unfold verifyCanonicalSignatures
  rw [found]
  cases buyer with
  | null => rfl
  | bool | number | string | array | object =>
      simp only [resolved, resolved', authenticate_some notNull.1, authenticate_some notNull.2,
        meetsThreshold_of_sameKeys same]

theorem Answers.unique {left right : Option Json} (first : Answers request idOrName left)
    (second : Answers request idOrName right) : left = right := by
  rcases first with ⟨body, answered, carried⟩
  rcases second with ⟨body', answered', carried'⟩
  cases answered.symm.trans answered'
  exact Except.ok.inj (carried.symm.trans carried')

theorem AuthenticatedAs.of_aboutRequested
    {verifyVerusMessage : String → String → String → Bool} {envelope : Json}
    {signatures : List String} (isPinned : environment.pinned = some pinned)
    (answers : Answers request idOrName (some data))
    (about : AboutRequested canonicalize verifyMessage pinned idOrName data)
    (unforged : Unforged canonicalize verifyMessage pinned signedByPlatform data)
    (buyerIs : BuyerIs envelope idOrName)
    (authenticated : verifyCanonicalSignatures canonicalize verifyVerusMessage
      (getIdentityKeys canonicalize verifyMessage environment request) envelope signatures =
        .ok true) :
    AuthenticatedAs canonicalize verifyVerusMessage signedByPlatform idOrName envelope
      signatures := by
  have returned := returned_of_authenticated buyerIs authenticated
  rcases returned with ⟨value, returned⟩
  rcases (getIdentityKeys_eq_ok isPinned).mp returned with
    ⟨_, statement, signature, equal, answered, presents, verified⟩
  cases equal
  cases answers.unique answered
  refine ⟨statement, unforged _ _ presents verified, about _ _ presents verified, ?_⟩
  rw [← authenticated]
  exact verifyCanonicalSignatures_of_sameKeys buyerIs returned rfl presents.data_ne_null
    presents.sameKeys

end Pinned

/-- Under a pin, the returned keys are bound to the requested identity exactly
for the responses that carry no valid signature or are about that identity, and
for these a buyer is only authenticated with keys of their own. -/
theorem getIdentityKeys_keys_bound_iff (canonicalize : Json → String)
    (verifyMessage : String → String → String → Bool) (environment : Environment)
    (request : String → Except ClientError (Option Json)) (idOrName pinned : String) (data : Json)
    (isPinned : environment.pinned = some pinned)
    (answers : Answers request idOrName (some data))
    (determined : ∀ statement signature, Presents data statement signature →
      TextIdentifies canonicalize statement) :
    ((∀ signedByPlatform, Unforged canonicalize verifyMessage pinned signedByPlatform data →
        getIdentityKeys canonicalize verifyMessage environment request idOrName =
          .ok (some data) →
        KeysBound canonicalize signedByPlatform idOrName data) ↔
      AboutRequested canonicalize verifyMessage pinned idOrName data) ∧
    (AboutRequested canonicalize verifyMessage pinned idOrName data →
      ∀ signedByPlatform verifyVerusMessage envelope signatures,
        Unforged canonicalize verifyMessage pinned signedByPlatform data →
        BuyerIs envelope idOrName →
        verifyCanonicalSignatures canonicalize verifyVerusMessage
          (getIdentityKeys canonicalize verifyMessage environment request) envelope signatures =
            .ok true →
        AuthenticatedAs canonicalize verifyVerusMessage signedByPlatform idOrName envelope
          signatures) := by
  constructor
  · constructor
    · exact aboutRequested_of_keysBound isPinned answers determined
    · intro about signedByPlatform unforged returned
      exact KeysBound.of_aboutRequested isPinned about unforged returned
  · intro about signedByPlatform verifyVerusMessage envelope signatures unforged buyerIs
      authenticated
    exact AuthenticatedAs.of_aboutRequested isPinned answers about unforged buyerIs authenticated

private def keysStatement (iaddress name address : String) : Json := .object [
  ("iaddress", .string iaddress), ("name", .string name),
  ("primaryAddresses", .array [.string address]), ("minimumSignatures", .number 1)]

private def victimStatement : Json := keysStatement "iVictim" "victim@" "Rgenuine"
private def malloryStatement : Json := keysStatement "iMallory" "mallory@" "Rmallory"

private def signedResponse (iaddress name address : String) : Json := .object [
  ("iaddress", .string iaddress), ("name", .string name),
  ("primaryAddresses", .array [.string address]), ("minimumSignatures", .number 1),
  ("platformSignature", .string "signature")]

private def pinnedEnvironment : Environment :=
  ⟨some "Rplatform", none, "https://example.test"⟩

private def victimText : String :=
  "\x7b\"iaddress\":\"iVictim\",\"minimumSignatures\":1,\"name\":\"victim@\"," ++
    "\"primaryAddresses\":[\"Rgenuine\"]\x7d"

private def malloryText : String :=
  "\x7b\"iaddress\":\"iMallory\",\"minimumSignatures\":1,\"name\":\"mallory@\"," ++
    "\"primaryAddresses\":[\"Rmallory\"]\x7d"

private def victimEnvelope : Json :=
  .object [("buyer", .object [("iaddress", .string "iVictim")])]

private def envelopeText : String := "\x7b\"buyer\":\x7b\"iaddress\":\"iVictim\"\x7d\x7d"

private def exampleCanonicalize (value : Json) : String :=
  if value = victimStatement then victimText
  else if value = malloryStatement then malloryText
  else if value = victimEnvelope then envelopeText
  else ""

private def platformVerifies (message address signature : String) : Bool :=
  (message = victimText ∨ message = malloryText) ∧ address = "Rplatform" ∧
    signature = "signature"

private def answering (data : Json) : String → Except ClientError (Option Json) :=
  fun _ => .ok (some (.object [("data", data)]))

/-- The platform's own answer about the victim. -/
theorem victim_keys_bound :
    KeysBound exampleCanonicalize (· = victimText) "victim@"
      (signedResponse "iVictim" "victim@" "Rgenuine") := by
  have presents : Presents (signedResponse "iVictim" "victim@" "Rgenuine") victimStatement
      "signature" := by decide
  have answers : Answers (answering (signedResponse "iVictim" "victim@" "Rgenuine")) "victim@"
      (some (signedResponse "iVictim" "victim@" "Rgenuine")) := ⟨_, rfl, rfl⟩
  have determined : ∀ statement signature,
      Presents (signedResponse "iVictim" "victim@" "Rgenuine") statement signature →
      TextIdentifies exampleCanonicalize statement := by
    intro statement signature presented other sameText idOrName identifies
    rw [(presented.unique presents).1] at sameText ⊢
    have equal : other = victimStatement := by
      by_contra different
      simp only [exampleCanonicalize, different, if_false] at sameText
      split at sameText
      · exact absurd sameText (by decide)
      · split at sameText <;> exact absurd sameText (by decide)
    exact equal ▸ identifies
  have main := getIdentityKeys_keys_bound_iff exampleCanonicalize platformVerifies
    pinnedEnvironment _ "victim@" "Rplatform" _ (by decide) answers determined
  apply main.1.mpr
  · intro statement signature presented _
    rw [(presented.unique presents).1]
    exact .inr rfl
  · intro statement signature presented _
    rw [(presented.unique presents).1]
    decide
  · exact (getIdentityKeys_eq_ok rfl).mpr
      ⟨_, _, _, rfl, answers, presents, by decide⟩

/-- A replayed answer about another identity is returned for the victim and
authenticates an envelope of the victim that the other identity signed. -/
theorem replayed_keys_authenticate_another :
    (∃ data,
      Unforged exampleCanonicalize platformVerifies "Rplatform" (· = malloryText) data ∧
      getIdentityKeys exampleCanonicalize platformVerifies pinnedEnvironment
        (answering (signedResponse "iMallory" "mallory@" "Rmallory")) "iVictim" =
          .ok (some data) ∧
      ¬ KeysBound exampleCanonicalize (· = malloryText) "iVictim" data) ∧
    verifyCanonicalSignatures exampleCanonicalize
      (fun message address signature =>
        message = envelopeText ∧ address = "Rmallory" ∧ signature = "by mallory")
      (getIdentityKeys exampleCanonicalize platformVerifies pinnedEnvironment
        (answering (signedResponse "iMallory" "mallory@" "Rmallory")))
      victimEnvelope ["by mallory"] = .ok true := by
  have presents : Presents (signedResponse "iMallory" "mallory@" "Rmallory") malloryStatement
      "signature" := by decide
  constructor
  · refine ⟨signedResponse "iMallory" "mallory@" "Rmallory", ?_, ?_, ?_⟩
    · intro statement signature presented _
      rw [(presented.unique presents).1]
      decide
    · exact (getIdentityKeys_eq_ok rfl).mpr
        ⟨_, _, _, rfl, ⟨_, rfl, rfl⟩, presents, by decide⟩
    · intro holds
      rcases holds with ⟨statement, signed, _, identifies⟩
      have equal : statement = malloryStatement := by
        by_contra different
        simp only [exampleCanonicalize, different, if_false] at signed
        split at signed
        · exact absurd signed (by decide)
        · split at signed <;> exact absurd signed (by decide)
      subst equal
      exact absurd identifies (by decide)
  · decide +kernel

end SovAgent.Client

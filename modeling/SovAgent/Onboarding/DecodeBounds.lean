import Mathlib.Algebra.Order.Ring.Rat
import Mathlib.Data.List.ReduceOption
import Mathlib.Tactic.NormNum
import SovAgent.Onboarding.DecodeHostile

/-! # Numbers of a decoded map

Prices, windows and the markup pass a check. The refund policies, the cost
breakdowns, the dispute policy and the session parameters are parsed and handed
on as their publisher wrote them.
-/

namespace SovAgent.Onboarding

/-! ## What is in range -/

def Within (min max : ℚ) (number : Decimal) : Prop := min ≤ number.toRat ∧ number.toRat ≤ max

def NumberWithin (value : Json) : Prop :=
  ∃ number, value = .number number ∧ Within 0 vdxfMaxNumber number

def MembersWithin (names : List String) (read : String → Option Json) : Prop :=
  ∀ name ∈ names, ∀ value, read name = some value → NumberWithin value

def refundNumbers : List String := ["percent"]

def costNumbers : List String :=
  ["estimatedInputTokens", "estimatedOutputTokens", "rawCost", "apiCalls", "markup"]

def disputeNumbers : List String :=
  ["maxRefundPercent", "maxReworkCycles", "reworkBudgetPercent", "systemCrashRefund"]

structure SanitisedService (service : DecodedService) : Prop where
  price : ∀ price, service.price = some price → Within 0 vdxfMaxPrice price
  acceptedCurrencies : ∀ accepted ∈ service.acceptedCurrencies.getD [],
    Within 0 vdxfMaxPrice accepted.price
  resolutionWindow : ∀ window, service.resolutionWindow = some window →
    Within 0 vdxfMaxNumber window
  refundPolicy : MembersWithin refundNumbers (memberOf service.refundPolicy)
  costBreakdown : MembersWithin costNumbers (memberOf service.costBreakdown)

structure Sanitised (result : Decoded) : Prop where
  services : ∀ service ∈ result.services, SanitisedService service
  markup : ∀ markup, result.profile.markup = some markup → Within 1 50 markup
  session : ∀ session, result.profile.session = some session →
    MembersWithin sessionLimits session.get?
  disputePolicy : MembersWithin disputeNumbers (memberOf result.disputePolicy)
  payAddress : ∀ address, result.profile.payAddress = some address → isVerusAddress address = true

/-! ## What is checked -/

theorem safeNumber_within {value : Option Json} {min max : ℚ} {number : Decimal}
    (read : safeNumber value min max = .ok (some number)) : Within min max number := by
  rcases bind_eq_ok.mp read with ⟨converted, _, checked⟩
  cases converted with
  | finite found =>
      dsimp only at checked
      split at checked
      · cases checked
      · rename_i inside
        cases checked
        rw [not_or, not_lt, not_lt] at inside
        exact inside
  | infinity negative => cases checked
  | nan => cases checked

theorem presentNumber_within {value : Option Json} {min max : ℚ} {number : Decimal}
    (read : presentNumber value min max = .ok (some number)) : Within min max number := by
  rw [presentNumber] at read
  split at read
  · exact safeNumber_within read
  · cases read

theorem entryPrice_within {entry : Json} {price : Decimal}
    (read : entryPrice entry = .ok (some price)) : Within 0 vdxfMaxPrice price := by
  rcases bind_eq_ok.mp read with ⟨_, _, checked⟩
  exact safeNumber_within checked

theorem acceptedCurrency_within {entry : Json} {accepted : AcceptedCurrency}
    (read : acceptedCurrency entry = .ok (some accepted)) :
    Within 0 vdxfMaxPrice accepted.price := by
  simp only [acceptedCurrency, bind_eq_ok, Except.ok.injEq] at read
  rcases read with ⟨_, _, price, priced, made⟩
  rcases Option.map_eq_some_iff.mp made with ⟨price, rfl, rfl⟩
  exact entryPrice_within priced

structure PricedWithin (pricing : Pricing) : Prop where
  price : ∀ price, pricing.price = some price → Within 0 vdxfMaxPrice price
  acceptedCurrencies : ∀ accepted ∈ pricing.acceptedCurrencies.getD [],
    Within 0 vdxfMaxPrice accepted.price

theorem decodePricing_within {svc : Json} {pricing : Pricing}
    (decoded : decodePricing svc = .ok pricing) : PricedWithin pricing := by
  have unpriced : PricedWithin {} := by
    constructor
    · intro price none
      cases none
    · intro accepted member
      cases member
  rw [decodePricing] at decoded
  split at decoded
  · split at decoded
    · cases decoded
      exact unpriced
    · simp only [bind_eq_ok, Except.ok.injEq] at decoded
      rcases decoded with ⟨price, priced, rfl⟩
      constructor
      · rintro price rfl
        exact entryPrice_within priced
      · intro accepted member
        cases member
    · simp only [bind_eq_ok, Except.ok.injEq] at decoded
      rcases decoded with ⟨price, priced, accepted, collected, rfl⟩
      constructor
      · rintro price rfl
        exact entryPrice_within priced
      · intro currency member
        have listed := List.reduceOption_mem_iff.mp member
        rcases (mem_of_mapM collected).mp listed with ⟨entry, _, read⟩
        exact acceptedCurrency_within read
  · cases decoded
    exact unpriced

/-! ## What is handed on -/

def DocumentWithin (names : List String) (value : Option Json) : Prop :=
  MembersWithin names (memberOf (value.map tryParseJson))

theorem memberOf_falsy {json : Json} (falsy : json.truthy = false) (name : String) :
    memberOf (some (tryParseJson json)) name = none := by
  cases json with
  | string text =>
      have empty : text = "" := by simpa [Json.truthy] using falsy
      subst empty
      rfl
  | array items => cases falsy
  | object members => cases falsy
  | _ => rfl

theorem memberOf_leniently (value : Option Json) (name : String) :
    memberOf (leniently value) name = memberOf (value.map tryParseJson) name := by
  cases value with
  | none => rfl
  | some json =>
      rw [leniently, Option.filter_some]
      split
      · rfl
      · rename_i falsy
        exact (memberOf_falsy (Bool.eq_false_iff.mpr falsy) name).symm

theorem memberOf_objectType (value : Option Json) (name : String) :
    memberOf (value.filter isObjectType) name = memberOf value name := by
  cases value with
  | none => rfl
  | some json => cases json <;> rfl

theorem parsedDocument_eq_ok {value document : Option Json}
    (read : parsedDocument value = .ok document) : document = leniently value := by
  cases value with
  | none =>
      cases read
      rfl
  | some json =>
      by_cases textual : ∃ text, json = .string text
      · rcases textual with ⟨text, rfl⟩
        by_cases empty : text = ""
        · subst empty
          cases read
          rfl
        · rw [parsedDocument_text empty] at read
          rcases map_eq_ok.mp read with ⟨parsed, found, rfl⟩
          have parses : Json.parse text = some parsed := by
            rw [parseJson] at found
            split at found
            · rename_i parses
              rw [parses, Except.ok.inj found]
            · cases found
          have truthy : (Json.string text).truthy = true := by simpa [Json.truthy] using empty
          rw [leniently, Option.filter_some, if_pos truthy, Option.map_some, tryParseJson, parses]
          rfl
      · have other : ∀ text, json ≠ .string text := fun text same => textual ⟨text, same⟩
        rw [parsedDocument_other other] at read
        rw [← Except.ok.inj read, leniently]
        cases json with
        | string text => exact absurd rfl (other text)
        | _ =>
            rw [Option.filter_some]
            split <;> rfl

theorem memberOf_parsedDocument {value document : Option Json}
    (read : parsedDocument value = .ok document) (name : String) :
    memberOf document name = memberOf (value.map tryParseJson) name := by
  rw [parsedDocument_eq_ok read]
  exact memberOf_leniently value name

theorem membersWithin_congr {names : List String} {left right : String → Option Json}
    (same : ∀ name ∈ names, left name = right name) :
    MembersWithin names left ↔ MembersWithin names right := by
  constructor
  · intro within name member value found
    exact within name member value ((same name member).trans found)
  · intro within name member value found
    exact within name member value ((same name member).symm.trans found)

/-! ## Services -/

structure ServiceDocuments (svc : Json) : Prop where
  refundPolicy : DocumentWithin refundNumbers (svc.get? "refundPolicy")
  costBreakdown : DocumentWithin costNumbers (svc.get? "costBreakdown")

theorem sanitisedService_iff {name svc : Json} {service : DecodedService}
    (decoded : decodeNamedService name svc = .ok service) :
    SanitisedService service ↔ ServiceDocuments svc := by
  simp only [decodeNamedService, bind_eq_ok, Except.ok.injEq] at decoded
  rcases decoded with ⟨pricing, priced, window, windowed, refund, refunded, cost, costed, rfl⟩
  have prices := decodePricing_within priced
  have refundSame : MembersWithin refundNumbers (memberOf refund) ↔
      DocumentWithin refundNumbers (svc.get? "refundPolicy") :=
    membersWithin_congr fun name _ => memberOf_parsedDocument refunded name
  have costSame : MembersWithin costNumbers (memberOf cost) ↔
      DocumentWithin costNumbers (svc.get? "costBreakdown") :=
    membersWithin_congr fun name _ => memberOf_parsedDocument costed name
  constructor
  · intro sanitised
    exact ⟨refundSame.mp sanitised.refundPolicy, costSame.mp sanitised.costBreakdown⟩
  · intro documents
    refine ⟨prices.price, prices.acceptedCurrencies, ?_, refundSame.mpr documents.refundPolicy,
      costSame.mpr documents.costBreakdown⟩
    rintro number rfl
    exact presentNumber_within windowed

def ServicesWithin (raw : Option Json) : Prop :=
  ∀ json, raw = some json → ∀ svc ∈ servicesIn json, isTruthy (svc.get? "name") = true →
    ServiceDocuments svc

theorem sanitisedServicesArray_iff {raw : Json} {services : List DecodedService}
    (decoded : decodeServicesArray raw = .ok services) :
    (∀ service ∈ services, SanitisedService service) ↔ ServicesWithin (some raw) := by
  simp only [decodeServicesArray, bind_eq_ok, Except.ok.injEq] at decoded
  rcases decoded with ⟨items, listed, results, collected, rfl⟩
  have items := serviceItems_eq_ok listed
  subst items
  constructor
  · intro sanitised json same svc member named
    cases same
    rcases Option.any_eq_true _ _ |>.mp named with ⟨name, found, truthy⟩
    rcases mapM_isOk_iff.mp ⟨results, collected⟩ svc member with ⟨result, own⟩
    have decodable := decodeService_isOk_iff.mp ⟨result, own⟩
    rcases (@decodeNamedService_isOk_iff name svc).mpr (decodable.named named) with
      ⟨service, serviceDecoded⟩
    have kept : decodeService svc = .ok (some service) := by
      refine decodeService_eq_some.mpr ⟨decodable.present, name, ?_, serviceDecoded⟩
      rw [found, Option.filter_some, if_pos truthy]
    have among := List.reduceOption_mem_iff.mpr ((mem_of_mapM collected).mpr ⟨svc, member, kept⟩)
    exact (sanitisedService_iff serviceDecoded).mp (sanitised service among)
  · intro within service among
    rcases (mem_of_mapM collected).mp (List.reduceOption_mem_iff.mp among) with
      ⟨svc, member, kept⟩
    rcases decodeService_eq_some.mp kept with ⟨_, name, named, serviceDecoded⟩
    rcases Option.filter_eq_some_iff.mp named with ⟨found, truthy⟩
    apply (sanitisedService_iff serviceDecoded).mpr
    apply within raw rfl svc member
    rw [isTruthy, found]
    exact truthy

theorem servicesIn_falsy {json : Json} (falsy : json.truthy = false) : servicesIn json = [] := by
  cases json with
  | string text =>
      have empty : text = "" := by simpa [Json.truthy] using falsy
      subst empty
      rfl
  | array items => cases falsy
  | _ => rfl

theorem sanitisedServices_iff {raw : Option Json} {services : List DecodedService}
    (decoded : decodeServices raw = .ok services) :
    (∀ service ∈ services, SanitisedService service) ↔ ServicesWithin raw := by
  cases raw with
  | none =>
      cases decoded
      constructor
      · intro _ json same
        cases same
      · intro _ service member
        cases member
  | some json =>
      cases truthy : json.truthy with
      | true =>
          rw [decodeServices, Option.filter_some, if_pos truthy] at decoded
          exact sanitisedServicesArray_iff decoded
      | false =>
          rw [decodeServices, Option.filter_some, if_neg (Bool.eq_false_iff.mp truthy)] at decoded
          cases decoded
          constructor
          · intro _ other same svc member
            cases same
            rw [servicesIn_falsy truthy] at member
            cases member
          · intro _ service member
            cases member

/-! ## Legacy sessions -/

/-- The number that a field of the session container sets its limit to. -/
def usable (data : Fields) (name : String) : Option Decimal :=
  (safeNumber (data.field name) 0 vdxfMaxNumber).toOption.join

theorem usable_within {data : Fields} {name : String} {number : Decimal}
    (found : usable data name = some number) : Within 0 vdxfMaxNumber number := by
  rcases Option.join_eq_some_iff.mp found with read
  exact safeNumber_within (toOption_eq_some.mp read)

namespace SessionMembers

def get? (session : SessionMembers) (key : String) : Option Json :=
  (session.members.lookup key).or (session.inherited.bind (Json.get? key))

theorem get?_set (session : SessionMembers) (name key : String) (value : Json) :
    (session.set name value).get? key = if key = name then some value else session.get? key := by
  rw [get?, set, Record.lookup_setEntry]
  split
  · rfl
  · rfl

theorem members_set (session : SessionMembers) (name : String) (value : Json) :
    (session.set name value).members ≠ [] := by
  rw [set]
  cases session.members with
  | nil => exact List.cons_ne_nil _ _
  | cons head tail =>
      rw [Record.setEntry]
      split <;> exact List.cons_ne_nil _ _

inductive LimitSet (data : Fields) (session : SessionMembers) (name : String) :
    SessionMembers → Prop
  | unusable : usable data name = none → LimitSet data session name session
  | set {number : Decimal} : usable data name = some number →
      LimitSet data session name (session.set name (.number number))

theorem setLimit_eq_ok {data : Fields} {session next : SessionMembers} {name : String}
    (done : session.setLimit data name = .ok next) : LimitSet data session name next := by
  rcases bind_eq_ok.mp done with ⟨number, read, set⟩
  have found : usable data name = number := by
    rw [usable, read]
    rfl
  cases number with
  | none =>
      cases set
      exact .unusable found
  | some number =>
      cases set
      exact .set found

theorem setLimits_get? {data : Fields} {names : List String} {start final : SessionMembers}
    (done : names.foldlM (setLimit data) start = .ok final) (key : String) :
    final.get? key =
      if key ∈ names then ((usable data key).map Json.number).or (start.get? key)
      else start.get? key := by
  induction names generalizing start with
  | nil =>
      cases done
      rw [if_neg List.not_mem_nil]
  | cons name names induction =>
      rw [List.foldlM_cons] at done
      rcases bind_eq_ok.mp done with ⟨next, first, others⟩
      rw [induction others]
      cases setLimit_eq_ok first with
      | unusable none =>
          by_cases same : key = name
          · subst same
            simp [none]
          · simp [same]
      | @set number found =>
          rw [get?_set]
          by_cases same : key = name
          · subst same
            simp [found]
          · simp [same]

theorem setLimits_members {data : Fields} {names : List String} {start final : SessionMembers}
    (done : names.foldlM (setLimit data) start = .ok final) :
    final.members ≠ [] ↔
      start.members ≠ [] ∨ ∃ name ∈ names, usable data name ≠ none := by
  induction names generalizing start with
  | nil =>
      cases done
      simp
  | cons name names induction =>
      rw [List.foldlM_cons] at done
      rcases bind_eq_ok.mp done with ⟨next, first, others⟩
      rw [induction others]
      cases setLimit_eq_ok first with
      | unusable none => simp [none]
      | @set number found => simp [members_set, found]

end SessionMembers

/-- The session that the parameters alone make. -/
def copiedParams (data : Fields) : SessionMembers :=
  SessionMembers.assignAll {} ((data.field "params").map tryParseJson)

theorem assignAll_leniently (value : Option Json) :
    SessionMembers.assignAll {} (leniently value) =
      SessionMembers.assignAll {} (value.map tryParseJson) := by
  cases value with
  | none => rfl
  | some json =>
      rw [leniently, Option.filter_some]
      split
      · rfl
      · rename_i falsy
        cases json with
        | string text =>
            have empty : text = "" := by simpa [Json.truthy] using falsy
            subst empty
            rfl
        | array items => exact absurd rfl falsy
        | object members => exact absurd rfl falsy
        | _ => rfl

def SessionShown (data : Fields) : Prop :=
  (copiedParams data).members ≠ [] ∨ (∃ name ∈ sessionLimits, usable data name ≠ none) ∨
    isTruthy (data.field "allowedFileTypes") = true

/-- A limit that no field of its own sets is in range in the parameters. -/
def LegacySessionWithin (data : Fields) : Prop :=
  SessionShown data → ∀ name ∈ sessionLimits, usable data name = none →
    ∀ value, (copiedParams data).get? name = some value → NumberWithin value

structure SessionDecodes (data : Fields) (session : SessionMembers) : Prop where
  limits : ∀ name ∈ sessionLimits, session.get? name =
    ((usable data name).map Json.number).or ((copiedParams data).get? name)
  shown : session.members ≠ [] ↔ SessionShown data

theorem decodeLegacySession_decodes {data : Fields} {session : SessionMembers}
    (decoded : decodeLegacySession data = .ok session) : SessionDecodes data session := by
  simp only [decodeLegacySession, bind_eq_ok] at decoded
  rcases decoded with ⟨params, paramsRead, limited, set, types, typesRead, put⟩
  rw [parsedDocument_eq_ok paramsRead, assignAll_leniently] at set
  have typesFound := parsedDocument_eq_ok typesRead
  have members := SessionMembers.setLimits_members set
  have apart : ∀ name ∈ sessionLimits, name ≠ "allowedFileTypes" := by
    intro name member same
    subst same
    simp [sessionLimits] at member
  have limits : ∀ name ∈ sessionLimits, limited.get? name =
      ((usable data name).map Json.number).or ((copiedParams data).get? name) := by
    intro name member
    rw [SessionMembers.setLimits_get? set, if_pos member]
    rfl
  cases types with
  | none =>
      cases put
      have unlisted : isTruthy (data.field "allowedFileTypes") = false := by
        have none := Option.map_eq_none_iff.mp typesFound.symm
        cases found : data.field "allowedFileTypes" with
        | none => rfl
        | some json =>
            rw [found] at none
            have untrue : json.truthy = false := by simpa [Option.filter_some] using none
            exact untrue
      refine ⟨limits, ?_⟩
      rw [members, SessionShown, unlisted]
      simp [copiedParams]
  | some types =>
      cases put
      have listed : isTruthy (data.field "allowedFileTypes") = true := by
        rcases Option.map_eq_some_iff.mp typesFound.symm with ⟨json, filtered, _⟩
        rcases Option.filter_eq_some_iff.mp filtered with ⟨found, truthy⟩
        rw [isTruthy, found]
        exact truthy
      constructor
      · intro name member
        rw [SessionMembers.get?_set, if_neg (apart name member)]
        exact limits name member
      · exact iff_of_true (SessionMembers.members_set _ _ _) (.inr (.inr listed))

theorem sanitisedSession_iff {data : Fields} {members : SessionMembers}
    (decoded : decodeLegacySession data = .ok members) :
    (∀ session, shownSession members = some session →
      MembersWithin sessionLimits session.get?) ↔ LegacySessionWithin data := by
  have decodes := decodeLegacySession_decodes decoded
  constructor
  · intro sanitised shown name member unset value found
    have filled := decodes.shown.mpr shown
    have own := sanitised { value := .object members.members, inherited := members.inherited } (by
      rw [shownSession, if_neg]
      simpa using filled)
    apply own name member value
    change members.get? name = some value
    rw [decodes.limits name member, unset]
    exact found
  · intro within session shown name member value found
    rw [shownSession] at shown
    split at shown
    · cases shown
    · rename_i filled
      cases shown
      have read : members.get? name = some value := found
      rw [decodes.limits name member] at read
      cases usableNumber : usable data name with
      | none =>
          rw [usableNumber] at read
          refine within (decodes.shown.mp ?_) name member usableNumber value read
          simpa using filled
      | some number =>
          rw [usableNumber] at read
          cases read
          exact ⟨number, rfl, usable_within usableNumber⟩

/-! ## Both formats -/

structure FlatDocumentsWithin (cmm : ContentMultimap) : Prop where
  services : ServicesWithin (flatValue cmm VdxfKeys.agentServices)
  session : DocumentWithin sessionLimits (flatValue cmm VdxfKeys.sessionParams)
  disputePolicy : DocumentWithin disputeNumbers (flatValue cmm VdxfKeys.agentDisputePolicy)

structure LegacyDocumentsWithin (cmm : ContentMultimap) : Prop where
  services : ∀ data, legacyFields cmm ParentKeys.agent legacyAgentReverse = .ok (some data) →
    ServicesWithin (data.field "services")
  session : ∀ data,
    legacyFields cmm ParentKeys.session (getReverseLookup "session") = .ok (some data) →
      LegacySessionWithin data

def DocumentsWithin (cmm : ContentMultimap) : Prop :=
  if isLegacyFormat cmm then LegacyDocumentsWithin cmm else FlatDocumentsWithin cmm

theorem verusAddress_valid {value : Option Json} {address : String}
    (found : verusAddress value = some address) : isVerusAddress address = true := by
  cases value with
  | none => cases found
  | some json =>
      cases json with
      | string text =>
          rw [verusAddress] at found
          split at found
          · rename_i valid
            cases found
            exact valid
          · cases found
      | _ => cases found

theorem sanitisedFlat_iff {cmm : ContentMultimap} {result : Decoded}
    (decodes : FlatDecodes cmm result) : Sanitised result ↔ FlatDocumentsWithin cmm := by
  have services := sanitisedServices_iff decodes.services
  have sessionRead : result.profile.session =
      ((leniently (flatValue cmm VdxfKeys.sessionParams)).filter isObjectType).map
        fun value => { value } := by
    rw [decodes.assembled]
    rfl
  have disputeRead : result.disputePolicy =
      leniently (flatValue cmm VdxfKeys.agentDisputePolicy) := by
    rw [decodes.assembled]
    rfl
  have session : (∀ session, result.profile.session = some session →
      MembersWithin sessionLimits session.get?) ↔
        DocumentWithin sessionLimits (flatValue cmm VdxfKeys.sessionParams) := by
    have member : ∀ name, memberOf ((leniently (flatValue cmm VdxfKeys.sessionParams)).filter
        isObjectType) name =
          memberOf ((flatValue cmm VdxfKeys.sessionParams).map tryParseJson) name :=
      fun name => (memberOf_objectType _ name).trans (memberOf_leniently _ name)
    rw [sessionRead, DocumentWithin,
      ← membersWithin_congr fun name (_ : name ∈ sessionLimits) => member name]
    cases (leniently (flatValue cmm VdxfKeys.sessionParams)).filter isObjectType with
    | none =>
        refine iff_of_true ?_ ?_
        · intro session none
          cases none
        · intro name _ value found
          cases found
    | some json =>
        have read : ∀ name, ({ value := json } : DecodedSession).get? name =
            memberOf (some json) name := fun name => Option.or_none
        rw [Option.map_some]
        simp only [Option.some.injEq, forall_eq']
        exact membersWithin_congr fun name _ => read name
  have dispute : MembersWithin disputeNumbers (memberOf result.disputePolicy) ↔
      DocumentWithin disputeNumbers (flatValue cmm VdxfKeys.agentDisputePolicy) := by
    rw [disputeRead]
    exact membersWithin_congr fun name _ => memberOf_leniently _ name
  constructor
  · intro sanitised
    exact ⟨services.mp sanitised.services, session.mp sanitised.session,
      dispute.mp sanitised.disputePolicy⟩
  · intro documents
    refine ⟨services.mpr documents.services, ?_, session.mpr documents.session,
      dispute.mpr documents.disputePolicy, ?_⟩
    · intro markup found
      have read := decodes.markup
      rw [found] at read
      exact presentNumber_within read
    · intro address found
      rw [decodes.assembled] at found
      exact verusAddress_valid found

structure AgentDecodes (data : Option Fields) (profile : DecodedProfile)
    (services : List DecodedService) : Prop where
  services : (∀ service ∈ services, SanitisedService service) ↔
    ∀ fields, data = some fields → ServicesWithin (fields.field "services")
  markup : ∀ markup, profile.markup = some markup → Within 1 50 markup
  payAddress : ∀ address, profile.payAddress = some address → isVerusAddress address = true

theorem legacyAgent_iff {data : Option Fields} {profile : DecodedProfile}
    {services : List DecodedService} (decoded : legacyAgent data = .ok (profile, services)) :
    AgentDecodes data profile services := by
  cases data with
  | none =>
      cases decoded
      constructor
      · refine iff_of_true ?_ ?_
        · intro service member
          cases member
        · intro fields none
          cases none
      · intro markup none
        cases none
      · intro address none
        cases none
  | some fields =>
      simp only [legacyAgent, decodeLegacyAgent, bind_eq_ok, Except.ok.injEq, Prod.mk.injEq]
        at decoded
      rcases decoded with ⟨network, _, blob, _, services, servicesDecoded, models, _, markup,
        markupDecoded, rfl, rfl⟩
      constructor
      · simp only [Option.some.injEq, forall_eq']
        exact sanitisedServices_iff servicesDecoded
      · rintro number rfl
        exact presentNumber_within markupDecoded
      · intro address found
        exact verusAddress_valid found

theorem legacySession_iff {data : Option Fields} {members : SessionMembers}
    (decoded : legacySession data = .ok members) :
    (∀ session, shownSession members = some session →
      MembersWithin sessionLimits session.get?) ↔
        ∀ fields, data = some fields → LegacySessionWithin fields := by
  cases data with
  | none =>
      cases decoded
      refine iff_of_true ?_ ?_
      · intro session none
        cases none
      · intro fields none
        cases none
  | some fields =>
      simp only [Option.some.injEq, forall_eq']
      exact sanitisedSession_iff decoded

theorem sanitisedLegacy_iff {cmm : ContentMultimap} {result : Decoded}
    (decoded : decodeLegacyContentMultimap cmm = .ok result) :
    Sanitised result ↔ LegacyDocumentsWithin cmm := by
  rcases decodeLegacy_eq_ok.mp decoded with ⟨agentData, profile, sessionData, members, decodes⟩
  have agent := legacyAgent_iff decodes.agent
  have session := legacySession_iff decodes.session
  have markup : result.profile.markup = profile.markup := by rw [decodes.assembled]
  have payAddress : result.profile.payAddress = profile.payAddress := by rw [decodes.assembled]
  have shown : result.profile.session = shownSession members := by rw [decodes.assembled]
  constructor
  · intro sanitised
    constructor
    · intro data read
      rw [decodes.agentRead, Except.ok.injEq] at read
      exact agent.services.mp sanitised.services data read
    · intro data read
      rw [decodes.sessionRead, Except.ok.injEq] at read
      apply session.mp _ data read
      rw [← shown]
      exact sanitised.session
  · intro documents
    refine ⟨?_, ?_, ?_, ?_, ?_⟩
    · apply agent.services.mpr
      intro data same
      exact documents.services data (decodes.agentRead.trans (congrArg Except.ok same))
    · rw [markup]
      exact agent.markup
    · rw [shown]
      apply session.mpr
      intro data same
      exact documents.session data (decodes.sessionRead.trans (congrArg Except.ok same))
    · rw [decodes.disputePolicy]
      intro name _ value found
      cases found
    · rw [payAddress]
      exact agent.payAddress

theorem sanitised_iff {cmm : ContentMultimap} {result : Decoded}
    (decoded : decodeContentMultimap cmm = .ok result) :
    Sanitised result ↔ DocumentsWithin cmm := by
  rw [decodeContentMultimap] at decoded
  rw [DocumentsWithin]
  split
  · rename_i legacy
    rw [if_pos legacy] at decoded
    exact sanitisedLegacy_iff decoded
  · rename_i flat
    rw [if_neg flat] at decoded
    exact sanitisedFlat_iff (decodeFlat_eq_ok.mp decoded)

def disputeMap (policy : String) : ContentMultimap :=
  Record.empty.set VdxfKeys.agentDisputePolicy
    (.array [makeSubDD VdxfKeys.agentDisputePolicy policy])

def disputeOnly (policy : Json) : Decoded where
  profile := {}
  services := []
  disputePolicy := some policy

def refunds (percent : Int) : Json := .object [("maxRefundPercent", .number (.ofInt percent))]

theorem sanitised_half_refund :
    decodeContentMultimap (disputeMap "\x7b\"maxRefundPercent\":50\x7d") =
        .ok (disputeOnly (refunds 50)) ∧
      Sanitised (disputeOnly (refunds 50)) := by
  have reads : decodeContentMultimap (disputeMap "\x7b\"maxRefundPercent\":50\x7d") =
        .ok (disputeOnly (refunds 50)) ∧
      isLegacyFormat (disputeMap "\x7b\"maxRefundPercent\":50\x7d") = false ∧
      flatValue (disputeMap "\x7b\"maxRefundPercent\":50\x7d") VdxfKeys.agentServices = none ∧
      flatValue (disputeMap "\x7b\"maxRefundPercent\":50\x7d") VdxfKeys.sessionParams = none ∧
      (flatValue (disputeMap "\x7b\"maxRefundPercent\":50\x7d") VdxfKeys.agentDisputePolicy).map
        tryParseJson = some (refunds 50) := by decide +kernel
  rcases reads with ⟨decoded, flat, services, session, dispute⟩
  refine ⟨decoded, (sanitised_iff decoded).mpr ?_⟩
  rw [DocumentsWithin, flat]
  constructor
  · rw [services]
    intro json none
    cases none
  · rw [session]
    intro name _ value none
    cases none
  · rw [DocumentWithin, dispute]
    intro name _ value found
    simp only [memberOf, Option.bind_some, refunds, Json.get?, Record.lookup_cons] at found
    split at found
    · cases found
      refine ⟨.ofInt 50, rfl, ?_⟩
      change 0 ≤ ((5 : Int) : ℚ) * 10 ^ 1 ∧ ((5 : Int) : ℚ) * 10 ^ 1 ≤ 1000000000000
      norm_num
    · cases found

theorem negative_refund_decoded :
    decodeContentMultimap (disputeMap "\x7b\"maxRefundPercent\":-5\x7d") =
        .ok (disputeOnly (refunds (-5))) ∧
      ¬ Sanitised (disputeOnly (refunds (-5))) := by
  refine ⟨by decide +kernel, ?_⟩
  intro sanitised
  have found : memberOf (disputeOnly (refunds (-5))).disputePolicy "maxRefundPercent" =
      some (.number (.ofInt (-5))) := by
    simp [memberOf, disputeOnly, refunds, Json.get?]
  rcases sanitised.disputePolicy "maxRefundPercent" (by simp [disputeNumbers]) _ found with
    ⟨number, same, within⟩
  cases same
  have nonneg : 0 ≤ ((-5 : Int) : ℚ) * 10 ^ 0 := within.1
  norm_num at nonneg

end SovAgent.Onboarding

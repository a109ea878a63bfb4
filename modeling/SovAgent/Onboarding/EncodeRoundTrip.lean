import SovAgent.Onboarding.DecodeHostile
import SovAgent.Onboarding.Encode

/-! # Building a map and decoding it

Every field of a profile comes back from its own key. A service comes back but
for its prices: the first entry of the pricing is read as the service's own
price, whether or not the service has one.
-/

namespace SovAgent.Onboarding

/-! ## What should come back -/

def filledJson (text : Option String) : Option Json := (filled text).map .string

def acceptedJson (accepted : CurrencyPrice) : AcceptedCurrency where
  currency := some (.string accepted.currency)
  price := accepted.price

def ServiceInput.published (svc : ServiceInput) : DecodedService where
  name := .string svc.name
  description := filledJson svc.description
  category := filledJson svc.category
  price := svc.price
  currency := filledJson svc.currency
  turnaround := filledJson svc.turnaround
  paymentTerms := filledJson svc.paymentTerms
  privateMode := svc.privateMode
  sovguard := svc.sovguard
  status := some (.string ((filled svc.status).getD "active"))
  acceptedCurrencies := (listed svc.acceptedCurrencies).map (List.map acceptedJson)
  resolutionWindow := svc.resolutionWindow
  refundPolicy := svc.refundPolicy.map Document.json
  costBreakdown := svc.costBreakdown.map Document.json

def listedJson (texts : Option (List String)) : Option Json := (listed texts).map textsJson

def AgentProfileInput.published (profile : AgentProfileInput) : DecodedProfile where
  name := some (.string profile.name)
  type := some (.string profile.type)
  description := some (.string profile.description)
  payAddress := profile.payAddress
  network := objectOf [
    ("capabilities", listedJson (profile.network.bind NetworkInput.capabilities)),
    ("endpoints", listedJson (profile.network.bind NetworkInput.endpoints)),
    ("protocols", listedJson (profile.network.bind NetworkInput.protocols))]
  profile := objectOf [
    ("tags", listedJson (profile.profile.bind ProfileInput.tags)),
    ("website", filledJson (profile.profile.bind ProfileInput.website)),
    ("avatar", filledJson (profile.profile.bind ProfileInput.avatar)),
    ("category", filledJson (profile.profile.bind ProfileInput.category))]
  models := (listed profile.models).map (List.map .string)
  markup := profile.markup
  session := (profile.session.filter Document.nonempty).map fun document =>
    { value := document.json }
  platformConfig := (profile.platformConfig.filter Document.nonempty).map Document.json
  workspaceCapability := profile.workspaceCapability.map Document.json

def published (profile : AgentProfileInput) (services : List ServiceInput)
    (disputePolicy : Option Document) : Decoded where
  profile := profile.published
  services := services.map ServiceInput.published
  disputePolicy := disputePolicy.map Document.json

/-! ## Numbers -/

theorem toNumber_toString (number : Decimal) :
    toNumber (some (.string number.toString)) = .ok (.finite number) :=
  congrArg Except.ok (ofText_toString number)

theorem safeNumber_finite {number : Decimal} {value : Option Json}
    (read : toNumber value = .ok (.finite number)) (min max : ℚ) :
    safeNumber value min max =
      .ok ((some number).filter fun number => min ≤ number.toRat ∧ number.toRat ≤ max) := by
  have outside : number.toRat < min ∨ max < number.toRat ↔
      ¬ (min ≤ number.toRat ∧ number.toRat ≤ max) := by
    rw [not_and_or, not_le, not_le]
  simp only [safeNumber, read, Option.filter_some, decide_eq_true_eq]
  refine congrArg Except.ok ?_
  by_cases inside : min ≤ number.toRat ∧ number.toRat ≤ max
  · rw [if_neg (mt outside.mp (not_not.mpr inside)), if_pos inside]
  · rw [if_pos (outside.mpr inside), if_neg inside]

theorem safeNumber_number {number : Decimal} {min max : ℚ} {value : Option Json}
    (read : toNumber value = .ok (.finite number)) (lower : min ≤ number.toRat)
    (upper : number.toRat ≤ max) : safeNumber value min max = .ok (some number) := by
  rw [safeNumber_finite read, Option.filter_some, if_pos (decide_eq_true ⟨lower, upper⟩)]

/-! ## Prices -/

def PriceInRange (price : Decimal) : Prop := 0 ≤ price.toRat ∧ price.toRat ≤ vdxfMaxPrice

structure Priced (svc : ServiceInput) : Prop where
  price : ∀ price, svc.price = some price → PriceInRange price
  accepted : ∀ accepted ∈ svc.acceptedCurrencies.getD [], PriceInRange accepted.price
  count : (svc.acceptedCurrencies.getD []).length ≤ 49

theorem entryPrice_pricingEntry {accepted : CurrencyPrice} (inside : PriceInRange accepted.price) :
    entryPrice (pricingEntry accepted) = .ok (some accepted.price) := by
  have amount : property (pricingEntry accepted) "amount" =
      .ok (some (.string accepted.price.toString)) := rfl
  rw [entryPrice, amount]
  exact safeNumber_number (toNumber_toString accepted.price) inside.1 inside.2

theorem acceptedCurrency_pricingEntry {accepted : CurrencyPrice}
    (inside : PriceInRange accepted.price) :
    acceptedCurrency (pricingEntry accepted) = .ok (some (acceptedJson accepted)) := by
  have currency : property (pricingEntry accepted) "currency" =
      .ok (some (.string accepted.currency)) := rfl
  rw [acceptedCurrency, currency, entryPrice_pricingEntry inside]
  rfl

theorem reduceOption_map_some (convert : α → β) (items : List α) :
    (items.map fun item => some (convert item)).reduceOption = items.map convert := by
  change (items.map fun item => some (convert item)).filterMap id = items.map convert
  rw [List.filterMap_map]
  exact congrFun List.filterMap_eq_map' items

/-- The first of the prices is read as the service's own. -/
def decodedPricing : List CurrencyPrice → Pricing
  | [] => {}
  | first :: others => {
      price := some first.price
      currency := some (.string first.currency)
      acceptedCurrencies := (listed (some others)).map (List.map acceptedJson) }

theorem decodePricing_prices {json : Json} {prices : List CurrencyPrice}
    (written : json.get? "pricing" = (listed (some (prices.map pricingEntry))).map .array)
    (inside : ∀ accepted ∈ prices, PriceInRange accepted.price) (count : prices.length ≤ 50) :
    decodePricing json = .ok (decodedPricing prices) := by
  cases prices with
  | nil =>
      rw [decodePricing, written]
      rfl
  | cons first others =>
      rcases List.forall_mem_cons.mp inside with ⟨firstInside, othersInside⟩
      have all : ((first :: others).map pricingEntry).take 50 =
          pricingEntry first :: others.map pricingEntry := by
        rw [List.take_of_length_le (by rw [List.length_map]; exact count)]
        rfl
      have found : json.get? "pricing" = some (.array ((first :: others).map pricingEntry)) :=
        written
      rw [decodePricing, found]
      dsimp only
      rw [all]
      cases others with
      | nil =>
          simp only [List.map_nil, entryPrice_pricingEntry firstInside]
          rfl
      | cons second rest =>
          have collected : ((second :: rest).map pricingEntry).mapM acceptedCurrency =
              .ok ((second :: rest).map fun accepted => some (acceptedJson accepted)) :=
            mapM_map_eq_ok fun accepted member =>
              acceptedCurrency_pricingEntry (othersInside accepted member)
          rw [List.map_cons] at collected
          simp only [List.map_cons, entryPrice_pricingEntry firstInside, collected]
          let pricing (accepted : List AcceptedCurrency) : Pricing := {
            price := some first.price
            currency := some (.string first.currency)
            acceptedCurrencies := some accepted }
          exact congrArg (fun accepted => Except.ok (pricing accepted))
            (reduceOption_map_some acceptedJson (second :: rest))

theorem prices_inRange {svc : ServiceInput} (priced : Priced svc) :
    ∀ accepted ∈ svc.prices, PriceInRange accepted.price := by
  intro accepted member
  rcases List.mem_append.mp member with own | among
  · split at own
    · rename_i price currency found _
      rw [List.mem_singleton.mp own]
      exact priced.price price found
    · cases own
  · exact priced.accepted accepted among

theorem length_prices {svc : ServiceInput} (priced : Priced svc) : svc.prices.length ≤ 50 := by
  have few := priced.count
  rw [ServiceInput.prices]
  split
  · rw [List.length_append, List.length_singleton]
    omega
  · rw [List.nil_append]
    omega

/-! ## Services -/

theorem serializeService_get? (svc : ServiceInput) (key : String) :
    (serializeService svc).get? key = ((serviceMembers svc).lookup key).join :=
  lookup_present (by simp [serviceMembers]) key

theorem presentNumber_window (window : Option Decimal) (max : ℚ) :
    presentNumber (window.map Json.number) 0 max =
      .ok (window.filter fun number => 0 ≤ number.toRat ∧ number.toRat ≤ max) := by
  cases window with
  | none => rfl
  | some number => exact safeNumber_finite rfl 0 max

theorem parsedDocument_json (document : Option Document) :
    parsedDocument (document.map Document.json) = .ok (document.map Document.json) := by
  cases document <;> rfl

theorem decodeFlag_bool (flag : Option Bool) : decodeFlag (flag.map Json.bool) = flag := by
  rcases flag with _ | _ | _ <;> rfl

def ServiceInput.decoded (svc : ServiceInput) : DecodedService :=
  { svc.published with
    price := (decodedPricing svc.prices).price
    currency := (decodedPricing svc.prices).currency
    acceptedCurrencies := (decodedPricing svc.prices).acceptedCurrencies
    resolutionWindow := svc.resolutionWindow.filter fun window =>
      0 ≤ window.toRat ∧ window.toRat ≤ vdxfMaxNumber }

theorem decodeService_serializeService {svc : ServiceInput} (named : svc.name ≠ "")
    (priced : Priced svc) : decodeService (serializeService svc) = .ok (some svc.decoded) := by
  have member := serializeService_get? svc
  have pricing := decodePricing_prices (member "pricing") (prices_inRange priced)
    (length_prices priced)
  have truthy : (Json.string svc.name).truthy = true := by simpa [Json.truthy] using named
  have window : presentNumber ((serializeService svc).get? "resolutionWindow") 0 vdxfMaxNumber =
      .ok (svc.decoded.resolutionWindow) :=
    (congrArg (presentNumber · 0 vdxfMaxNumber) (member "resolutionWindow")).trans
      (presentNumber_window _ _)
  have refund : parsedDocument ((serializeService svc).get? "refundPolicy") =
      .ok svc.decoded.refundPolicy :=
    (congrArg parsedDocument (member "refundPolicy")).trans (parsedDocument_json _)
  have cost : parsedDocument ((serializeService svc).get? "costBreakdown") =
      .ok svc.decoded.costBreakdown :=
    (congrArg parsedDocument (member "costBreakdown")).trans (parsedDocument_json _)
  have privateMode : decodeFlag ((serializeService svc).get? "privateMode") = svc.privateMode :=
    (congrArg decodeFlag (member "privateMode")).trans (decodeFlag_bool _)
  have sovguard : decodeFlag ((serializeService svc).get? "sovguard") = svc.sovguard :=
    (congrArg decodeFlag (member "sovguard")).trans (decodeFlag_bool _)
  have name : ((serializeService svc).get? "name").filter Json.truthy =
      some (.string svc.name) :=
    (congrArg (Option.filter Json.truthy) (member "name")).trans
      (Option.filter_some.trans (if_pos truthy))
  refine decodeService_eq_some.mpr ⟨by simp [serializeService], _, name, ?_⟩
  simp only [decodeNamedService, pricing, window, refund, cost, privateMode, sovguard]
  simp only [member]
  rfl

/-- The service has a price with its currency, or no price of any kind. -/
def PricedFully (svc : ServiceInput) : Prop :=
  (svc.price.isSome ∧ (filled svc.currency).isSome) ∨
    (svc.price = none ∧ filled svc.currency = none ∧ listed svc.acceptedCurrencies = none)

structure PricesKept (svc : ServiceInput) : Prop where
  price : (decodedPricing svc.prices).price = svc.price
  currency : (decodedPricing svc.prices).currency = filledJson svc.currency
  acceptedCurrencies : (decodedPricing svc.prices).acceptedCurrencies =
    (listed svc.acceptedCurrencies).map (List.map acceptedJson)

theorem listed_getD (items : Option (List α)) : listed (some (items.getD [])) = listed items := by
  cases items <;> rfl

theorem listed_eq_none {items : Option (List α)} : listed items = none ↔ items.getD [] = [] := by
  rw [← listed_getD, listed, Option.filter_some]
  cases items.getD [] <;> simp

theorem pricesKept_iff {svc : ServiceInput} : PricesKept svc ↔ PricedFully svc := by
  by_cases full : svc.price.isSome ∧ (filled svc.currency).isSome
  · refine iff_of_true ?_ (.inl full)
    rcases Option.isSome_iff_exists.mp full.1 with ⟨price, priced⟩
    rcases Option.isSome_iff_exists.mp full.2 with ⟨currency, named⟩
    have prices : svc.prices =
        { currency, price } :: svc.acceptedCurrencies.getD [] := by
      rw [ServiceInput.prices, priced, named]
      rfl
    constructor
    · rw [prices, priced]
      rfl
    · rw [prices, filledJson, named]
      rfl
    · rw [prices, ← listed_getD]
      rfl
  · have prices : svc.prices = svc.acceptedCurrencies.getD [] := by
      rw [ServiceInput.prices]
      split
      · rename_i priced named
        rw [priced, named] at full
        exact absurd ⟨rfl, rfl⟩ full
      · rfl
    rw [PricedFully, or_iff_right full, listed_eq_none]
    constructor
    · intro kept
      have price := kept.price
      have currency := kept.currency
      rw [prices] at price currency
      cases accepted : svc.acceptedCurrencies.getD [] with
      | nil =>
          rw [accepted] at price currency
          exact ⟨price.symm, Option.map_eq_none_iff.mp currency.symm, rfl⟩
      | cons first others =>
          -- The first accepted currency stands in the place of the price.
          rw [accepted] at price currency
          rcases Option.map_eq_some_iff.mp currency.symm with ⟨own, named, _⟩
          rw [← price, named] at full
          exact absurd ⟨rfl, rfl⟩ full
    · rintro ⟨unpriced, unnamed, empty⟩
      rw [empty] at prices
      constructor
      · rw [prices, unpriced]
        rfl
      · rw [prices, filledJson, unnamed]
        rfl
      · rw [prices, listed_eq_none.mpr empty]
        rfl

structure Preserved (svc : ServiceInput) : Prop where
  pricing : PricedFully svc
  resolutionWindow : ∀ window, svc.resolutionWindow = some window →
    0 ≤ window.toRat ∧ window.toRat ≤ vdxfMaxNumber

theorem decoded_eq_published_iff {svc : ServiceInput} :
    svc.decoded = svc.published ↔ Preserved svc := by
  have window : (svc.resolutionWindow.filter fun window =>
      0 ≤ window.toRat ∧ window.toRat ≤ vdxfMaxNumber) = svc.resolutionWindow ↔
        ∀ window, svc.resolutionWindow = some window →
          0 ≤ window.toRat ∧ window.toRat ≤ vdxfMaxNumber := by
    cases svc.resolutionWindow with
    | none => simp
    | some number => simp [Option.filter_some]
  constructor
  · intro same
    constructor
    · apply pricesKept_iff.mp
      exact ⟨congrArg DecodedService.price same, congrArg DecodedService.currency same,
        congrArg DecodedService.acceptedCurrencies same⟩
    · exact window.mp (congrArg DecodedService.resolutionWindow same)
  · intro preserved
    have kept := pricesKept_iff.mpr preserved.pricing
    rw [ServiceInput.decoded, kept.price, kept.currency, kept.acceptedCurrencies,
      window.mpr preserved.resolutionWindow]
    rfl

/-! ## Texts of JSON -/

theorem distinctItems_map {items : List α} {convert : α → Json}
    (each : ∀ item ∈ items, (convert item).Distinct) : Json.DistinctItems (items.map convert) := by
  induction items with
  | nil => trivial
  | cons item items induction =>
      rcases List.forall_mem_cons.mp each with ⟨first, others⟩
      exact ⟨first, induction others⟩

theorem distinct_textsJson (texts : List String) : (textsJson texts).Distinct :=
  distinctItems_map fun _ _ => trivial

theorem distinct_pricingEntry (accepted : CurrencyPrice) : (pricingEntry accepted).Distinct := by
  simp [pricingEntry, Json.Distinct, Json.DistinctMembers]

theorem distinct_present {members : List (String × Option Json)}
    (names : (members.map Prod.fst).Nodup)
    (values : ∀ entry ∈ members, ∀ value, entry.2 = some value → value.Distinct) :
    (Json.object (members.filterMap fun entry =>
      entry.2.map fun value => (entry.1, value))).Distinct := by
  induction members with
  | nil => exact ⟨List.nodup_nil, trivial⟩
  | cons head members induction =>
      rcases head with ⟨name, value⟩
      rcases List.nodup_cons.mp names with ⟨fresh, rest⟩
      rcases List.forall_mem_cons.mp values with ⟨first, others⟩
      rcases induction rest others with ⟨keys, distinct⟩
      cases value with
      | none => exact ⟨keys, distinct⟩
      | some value =>
          refine ⟨List.nodup_cons.mpr ⟨?_, keys⟩, first value rfl, distinct⟩
          intro member
          rcases List.mem_map.mp member with ⟨entry, present, same⟩
          rcases List.mem_filterMap.mp present with ⟨source, among, made⟩
          rcases Option.map_eq_some_iff.mp made with ⟨_, _, rfl⟩
          exact fresh (same ▸ List.mem_map.mpr ⟨source, among, rfl⟩)

theorem distinct_map {convert : α → Json} {value : Option α} {json : Json}
    (each : ∀ item, (convert item).Distinct) (found : value.map convert = some json) :
    json.Distinct := by
  rcases Option.map_eq_some_iff.mp found with ⟨item, _, rfl⟩
  exact each item

theorem distinct_pricing {svc : ServiceInput} {json : Json}
    (found : (listed (some (svc.prices.map pricingEntry))).map Json.array = some json) :
    json.Distinct := by
  rcases Option.map_eq_some_iff.mp found with ⟨entries, kept, rfl⟩
  rcases Option.filter_eq_some_iff.mp kept with ⟨same, _⟩
  cases same
  exact distinctItems_map fun accepted _ => distinct_pricingEntry accepted

theorem distinct_serializeService (svc : ServiceInput) : (serializeService svc).Distinct := by
  apply distinct_present (by simp [serviceMembers])
  have text : ∀ text, (Json.string text).Distinct := fun _ => trivial
  have flag : ∀ flag, (Json.bool flag).Distinct := fun _ => trivial
  have number : ∀ number, (Json.number number).Distinct := fun _ => trivial
  have document : ∀ document : Document, document.json.Distinct := Document.distinct
  simp only [serviceMembers, List.forall_mem_cons, List.not_mem_nil, false_implies, implies_true,
    and_true]
  exact ⟨fun _ name => Option.some.inj name ▸ text _,
    fun _ status => Option.some.inj status ▸ text _, fun _ => distinct_map text,
    fun _ => distinct_map text, fun _ => distinct_pricing, fun _ => distinct_map text,
    fun _ => distinct_map text, fun _ => distinct_map flag, fun _ => distinct_map flag,
    fun _ => distinct_map number, fun _ => distinct_map document,
    fun _ => distinct_map document⟩

theorem distinct_serializeServiceArray (services : List ServiceInput) :
    (serializeServiceArray services).Distinct :=
  distinctItems_map fun svc _ => distinct_serializeService svc

theorem truthy_stringify {value : Json} (distinct : value.Distinct) :
    (Json.string value.stringify).truthy = true := by
  have filled : value.stringify ≠ "" := by
    intro empty
    have parsed := Json.parse_stringify distinct
    rw [empty] at parsed
    cases parsed
  simpa [Json.truthy] using filled

theorem leniently_stringify {value : Json} (distinct : value.Distinct) :
    leniently (some (.string value.stringify)) = some value := by
  rw [leniently, Option.filter_some, if_pos (truthy_stringify distinct), Option.map_some,
    tryParseJson, Json.parse_stringify distinct]
  rfl

theorem leniently_textsText (texts : Option (List String)) :
    leniently ((textsText texts).map .string) = listedJson texts := by
  rw [textsText, listedJson]
  cases listed texts with
  | none => rfl
  | some texts => exact leniently_stringify (distinct_textsJson texts)

theorem leniently_documentText (document : Option Document) :
    leniently ((documentText document).map .string) = document.map Document.json := by
  cases document with
  | none => rfl
  | some document => exact leniently_stringify document.distinct

theorem filled_truthy (text : Option String) :
    ((filled text).map Json.string).filter Json.truthy = filledJson text := by
  cases text with
  | none => rfl
  | some text =>
      by_cases empty : text = ""
      · subst empty
        rfl
      · simp [filled, filledJson, empty, Json.truthy, Option.filter_some]

theorem decodeServices_servicesText {services : List ServiceInput}
    (named : ∀ svc ∈ services, svc.name ≠ "") (priced : ∀ svc ∈ services, Priced svc)
    (count : services.length ≤ vdxfMaxServices) :
    decodeServices ((servicesText services).map .string) =
      .ok (services.map ServiceInput.decoded) := by
  cases services with
  | nil => rfl
  | cons first others =>
      have distinct := distinct_serializeServiceArray (first :: others)
      have items : serviceItems (.string (serializeServiceArray (first :: others)).stringify) =
          .ok ((first :: others).map serializeService) := by
        have short : ((first :: others).map serializeService).length ≤ vdxfMaxServices := by
          rw [List.length_map]
          exact count
        rw [serviceItems_text (Json.parse_stringify distinct)]
        exact congrArg Except.ok (List.take_of_length_le short)
      have collected : ((first :: others).map serializeService).mapM decodeService =
          .ok ((first :: others).map fun svc => some svc.decoded) :=
        mapM_map_eq_ok fun svc member =>
          decodeService_serializeService (named svc member) (priced svc member)
      have written : (servicesText (first :: others)).map Json.string =
          some (.string (serializeServiceArray (first :: others)).stringify) := rfl
      rw [written, decodeServices, Option.filter_some, if_pos (truthy_stringify distinct)]
      dsimp only
      rw [decodeServicesArray, items]
      exact bind_eq_ok.mpr ⟨_, rfl, bind_eq_ok.mpr ⟨_, collected,
        congrArg Except.ok (reduceOption_map_some ServiceInput.decoded (first :: others))⟩⟩

/-! ## The whole map -/

section Built

variable (profile : AgentProfileInput) (services : List ServiceInput)
variable (disputePolicy : Option Document)

def builtMap : ContentMultimap :=
  (buildAgentContentMultimap (some profile) services disputePolicy).mapValues Json.array

def builtValue (key : String) : Option Json :=
  ((agentTexts profile services disputePolicy).lookup key).join.map Json.string

theorem agentTexts_distinct :
    ((agentTexts profile services disputePolicy).map Prod.fst).Nodup := by
  simp only [agentTexts, List.map_cons, List.map_nil]
  decide +kernel

theorem builtMap_get? (key : String) : (builtMap profile services disputePolicy).get? key =
    ((agentTexts profile services disputePolicy).lookup key).join.map
      fun text => .array [makeSubDD key text] := by
  have written := writeTexts_get? (agentTexts_distinct profile services disputePolicy)
    Record.empty key
  rw [builtMap, Record.get?_mapValues]
  refine (congrArg (Option.map Json.array) written).trans ?_
  cases ((agentTexts profile services disputePolicy).lookup key).join <;> rfl

theorem flatEntry_builtMap (key : String) :
    flatEntry (builtMap profile services disputePolicy) key =
      .ok (builtValue profile services disputePolicy key) := by
  have found := builtMap_get? profile services disputePolicy key
  rw [builtValue]
  cases text : ((agentTexts profile services disputePolicy).lookup key).join with
  | none =>
      rw [text] at found
      exact flatEntry_missing found
  | some text' =>
      rw [text] at found
      exact flatEntry_subDD found

theorem builtMap_flat : isLegacyFormat (builtMap profile services disputePolicy) = false := by
  apply not_legacy_of_key (by decide : VdxfKeys.agentDisplayName ∈ agentKeys)
  rw [builtMap_get?]
  rfl

end Built

structure Publishable (profile : AgentProfileInput) (services : List ServiceInput) : Prop where
  name : profile.name ≠ ""
  type : profile.type ≠ ""
  description : profile.description ≠ ""
  payAddress : ∀ address, profile.payAddress = some address → isVerusAddress address = true
  markup : ∀ markup, profile.markup = some markup → 1 ≤ markup.toRat ∧ markup.toRat ≤ 50
  count : services.length ≤ vdxfMaxServices
  named : ∀ svc ∈ services, svc.name ≠ ""
  priced : ∀ svc ∈ services, Priced svc

theorem presentNumber_markup {markup : Option Decimal}
    (inside : ∀ number, markup = some number → 1 ≤ number.toRat ∧ number.toRat ≤ 50) :
    presentNumber (((markup.filter fun markup => 1 ≤ markup.toRat ∧ markup.toRat ≤ 50).map
      Decimal.toString).map Json.string) 1 50 = .ok markup := by
  cases markup with
  | none => rfl
  | some number =>
      rcases inside number rfl with ⟨lower, upper⟩
      rw [Option.filter_some, if_pos (decide_eq_true ⟨lower, upper⟩)]
      exact safeNumber_number (toNumber_toString number) lower upper

theorem verusAddress_filled {address : Option String}
    (valid : ∀ text, address = some text → isVerusAddress text = true) :
    verusAddress ((filled address).map Json.string) = address := by
  cases address with
  | none => rfl
  | some text =>
      have filledText : text ≠ "" := by
        rintro rfl
        exact absurd (valid "" rfl) (by decide)
      have kept : filled (some text) = some text := by
        rw [filled, Option.filter_some, if_pos (decide_eq_true filledText)]
      rw [kept]
      exact if_pos (valid text rfl)

theorem jsonArray_listedJson (texts : Option (List String)) :
    jsonArray (listedJson texts) = (listed texts).map (List.map .string) := by
  rw [listedJson]
  cases listed texts <;> rfl

theorem objectType_json (document : Option Document) :
    (document.map Document.json).filter isObjectType = document.map Document.json := by
  cases document <;> rfl

structure ReadBack (profile : AgentProfileInput) (services : List ServiceInput)
    (disputePolicy : Option Document) (value : String → Option Json) : Prop where
  name : (value VdxfKeys.agentDisplayName).filter Json.truthy = profile.published.name
  type : (value VdxfKeys.agentType).filter Json.truthy = profile.published.type
  description : (value VdxfKeys.agentDescription).filter Json.truthy =
    profile.published.description
  payAddress : verusAddress (value VdxfKeys.agentPayAddress) = profile.payAddress
  services : decodeServices (value VdxfKeys.agentServices) =
    .ok (services.map ServiceInput.decoded)
  capabilities : leniently (value VdxfKeys.agentNetworkCapabilities) =
    listedJson (profile.network.bind NetworkInput.capabilities)
  endpoints : leniently (value VdxfKeys.agentNetworkEndpoints) =
    listedJson (profile.network.bind NetworkInput.endpoints)
  protocols : leniently (value VdxfKeys.agentNetworkProtocols) =
    listedJson (profile.network.bind NetworkInput.protocols)
  tags : leniently (value VdxfKeys.agentProfileTags) =
    listedJson (profile.profile.bind ProfileInput.tags)
  website : (value VdxfKeys.agentProfileWebsite).filter Json.truthy =
    filledJson (profile.profile.bind ProfileInput.website)
  avatar : (value VdxfKeys.agentProfileAvatar).filter Json.truthy =
    filledJson (profile.profile.bind ProfileInput.avatar)
  category : (value VdxfKeys.agentProfileCategory).filter Json.truthy =
    filledJson (profile.profile.bind ProfileInput.category)
  models : leniently (value VdxfKeys.agentModels) = listedJson profile.models
  markup : presentNumber (value VdxfKeys.agentMarkup) 1 50 = .ok profile.markup
  session : leniently (value VdxfKeys.sessionParams) =
    (profile.session.filter Document.nonempty).map Document.json
  platformConfig : leniently (value VdxfKeys.platformConfig) =
    (profile.platformConfig.filter Document.nonempty).map Document.json
  workspaceCapability : leniently (value VdxfKeys.workspaceCapability) =
    profile.workspaceCapability.map Document.json
  disputePolicy : leniently (value VdxfKeys.agentDisputePolicy) =
    disputePolicy.map Document.json

section Decoded

variable {profile : AgentProfileInput} {services : List ServiceInput}
variable {disputePolicy : Option Document}

theorem truthy_text {text : String} (filledText : text ≠ "") :
    (some (Json.string text)).filter Json.truthy = some (.string text) := by
  rw [Option.filter_some, if_pos]
  simpa [Json.truthy] using filledText

theorem readBack_builtMap (publishable : Publishable profile services) :
    ReadBack profile services disputePolicy (builtValue profile services disputePolicy) where
  name := truthy_text publishable.name
  type := truthy_text publishable.type
  description := truthy_text publishable.description
  payAddress := verusAddress_filled publishable.payAddress
  services := decodeServices_servicesText publishable.named publishable.priced publishable.count
  capabilities := leniently_textsText _
  endpoints := leniently_textsText _
  protocols := leniently_textsText _
  tags := leniently_textsText _
  website := filled_truthy _
  avatar := filled_truthy _
  category := filled_truthy _
  models := leniently_textsText _
  markup := presentNumber_markup publishable.markup
  session := leniently_documentText _
  platformConfig := leniently_documentText _
  workspaceCapability := leniently_documentText _
  disputePolicy := leniently_documentText _

theorem flatDecoded_readBack {value : String → Option Json}
    (back : ReadBack profile services disputePolicy value) :
    flatDecoded value (services.map ServiceInput.decoded) profile.markup =
      { published profile services disputePolicy with
        services := services.map ServiceInput.decoded } := by
  simp only [flatDecoded, back.name, back.type, back.description, back.payAddress,
    back.capabilities, back.endpoints, back.protocols, back.tags, back.website, back.avatar,
    back.category, back.models, back.session, back.platformConfig, back.workspaceCapability,
    back.disputePolicy, jsonArray_listedJson, objectType_json, Option.map_map]
  rfl

theorem decode_builtMap (publishable : Publishable profile services) :
    decodeContentMultimap (builtMap profile services disputePolicy) =
      .ok { published profile services disputePolicy with
        services := services.map ServiceInput.decoded } := by
  have back : ReadBack profile services disputePolicy _ := readBack_builtMap publishable
  rw [decodeContentMultimap, builtMap_flat]
  simp only [Bool.false_eq_true, if_false]
  rw [decodeFlat_of_read fun key _ => flatEntry_builtMap profile services disputePolicy key,
    back.services, back.markup]
  exact congrArg Except.ok (flatDecoded_readBack back)

theorem decode_build_iff (publishable : Publishable profile services) :
    decodeContentMultimap (builtMap profile services disputePolicy) =
      .ok (published profile services disputePolicy) ↔ ∀ svc ∈ services, Preserved svc := by
  rw [decode_builtMap publishable, Except.ok.injEq, published, Decoded.mk.injEq]
  simp only [true_and, and_true, List.map_inj_left, decoded_eq_published_iff]

end Decoded

def bot : AgentProfileInput where
  name := "Bot"
  type := "autonomous"
  description := "Answers questions"

def chat (price : Option Decimal) (currency : Option String) : ServiceInput where
  name := "chat"
  price := price
  currency := currency
  acceptedCurrencies := some [{ currency := "VRSC", price := 5 }]

theorem fiveInRange : PriceInRange 5 := by
  have bounds : 0 ≤ (5 : Decimal).toRat ∧ (5 : Decimal).toRat ≤ vdxfMaxPrice := by decide +kernel
  exact bounds

theorem publishable_chat {price : Option Decimal} {currency : Option String}
    (inside : ∀ own, price = some own → PriceInRange own) :
    Publishable bot [chat price currency] where
  name := by decide
  type := by decide
  description := by decide
  payAddress := by simp [bot]
  markup := by simp [bot]
  count := by simp [vdxfMaxServices]
  named := by simp [chat]
  priced := by
    intro svc member
    rw [List.mem_singleton.mp member]
    refine ⟨inside, ?_, by simp [chat]⟩
    intro accepted among
    rw [List.mem_singleton.mp among]
    exact fiveInRange

theorem decode_build_priced :
    decodeContentMultimap (builtMap bot [chat (some 5) (some "USD")] none) =
      .ok (published bot [chat (some 5) (some "USD")] none) := by
  have publishable : Publishable bot [chat (some 5) (some "USD")] :=
    publishable_chat fun own same => Option.some.inj same ▸ fiveInRange
  apply (decode_build_iff publishable).mpr
  intro svc member
  rw [List.mem_singleton.mp member]
  refine ⟨.inl ⟨rfl, rfl⟩, ?_⟩
  intro window none
  cases none

/-- Without a price of its own, the service comes back with one. -/
theorem build_moves_accepted_currency :
    Publishable bot [chat none none] ∧ (chat none none).price = none ∧
    ∃ result, decodeContentMultimap (builtMap bot [chat none none] none) = .ok result ∧
      result.services.map DecodedService.price = [some 5] ∧
      result ≠ published bot [chat none none] none := by
  have publishable : Publishable bot [chat none none] := publishable_chat (by simp)
  refine ⟨publishable, rfl, _, decode_builtMap publishable, rfl, ?_⟩
  intro same
  have prices := congrArg (fun result => result.services.map DecodedService.price) same
  cases prices

end SovAgent.Onboarding

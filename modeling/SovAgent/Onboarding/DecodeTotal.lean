import SovAgent.Onboarding.DecodeSteps

/-! # When a contentmultimap decodes

The decoder throws on some values that a publisher can write: a text that is no
JSON where it is parsed without a guard, `null` where a member is read, and an
object that hides `toString` where a number or a key is expected.
-/

namespace SovAgent.Onboarding

/-! ## Values -/

/-- The length of what stands in place of the entries converts to a number. -/
def Countable (entries : Option Json) : Prop :=
  ∀ members length, entries = some (.object members) →
    (members.lookup "length").filter Json.truthy = some length → length.Convertible

theorem lastEntry_isOk_iff {entries : Option Json} :
    (∃ last, lastEntry entries = .ok last) ↔ Countable entries := by
  cases entries with
  | none => simp [lastEntry, Countable]
  | some entries =>
      cases entries with
      | object members =>
          rw [lastEntry]
          cases found : (members.lookup "length").filter Json.truthy with
          | none =>
              refine ⟨?_, fun _ => ⟨none, rfl⟩⟩
              rintro _ _ length same lengthFound
              cases same
              rw [found] at lengthFound
              cases lengthFound
          | some length =>
              have converts := @toNumber_isOk_iff (some length)
              constructor
              · rintro ⟨last, read⟩ _ other same lengthFound
                cases same
                rw [found] at lengthFound
                cases lengthFound
                rcases bind_eq_ok.mp read with ⟨number, converted, _⟩
                exact converts.mp ⟨number, converted⟩ length rfl
              · intro countable
                rcases converts.mpr fun json same => (Option.some.inj same) ▸
                  countable members length rfl found with ⟨number, converted⟩
                exact ⟨_, bind_eq_ok.mpr ⟨number, converted, rfl⟩⟩
      | _ => simp [lastEntry, Countable]

theorem flatEntry_isOk_iff {cmm : ContentMultimap} {key : String} :
    (∃ value, flatEntry cmm key = .ok value) ↔ Countable (cmm.get? key) := by
  rw [← lastEntry_isOk_iff]
  simp [flatEntry, parseFlatEntry, bind_eq_ok]

/-- A text that is parsed without a guard is JSON. -/
def Parses (value : Option Json) : Prop :=
  ∀ text, value = some (.string text) → text ≠ "" → ∃ json, Json.parse text = some json

theorem parseJson_isOk_iff {text : String} :
    (∃ json, parseJson text = .ok json) ↔ ∃ json, Json.parse text = some json := by
  rw [parseJson]
  cases Json.parse text <;> simp

theorem parsedDocument_text {text : String} (filled : text ≠ "") :
    parsedDocument (some (.string text)) = (parseJson text).map some := by
  rw [parsedDocument, Option.filter_some, if_pos (by simpa [Json.truthy] using filled)]

theorem parsedDocument_other {json : Json} (other : ∀ text, json ≠ .string text) :
    parsedDocument (some json) = .ok ((some json).filter Json.truthy) := by
  rw [parsedDocument, Option.filter_some]
  split
  · rename_i falsy
    rw [falsy]
  · rename_i text found
    split at found
    · exact absurd (Option.some.inj found) (other text)
    · cases found
  · rename_i value _ found
    rw [found]

theorem parsedDocument_isOk_iff {value : Option Json} :
    (∃ document, parsedDocument value = .ok document) ↔ Parses value := by
  cases value with
  | none => simp [parsedDocument, Parses]
  | some json =>
      by_cases textual : ∃ text, json = .string text
      · rcases textual with ⟨text, rfl⟩
        by_cases empty : text = ""
        · subst empty
          refine ⟨?_, fun _ => ⟨none, rfl⟩⟩
          rintro _ text same filled
          cases same
          exact absurd rfl filled
        · rw [parsedDocument_text empty]
          constructor
          · rintro ⟨document, parsed⟩ other same _
            cases same
            rcases map_eq_ok.mp parsed with ⟨json, found, _⟩
            exact parseJson_isOk_iff.mp ⟨json, found⟩
          · intro parses
            rcases parseJson_isOk_iff.mpr (parses text rfl empty) with ⟨json, found⟩
            exact ⟨some json, map_eq_ok.mpr ⟨json, found, rfl⟩⟩
      · have other : ∀ text, json ≠ .string text := fun text same => textual ⟨text, same⟩
        rw [parsedDocument_other other]
        refine ⟨?_, fun _ => ⟨_, rfl⟩⟩
        rintro _ text same
        exact absurd (Option.some.inj same) (other text)

def Numeral (value : Option Json) : Prop := ∀ json, value = some json → json.Convertible

theorem safeNumber_isOk_iff {value : Option Json} {min max : ℚ} :
    (∃ number, safeNumber value min max = .ok number) ↔ Numeral value := by
  rw [Numeral, ← toNumber_isOk_iff]
  simp only [safeNumber, bind_eq_ok]
  constructor
  · rintro ⟨_, number, converted, _⟩
    exact ⟨number, converted⟩
  · rintro ⟨number, converted⟩
    cases number with
    | finite value => exact ⟨_, _, converted, rfl⟩
    | infinity negative => exact ⟨_, _, converted, rfl⟩
    | nan => exact ⟨_, _, converted, rfl⟩

theorem presentNumber_isOk_iff {value : Option Json} {min max : ℚ} :
    (∃ number, presentNumber value min max = .ok number) ↔ Numeral value := by
  cases value with
  | none => simp [presentNumber, Numeral]
  | some json =>
      by_cases null : json = .null
      · subst null
        refine ⟨?_, fun _ => ⟨none, rfl⟩⟩
        rintro _ json same
        cases same
        trivial
      · rw [presentNumber, Option.filter_some, if_pos (by simpa using null)]
        exact safeNumber_isOk_iff

/-! ## Services -/

def priceOf (entry : Json) : Option Json :=
  ((entry.get? "amount").filter (· ≠ .null)).or (entry.get? "price")

theorem property_eq_ok {value : Json} {key : String} {found : Option Json} :
    property value key = .ok found ↔ value ≠ .null ∧ value.get? key = found := by
  rw [property]
  split <;> simp [*]

theorem entryPrice_isOk_iff {entry : Json} :
    (∃ price, entryPrice entry = .ok price) ↔ entry ≠ .null ∧ Numeral (priceOf entry) := by
  simp only [entryPrice, bind_eq_ok, property_eq_ok]
  constructor
  · rintro ⟨price, amount, ⟨present, rfl⟩, read⟩
    exact ⟨present, safeNumber_isOk_iff.mp ⟨price, read⟩⟩
  · rintro ⟨present, numeral⟩
    rcases safeNumber_isOk_iff.mpr numeral with ⟨price, read⟩
    exact ⟨price, _, ⟨present, rfl⟩, read⟩

theorem acceptedCurrency_isOk_iff {entry : Json} :
    (∃ accepted, acceptedCurrency entry = .ok accepted) ↔
      entry ≠ .null ∧ Numeral (priceOf entry) := by
  rw [← entryPrice_isOk_iff]
  simp only [acceptedCurrency, bind_eq_ok, property_eq_ok, Except.ok.injEq]
  constructor
  · rintro ⟨_, _, _, price, read, _⟩
    exact ⟨price, read⟩
  · rintro ⟨price, read⟩
    exact ⟨_, _, ⟨(entryPrice_isOk_iff.mp ⟨price, read⟩).1, rfl⟩, price, read, rfl⟩

theorem decodePricing_isOk_iff {svc : Json} :
    (∃ pricing, decodePricing svc = .ok pricing) ↔
      ∀ entries, svc.get? "pricing" = some (.array entries) →
        ∀ entry ∈ entries.take 50, entry ≠ .null ∧ Numeral (priceOf entry) := by
  rw [decodePricing]
  split
  · rename_i entries found
    simp only [found, Option.some.injEq, Json.array.injEq, forall_eq']
    split
    · rename_i empty
      simp [empty]
    · rename_i only single
      rw [single, List.forall_mem_singleton, ← entryPrice_isOk_iff]
      simp [bind_eq_ok]
    · rename_i first others split
      rw [split, List.forall_mem_cons, ← entryPrice_isOk_iff]
      simp only [← @acceptedCurrency_isOk_iff, ← mapM_isOk_iff]
      simp [bind_eq_ok]
  · rename_i other
    simp only [Except.ok.injEq, exists_eq', true_iff]
    intro entries found
    exact absurd found (other entries)

/-- What a service needs of its members for its decoding to return. -/
structure DecodableNamed (svc : Json) : Prop where
  pricing : ∀ entries, svc.get? "pricing" = some (.array entries) →
    ∀ entry ∈ entries.take 50, entry ≠ .null ∧ Numeral (priceOf entry)
  resolutionWindow : Numeral (svc.get? "resolutionWindow")
  refundPolicy : Parses (svc.get? "refundPolicy")
  costBreakdown : Parses (svc.get? "costBreakdown")

theorem decodeNamedService_isOk_iff {name svc : Json} :
    (∃ service, decodeNamedService name svc = .ok service) ↔ DecodableNamed svc := by
  simp only [decodeNamedService, bind_eq_ok, Except.ok.injEq]
  constructor
  · rintro ⟨_, pricing, priced, window, windowed, refund, refunded, cost, costed, _⟩
    exact ⟨decodePricing_isOk_iff.mp ⟨_, priced⟩, presentNumber_isOk_iff.mp ⟨_, windowed⟩,
      parsedDocument_isOk_iff.mp ⟨_, refunded⟩, parsedDocument_isOk_iff.mp ⟨_, costed⟩⟩
  · intro decodable
    rcases decodePricing_isOk_iff.mpr decodable.pricing with ⟨_, priced⟩
    rcases (@presentNumber_isOk_iff _ 0 vdxfMaxNumber).mpr decodable.resolutionWindow with
      ⟨_, windowed⟩
    rcases parsedDocument_isOk_iff.mpr decodable.refundPolicy with ⟨_, refunded⟩
    rcases parsedDocument_isOk_iff.mpr decodable.costBreakdown with ⟨_, costed⟩
    exact ⟨_, _, priced, _, windowed, _, refunded, _, costed, rfl⟩

/-- A service without a name is skipped. -/
structure DecodableService (svc : Json) : Prop where
  present : svc ≠ .null
  named : isTruthy (svc.get? "name") = true → DecodableNamed svc

theorem decodeService_eq_some {svc : Json} {service : DecodedService} :
    decodeService svc = .ok (some service) ↔
      svc ≠ .null ∧ ∃ name, (svc.get? "name").filter Json.truthy = some name ∧
        decodeNamedService name svc = .ok service := by
  simp only [decodeService, bind_eq_ok, property_eq_ok]
  constructor
  · rintro ⟨_, ⟨present, rfl⟩, decoded⟩
    refine ⟨present, ?_⟩
    split at decoded
    · rename_i name named
      rcases map_eq_ok.mp decoded with ⟨_, own, same⟩
      cases same
      exact ⟨name, named, own⟩
    · cases decoded
  · rintro ⟨present, name, named, own⟩
    refine ⟨_, ⟨present, rfl⟩, ?_⟩
    rw [named]
    exact map_eq_ok.mpr ⟨service, own, rfl⟩

theorem decodeService_isOk_iff {svc : Json} :
    (∃ service, decodeService svc = .ok service) ↔ DecodableService svc := by
  simp only [decodeService, bind_eq_ok, property_eq_ok]
  constructor
  · rintro ⟨service, name, ⟨present, rfl⟩, decoded⟩
    refine ⟨present, ?_⟩
    intro named
    rcases Option.any_eq_true _ _ |>.mp named with ⟨name, found, truthy⟩
    rw [found, Option.filter_some, if_pos truthy] at decoded
    rcases map_eq_ok.mp decoded with ⟨service, own, _⟩
    exact decodeNamedService_isOk_iff.mp ⟨service, own⟩
  · intro decodable
    cases filtered : (svc.get? "name").filter Json.truthy with
    | none =>
        refine ⟨none, _, ⟨decodable.present, rfl⟩, ?_⟩
        rw [filtered]
    | some name =>
        have truthy := Option.filter_eq_some_iff.mp filtered
        have named : isTruthy (svc.get? "name") = true := by
          rw [isTruthy, truthy.1]
          exact truthy.2
        rcases (@decodeNamedService_isOk_iff name svc).mpr (decodable.named named) with
          ⟨service, own⟩
        refine ⟨some service, _, ⟨decodable.present, rfl⟩, ?_⟩
        rw [filtered]
        exact map_eq_ok.mpr ⟨service, own, rfl⟩

def servicesIn (raw : Json) : List Json :=
  ((jsonArray (some (tryParseJson raw))).getD []).take vdxfMaxServices

/-- A text of services is JSON, and each of them decodes. -/
structure DecodableServices (raw : Option Json) : Prop where
  parses : Parses raw
  each : ∀ json, raw = some json → ∀ svc ∈ servicesIn json, DecodableService svc

theorem serviceItems_text {text : String} {json : Json} (parsed : Json.parse text = some json) :
    serviceItems (.string text) =
      .ok (((jsonArray (some json)).getD []).take vdxfMaxServices) := by
  rw [serviceItems, parseJson, parsed]
  cases json <;> rfl

theorem serviceItems_other {raw : Json} (other : ∀ text, raw ≠ .string text) :
    serviceItems raw = .ok (servicesIn raw) := by
  cases raw with
  | string text => exact absurd rfl (other text)
  | _ => rfl

theorem serviceItems_isOk_iff {raw : Json} :
    (∃ items, serviceItems raw = .ok items) ↔
      ∀ text, raw = .string text → ∃ json, Json.parse text = some json := by
  cases raw with
  | string text =>
      simp only [Json.string.injEq, forall_eq']
      constructor
      · rintro ⟨_, listed⟩
        rcases bind_eq_ok.mp listed with ⟨json, parsed, _⟩
        exact parseJson_isOk_iff.mp ⟨json, parsed⟩
      · rintro ⟨json, parsed⟩
        exact ⟨_, serviceItems_text parsed⟩
  | _ =>
      refine ⟨?_, fun _ => ⟨_, serviceItems_other fun text same => by cases same⟩⟩
      rintro _ text same
      cases same

theorem serviceItems_eq_ok {raw : Json} {items : List Json}
    (listed : serviceItems raw = .ok items) : items = servicesIn raw := by
  by_cases textual : ∃ text, raw = .string text
  · rcases textual with ⟨text, rfl⟩
    rcases serviceItems_isOk_iff.mp ⟨items, listed⟩ text rfl with ⟨json, parsed⟩
    rw [serviceItems_text parsed] at listed
    rw [servicesIn, tryParseJson, parsed]
    exact (Except.ok.inj listed).symm
  · rw [serviceItems_other fun text same => textual ⟨text, same⟩] at listed
    exact (Except.ok.inj listed).symm

theorem decodeServicesArray_isOk_iff {raw : Json} :
    (∃ services, decodeServicesArray raw = .ok services) ↔
      (∀ text, raw = .string text → ∃ json, Json.parse text = some json) ∧
        ∀ svc ∈ servicesIn raw, DecodableService svc := by
  simp only [decodeServicesArray, bind_eq_ok, Except.ok.injEq, ← serviceItems_isOk_iff]
  constructor
  · rintro ⟨_, items, listed, services, collected, _⟩
    refine ⟨⟨items, listed⟩, ?_⟩
    rw [← serviceItems_eq_ok listed]
    exact fun svc member => decodeService_isOk_iff.mp (mapM_isOk_iff.mp ⟨_, collected⟩ svc member)
  · rintro ⟨⟨items, listed⟩, each⟩
    rw [← serviceItems_eq_ok listed] at each
    rcases mapM_isOk_iff.mpr fun svc member => decodeService_isOk_iff.mpr (each svc member) with
      ⟨services, collected⟩
    exact ⟨_, items, listed, services, collected, rfl⟩

theorem decodableServices_of_falsy {raw : Option Json}
    (falsy : raw.filter Json.truthy = none) : DecodableServices raw := by
  cases raw with
  | none =>
      constructor
      · intro text same
        cases same
      · intro json same
        cases same
  | some json =>
      have untrue : json.truthy = false := by
        simpa [Option.filter_some] using falsy
      constructor
      · intro text same filled
        cases same
        simp [Json.truthy, filled] at untrue
      · intro other same svc member
        cases same
        cases json with
        | string text =>
            have empty : text = "" := by simpa [Json.truthy] using untrue
            subst empty
            cases member
        | array items => cases untrue
        | _ => cases member

theorem decodeServices_isOk_iff {raw : Option Json} :
    (∃ services, decodeServices raw = .ok services) ↔ DecodableServices raw := by
  rw [decodeServices]
  cases filtered : raw.filter Json.truthy with
  | none => exact ⟨fun _ => decodableServices_of_falsy filtered, fun _ => ⟨[], rfl⟩⟩
  | some json =>
      rcases Option.filter_eq_some_iff.mp filtered with ⟨rfl, truthy⟩
      dsimp only
      rw [decodeServicesArray_isOk_iff]
      constructor
      · rintro ⟨parses, each⟩
        constructor
        · intro text same _
          exact parses text (Option.some.inj same)
        · intro other same
          cases same
          exact each
      · intro decodable
        refine ⟨?_, decodable.each json rfl⟩
        intro text same
        apply decodable.parses text (congrArg some same)
        rintro rfl
        rw [same] at truthy
        cases truthy

/-! ## The flat format -/

structure FlatDecodable (cmm : ContentMultimap) : Prop where
  countable : ∀ key ∈ flatKeys, Countable (cmm.get? key)
  services : DecodableServices (flatValue cmm VdxfKeys.agentServices)
  markup : Numeral (flatValue cmm VdxfKeys.agentMarkup)

theorem decodeFlat_isOk_iff {cmm : ContentMultimap} :
    (∃ result, decodeFlatContentMultimap cmm = .ok result) ↔ FlatDecodable cmm := by
  simp only [decodeFlat_eq_ok]
  constructor
  · rintro ⟨result, decodes⟩
    exact ⟨fun key member => flatEntry_isOk_iff.mp (decodes.read key member),
      decodeServices_isOk_iff.mp ⟨_, decodes.services⟩,
      presentNumber_isOk_iff.mp ⟨_, decodes.markup⟩⟩
  · intro decodable
    rcases decodeServices_isOk_iff.mpr decodable.services with ⟨services, servicesDecoded⟩
    rcases (@presentNumber_isOk_iff _ 1 50).mpr decodable.markup with ⟨markup, markupDecoded⟩
    exact ⟨flatDecoded (flatValue cmm) services markup,
      fun key member => flatEntry_isOk_iff.mpr (decodable.countable key member),
      servicesDecoded, markupDecoded, rfl⟩

/-! ## The legacy format -/

def Labelled (container : Json) : Prop :=
  ∀ entries, (descriptorOf container).bind (Json.get? "objectdata") = some (.array entries) →
    ∀ entry ∈ entries, ∀ sub, parseSubDD entry = some sub → sub.label.truthy = true →
      sub.label.Convertible

theorem addField_isOk_iff {names : ReverseLookup} {fields : Fields} {entry : Json} :
    (∃ next, addField names fields entry = .ok next) ↔
      ∀ sub, parseSubDD entry = some sub → sub.label.truthy = true → sub.label.Convertible := by
  rw [addField]
  cases parsed : parseSubDD entry with
  | none => simp
  | some sub =>
      simp only [Option.some.injEq, forall_eq']
      rw [← Json.toText_isOk_iff]
      by_cases labelled : sub.label.truthy = true
      · simp [labelled, bind_eq_ok]
      · simp [labelled]

theorem foldlM_isOk_iff {step : β → α → Except ε β} {property : α → Prop}
    (each : ∀ state item, (∃ next, step state item = .ok next) ↔ property item)
    {items : List α} {start : β} :
    (∃ final, items.foldlM step start = .ok final) ↔ ∀ item ∈ items, property item := by
  induction items generalizing start with
  | nil => simp [pure, Except.pure]
  | cons item items induction =>
      rw [List.forall_mem_cons, ← each start item]
      simp only [List.foldlM_cons, bind_eq_ok]
      constructor
      · rintro ⟨final, next, first, others⟩
        exact ⟨⟨next, first⟩, induction.mp ⟨final, others⟩⟩
      · rintro ⟨⟨next, first⟩, others⟩
        rcases (@induction next).mpr others with ⟨final, folded⟩
        exact ⟨final, next, first, folded⟩

theorem parseOuterDD_isOk_iff {container : Json} {names : ReverseLookup} :
    (∃ fields, parseOuterDD container names = .ok fields) ↔ Labelled container := by
  rw [parseOuterDD, Labelled]
  split
  · rename_i entries found
    simp only [found, Option.some.injEq, Json.array.injEq, forall_eq']
    have folded : (∃ fields, entries.foldlM (addField names) Record.empty = .ok fields) ↔
        ∀ entry ∈ entries, ∀ sub, parseSubDD entry = some sub → sub.label.truthy = true →
          sub.label.Convertible :=
      foldlM_isOk_iff fun state item => @addField_isOk_iff names state item
    rw [← folded]
    simp [bind_eq_ok]
  · rename_i other
    refine ⟨?_, fun _ => ⟨none, rfl⟩⟩
    rintro _ entries found
    exact absurd found (other entries)

/-- The last container under a parent key, with what its fields need. -/
structure Container (cmm : ContentMultimap) (parent : String) (names : ReverseLookup)
    (decodable : Fields → Prop) : Prop where
  countable : Countable (cmm.get? parent)
  labelled : ∀ last, lastEntry (cmm.get? parent) = .ok (some last) → Labelled last
  fields : ∀ data, legacyFields cmm parent names = .ok (some data) → decodable data

theorem legacyFields_isOk_iff {cmm : ContentMultimap} {parent : String}
    {names : ReverseLookup} :
    (∃ fields, legacyFields cmm parent names = .ok fields) ↔
      Countable (cmm.get? parent) ∧
        ∀ last, lastEntry (cmm.get? parent) = .ok (some last) → Labelled last := by
  rw [← lastEntry_isOk_iff]
  simp only [legacyFields, bind_eq_ok]
  constructor
  · rintro ⟨fields, entry, read, outer⟩
    refine ⟨⟨entry, read⟩, ?_⟩
    intro last found
    rw [read, Except.ok.injEq] at found
    subst found
    exact parseOuterDD_isOk_iff.mp ⟨fields, outer⟩
  · rintro ⟨⟨entry, read⟩, labelled⟩
    cases entry with
    | none => exact ⟨none, none, read, rfl⟩
    | some last =>
        rcases (@parseOuterDD_isOk_iff last names).mpr (labelled last read) with ⟨fields, outer⟩
        exact ⟨fields, some last, read, outer⟩

theorem container_isOk_iff {cmm : ContentMultimap} {parent : String} {names : ReverseLookup}
    {decode : Option Fields → Except ScriptError α} {decodable : Fields → Prop}
    (missing : ∃ result, decode none = .ok result)
    (present : ∀ data, (∃ result, decode (some data) = .ok result) ↔ decodable data) :
    (∃ fields, legacyFields cmm parent names = .ok fields ∧ ∃ result, decode fields = .ok result) ↔
      Container cmm parent names decodable := by
  constructor
  · rintro ⟨fields, read, decodes⟩
    rcases legacyFields_isOk_iff.mp ⟨fields, read⟩ with ⟨countable, labelled⟩
    refine ⟨countable, labelled, ?_⟩
    intro data found
    rw [read, Except.ok.injEq] at found
    subst found
    exact (present data).mp decodes
  · intro container
    rcases (@legacyFields_isOk_iff cmm parent names).mpr
      ⟨container.countable, container.labelled⟩ with ⟨fields, read⟩
    refine ⟨fields, read, ?_⟩
    cases fields with
    | none => exact missing
    | some data => exact (present data).mpr (container.fields data read)

structure DecodableAgent (data : Fields) : Prop where
  network : Parses (data.field "network")
  profile : Parses (data.field "profile")
  services : DecodableServices (data.field "services")
  models : Parses (data.field "models")
  markup : Numeral (data.field "markup")

theorem decodeLegacyAgent_isOk_iff {data : Fields} :
    (∃ result, decodeLegacyAgent data = .ok result) ↔ DecodableAgent data := by
  simp only [decodeLegacyAgent, bind_eq_ok, Except.ok.injEq]
  constructor
  · rintro ⟨_, _, network, _, profile, _, services, _, models, _, markup, _⟩
    exact ⟨parsedDocument_isOk_iff.mp ⟨_, network⟩, parsedDocument_isOk_iff.mp ⟨_, profile⟩,
      decodeServices_isOk_iff.mp ⟨_, services⟩, parsedDocument_isOk_iff.mp ⟨_, models⟩,
      presentNumber_isOk_iff.mp ⟨_, markup⟩⟩
  · intro decodable
    rcases parsedDocument_isOk_iff.mpr decodable.network with ⟨_, network⟩
    rcases parsedDocument_isOk_iff.mpr decodable.profile with ⟨_, profile⟩
    rcases decodeServices_isOk_iff.mpr decodable.services with ⟨_, services⟩
    rcases parsedDocument_isOk_iff.mpr decodable.models with ⟨_, models⟩
    rcases (@presentNumber_isOk_iff _ 1 50).mpr decodable.markup with ⟨_, markup⟩
    exact ⟨_, _, network, _, profile, _, services, _, models, _, markup, rfl⟩

structure DecodableSession (data : Fields) : Prop where
  params : Parses (data.field "params")
  limits : ∀ name ∈ sessionLimits, Numeral (data.field name)
  allowedFileTypes : Parses (data.field "allowedFileTypes")

theorem setLimit_isOk_iff {data : Fields} {session : SessionMembers} {name : String} :
    (∃ next, session.setLimit data name = .ok next) ↔ Numeral (data.field name) := by
  rw [← @safeNumber_isOk_iff _ 0 vdxfMaxNumber]
  simp only [SessionMembers.setLimit, bind_eq_ok]
  constructor
  · rintro ⟨_, number, read, _⟩
    exact ⟨number, read⟩
  · rintro ⟨number, read⟩
    cases number <;> exact ⟨_, _, read, rfl⟩

theorem decodeLegacySession_isOk_iff {data : Fields} :
    (∃ session, decodeLegacySession data = .ok session) ↔ DecodableSession data := by
  have limits : ∀ start : SessionMembers,
      (∃ session, sessionLimits.foldlM (SessionMembers.setLimit data) start = .ok session) ↔
        ∀ name ∈ sessionLimits, Numeral (data.field name) :=
    fun start => foldlM_isOk_iff fun state name => @setLimit_isOk_iff data state name
  simp only [decodeLegacySession, bind_eq_ok]
  constructor
  · rintro ⟨_, _, params, _, set, _, types, _⟩
    exact ⟨parsedDocument_isOk_iff.mp ⟨_, params⟩, (limits _).mp ⟨_, set⟩,
      parsedDocument_isOk_iff.mp ⟨_, types⟩⟩
  · intro decodable
    rcases parsedDocument_isOk_iff.mpr decodable.params with ⟨params, paramsRead⟩
    rcases (limits (SessionMembers.assignAll {} params)).mpr decodable.limits with
      ⟨session, set⟩
    rcases parsedDocument_isOk_iff.mpr decodable.allowedFileTypes with ⟨types, typesRead⟩
    cases types with
    | none => exact ⟨session, params, paramsRead, session, set, none, typesRead, rfl⟩
    | some types => exact ⟨_, params, paramsRead, session, set, some types, typesRead, rfl⟩

theorem decodeLegacyDocument_isOk_iff {cmm : ContentMultimap} {parent group name : String} :
    (∃ document, decodeLegacyDocument cmm parent group name = .ok document) ↔
      Container cmm parent (getReverseLookup group) fun data => Parses (data.field name) := by
  rw [← @container_isOk_iff _ cmm parent (getReverseLookup group)
    (fun fields => fields.elim (.ok none) fun data => parsedDocument (data.field name)) _
    ⟨none, rfl⟩ fun data => parsedDocument_isOk_iff]
  simp only [decodeLegacyDocument, bind_eq_ok]
  constructor
  · rintro ⟨document, fields, read, decoded⟩
    cases fields with
    | none => exact ⟨none, read, document, decoded⟩
    | some data => exact ⟨some data, read, document, decoded⟩
  · rintro ⟨fields, read, document, decoded⟩
    cases fields with
    | none => exact ⟨document, none, read, decoded⟩
    | some data => exact ⟨document, some data, read, decoded⟩

end SovAgent.Onboarding

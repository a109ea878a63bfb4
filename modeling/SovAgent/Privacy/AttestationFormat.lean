import SovAgent.Privacy.Attestation

/-! # What an accepted attestation is

The checks against the declared types, field by field. A received attestation is
checked for all of them but the granted tokens of an extension and, without token
usage, the schema version.
-/

namespace SovAgent.Privacy

/-! ## Declared types -/

def IsCount (property : Option Json) : Prop :=
  ∃ value, property = some (.number value) ∧ ∃ count : Nat, value.toRat = count

structure ExtensionChecked (e : Json) : Prop where
  estimatedTokens : IsCount (e.get? "estimatedTokens")
  granted : ∃ value, e.get? "granted" = some (.bool value)
  amountVrsc : e.get? "amountVrsc" = some .null ∨
    ∃ value, e.get? "amountVrsc" = some (.number value)

def GrantedTyped (e : Json) : Prop :=
  e.get? "grantedTokens" = none ∨ IsCount (e.get? "grantedTokens")

structure IsExtension (e : Json) : Prop where
  checked : ExtensionChecked e
  grantedTokens : GrantedTyped e

structure UsageOf (Extension : Json → Prop) (u : Json) : Prop where
  object : u.isObject = true
  counts : ∀ field ∈ countFields, IsCount (u.get? field)
  extensions : ∃ items, u.get? "extensions" = some (.array items) ∧ ∀ e ∈ items, Extension e

structure AttestationOf (Extension : Json → Prop) (v : Json) : Prop where
  strings : ∀ field ∈ requiredStrings, ∃ text, v.get? field = some (.string text) ∧ text ≠ ""
  dataVolumes : ∃ items, v.get? "dataVolumes" = some (.array items) ∧
    ∀ item ∈ items, ∃ text, item = .string text
  tokenUsage : ∀ u, v.get? "tokenUsage" = some u → UsageOf Extension u

def VersionTyped (v : Json) : Prop :=
  v.get? "schemaVersion" = none ∨ ∃ value, v.get? "schemaVersion" = some (.number value)

structure IsDeletionAttestation (v : Json) : Prop where
  fields : AttestationOf IsExtension v
  schemaVersion : VersionTyped v

structure Checked (v : Json) : Prop where
  fields : AttestationOf ExtensionChecked v
  schemaVersion : ∀ u, v.get? "tokenUsage" = some u → VersionTyped v

structure RestTyped (v : Json) : Prop where
  grantedTokens : ∀ u items, v.get? "tokenUsage" = some u →
    u.get? "extensions" = some (.array items) → ∀ e ∈ items, GrantedTyped e
  schemaVersion : v.get? "tokenUsage" = none → VersionTyped v

/-! ## One check each -/

theorem isFilled_iff {property : Option Json} :
    isFilled property = true ↔ ∃ text, property = some (.string text) ∧ text ≠ "" := by
  rcases property with _ | value
  · simp [isFilled]
  · cases value <;> simp [isFilled]

theorem isCount_iff {property : Option Json} : isCount property = true ↔ IsCount property := by
  rcases property with _ | value
  · simp [isCount, IsCount]
  · cases value <;> simp [isCount, IsCount, Decimal.isCount_iff]

theorem isBoolean_iff {property : Option Json} :
    isBoolean property = true ↔ ∃ value, property = some (.bool value) := by
  rcases property with _ | value
  · simp [isBoolean]
  · cases value <;> simp [isBoolean]

theorem isNumberOrNull_iff {property : Option Json} :
    isNumberOrNull property = true ↔
      property = some .null ∨ ∃ value, property = some (.number value) := by
  rcases property with _ | value
  · simp [isNumberOrNull]
  · cases value <;> simp [isNumberOrNull]

theorem isAbsentOrNumber_iff {property : Option Json} :
    isAbsentOrNumber property = true ↔
      property = none ∨ ∃ value, property = some (.number value) := by
  rcases property with _ | value
  · simp [isAbsentOrNumber]
  · cases value <;> simp [isAbsentOrNumber]

theorem isString_iff {value : Json} : value.isString = true ↔ ∃ text, value = .string text := by
  cases value <;> simp [Json.isString]

theorem isReference_of_get? {value member : Json} {key : String}
    (found : value.get? key = some member) : isReference value = true := by
  cases value with
  | object members => rfl
  | null | bool _ | number _ | string _ | array _ => cases found

theorem checkAll_zipIdx_eq_ok {check : α × Nat → Except ε Unit} {property : α → Prop}
    (each : ∀ item index, check (item, index) = .ok () ↔ property item) {items : List α} :
    checkAll check items.zipIdx = .ok () ↔ ∀ item ∈ items, property item := by
  rw [checkAll_eq_ok]
  constructor
  · intro holds item member
    rcases List.mem_iff_getElem.mp member with ⟨index, bound, rfl⟩
    have indexed : (items[index], index) ∈ items.zipIdx :=
      List.mem_zipIdx_iff_getElem?.mpr (List.getElem?_eq_getElem bound)
    exact (each _ _).mp (holds _ indexed)
  · intro holds indexed member
    exact (each _ _).mpr (holds _ (List.fst_mem_of_mem_zipIdx member))

theorem requireCount_eq_ok {owner : Json} {path field : String} :
    requireCount owner path field = .ok () ↔ IsCount (owner.get? field) := by
  rw [requireCount, require_eq_ok, isCount_iff]

/-! ## The whole format -/

theorem verifyExtension_eq_ok (e : Json) (index : Nat) :
    verifyExtension (e, index) = .ok () ↔ ExtensionChecked e := by
  simp only [verifyExtension, seq_eq_ok, require_eq_ok, requireCount_eq_ok, isBoolean_iff,
    isNumberOrNull_iff]
  constructor
  · intro checks
    rcases checks with ⟨_, estimated, granted, amount⟩
    exact ⟨estimated, granted, amount⟩
  · intro checked
    rcases checked.granted with ⟨value, found⟩
    exact ⟨isReference_of_get? found, checked.estimatedTokens, checked.granted,
      checked.amountVrsc⟩

theorem verifyTokenUsage_eq_ok {u : Json} :
    verifyTokenUsage u = .ok () ↔ UsageOf ExtensionChecked u := by
  simp only [verifyTokenUsage, seq_eq_ok, require_eq_ok, checkAll_eq_ok, requireCount_eq_ok]
  constructor
  · intro checks
    rcases checks with ⟨object, counts, extensions⟩
    split at extensions
    · rename_i items found
      exact ⟨object, counts, items, found,
        (checkAll_zipIdx_eq_ok verifyExtension_eq_ok).mp extensions⟩
    · cases extensions
  · intro usage
    rcases usage.extensions with ⟨items, found, each⟩
    refine ⟨usage.object, usage.counts, ?_⟩
    rw [found]
    exact (checkAll_zipIdx_eq_ok verifyExtension_eq_ok).mpr each

theorem requireString_eq_ok (item : Json) (index : Nat) :
    require (item.isString = true) s!"dataVolumes[{index}] must be a string" = .ok () ↔
      ∃ text, item = .string text :=
  require_eq_ok.trans isString_iff

theorem verifyDataVolumes_eq_ok {dataVolumes : Option Json} :
    verifyDataVolumes dataVolumes = .ok () ↔
      ∃ items, dataVolumes = some (.array items) ∧ ∀ item ∈ items, ∃ text, item = .string text := by
  constructor
  · intro checks
    unfold verifyDataVolumes at checks
    split at checks
    · rename_i items
      exact ⟨items, rfl, (checkAll_zipIdx_eq_ok requireString_eq_ok).mp checks⟩
    · cases checks
  · intro volumes
    rcases volumes with ⟨items, rfl, each⟩
    exact (checkAll_zipIdx_eq_ok requireString_eq_ok).mpr each

theorem verifyAttestationFormat_eq_ok {v : Json} :
    verifyAttestationFormat v = .ok () ↔ Checked v := by
  simp only [verifyAttestationFormat, seq_eq_ok, require_eq_ok, checkAll_eq_ok, isFilled_iff,
    verifyDataVolumes_eq_ok]
  constructor
  · intro checks
    rcases checks with ⟨_, strings, volumes, usage⟩
    have typed : ∀ u, v.get? "tokenUsage" = some u →
        UsageOf ExtensionChecked u ∧ VersionTyped v := by
      intro u found
      rw [found] at usage
      simp only [seq_eq_ok, require_eq_ok, isAbsentOrNumber_iff] at usage
      exact ⟨verifyTokenUsage_eq_ok.mp usage.1, usage.2⟩
    exact ⟨⟨strings, volumes, fun u found => (typed u found).1⟩, fun u found => (typed u found).2⟩
  · intro checked
    rcases checked.fields.dataVolumes with ⟨items, found, each⟩
    refine ⟨isReference_of_get? found, checked.fields.strings, ⟨items, found, each⟩, ?_⟩
    cases usage : v.get? "tokenUsage" with
    | none => rfl
    | some u =>
        simp only [seq_eq_ok, require_eq_ok, isAbsentOrNumber_iff]
        exact ⟨verifyTokenUsage_eq_ok.mpr (checked.fields.tokenUsage u usage),
          checked.schemaVersion u usage⟩

/-! ## Where acceptance means the declared type -/

theorem isDeletionAttestation_iff {v : Json} :
    IsDeletionAttestation v ↔ Checked v ∧ RestTyped v := by
  constructor
  · intro typed
    constructor
    · refine ⟨⟨typed.fields.strings, typed.fields.dataVolumes, ?_⟩, fun _ _ => typed.schemaVersion⟩
      intro u found
      have usage := typed.fields.tokenUsage u found
      rcases usage.extensions with ⟨items, listed, each⟩
      exact ⟨usage.object, usage.counts, items, listed, fun e member => (each e member).checked⟩
    · refine ⟨?_, fun _ => typed.schemaVersion⟩
      intro u items found listed e member
      rcases (typed.fields.tokenUsage u found).extensions with ⟨items', listed', each⟩
      rw [listed] at listed'
      cases listed'
      exact (each e member).grantedTokens
  · intro parts
    rcases parts with ⟨checked, rest⟩
    constructor
    · refine ⟨checked.fields.strings, checked.fields.dataVolumes, ?_⟩
      intro u found
      have usage := checked.fields.tokenUsage u found
      rcases usage.extensions with ⟨items, listed, each⟩
      exact ⟨usage.object, usage.counts, items, listed, fun e member =>
        ⟨each e member, rest.grantedTokens u items found listed e member⟩⟩
    · cases usage : v.get? "tokenUsage" with
      | none => exact rest.schemaVersion usage
      | some u => exact checked.schemaVersion u usage

def AcceptsTyped (v : Json) : Prop := verifyAttestationFormat v = .ok () → IsDeletionAttestation v

theorem acceptsTyped_iff {v : Json} : AcceptsTyped v ↔ (Checked v → RestTyped v) := by
  rw [AcceptsTyped, verifyAttestationFormat_eq_ok, isDeletionAttestation_iff]
  constructor
  · intro typed checked
    exact (typed checked).2
  · intro rest checked
    exact ⟨checked, rest checked⟩

end SovAgent.Privacy

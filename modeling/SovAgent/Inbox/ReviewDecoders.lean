import SovAgent.Identity.HistoryRecovery
import SovAgent.Inbox.VdxfGate

/-! # The two decoders of review records

The inbox reads the job hash of an on-chain value in order not to write a review
twice, and the history reads it in order to show the review. The two unwrap a
DataDescriptor on their own; both find the text of one that has a text.
-/

namespace SovAgent.Inbox

open Onboarding Identity.History

/-! ## Records -/

theorem jobHashProperty_eq_some {value : Json} {jobHash : String} :
    jobHashProperty value = some jobHash ↔ value.get? "jobHash" = some (.string jobHash) := by
  rw [jobHashProperty]
  split
  · rename_i found
    rw [found, Option.some.injEq, Option.some.injEq, Json.string.injEq]
  · rename_i other
    constructor
    · intro equal
      cases equal
    · intro found
      exact absurd found (other jobHash)

theorem isObject_of_get? {value member : Json} {key : String}
    (found : value.get? key = some member) : value.isObject = true := by
  cases value with
  | object members => rfl
  | _ => cases found

theorem record_of_text {text jobHash : String} :
    ((Json.parse text).bind jobHashProperty = some jobHash ↔
      ∃ record, (Json.parse text).filter Json.isObject = some record ∧
        record.get? "jobHash" = some (.string jobHash)) := by
  rw [Option.bind_eq_some_iff]
  constructor
  · rintro ⟨record, parsed, found⟩
    have member := jobHashProperty_eq_some.mp found
    exact ⟨record, Option.filter_eq_some_iff.mpr ⟨parsed, isObject_of_get? member⟩, member⟩
  · rintro ⟨record, parsed, member⟩
    exact ⟨record, (Option.filter_eq_some_iff.mp parsed).1, jobHashProperty_eq_some.mpr member⟩

/-! ## What each decoder unwraps -/

/-- The descriptor has a text: `objectdata` is one, or has one as its message. -/
def carriesText (descriptor : Json) : Bool :=
  match descriptor.get? "objectdata" with
  | some objectdata => objectdata.isString || ((objectdata.get? "message").any Json.isString)
  | none => false

theorem unwrap_plain {value : Json} (plain : truthyProperty value dataDescriptorKey = none) :
    unwrapDescriptor value = some value ∧ unwrapDataDescriptor value = value := by
  rw [unwrapDescriptor, plain, unwrapDataDescriptor]
  rw [truthyProperty] at plain
  rw [plain]
  exact ⟨rfl, rfl⟩

theorem unwrap_text {value descriptor : Json}
    (wrapped : truthyProperty value dataDescriptorKey = some descriptor)
    (carries : carriesText descriptor = true) :
    ∃ text, unwrapDescriptor value = some (.string text) ∧
      unwrapDataDescriptor value = .string text := by
  rw [unwrapDescriptor, wrapped, unwrapDataDescriptor]
  rw [truthyProperty] at wrapped
  rw [wrapped]
  rw [carriesText] at carries
  dsimp only
  cases found : descriptor.get? "objectdata" with
  | none =>
      rw [found] at carries
      cases carries
  | some objectdata =>
      rw [found] at carries
      cases objectdata with
      | string text => exact ⟨text, rfl, rfl⟩
      | object members =>
          rcases Option.any_eq_true _ _ |>.mp (by simpa [Json.isString] using carries) with
            ⟨message, messageFound, textual⟩
          cases message with
          | string text =>
              refine ⟨text, ?_, ?_⟩
              · simp only [Option.bind_some, messageFound]
              · simp only [messageFound]
          | _ => cases textual
      | _ => cases carries

/-- Without a text the inbox reads `objectdata`, and the history the value itself. -/
theorem unwrap_textless {value descriptor : Json}
    (wrapped : truthyProperty value dataDescriptorKey = some descriptor)
    (carries : carriesText descriptor = false) :
    unwrapDescriptor value = descriptor.get? "objectdata" ∧ unwrapDataDescriptor value = value ∧
      ∀ text, descriptor.get? "objectdata" ≠ some (.string text) := by
  rw [unwrapDescriptor, wrapped, unwrapDataDescriptor]
  rw [truthyProperty] at wrapped
  rw [wrapped]
  rw [carriesText] at carries
  dsimp only
  cases found : descriptor.get? "objectdata" with
  | none => exact ⟨rfl, rfl, fun text equal => by cases equal⟩
  | some objectdata =>
      rw [found] at carries
      dsimp only at carries
      rw [Bool.or_eq_false_iff] at carries
      rw [Option.bind_some]
      cases objectdata with
      | string text => cases carries.1
      | object members =>
          cases messageFound : (Json.object members).get? "message" with
          | none => exact ⟨rfl, by simp only [messageFound], fun text equal => by cases equal⟩
          | some message =>
              rw [messageFound] at carries
              cases message with
              | string text => cases carries.2
              | _ => exact ⟨rfl, by simp only [messageFound], fun text equal => by cases equal⟩
      | _ => exact ⟨rfl, rfl, fun text equal => by cases equal⟩

/-! ## What each decoder reads -/

/-- The history decodes the value to a record with the job hash. -/
def ReadsJobHash (value : Json) (jobHash : String) : Prop :=
  ∃ record, decodeReviewValue value = some record ∧
    record.get? "jobHash" = some (.string jobHash)

theorem readsJobHash_itself {value : Json} {jobHash : String}
    (itself : unwrapDataDescriptor value = value) (textless : value.isString = false) :
    ReadsJobHash value jobHash ↔ value.get? "jobHash" = some (.string jobHash) := by
  rw [ReadsJobHash, decodeReviewValue, itself]
  cases value with
  | string text => cases textless
  | object members =>
      constructor
      · rintro ⟨record, same, found⟩
        rwa [Option.some.inj same]
      · intro found
        exact ⟨.object members, rfl, found⟩
  | _ =>
      constructor
      · rintro ⟨record, undecoded, _⟩
        cases undecoded
      · intro found
        cases found

theorem decoders_agree_text {value : Json} {text jobHash : String}
    (written : unwrapDescriptor value = some (.string text))
    (read : unwrapDataDescriptor value = .string text) :
    extractJobHash (some value) = some jobHash ↔ ReadsJobHash value jobHash := by
  rw [extractJobHash, Option.bind_some, written, ReadsJobHash, decodeReviewValue, read]
  exact record_of_text

theorem decoders_agree_plain {value : Json} {jobHash : String}
    (plain : truthyProperty value dataDescriptorKey = none) :
    extractJobHash (some value) = some jobHash ↔ ReadsJobHash value jobHash := by
  rcases unwrap_plain plain with ⟨written, read⟩
  cases textual : value.isString with
  | true =>
      cases value with
      | string text => exact decoders_agree_text written read
      | _ => cases textual
  | false =>
      rw [readsJobHash_itself read textual, extractJobHash, Option.bind_some, written,
        ← jobHashProperty_eq_some]
      cases value with
      | string text => cases textual
      | _ => exact Iff.rfl

theorem extractJobHash_textless {value descriptor : Json} {jobHash : String}
    (wrapped : truthyProperty value dataDescriptorKey = some descriptor)
    (carries : carriesText descriptor = false) :
    extractJobHash (some value) = some jobHash ↔
      (descriptor.get? "objectdata").bind (Json.get? "jobHash") = some (.string jobHash) := by
  rcases unwrap_textless wrapped carries with ⟨written, _, textless⟩
  rw [extractJobHash, Option.bind_some, written]
  cases found : descriptor.get? "objectdata" with
  | none =>
      constructor
      · intro absent
        cases absent
      · intro absent
        cases absent
  | some objectdata =>
      rw [Option.bind_some, ← jobHashProperty_eq_some]
      cases objectdata with
      | string text => exact absurd found (textless text)
      | _ => exact Iff.rfl

theorem readsJobHash_textless {value descriptor : Json} {jobHash : String}
    (wrapped : truthyProperty value dataDescriptorKey = some descriptor)
    (carries : carriesText descriptor = false) :
    ReadsJobHash value jobHash ↔ value.get? "jobHash" = some (.string jobHash) := by
  have member := (Option.filter_eq_some_iff.mp wrapped).1
  have object := isObject_of_get? member
  apply readsJobHash_itself (unwrap_textless wrapped carries).2.1
  cases value with
  | object members => rfl
  | _ => cases object

/-! ## One snapshot -/

theorem extractVdxfHistory_single {snapshot : Snapshot} {key : String} {value : Json}
    (holds : snapshot.values key = some [value]) :
    extractVdxfHistory [snapshot] key = [{ height := snapshot.height, value }] := by
  rw [extractVdxfHistory, List.mergeSort_singleton, collect, holds]
  rfl

theorem decodeReviewHistory_single {snapshot : Snapshot} {value : Json}
    (holds : snapshot.values VdxfKeys.reviewRecord = some [value]) :
    decodeReviewHistory [snapshot] =
      ((decodeReviewValue value).map (historicalReview snapshot.height)).toList := by
  rw [decodeReviewHistory, extractVdxfHistory_single holds, decodeEntries]
  cases decodeReviewValue value with
  | none => rfl
  | some record =>
      dsimp only
      split
      · rfl
      · rw [if_neg List.not_mem_nil]
        rfl

theorem reviewed_iff_readsJobHash {snapshot : Snapshot} {value : Json} {jobHash : String}
    (holds : snapshot.values VdxfKeys.reviewRecord = some [value]) :
    (∃ review ∈ decodeReviewHistory [snapshot], review.jobHash = some jobHash) ↔
      ReadsJobHash value jobHash := by
  rw [decodeReviewHistory_single holds, ReadsJobHash]
  cases decodeReviewValue value with
  | none => simp
  | some record =>
      simp only [Option.map_some, Option.toList_some, List.mem_singleton, exists_eq_left,
        Option.some.injEq, exists_eq_left']
      exact jobHashProperty_eq_some

/-! ## Agreement -/

/-- What the inbox takes for the review of a job, the history shows as one. -/
def DecodersAgree (snapshot : Snapshot) (value : Json) : Prop :=
  ∀ jobHash, jobHash ≠ "" →
    (extractJobHash (some value) = some jobHash ↔
      ∃ review ∈ decodeReviewHistory [snapshot], review.jobHash = some jobHash)

/-- In a descriptor without a text, `objectdata` names the same job as the value
around the descriptor, or neither of them names one. -/
def SameJobOutside (value : Json) : Prop :=
  ∀ descriptor, truthyProperty value dataDescriptorKey = some descriptor →
    carriesText descriptor = false → ∀ jobHash, jobHash ≠ "" →
      ((descriptor.get? "objectdata").bind (Json.get? "jobHash") = some (.string jobHash) ↔
        value.get? "jobHash" = some (.string jobHash))

theorem review_decoders_agree_iff {snapshot : Snapshot} {value : Json}
    (holds : snapshot.values VdxfKeys.reviewRecord = some [value]) :
    DecodersAgree snapshot value ↔ SameJobOutside value := by
  simp only [DecodersAgree, reviewed_iff_readsJobHash holds]
  constructor
  · intro agree descriptor wrapped carries jobHash nonempty
    rw [← extractJobHash_textless wrapped carries, ← readsJobHash_textless wrapped carries]
    exact agree jobHash nonempty
  · intro same jobHash nonempty
    cases wrapped : truthyProperty value dataDescriptorKey with
    | none => exact decoders_agree_plain wrapped
    | some descriptor =>
        cases carries : carriesText descriptor with
        | true =>
            rcases unwrap_text wrapped carries with ⟨text, written, read⟩
            exact decoders_agree_text written read
        | false =>
            rw [extractJobHash_textless wrapped carries, readsJobHash_textless wrapped carries]
            exact same descriptor wrapped carries jobHash nonempty

def singleReview (value : Json) (distinct : value.Distinct) : Snapshot where
  value := .object [
    ("height", .number 1000),
    ("identity", .object [("contentmultimap", .object [
      (VdxfKeys.reviewRecord, .array [value])])])]
  distinct := by simp [Json.Distinct, Json.DistinctMembers, Json.DistinctItems, distinct]

theorem review_decoders_agree_message :
    DecodersAgree (singleReview (makeSubDD VdxfKeys.reviewRecord "\x7b\"jobHash\":\"job\"\x7d")
        (by simp [makeSubDD, Json.Distinct, Json.DistinctMembers, dataDescriptorKey]))
      (makeSubDD VdxfKeys.reviewRecord "\x7b\"jobHash\":\"job\"\x7d") := by
  apply (review_decoders_agree_iff rfl).mpr
  intro descriptor wrapped textless
  have found := (Option.some.inj wrapped).symm
  subst found
  cases textless

/-- The record itself as `objectdata`, without a message around it. -/
def unmessagedReview : Json :=
  .object [(dataDescriptorKey, .object [("objectdata", .object [("jobHash", .string "job")])])]

theorem unmessaged_review_unseen :
    ¬ DecodersAgree (singleReview unmessagedReview
        (by simp [unmessagedReview, Json.Distinct, Json.DistinctMembers])) unmessagedReview := by
  intro agree
  have shown := (agree "job" (by decide)).mp (by decide +kernel)
  rw [reviewed_iff_readsJobHash rfl] at shown
  rcases shown with ⟨record, decoded, found⟩
  have itself : unmessagedReview = record := Option.some.inj decoded
  subst itself
  cases found

end SovAgent.Inbox

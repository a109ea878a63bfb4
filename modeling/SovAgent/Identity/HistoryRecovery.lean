import SovAgent.Foundation.JsonCanonical
import SovAgent.Identity.History
import Mathlib.Data.List.Nodup

/-! # Recovering reviews from history

A review is recovered at the lowest height of a snapshot that has it, whatever
the order of the snapshots and whatever else they hold.
-/

namespace SovAgent.Identity.History

open Onboarding

/-! ## Job hashes -/

def jobHashOf (value : Json) : Option String :=
  ((decodeReviewValue value).bind fun record => stringProperty record "jobHash").filter (· ≠ "")

def Snapshot.hasReview (key jobHash : String) (snapshot : Snapshot) : Bool :=
  ((snapshot.values key).getD []).any fun value => jobHashOf value = some jobHash

def VdxfHistoryEntry.isReview (jobHash : String) (entry : VdxfHistoryEntry) : Bool :=
  jobHashOf entry.value = some jobHash

def HistoricalReview.isOf (jobHash : String) (review : HistoricalReview) : Bool :=
  review.jobHash = some jobHash

/-! ## Decoding keeps the first entry of a job -/

theorem historicalReview_isOf {height : Option Decimal} {value record : Json} {jobHash : String}
    (decoded : decodeReviewValue value = some record) (nonempty : jobHash ≠ "") :
    (historicalReview height record).isOf jobHash = decide (jobHashOf value = some jobHash) := by
  rw [HistoricalReview.isOf, jobHashOf, decoded, Option.bind_some, decide_eq_decide]
  change stringProperty record "jobHash" = some jobHash ↔ _
  rw [Option.filter_eq_some_iff]
  simp [nonempty]

theorem decodeEntries_heights {jobHash : String} (nonempty : jobHash ≠ "") (seen : List String)
    (entries : List VdxfHistoryEntry) :
    ((decodeEntries seen entries).filter (HistoricalReview.isOf jobHash)).map
        HistoricalReview.height =
      if jobHash ∈ seen then []
      else ((entries.find? (VdxfHistoryEntry.isReview jobHash)).map
        VdxfHistoryEntry.height).toList := by
  induction entries generalizing seen with
  | nil => simp [decodeEntries]
  | cons entry rest induction =>
      rw [decodeEntries, List.find?_cons]
      cases decoded : decodeReviewValue entry.value with
      | none =>
          have other : entry.isReview jobHash = false := by
            simp [VdxfHistoryEntry.isReview, jobHashOf, decoded]
          simp only [other]
          exact induction seen
      | some record =>
          have own := @historicalReview_isOf entry.height _ _ jobHash decoded nonempty
          have found : jobHashOf entry.value =
              (historicalReview entry.height record).jobHash.filter (· ≠ "") := by
            rw [jobHashOf, decoded, Option.bind_some]
            rfl
          simp only [VdxfHistoryEntry.isReview]
          rw [found] at own ⊢
          cases hash : (historicalReview entry.height record).jobHash.filter (· ≠ "") with
          | none =>
              rw [hash] at own
              simp only [List.filter_cons, own]
              simpa using induction seen
          | some other =>
              rw [hash] at own
              by_cases same : other = jobHash
              · subst same
                by_cases before : other ∈ seen
                · simpa [before] using induction seen
                · have later := induction (seen ++ [other])
                  rw [if_pos (List.mem_append_right _ (List.mem_singleton_self other))] at later
                  simp only [before, if_false, List.filter_cons, own, decide_true, if_true,
                    List.map_cons, later, Option.map_some, Option.toList_some]
                  rfl
              · have apart : ¬ some other = some jobHash := fun equal =>
                  same (Option.some.inj equal)
                have seenLater : jobHash ∈ seen ++ [other] ↔ jobHash ∈ seen := by
                  rw [List.mem_append, List.mem_singleton]
                  exact or_iff_left fun equal => same equal.symm
                have later := induction (seen ++ [other])
                simp only [seenLater] at later
                rw [decide_eq_false apart] at own
                by_cases before : other ∈ seen
                · simpa [before, apart] using induction seen
                · simpa [before, apart, List.filter_cons, own] using later

/-! ## Collecting keeps the first snapshot of a job -/

theorem distinct_values {snapshot : Snapshot} {key : String} {values : List Json}
    (found : snapshot.values key = some values) : (Json.array values).Distinct := by
  rcases Option.map_eq_some_iff.mp found with ⟨raw, rawFound, rfl⟩
  rcases Option.bind_eq_some_iff.mp (Option.filter_eq_some_iff.mp rawFound).1 with
    ⟨cmm, cmmFound, rawMember⟩
  rcases Option.bind_eq_some_iff.mp (Option.filter_eq_some_iff.mp cmmFound).1 with
    ⟨identity, identityFound, cmmMember⟩
  have identityMember := (Option.filter_eq_some_iff.mp identityFound).1
  have distinct := Json.distinct_get? (Json.distinct_get? (Json.distinct_get?
    snapshot.distinct identityMember) cmmMember) rawMember
  cases raw with
  | array items => exact distinct
  | _ => exact ⟨distinct, trivial⟩

theorem find?_entries {height : Option Decimal} {jobHash : String} (values : List Json) :
    ((values.map fun value => VdxfHistoryEntry.mk height value).find?
        (VdxfHistoryEntry.isReview jobHash)).map VdxfHistoryEntry.height =
      if values.any fun value => jobHashOf value = some jobHash then some height else none := by
  induction values with
  | nil => rfl
  | cons value values induction =>
      rw [List.map_cons, List.find?_cons, List.any_cons]
      by_cases own : jobHashOf value = some jobHash
      · simp [VdxfHistoryEntry.isReview, own]
      · simpa [VdxfHistoryEntry.isReview, own] using induction

/-- Leaving out unchanged values loses no job: its first entry has the height of
the first snapshot with a review of it. -/
theorem collect_find? {key jobHash : String} (lastSerialized : Option String)
    (snapshots : List Snapshot)
    (taken : ∀ values : List Json, (Json.array values).Distinct →
      lastSerialized = some (Json.array values).stringify →
        ¬ values.any fun value => jobHashOf value = some jobHash) :
    ((collect key lastSerialized snapshots).find? (VdxfHistoryEntry.isReview jobHash)).map
        VdxfHistoryEntry.height =
      (snapshots.find? (Snapshot.hasReview key jobHash)).map Snapshot.height := by
  induction snapshots generalizing lastSerialized with
  | nil => rfl
  | cons snapshot rest induction =>
      rw [collect, List.find?_cons]
      cases found : snapshot.values key with
      | none =>
          have absent : snapshot.hasReview key jobHash = false := by
            rw [Snapshot.hasReview, found]
            rfl
          simp only [absent]
          exact induction lastSerialized taken
      | some values =>
          have distinct := distinct_values found
          have holds : snapshot.hasReview key jobHash =
              values.any fun value => jobHashOf value = some jobHash := by
            rw [Snapshot.hasReview, found]
            rfl
          simp only [holds]
          split
          · rename_i unchanged
            have absent := Bool.eq_false_iff.mpr (taken values distinct unchanged)
            simp only [absent]
            exact induction lastSerialized taken
          · rw [List.find?_append]
            have first := @find?_entries snapshot.height jobHash values
            cases present : values.any fun value => jobHashOf value = some jobHash with
            | true =>
                rw [if_pos present] at first
                rcases Option.map_eq_some_iff.mp first with ⟨entry, entryFound, height⟩
                rw [entryFound, Option.some_or, Option.map_some, height]
                rfl
            | false =>
                rw [if_neg (by rw [present]; exact Bool.false_ne_true)] at first
                rw [Option.map_eq_none_iff.mp first, Option.none_or]
                apply induction
                intro others othersDistinct same
                have equal := Json.stringify_inj distinct othersDistinct (Option.some.inj same)
                rw [← Json.array.inj equal, present]
                exact Bool.false_ne_true

/-! ## The order of the snapshots -/

theorem before_trans (first second third : Snapshot) (left : first.before second = true)
    (right : second.before third = true) : first.before third = true := by
  rw [Snapshot.before] at left right ⊢
  cases lowest : first.height with
  | none =>
      rw [lowest] at left
      cases middle : second.height with
      | none => rwa [middle] at right
      | some _ =>
          rw [middle] at left
          cases left
  | some low =>
      cases highest : third.height with
      | none => rfl
      | some high =>
          rw [highest] at right
          cases middle : second.height with
          | none =>
              rw [middle] at right
              cases right
          | some between =>
              rw [lowest, middle] at left
              rw [middle] at right
              exact decide_eq_true ((of_decide_eq_true left).trans (of_decide_eq_true right))

theorem before_total (left right : Snapshot) :
    (left.before right || right.before left) = true := by
  simp only [Snapshot.before]
  cases left.height <;> cases right.height <;> simp
  exact le_total _ _

/-- Every snapshot has a numeric height, and no two the same. -/
structure Heighted (snapshots : List Snapshot) : Prop where
  numeric : ∀ snapshot ∈ snapshots, ∃ height, snapshot.height = some height
  distinct : (snapshots.map fun snapshot => snapshot.height.map Decimal.toRat).Nodup

def ordered (snapshots : List Snapshot) : List Snapshot := snapshots.mergeSort Snapshot.before

theorem ordered_perm (snapshots : List Snapshot) : (ordered snapshots).Perm snapshots :=
  List.mergeSort_perm snapshots _

theorem ordered_pairwise (snapshots : List Snapshot) :
    (ordered snapshots).Pairwise fun left right => left.before right = true :=
  List.pairwise_mergeSort before_trans before_total snapshots

theorem toRat_le_of_before {left right : Snapshot} {low high : Decimal}
    (before : left.before right = true) (lowest : left.height = some low)
    (highest : right.height = some high) : low.toRat ≤ high.toRat := by
  rw [Snapshot.before, lowest, highest] at before
  exact of_decide_eq_true before

theorem ordered_eq_of_perm {left right : List Snapshot} (heighted : Heighted left)
    (perm : left.Perm right) : ordered left = ordered right := by
  have leftPerm := ordered_perm left
  have rightPerm := ordered_perm right
  apply List.Perm.eq_of_pairwise _ (ordered_pairwise left) (ordered_pairwise right)
    (leftPerm.trans (perm.trans rightPerm.symm))
  intro first second firstMember secondMember firstBefore secondBefore
  have firstOf := leftPerm.mem_iff.mp firstMember
  have secondOf := perm.mem_iff.mpr (rightPerm.mem_iff.mp secondMember)
  rcases heighted.numeric first firstOf with ⟨low, lowest⟩
  rcases heighted.numeric second secondOf with ⟨high, highest⟩
  have equal := le_antisymm (toRat_le_of_before firstBefore lowest highest)
    (toRat_le_of_before secondBefore highest lowest)
  apply List.inj_on_of_nodup_map heighted.distinct firstOf secondOf
  rw [lowest, highest, Option.map_some, Option.map_some, equal]

/-! ## Heights of the reviews -/

def heightsOf (snapshots : List Snapshot) (jobHash : String) : List (Option Decimal) :=
  ((decodeReviewHistory snapshots).filter (HistoricalReview.isOf jobHash)).map
    HistoricalReview.height

def Reviewed (jobHash : String) (snapshot : Snapshot) : Prop :=
  snapshot.hasReview VdxfKeys.reviewRecord jobHash = true

theorem heightsOf_eq {jobHash : String} (nonempty : jobHash ≠ "") (snapshots : List Snapshot) :
    heightsOf snapshots jobHash =
      (((ordered snapshots).find? (Snapshot.hasReview VdxfKeys.reviewRecord jobHash)).map
        Snapshot.height).toList := by
  have decoded := decodeEntries_heights nonempty []
    (extractVdxfHistory snapshots VdxfKeys.reviewRecord)
  have collected := @collect_find? VdxfKeys.reviewRecord jobHash none (ordered snapshots)
    (fun _ _ taken => by cases taken)
  rw [if_neg List.not_mem_nil] at decoded
  exact decoded.trans (congrArg Option.toList collected)

structure FirstReviewed (snapshots : List Snapshot) (jobHash : String) (lowest : Decimal) :
    Prop where
  reviewed : ∃ snapshot ∈ snapshots, snapshot.height = some lowest ∧ Reviewed jobHash snapshot
  least : ∀ snapshot ∈ snapshots, Reviewed jobHash snapshot →
    ∀ height, snapshot.height = some height → lowest.toRat ≤ height.toRat

theorem heightsOf_reviewed {snapshots : List Snapshot} (heighted : Heighted snapshots)
    {jobHash : String} (nonempty : jobHash ≠ "")
    (reviewed : ∃ snapshot ∈ snapshots, Reviewed jobHash snapshot) :
    ∃ lowest, FirstReviewed snapshots jobHash lowest ∧
      heightsOf snapshots jobHash = [some lowest] := by
  have perm := ordered_perm snapshots
  cases found : (ordered snapshots).find?
      (Snapshot.hasReview VdxfKeys.reviewRecord jobHash) with
  | none =>
      rcases reviewed with ⟨snapshot, member, has⟩
      exact absurd has (List.find?_eq_none.mp found snapshot (perm.mem_iff.mpr member))
  | some first =>
      rcases List.find?_eq_some_iff_append.mp found with ⟨has, earlier, later, split, skipped⟩
      have firstMember := perm.mem_iff.mp (List.mem_of_find?_eq_some found)
      rcases heighted.numeric first firstMember with ⟨lowest, height⟩
      refine ⟨lowest, ⟨⟨first, firstMember, height, has⟩, ?_⟩, ?_⟩
      · intro snapshot member hasToo high highest
        have sorted := ordered_pairwise snapshots
        have located := perm.mem_iff.mpr member
        rw [split] at sorted located
        rcases List.mem_append.mp located with before | after
        · have skips := skipped snapshot before
          rw [Reviewed] at hasToo
          rw [hasToo] at skips
          cases skips
        · rcases List.mem_cons.mp after with rfl | beyond
          · rw [height, Option.some.injEq] at highest
            rw [highest]
          · have tail := (List.pairwise_append.mp sorted).2.1
            have precedes := (List.pairwise_cons.mp tail).1 snapshot beyond
            exact toRat_le_of_before precedes height highest
      · rw [heightsOf_eq nonempty, found, Option.map_some, height]
        rfl

theorem heightsOf_unreviewed {snapshots : List Snapshot} {jobHash : String}
    (nonempty : jobHash ≠ "") (unreviewed : ∀ snapshot ∈ snapshots, ¬ Reviewed jobHash snapshot) :
    heightsOf snapshots jobHash = [] := by
  have perm := ordered_perm snapshots
  have missing : (ordered snapshots).find?
      (Snapshot.hasReview VdxfKeys.reviewRecord jobHash) = none :=
    List.find?_eq_none.mpr fun snapshot member =>
      unreviewed snapshot (perm.mem_iff.mp member)
  rw [heightsOf_eq nonempty, missing]
  rfl

theorem FirstReviewed.unique {snapshots : List Snapshot} (heighted : Heighted snapshots)
    {jobHash : String} {left right : Decimal} (first : FirstReviewed snapshots jobHash left)
    (other : FirstReviewed snapshots jobHash right) : left = right := by
  rcases first.reviewed with ⟨snapshot, member, height, reviewed⟩
  rcases other.reviewed with ⟨another, otherMember, otherHeight, otherReviewed⟩
  have equal : left.toRat = right.toRat :=
    le_antisymm (first.least another otherMember otherReviewed right otherHeight)
      (other.least snapshot member reviewed left height)
  have same : snapshot = another := by
    apply List.inj_on_of_nodup_map heighted.distinct member otherMember
    rw [height, otherHeight, Option.map_some, Option.map_some, equal]
  rw [same, otherHeight, Option.some.injEq] at height
  exact height.symm

/-! ## A snapshot with other values -/

section Replacement

variable {old new : Snapshot} {earlier later : List Snapshot} {jobHash : String}

theorem counterpart (height : new.height = old.height)
    (reviewed : Reviewed jobHash new ↔ Reviewed jobHash old) :
    ∀ snapshot ∈ earlier ++ new :: later, ∃ other ∈ earlier ++ old :: later,
      other.height = snapshot.height ∧ (Reviewed jobHash snapshot → Reviewed jobHash other) := by
  intro snapshot member
  rcases List.mem_append.mp member with before | after
  · exact ⟨snapshot, List.mem_append_left _ before, rfl, fun has => has⟩
  · rcases List.mem_cons.mp after with rfl | beyond
    · exact ⟨old, List.mem_append_right _ List.mem_cons_self, height.symm, reviewed.mp⟩
    · have located := List.mem_append_right earlier (List.mem_cons_of_mem old beyond)
      exact ⟨snapshot, located, rfl, fun has => has⟩

theorem FirstReviewed.replace (height : new.height = old.height)
    (reviewed : Reviewed jobHash new ↔ Reviewed jobHash old) {lowest : Decimal}
    (first : FirstReviewed (earlier ++ old :: later) jobHash lowest) :
    FirstReviewed (earlier ++ new :: later) jobHash lowest := by
  constructor
  · rcases first.reviewed with ⟨snapshot, member, lowestOf, has⟩
    rcases @counterpart new old earlier later jobHash height.symm reviewed.symm snapshot member
      with ⟨other, otherMember, same, keeps⟩
    exact ⟨other, otherMember, same.trans lowestOf, keeps has⟩
  · intro snapshot member has high highest
    rcases counterpart height reviewed snapshot member with ⟨other, otherMember, same, keeps⟩
    exact first.least other otherMember (keeps has) high (same.trans highest)

theorem Heighted.replace (heighted : Heighted (earlier ++ old :: later))
    (height : new.height = old.height) : Heighted (earlier ++ new :: later) := by
  constructor
  · intro snapshot member
    rcases List.mem_append.mp member with before | after
    · exact heighted.numeric snapshot (List.mem_append_left _ before)
    · rcases List.mem_cons.mp after with rfl | beyond
      · rw [height]
        exact heighted.numeric old (List.mem_append_right _ List.mem_cons_self)
      · exact heighted.numeric snapshot
          (List.mem_append_right _ (List.mem_cons_of_mem old beyond))
  · have distinct := heighted.distinct
    simp only [List.map_append, List.map_cons, height] at distinct ⊢
    exact distinct

theorem heightsOf_replace (heighted : Heighted (earlier ++ old :: later))
    (height : new.height = old.height) (nonempty : jobHash ≠ "")
    (reviewed : Reviewed jobHash new ↔ Reviewed jobHash old) :
    heightsOf (earlier ++ new :: later) jobHash = heightsOf (earlier ++ old :: later) jobHash := by
  have replaced := heighted.replace height
  by_cases somewhere : ∃ snapshot ∈ earlier ++ old :: later, Reviewed jobHash snapshot
  · rcases heightsOf_reviewed heighted nonempty somewhere with ⟨lowest, first, heights⟩
    rcases (first.replace height reviewed).reviewed with ⟨snapshot, member, _, has⟩
    rcases heightsOf_reviewed replaced nonempty ⟨snapshot, member, has⟩ with
      ⟨other, otherFirst, otherHeights⟩
    rw [heights, otherHeights, otherFirst.unique replaced (first.replace height reviewed)]
  · have nowhere : ∀ snapshot ∈ earlier ++ new :: later, ¬ Reviewed jobHash snapshot := by
      intro snapshot member has
      rcases counterpart height reviewed snapshot member with ⟨other, otherMember, _, keeps⟩
      exact somewhere ⟨other, otherMember, keeps has⟩
    rw [heightsOf_unreviewed nonempty nowhere]
    apply (heightsOf_unreviewed nonempty _).symm
    exact fun snapshot member has => somewhere ⟨snapshot, member, has⟩

end Replacement

theorem reviewed_without {old new : Snapshot} {left right : List Json} {malformed : Json}
    (holds : old.values VdxfKeys.reviewRecord = some (left ++ malformed :: right))
    (without : (new.values VdxfKeys.reviewRecord).getD [] = left ++ right)
    (undecodable : decodeReviewValue malformed = none) (jobHash : String) :
    Reviewed jobHash new ↔ Reviewed jobHash old := by
  have none : jobHashOf malformed = none := by
    rw [jobHashOf, undecodable]
    rfl
  simp [Reviewed, Snapshot.hasReview, holds, without, none]

/-! ## The order of the reviews -/

def NotAbove (first second : Option Decimal) : Prop :=
  ∃ low high, first = some low ∧ second = some high ∧ low.toRat ≤ high.toRat

theorem mem_collect {key : String} {lastSerialized : Option String} {snapshots : List Snapshot}
    {entry : VdxfHistoryEntry} (member : entry ∈ collect key lastSerialized snapshots) :
    ∃ snapshot ∈ snapshots, entry.height = snapshot.height := by
  induction snapshots generalizing lastSerialized with
  | nil => cases member
  | cons snapshot rest induction =>
      have later : ∀ last, entry ∈ collect key last rest →
          ∃ other ∈ snapshot :: rest, entry.height = other.height := by
        intro last found
        rcases induction found with ⟨other, otherMember, height⟩
        exact ⟨other, List.mem_cons_of_mem _ otherMember, height⟩
      rw [collect] at member
      split at member
      · exact later _ member
      · dsimp only at member
        split at member
        · exact later _ member
        · rcases List.mem_append.mp member with own | rest
          · rcases List.mem_map.mp own with ⟨value, _, rfl⟩
            exact ⟨snapshot, List.mem_cons_self, rfl⟩
          · exact later _ rest

theorem collect_pairwise {key : String} {lastSerialized : Option String}
    {snapshots : List Snapshot}
    (numeric : ∀ snapshot ∈ snapshots, ∃ height, snapshot.height = some height)
    (sorted : snapshots.Pairwise fun left right => left.before right = true) :
    (collect key lastSerialized snapshots).Pairwise fun left right =>
      NotAbove left.height right.height := by
  induction snapshots generalizing lastSerialized with
  | nil => exact List.Pairwise.nil
  | cons snapshot rest induction =>
      have parts := List.pairwise_cons.mp sorted
      have tail := fun last => @induction last
        (fun other member => numeric other (List.mem_cons_of_mem _ member)) parts.2
      rcases numeric snapshot List.mem_cons_self with ⟨low, lowest⟩
      rw [collect]
      split
      · exact tail _
      · rename_i values _
        dsimp only
        split
        · exact tail _
        · apply List.pairwise_append.mpr
          refine ⟨?_, tail _, ?_⟩
          · rw [List.pairwise_map]
            exact List.pairwise_of_forall fun _ _ => ⟨low, low, lowest, lowest, le_rfl⟩
          · intro entry own other beyond
            rcases List.mem_map.mp own with ⟨value, _, rfl⟩
            rcases mem_collect beyond with ⟨later, laterMember, height⟩
            rcases numeric later (List.mem_cons_of_mem _ laterMember) with ⟨high, highest⟩
            exact ⟨low, high, lowest, height.trans highest,
              toRat_le_of_before (parts.1 later laterMember) lowest highest⟩

theorem decodeEntries_sublist (seen : List String) (entries : List VdxfHistoryEntry) :
    ((decodeEntries seen entries).map HistoricalReview.height).Sublist
      (entries.map VdxfHistoryEntry.height) := by
  induction entries generalizing seen with
  | nil => exact List.Sublist.refl _
  | cons entry rest induction =>
      rw [decodeEntries]
      split
      · exact (induction seen).cons _
      · dsimp only
        split
        · exact (induction seen).cons_cons _
        · split
          · exact (induction seen).cons _
          · exact (induction _).cons_cons _

theorem decodeReviewHistory_pairwise {snapshots : List Snapshot} (heighted : Heighted snapshots) :
    (decodeReviewHistory snapshots).Pairwise fun left right =>
      NotAbove left.height right.height := by
  have perm := ordered_perm snapshots
  have entries := @collect_pairwise VdxfKeys.reviewRecord none (ordered snapshots)
    (fun snapshot member => heighted.numeric snapshot (perm.mem_iff.mp member))
    (ordered_pairwise snapshots)
  have heights : ((extractVdxfHistory snapshots VdxfKeys.reviewRecord).map
      VdxfHistoryEntry.height).Pairwise NotAbove := List.pairwise_map.mpr entries
  exact List.pairwise_map.mp (heights.sublist (decodeEntries_sublist [] _))

/-- Every review is recovered once, at its lowest height and in order, from the
snapshots in any order and with or without malformed entries. -/
theorem reviews_recovered {snapshots : List Snapshot} (heighted : Heighted snapshots) :
    (∀ jobHash ≠ "",
      (∃ lowest, FirstReviewed snapshots jobHash lowest ∧
        heightsOf snapshots jobHash = [some lowest]) ∨
      (∀ snapshot ∈ snapshots, ¬ Reviewed jobHash snapshot) ∧
        heightsOf snapshots jobHash = []) ∧
    ((decodeReviewHistory snapshots).Pairwise fun left right =>
      NotAbove left.height right.height) ∧
    (∀ permuted, snapshots.Perm permuted →
      decodeReviewHistory permuted = decodeReviewHistory snapshots) ∧
    (∀ earlier old later new left malformed right, snapshots = earlier ++ old :: later →
      old.values VdxfKeys.reviewRecord = some (left ++ malformed :: right) →
      decodeReviewValue malformed = none → new.height = old.height →
      (new.values VdxfKeys.reviewRecord).getD [] = left ++ right →
        ∀ jobHash ≠ "",
          heightsOf (earlier ++ new :: later) jobHash = heightsOf snapshots jobHash) := by
  refine ⟨?_, decodeReviewHistory_pairwise heighted, ?_, ?_⟩
  · intro jobHash nonempty
    by_cases somewhere : ∃ snapshot ∈ snapshots, Reviewed jobHash snapshot
    · exact .inl (heightsOf_reviewed heighted nonempty somewhere)
    · have nowhere : ∀ snapshot ∈ snapshots, ¬ Reviewed jobHash snapshot :=
        fun snapshot member has => somewhere ⟨snapshot, member, has⟩
      exact .inr ⟨nowhere, heightsOf_unreviewed nonempty nowhere⟩
  · intro permuted perm
    have same := ordered_eq_of_perm heighted perm
    simp only [decodeReviewHistory, extractVdxfHistory]
    rw [ordered, ordered] at same
    rw [same]
  · intro earlier old later new left malformed right split holds undecodable height without
      jobHash nonempty
    subst split
    exact heightsOf_replace heighted height nonempty
      (reviewed_without holds without undecodable jobHash)

def reviewSnapshot (height : Decimal) (jobHash : String) : Snapshot where
  value := .object [
    ("height", .number height),
    ("identity", .object [("contentmultimap", .object [
      (VdxfKeys.reviewRecord, .array [.object [("jobHash", .string jobHash)]])])])]
  distinct := by simp [Json.Distinct, Json.DistinctMembers, Json.DistinctItems]

def rewritten : List Snapshot := [reviewSnapshot 1300 "job", reviewSnapshot 1000 "job"]

theorem rewritten_heights : (1300 : Decimal).toRat = 1300 ∧ (1000 : Decimal).toRat = 1000 := by
  constructor
  · change ((13 : Int) : ℚ) * 10 ^ 2 = 1300
    norm_num
  · change ((1 : Int) : ℚ) * 10 ^ 3 = 1000
    norm_num

theorem heighted_rewritten : Heighted rewritten where
  numeric := by
    intro snapshot member
    rcases List.mem_cons.mp member with rfl | last
    · exact ⟨1300, rfl⟩
    · rw [List.mem_singleton.mp last]
      exact ⟨1000, rfl⟩
  distinct := by
    change [some (1300 : Decimal).toRat, some (1000 : Decimal).toRat].Nodup
    rw [rewritten_heights.1, rewritten_heights.2]
    decide

theorem rewritten_first : FirstReviewed rewritten "job" 1000 where
  reviewed := by
    refine ⟨reviewSnapshot 1000 "job", List.mem_cons_of_mem _ List.mem_cons_self, rfl, ?_⟩
    rw [Reviewed]
    decide +kernel
  least := by
    intro snapshot member _ height reported
    rcases List.mem_cons.mp member with rfl | last
    · cases reported
      have above : (1000 : ℚ) ≤ 1300 := by decide +kernel
      rwa [← rewritten_heights.1, ← rewritten_heights.2] at above
    · rw [List.mem_singleton.mp last] at reported
      cases reported
      exact le_rfl

/-- It is found at the height of the first writing, whatever the order. -/
theorem reviews_recovered_rewritten :
    heightsOf rewritten "job" = [some 1000] ∧
      decodeReviewHistory rewritten.reverse = decodeReviewHistory rewritten := by
  have recovered := reviews_recovered heighted_rewritten
  constructor
  · rcases recovered.1 "job" (by decide) with ⟨lowest, first, heights⟩ | ⟨nowhere, _⟩
    · rw [heights, first.unique heighted_rewritten rewritten_first]
    · rcases rewritten_first.reviewed with ⟨snapshot, member, _, reviewed⟩
      exact absurd reviewed (nowhere snapshot member)
  · exact recovered.2.2.1 rewritten.reverse (List.reverse_perm rewritten).symm

end SovAgent.Identity.History

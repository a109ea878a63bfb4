import SovAgent.Agent.InboxBatch
import SovAgent.Identity.UpdateContents

/-! # What each phase of a batch does -/

namespace SovAgent.Inbox

open Onboarding Identity

/-! ## The gate -/

def allowedKey : InboxAcceptType → String
  | .review => VdxfKeys.reviewRecord
  | .attestation => VdxfKeys.reviewAttestation
  | .jobRecord => VdxfKeys.jobRecord

theorem inboxAllowlistForType_eq (type : InboxAcceptType) :
    inboxAllowlistForType type = [allowedKey type] := by
  cases type <;> rfl

theorem allowedKey_injective : Function.Injective allowedKey := by
  intro left right equal
  cases left <;> cases right <;> first | rfl | exact absurd equal (by decide)

theorem allowedKey_ne_multimapRemoveKey (type : InboxAcceptType) :
    allowedKey type ≠ multimapRemoveKey := by
  cases type <;> decide

def AtMostKey (key : String) (additions : Additions) : Prop :=
  additions.entries = [] ∨ ∃ values, additions.entries = [(key, values)]

theorem AtMostKey.gateEntry {key : String} {additions : Additions}
    (atMost : AtMostKey key additions) (entry : String × Json) :
    AtMostKey key (gateEntry [key] additions entry) := by
  unfold Inbox.gateEntry
  split
  · exact atMost
  · split
    · rename_i allowed
      rw [List.mem_singleton.mp allowed]
      right
      refine ⟨entry.2.asArray, ?_⟩
      rcases atMost with none | ⟨values, one⟩
      · simp [Record.set, none, Record.setEntry]
      · simp [Record.set, one, Record.setEntry]
    · exact atMost

theorem AtMostKey.foldl {key : String} {entries : List (String × Json)} {additions : Additions}
    (atMost : AtMostKey key additions) :
    AtMostKey key (entries.foldl (Inbox.gateEntry [key]) additions) := by
  induction entries generalizing additions with
  | nil => exact atMost
  | cons head tail induction => exact induction (atMost.gateEntry head)

/-- What passes the gate writes exactly the key of the item's type. -/
theorem buildInboxVdxfAdditions_single {type : InboxAcceptType} {item : Json} {label : String}
    {nowMs : Int} {additions : Additions}
    (built : buildInboxVdxfAdditions type item label nowMs = .ok additions) :
    ∃ values, additions.entries = [(allowedKey type, values)] := by
  unfold buildInboxVdxfAdditions at built
  simp only [inboxAllowlistForType_eq] at built
  split at built
  · cases type with
    | review => cases built
    | attestation => cases built
    | jobRecord =>
        cases built
        exact ⟨_, rfl⟩
  · split at built
    · cases built
    · rename_i nonempty
      cases built
      have atMost : AtMostKey (allowedKey type) Record.empty := .inl rfl
      rcases atMost.foldl with none | one
      · exact absurd (List.isEmpty_iff.mpr none) nonempty
      · exact one

theorem buildInboxVdxfAdditions_label {type : InboxAcceptType} {item : Json} {label : String}
    {nowMs : Int} {additions : Additions}
    (built : buildInboxVdxfAdditions type item label nowMs = .ok additions) (label' : String) :
    buildInboxVdxfAdditions type item label' nowMs = .ok additions := by
  unfold buildInboxVdxfAdditions at *
  by_cases noData : (vdxfEntries item).isEmpty
  · simp only [noData, if_true] at built ⊢
    cases type with
    | review => cases built
    | attestation => cases built
    | jobRecord => exact built
  · simp only [noData, Bool.false_eq_true, if_false] at built ⊢
    split at built
    · cases built
    · rename_i nonempty
      rw [if_neg nonempty]
      exact built

/-! ## Phase 1 -/

theorem gateItem_eq_ok {ref : InboxBatchItemRef} {detail : Json} {nowMs : Int}
    {additions : Additions} :
    gateItem ref detail nowMs = .ok additions ↔
      buildInboxVdxfAdditions ref.type detail s!"acceptInboxBatch {ref.id}" nowMs =
        .ok additions ∧ assertContentmultimapValueSizes additions = .ok () := by
  simp only [gateItem, bind_eq_ok, exists_unit, Except.ok.injEq]
  constructor
  · intro holds
    rcases holds with ⟨_, built, sized, rfl⟩
    exact ⟨built, sized⟩
  · intro holds
    rcases holds with ⟨built, sized⟩
    exact ⟨additions, built, sized, rfl⟩

def Gated (detail : Json) (nowMs : Int) (candidate : Candidate) : Prop :=
  screenDetail candidate.ref detail nowMs = .candidate candidate.additions

theorem Gated.isPending {detail : Json} {nowMs : Int} {candidate : Candidate}
    (gated : Gated detail nowMs candidate) : isPending detail := by
  unfold Gated screenDetail at gated
  split at gated
  · cases gated
  · rename_i pending
    exact not_not.mp pending

theorem Gated.named {detail : Json} {nowMs : Int} {candidate : Candidate}
    (gated : Gated detail nowMs candidate) {type : Json}
    (names : truthyProperty detail "type" = some type) :
    type = .string candidate.ref.type.name := by
  unfold Gated screenDetail at gated
  rw [names] at gated
  split at gated
  · cases gated
  · simp only [] at gated
    split at gated
    · rename_i same
      exact same
    · cases gated

theorem Gated.gateItem {detail : Json} {nowMs : Int} {candidate : Candidate}
    (gated : Gated detail nowMs candidate) :
    gateItem candidate.ref detail nowMs = .ok candidate.additions := by
  have passes : screenDetail.screenGate candidate.ref detail nowMs =
      .candidate candidate.additions := by
    unfold Gated screenDetail at gated
    split at gated
    · cases gated
    · split at gated
      · split at gated
        · exact gated
        · cases gated
      · exact gated
  unfold screenDetail.screenGate at passes
  split at passes
  · rename_i additions accepted
    cases passes
    exact accepted
  · cases passes

theorem Gated.single {detail : Json} {nowMs : Int} {candidate : Candidate}
    (gated : Gated detail nowMs candidate) :
    ∃ values, candidate.additions.entries = [(allowedKey candidate.ref.type, values)] :=
  buildInboxVdxfAdditions_single (gateItem_eq_ok.mp gated.gateItem).1

def Screens (client : InboxClient) (nowMs : Int) (candidate : Candidate) : Prop :=
  ∃ detail, client.getInboxItem candidate.ref.id = .ok (some detail) ∧ detail ≠ .null ∧
    Gated detail nowMs candidate

theorem screenItem_candidate {client : InboxClient} {nowMs : Int} {candidate : Candidate} :
    screenItem client nowMs candidate.ref = .ok (.candidate candidate.additions) ↔
      Screens client nowMs candidate := by
  unfold screenItem Screens
  constructor
  · intro screened
    split at screened
    · cases screened
    · cases screened
    · cases screened
    · rename_i detail notNull fetched
      cases detail with
      | null => exact absurd rfl notNull
      | bool | number | string | array | object =>
          exact ⟨_, fetched, by simp, Except.ok.inj screened⟩
  · intro holds
    rcases holds with ⟨detail, fetched, notNull, gated⟩
    rw [fetched]
    cases detail with
    | null => exact absurd rfl notNull
    | bool | number | string | array | object => exact congrArg Except.ok gated

theorem mem_place_candidates {screened : Screened} {ref : InboxBatchItemRef}
    {screening : Screening} {candidate : Candidate} :
    candidate ∈ (screened.place ref screening).candidates ↔
      candidate.ref = ref ∧ screening = .candidate candidate.additions ∨
        candidate ∈ screened.candidates := by
  cases screening with
  | deferred | alreadyDone | rejected => simp [Screened.place]
  | candidate additions =>
      rcases candidate with ⟨ref', additions'⟩
      simp [Screened.place, eq_comm]

theorem mem_candidates {client : InboxClient} {nowMs : Int} {items : List InboxBatchItemRef}
    {screened : Screened} (screens : screenItems client nowMs items = .ok screened)
    {candidate : Candidate} :
    candidate ∈ screened.candidates ↔
      candidate.ref ∈ items ∧ Screens client nowMs candidate := by
  induction items generalizing screened with
  | nil =>
      cases screens
      simp [Screened.empty]
  | cons head tail induction =>
      simp only [screenItems, bind_eq_ok, Except.ok.injEq] at screens
      rcases screens with ⟨screening, headScreened, rest, tailScreened, rfl⟩
      rw [mem_place_candidates, induction tailScreened, List.mem_cons]
      constructor
      · intro holds
        rcases holds with ⟨rfl, rfl⟩ | ⟨member, passes⟩
        · exact ⟨.inl rfl, screenItem_candidate.mp headScreened⟩
        · exact ⟨.inr member, passes⟩
      · intro holds
        rcases holds with ⟨rfl | member, passes⟩
        · have equal := headScreened.symm.trans (screenItem_candidate.mpr passes)
          exact .inl ⟨rfl, Except.ok.inj equal⟩
        · exact .inr ⟨member, passes⟩

theorem Screens.unique {client : InboxClient} {nowMs : Int} {left right : Candidate}
    (leftScreens : Screens client nowMs left) (rightScreens : Screens client nowMs right)
    (sameRef : left.ref = right.ref) : left = right := by
  rcases left with ⟨ref, leftAdditions⟩
  rcases right with ⟨_, rightAdditions⟩
  cases sameRef
  have first : screenItem client nowMs ref = .ok (.candidate leftAdditions) :=
    screenItem_candidate.mpr leftScreens
  have second : screenItem client nowMs ref = .ok (.candidate rightAdditions) :=
    screenItem_candidate.mpr rightScreens
  cases first.symm.trans second
  rfl

/-! ## Phase 3 -/

/-- All additions of the given items; a later item wins. -/
def unionAdditions (chosen : List Candidate) : Additions :=
  chosen.foldl (fun additions candidate => additions.assign candidate.additions) Record.empty

theorem unionAdditions_append (chosen : List Candidate) (candidate : Candidate) :
    unionAdditions (chosen ++ [candidate]) =
      (unionAdditions chosen).assign candidate.additions := by
  simp [unionAdditions, List.foldl_append]

def OneItemPerKey (chosen : List Candidate) : Prop :=
  ∀ left ∈ chosen, ∀ right ∈ chosen, ∀ key,
    key ∈ left.additions.keys → key ∈ right.additions.keys → left = right

theorem OneItemPerKey.subset {chosen kept : List Candidate} (one : OneItemPerKey chosen)
    (subset : ∀ candidate ∈ kept, candidate ∈ chosen) : OneItemPerKey kept := by
  intro left leftMember right rightMember
  exact one left (subset left leftMember) right (subset right rightMember)

theorem get?_unionAdditions {chosen : List Candidate} (one : OneItemPerKey chosen)
    {candidate : Candidate} (member : candidate ∈ chosen) {key : String} {values : List Json}
    (found : candidate.additions.get? key = some values) :
    (unionAdditions chosen).get? key = some values := by
  induction chosen using List.reverseRecOn with
  | nil => cases member
  | append_singleton init last induction =>
      have keyOf : key ∈ candidate.additions.keys := by
        rw [Record.mem_keys_iff, found]
        rfl
      rw [unionAdditions_append, Record.get?_assign]
      cases lastFound : last.additions.get? key with
      | some lastValues =>
          have keyOfLast : key ∈ last.additions.keys := by
            rw [Record.mem_keys_iff, lastFound]
            rfl
          have same := one candidate member last (by simp) key keyOf keyOfLast
          rw [same, lastFound] at found
          exact found
      | none =>
          have notLast : candidate ≠ last := by
            intro equal
            rw [equal, lastFound] at found
            cases found
          have before : candidate ∈ init := by simpa [notLast] using member
          exact induction (one.subset fun other => List.mem_append_left _) before

theorem mem_keys_unionAdditions {chosen : List Candidate} {key : String} :
    key ∈ (unionAdditions chosen).keys ↔ ∃ candidate ∈ chosen, key ∈ candidate.additions.keys := by
  induction chosen using List.reverseRecOn with
  | nil => simp [unionAdditions, Record.keys, Record.empty]
  | append_singleton init last induction =>
      rw [unionAdditions_append, Record.mem_keys_assign, induction]
      simp [or_and_right, exists_or, or_comm]

/-- The merge of the given candidates chose these ones to write. -/
structure Merges (onChain : Record String Json) (candidates : List Candidate) (merge : Merge)
    (chosen : List Candidate) : Prop where
  sublist : chosen.Sublist candidates
  merged : merge.merged = unionAdditions chosen
  mergedRefs : merge.mergedRefs = chosen.map Candidate.ref
  absent : ∀ candidate ∈ chosen, ¬ alreadyPresent onChain candidate.additions
  onePerKey : OneItemPerKey chosen
  written : merge.written =
    (candidates.filter fun candidate => alreadyPresent onChain candidate.additions).map
      Candidate.ref

theorem Merges.step {onChain : Record String Json} {maxBytes : Int} {candidates : List Candidate}
    {merge : Merge} {chosen : List Candidate} (merges : Merges onChain candidates merge chosen)
    (candidate : Candidate) :
    ∃ chosen', Merges onChain (candidates ++ [candidate])
      (mergeCandidate onChain maxBytes merge candidate) chosen' := by
  unfold mergeCandidate
  split
  · rename_i present
    refine ⟨chosen, merges.sublist.trans (List.sublist_append_left _ _), merges.merged,
      merges.mergedRefs, merges.absent, merges.onePerKey, ?_⟩
    simp [merges.written, present]
  · rename_i absent
    have written : merge.written =
        ((candidates ++ [candidate]).filter fun candidate =>
          alreadyPresent onChain candidate.additions).map Candidate.ref := by
      simp [merges.written, absent]
    have unchanged := merges.sublist.trans (List.sublist_append_left candidates [candidate])
    split
    · exact ⟨chosen, unchanged, merges.merged, merges.mergedRefs, merges.absent,
        merges.onePerKey, written⟩
    · rename_i noCollision
      simp only []
      split
      · exact ⟨chosen, unchanged, merges.merged, merges.mergedRefs, merges.absent,
          merges.onePerKey, written⟩
      · refine ⟨chosen ++ [candidate], merges.sublist.append_right _, ?_, ?_, ?_, ?_, written⟩
        · rw [merges.merged, unionAdditions_append]
        · simp [merges.mergedRefs]
        · intro other member
          rcases List.mem_append.mp member with earlier | last
          · exact merges.absent other earlier
          · rw [List.mem_singleton.mp last]
            exact absent
        · have fresh : ∀ other ∈ chosen, ∀ key ∈ other.additions.keys,
              key ∉ candidate.additions.keys := by
            intro other member key keyOf keyOfCandidate
            apply noCollision
            rw [List.any_eq_true]
            refine ⟨key, keyOfCandidate, ?_⟩
            rw [decide_eq_true_eq, merges.merged, mem_keys_unionAdditions]
            exact ⟨other, member, keyOf⟩
          intro left leftMember right rightMember key keyOfLeft keyOfRight
          rcases List.mem_append.mp leftMember with leftEarlier | leftLast
          · rcases List.mem_append.mp rightMember with rightEarlier | rightLast
            · exact merges.onePerKey left leftEarlier right rightEarlier key keyOfLeft keyOfRight
            · rw [List.mem_singleton.mp rightLast] at keyOfRight
              exact absurd keyOfRight (fresh left leftEarlier key keyOfLeft)
          · rw [List.mem_singleton.mp leftLast] at keyOfLeft ⊢
            rcases List.mem_append.mp rightMember with rightEarlier | rightLast
            · exact absurd keyOfLeft (fresh right rightEarlier key keyOfRight)
            · exact (List.mem_singleton.mp rightLast).symm

theorem mergeCandidates_merges (onChain : Record String Json) (maxBytes : Int)
    (candidates : List Candidate) :
    ∃ chosen, Merges onChain candidates (mergeCandidates onChain maxBytes candidates) chosen := by
  unfold mergeCandidates
  induction candidates using List.reverseRecOn with
  | nil => exact ⟨[], List.nil_sublist _, rfl, rfl, by simp, by simp [OneItemPerKey], rfl⟩
  | append_singleton init last induction =>
      rcases induction with ⟨chosen, merges⟩
      rw [List.foldl_append]
      exact merges.step last

/-! ## Phase 4 -/

section Build

variable {build : Additions → Except Thrown SignedUpdate}

/-- The candidates that bisection keeps: listed as merged, and built alone. -/
def survives (build : Additions → Except Thrown SignedUpdate)
    (mergedRefs : List InboxBatchItemRef) (candidate : Candidate) : Bool :=
  mergedRefs.any (·.id = candidate.ref.id) && (build candidate.additions).toBool

theorem bisect_survivors (build : Additions → Except Thrown SignedUpdate)
    (mergedRefs : List InboxBatchItemRef) (candidates : List Candidate) :
    (bisect build mergedRefs candidates).survivors =
        (candidates.filter (survives build mergedRefs)).map Candidate.ref ∧
      (bisect build mergedRefs candidates).rebuilt =
        unionAdditions (candidates.filter (survives build mergedRefs)) := by
  unfold bisect
  induction candidates using List.reverseRecOn with
  | nil => exact ⟨rfl, rfl⟩
  | append_singleton init last induction =>
      rw [List.foldl_append, List.filter_append, List.map_append, List.foldl_cons, List.foldl_nil]
      generalize init.foldl (bisectCandidate build mergedRefs) Bisection.start = bisection
        at induction ⊢
      unfold bisectCandidate
      split
      · rename_i skipped
        have dropped : survives build mergedRefs last = false := by
          simp [survives, Bool.eq_false_iff.mpr skipped]
        simpa [dropped] using induction
      · rename_i listed
        rw [not_not] at listed
        split
        · rename_i signed built
          have kept : survives build mergedRefs last = true := by
            simp [survives, listed, built, Except.toBool]
          simp [kept, induction.1, induction.2, unionAdditions_append]
        · rename_i error failed
          have dropped : survives build mergedRefs last = false := by
            simp [survives, failed, Except.toBool]
          simpa [dropped] using induction

theorem survives_listed {mergedRefs : List InboxBatchItemRef} {candidate : Candidate}
    (survivor : survives build mergedRefs candidate) :
    ∃ ref ∈ mergedRefs, ref.id = candidate.ref.id := by
  rw [survives, Bool.and_eq_true, List.any_eq_true] at survivor
  rcases survivor.1 with ⟨ref, member, same⟩
  exact ⟨ref, member, of_decide_eq_true same⟩

def OneItemPerId (candidates : List Candidate) : Prop :=
  ∀ left ∈ candidates, ∀ right ∈ candidates, left.ref.id = right.ref.id → left = right

theorem settle_built {merge : Merge} {candidates : List Candidate} {settled : Settled}
    {signed : SignedUpdate} (settles : settle build merge candidates = .ok settled)
    (isSigned : settled.signed = some signed) :
    settled.mergedRefs = merge.mergedRefs ∧ build merge.merged = .ok signed ∨
      settled.mergedRefs = (bisect build merge.mergedRefs candidates).survivors ∧
        build (bisect build merge.mergedRefs candidates).rebuilt = .ok signed := by
  unfold settle at settles
  split at settles
  · rename_i built
    cases settles
    cases isSigned
    exact .inl ⟨rfl, built⟩
  · split at settles
    · cases settles
    · simp only [] at settles
      split at settles
      · cases settles
      · cases settles
        unfold rebuild at isSigned ⊢
        split at isSigned
        · cases isSigned
        · split at isSigned
          · rename_i nonempty _ _ built
            cases isSigned
            rw [if_neg nonempty]
            exact .inr ⟨rfl, built⟩
          · cases isSigned

theorem settle_signed {onChain : Record String Json} {candidates chosen : List Candidate}
    {merge : Merge} (merges : Merges onChain candidates merge chosen)
    (oneItem : OneItemPerId candidates) {settled : Settled} {signed : SignedUpdate}
    (settles : settle build merge candidates = .ok settled)
    (isSigned : settled.signed = some signed) :
    ∃ kept, settled.mergedRefs = kept.map Candidate.ref ∧
      (∀ candidate ∈ kept, candidate ∈ chosen) ∧ build (unionAdditions kept) = .ok signed := by
  rcases settle_built settles isSigned with ⟨refs, built⟩ | ⟨refs, built⟩
  · rw [merges.merged] at built
    exact ⟨chosen, refs.trans merges.mergedRefs, fun _ member => member, built⟩
  · have bisects := bisect_survivors build merge.mergedRefs candidates
    refine ⟨_, refs.trans bisects.1, ?_, bisects.2 ▸ built⟩
    intro candidate member
    rcases List.mem_filter.mp member with ⟨listed, survivor⟩
    rcases survives_listed survivor with ⟨ref, refMember, same⟩
    rw [merges.mergedRefs] at refMember
    rcases List.mem_map.mp refMember with ⟨other, otherMember, rfl⟩
    rw [← oneItem other (merges.sublist.subset otherMember) candidate listed same]
    exact otherMember

theorem settle_unsigned {merge : Merge} {candidates : List Candidate} {settled : Settled}
    (settles : settle build merge candidates = .ok settled) (unsigned : settled.signed = none) :
    settled.mergedRefs = [] := by
  unfold settle at settles
  split at settles
  · cases settles
    cases unsigned
  · split at settles
    · cases settles
    · simp only [] at settles
      split at settles
      · cases settles
      · cases settles
        unfold rebuild at unsigned ⊢
        split
        · rfl
        · rename_i nonempty
          rw [if_neg nonempty] at unsigned
          split
          · rename_i built
            rw [built] at unsigned
            cases unsigned
          · rfl

end Build

/-! ## The batch -/

section Batch

variable {library : TransactionLibrary} {client : InboxClient} {agent : InboxAgent} {nowMs : Int}
variable {items : List InboxBatchItemRef}

inductive Finishes (client : InboxClient) (screened : Screened) (merge : Merge)
    (settled : Settled) (expiryHeight : Option Int) : Execution InboxBatchResult → Prop
  | refused (signed error) :
      settled.signed = some signed → settled.mergedRefs ≠ [] →
      client.broadcast signed.hex.text = .error error →
      Finishes client screened merge settled expiryHeight
        ⟨[.broadcast signed settled.mergedRefs], .error error⟩
  | sent (signed txid result) :
      settled.signed = some signed → settled.mergedRefs ≠ [] →
      client.broadcast signed.hex.text = .ok txid →
      result = collectResult client screened merge settled (some (txid, expiryHeight)) →
      Finishes client screened merge settled expiryHeight
        ⟨.broadcast signed settled.mergedRefs :: ackCalls result, .ok result⟩
  | unsent (result) :
      settled.signed = none ∨ settled.mergedRefs = [] →
      result = collectResult client screened merge settled none →
      Finishes client screened merge settled expiryHeight ⟨ackCalls result, .ok result⟩

theorem finishBatch_finishes (client : InboxClient) (screened : Screened) (merge : Merge)
    (settled : Settled) (expiryHeight : Option Int) :
    Finishes client screened merge settled expiryHeight
      (finishBatch client screened merge settled expiryHeight) := by
  unfold finishBatch
  split
  · rename_i signed first rest isSigned refs
    have nonempty : settled.mergedRefs ≠ [] := by simp [refs]
    simp only []
    split
    · rename_i error answer
      exact .refused signed error isSigned nonempty answer
    · rename_i txid answer
      exact .sent signed txid _ isSigned nonempty answer rfl
  · rename_i notSent
    apply Finishes.unsent _ _ rfl
    cases isSigned : settled.signed with
    | none => exact .inl rfl
    | some signed =>
        cases refs : settled.mergedRefs with
        | nil => exact .inr rfl
        | cons first rest => exact absurd refs (notSent signed first rest isSigned)

/-- How a batch ends: it throws before anything is sent, it has nothing to
write or to acknowledge, or it reaches the broadcast. -/
inductive BatchOutcome (library : TransactionLibrary) (client : InboxClient) (agent : InboxAgent)
    (nowMs : Int) (items : List InboxBatchItemRef) (maxBytes : Int) :
    Execution InboxBatchResult → Prop
  | threw (error) : BatchOutcome library client agent nowMs items maxBytes (.throw error)
  | unwritten (screened) :
      screenItems client nowMs items = .ok screened →
      screened.candidates = [] →
      BatchOutcome library client agent nowMs items maxBytes
        ⟨[], .ok (collectResult client screened Merge.start Settled.nothing none)⟩
  | finished (screened wif data utxos settled expiryHeight) :
      screenItems client nowMs items = .ok screened →
      agent.key? = some wif →
      client.getIdentityRaw = .ok data →
      client.getUtxos = .ok utxos →
      buildPhase library client agent wif data utxos
        (mergeCandidates (onChainContentmultimap data) maxBytes screened.candidates)
        screened.candidates = .ok (settled, expiryHeight) →
      BatchOutcome library client agent nowMs items maxBytes
        (finishBatch client screened
          (mergeCandidates (onChainContentmultimap data) maxBytes screened.candidates) settled
          expiryHeight)

theorem collectResult_unwritten (client : InboxClient) (screened : Screened) :
    collectResult client screened Merge.start Settled.nothing none =
      { emptyResult with
        rejected := screened.rejected
        deferred := screened.deferred
        alreadyDone := screened.alreadyDone } := by
  simp [collectResult, Merge.start, Settled.nothing, ackItems, emptyResult]

theorem acceptInboxBatch_outcome (library : TransactionLibrary) (client : InboxClient)
    (agent : InboxAgent) (nowMs : Int) (items : List InboxBatchItemRef)
    (maxAdditionBytes : Option Int) :
    BatchOutcome library client agent nowMs items (maxAdditionBytes.getD maxBatchAdditionBytes)
      (acceptInboxBatch library client agent nowMs items maxAdditionBytes) := by
  unfold acceptInboxBatch
  simp only []
  split
  · rename_i empty
    rw [List.isEmpty_iff.mp empty]
    exact .unwritten Screened.empty rfl rfl
  · split
    · exact .threw _
    · rename_i screened read
      simp only [readPhase, bind_eq_ok, requireSome_eq_ok] at read
      rcases read with ⟨wif, _, screened', screens, rest⟩
      split at rest
      · rename_i noCandidates
        cases rest
        rw [← collectResult_unwritten client]
        exact .unwritten screened screens (List.isEmpty_iff.mp noCandidates)
      · simp only [bind_eq_ok, Except.ok.injEq, Prod.mk.injEq, reduceCtorEq, and_false,
          exists_false] at rest
    · rename_i screened wif data utxos read
      simp only [readPhase, bind_eq_ok, requireSome_eq_ok] at read
      rcases read with ⟨wif', key, screened', screens, rest⟩
      split at rest
      · cases rest
      · simp only [bind_eq_ok, exists_unit, Except.ok.injEq, Prod.mk.injEq, Option.some.injEq]
          at rest
        rcases rest with ⟨data', reads, utxos', funds, _, rfl, rfl, rfl, rfl⟩
        split
        · exact .threw _
        · rename_i settled expiryHeight built
          exact .finished screened' wif' data' utxos' settled expiryHeight screens key reads funds
            built

theorem acceptInboxBatch_broadcast {maxAdditionBytes : Option Int} {signed : SignedUpdate}
    {refs : List InboxBatchItemRef}
    (sent : Call.broadcast signed refs ∈
      (acceptInboxBatch library client agent nowMs items maxAdditionBytes).calls) :
    ∃ screened wif data utxos settled expiryHeight,
      screenItems client nowMs items = .ok screened ∧ agent.key? = some wif ∧
      client.getIdentityRaw = .ok data ∧ client.getUtxos = .ok utxos ∧
      buildPhase library client agent wif data utxos
        (mergeCandidates (onChainContentmultimap data)
          (maxAdditionBytes.getD maxBatchAdditionBytes) screened.candidates)
        screened.candidates = .ok (settled, expiryHeight) ∧
      settled.signed = some signed ∧ settled.mergedRefs = refs ∧ refs ≠ [] := by
  have outcome := acceptInboxBatch_outcome library client agent nowMs items maxAdditionBytes
  generalize acceptInboxBatch library client agent nowMs items maxAdditionBytes = execution
    at outcome sent
  cases outcome with
  | threw error => cases sent
  | unwritten screened screens noCandidates => cases sent
  | finished screened wif data utxos settled expiryHeight screens key reads funds builds =>
      refine ⟨screened, wif, data, utxos, settled, expiryHeight, screens, key, reads, funds,
        builds, ?_⟩
      have finishes := finishBatch_finishes client screened (mergeCandidates
        (onChainContentmultimap data) (maxAdditionBytes.getD maxBatchAdditionBytes)
        screened.candidates) settled expiryHeight
      generalize finishBatch client screened _ settled expiryHeight = execution
        at finishes sent
      cases finishes with
      | refused other error isSigned nonempty answered =>
          cases List.mem_singleton.mp sent
          exact ⟨isSigned, rfl, nonempty⟩
      | sent other txid result isSigned nonempty answered equal =>
          rcases List.mem_cons.mp sent with here | later
          · cases here
            exact ⟨isSigned, rfl, nonempty⟩
          · simp [ackCalls] at later
      | unsent result notSent equal => simp [ackCalls] at sent

theorem buildPhase_signed {wif : String} {data : RawIdentityData} {utxos : Option (List Utxo)}
    {merge : Merge} {candidates : List Candidate} {settled : Settled} {expiryHeight : Option Int}
    {signed : SignedUpdate}
    (builds : buildPhase library client agent wif data utxos merge candidates =
      .ok (settled, expiryHeight)) (isSigned : settled.signed = some signed) :
    ∃ tip, settle (fun additions => buildIdentityUpdateTx library
      (updateParams agent wif data (utxos.getD []) tip additions)) merge candidates =
        .ok settled := by
  unfold buildPhase at builds
  split at builds
  · cases builds
    cases isSigned
  · simp only [bind_eq_ok, exists_unit, Except.ok.injEq, Prod.mk.injEq] at builds
    rcases builds with ⟨_, tip, _, settled', settles, rfl, _⟩
    exact ⟨tip, settles⟩

end Batch

/-! ## A sample platform

Libraries, an identity and a platform that accept everything, for examples. -/

def sampleLibrary : TransactionLibrary where
  hash160Hex := some
  identityScript _ := .ok "51"
  keyAddress _ _ := .ok "Ragent"
  outputScript _ _ := .ok "76"
  sign _ _ _ := .ok ⟨"0400", by decide⟩

def sampleRawIdentity (onChain : Record String Json) : RawIdentity where
  version := some (.number 3)
  flags := some (.number 0)
  minimumsignatures := some (.number 1)
  primaryaddresses := some (.array [.string "Ragent"])
  parent := some (.string "iParent")
  name := some (.string "agent")
  contentmap := none
  contentmultimap := some onChain
  revocationauthority := some (.string "iAgent")
  recoveryauthority := some (.string "iAgent")
  systemid := none

def sampleIdentity (onChain : Record String Json) : RawIdentityData where
  identity := some (sampleRawIdentity onChain)
  blockHeight := 100
  prevOutput := some ⟨"aa", 0, "51", 0⟩

def sampleAgent : InboxAgent := ⟨some "wif", some "iAgent", .verustest⟩

def sampleUtxo : Utxo where
  txid := "bb"
  vout := 1
  satoshis := 50000
  script := none
  address := none

def sampleClient (onChain : Record String Json) (item : String → Json)
    (ack : String → Except Thrown Unit) : InboxClient where
  getInboxItem id := .ok (some (item id))
  getIdentityRaw := .ok (sampleIdentity onChain)
  getUtxos := .ok (some [sampleUtxo])
  getChainInfo := .ok (some 120)
  broadcast _ := .ok "txid"
  acceptInboxItem id _ := ack id

def Call.broadcastItems : Call → Option (List InboxBatchItemRef)
  | .broadcast _ items => some items
  | .acceptInboxItem _ _ => none

theorem exists_broadcast {calls : List Call} {refs : List InboxBatchItemRef}
    (sent : refs ∈ calls.filterMap Call.broadcastItems) :
    ∃ signed, Call.broadcast signed refs ∈ calls := by
  rcases List.mem_filterMap.mp sent with ⟨call, member, items⟩
  cases call with
  | acceptInboxItem id txid => cases items
  | broadcast signed refs' =>
      cases items
      exact ⟨signed, member⟩

def pendingItem (key : String) (values : Json) : Json :=
  .object [("status", .string "pending"), ("vdxfData", .object [(key, values)])]

end SovAgent.Inbox

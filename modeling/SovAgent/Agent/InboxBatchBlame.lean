import SovAgent.Agent.InboxBatchMap
import SovAgent.Agent.InboxBatchPartition
import SovAgent.Identity.UpdateOrder

/-! # Blame in a batch whose transaction does not build

The library serialises a map key by key. Then an item is blamed for a failed
build exactly when its own values do not serialise, and everything else that
was selected is broadcast.
-/

namespace SovAgent.Inbox

open Onboarding Identity

/-! ## Serialisation -/

/-- Whether an identity serialises depends on its map value by value, a key that
serialises decodes, and signing does not look at the script of the identity. -/
structure SerialisesPerKey (library : TransactionLibrary)
    (serialises : String → List Json → Prop) : Prop where
  script : ∀ identity : IdentityJson, (∃ text, library.identityScript identity = .ok text) ↔
    (∃ text, library.identityScript { identity with contentmultimap := Record.empty } = .ok text) ∧
      ∀ key values, identity.contentmultimap.get? key = some values → serialises key values
  key : ∀ key values, serialises key values → (library.hash160Hex key).isSome
  sign : ∀ wif network (transaction : Transaction) (first second : String) (rest),
    (∃ hex, library.sign wif network { transaction with outputs := (first, 0) :: rest } =
      .ok hex) →
    ∃ hex, library.sign wif network { transaction with outputs := (second, 0) :: rest } = .ok hex

/-- The builds of one batch differ in their additions only. -/
def batchBuild (library : TransactionLibrary) (agent : InboxAgent) (wif : String)
    (data : RawIdentityData) (utxos : Option (List Utxo)) (tip : Option Int)
    (additions : Additions) : Except Thrown SignedUpdate :=
  buildIdentityUpdateTx library (updateParams agent wif data (utxos.getD []) tip additions)

def AllSerialise (serialises : String → List Json → Prop) (map : String → Option (List Json)) :
    Prop :=
  ∀ key values, map key = some values → serialises key values

section PerKey

variable {library : TransactionLibrary} {serialises : String → List Json → Prop}
variable {agent : InboxAgent} {wif : String} {data : RawIdentityData}
variable {utxos : Option (List Utxo)} {tip : Option Int}

theorem AllSerialise.overwrite {base update : String → Option (List Json)}
    (below : AllSerialise serialises base) (above : AllSerialise serialises update) :
    AllSerialise serialises (overwrite base update) := by
  intro key values found
  cases added : update key with
  | some other =>
      rw [overwrite_of_some added] at found
      rw [← Option.some.inj found]
      exact above key other added
  | none =>
      rw [overwrite_of_none added] at found
      exact below key values found

theorem batchBuild_serialised (perKey : SerialisesPerKey library serialises)
    {additions : Additions} {signed : SignedUpdate}
    (built : batchBuild library agent wif data utxos tip additions = .ok signed) :
    AllSerialise serialises
      (overwrite (carried (onChainContentmultimap data)) additions.get?) := by
  have writes := updatedContentmultimap_overwrites (buildIdentityUpdateTx_map built)
  rw [← writes]
  simp only [batchBuild, buildIdentityUpdateTx, bind_eq_ok, Except.ok.injEq] at built
  rcases built with ⟨_, _, identity, _, _, _, map, _, text, scripts, _, _, _, _, _, _, _, _, _, _,
    _, _, rfl⟩
  exact ((perKey.script _).mp ⟨text, scripts⟩).2

theorem updatedContentmultimap_of_serialised (perKey : SerialisesPerKey library serialises)
    {onChain : Record String Json} {additions : Additions}
    (sized : assertContentmultimapValueSizes additions = .ok ())
    (final : AllSerialise serialises (overwrite (carried onChain) additions.get?)) :
    ∃ updated, updatedContentmultimap library.hash160Hex false (some onChain) additions =
      .ok updated := by
  have merged : ∀ key, ((carriedContentmultimap false (some onChain)).assign additions).get? key =
      overwrite (carried onChain) additions.get? key := by
    intro key
    rw [Record.get?_assign, carriedContentmultimap_get?]
    rfl
  have sortable : Sortable library.hash160Hex
      ((carriedContentmultimap false (some onChain)).assign additions).keys := by
    right
    intro key member
    rw [Record.mem_keys_iff, merged] at member
    rcases Option.isSome_iff_exists.mp member with ⟨values, found⟩
    exact perKey.key key values (final key values found)
  apply updatedContentmultimap_exists sized sortable
  · intro key present
    rw [Record.mem_keys_assign, Record.mem_keys_iff, Record.mem_keys_iff,
      carriedContentmultimap_get?]
    exact .inr present
  · exact fun key own => Record.mem_keys_assign.mpr (.inl own)

theorem batchBuild_of_control (perKey : SerialisesPerKey library serialises)
    {additions : Additions} {control : SignedUpdate}
    (builds : batchBuild library agent wif data utxos tip Record.empty = .ok control)
    (sized : assertContentmultimapValueSizes additions = .ok ())
    (own : AllSerialise serialises additions.get?) :
    ∃ signed, batchBuild library agent wif data utxos tip additions = .ok signed := by
  have base : AllSerialise serialises (carried (onChainContentmultimap data)) :=
    batchBuild_serialised perKey builds
  rcases updatedContentmultimap_of_serialised perKey sized (base.overwrite own) with
    ⟨updated, updates⟩
  have written : AllSerialise serialises updated.get? := by
    rw [updatedContentmultimap_overwrites updates]
    exact base.overwrite own
  simp only [batchBuild, buildIdentityUpdateTx, bind_eq_ok, exists_unit, Except.ok.injEq]
    at builds ⊢
  rcases builds with ⟨prevOutput, spends, identity, reads, funded, map, _, text, scripts,
    address, signsFor, agentScript, pays, controls, funding, selection, selects, hex, signs, _⟩
  have reads' : data.identity = some identity := requireSome_eq_ok.mp reads
  have identityMap : updatedContentmultimap library.hash160Hex false identity.contentmultimap
      additions = .ok updated := by
    rw [updatedContentmultimap_getD]
    simpa [onChainContentmultimap, reads'] using updates
  rcases (perKey.script (updatedIdentity _ identity updated)).mpr
    ⟨((perKey.script _).mp ⟨text, scripts⟩).1, written⟩ with ⟨newText, newScripts⟩
  rcases perKey.sign _ _ (updateTransaction (updateParams agent wif data (utxos.getD []) tip
    Record.empty) prevOutput text agentScript selection.1 selection.2) text newText _
    ⟨hex, signs⟩ with ⟨newHex, newSigns⟩
  exact ⟨_, prevOutput, spends, identity, reads, funded, updated, identityMap, newText, newScripts,
    address, signsFor, agentScript, pays, controls, funding, selection, selects, newHex, newSigns,
    rfl⟩

end PerKey

/-! ## Bisection -/

theorem get?_unionAdditions_source {chosen : List Candidate} {key : String} {values : List Json}
    (found : (unionAdditions chosen).get? key = some values) :
    ∃ candidate ∈ chosen, candidate.additions.get? key = some values := by
  induction chosen using List.reverseRecOn with
  | nil => cases found
  | append_singleton init last induction =>
      rw [unionAdditions_append, Record.get?_assign] at found
      cases lastFound : last.additions.get? key with
      | some lastValues =>
          rw [lastFound] at found
          exact ⟨last, by simp, lastFound.trans found⟩
      | none =>
          rw [lastFound, Option.none_or] at found
          rcases induction found with ⟨candidate, member, source⟩
          exact ⟨candidate, List.mem_append_left _ member, source⟩

theorem unionAdditions_sized {chosen : List Candidate}
    (sized : ∀ candidate ∈ chosen, assertContentmultimapValueSizes candidate.additions = .ok ()) :
    assertContentmultimapValueSizes (unionAdditions chosen) = .ok () := by
  rw [assertContentmultimapValueSizes_eq_ok]
  intro oversized
  rcases oversized with ⟨key, values, found, large⟩
  rcases get?_unionAdditions_source found with ⟨candidate, member, source⟩
  apply assertContentmultimapValueSizes_eq_ok.mp (sized candidate member)
  exact ⟨key, values, source, large⟩

theorem unionAdditions_serialise {serialises : String → List Json → Prop}
    {chosen : List Candidate}
    (own : ∀ candidate ∈ chosen, AllSerialise serialises candidate.additions.get?) :
    AllSerialise serialises (unionAdditions chosen).get? := by
  intro key values found
  rcases get?_unionAdditions_source found with ⟨candidate, member, source⟩
  exact own candidate member key values source

def blame (build : Additions → Except Thrown SignedUpdate) (candidate : Candidate) :
    Option RejectedItem :=
  match build candidate.additions with
  | .ok _ => none
  | .error error => some (reject candidate.ref s!"tx build failed: {error.message}")

theorem bisect_rejected (build : Additions → Except Thrown SignedUpdate)
    (mergedRefs : List InboxBatchItemRef) (candidates : List Candidate) :
    (bisect build mergedRefs candidates).rejected =
        (candidates.filter fun candidate => mergedRefs.any (·.id = candidate.ref.id)).filterMap
          (blame build) ∧
      (bisect build mergedRefs candidates).blamed =
        (bisect build mergedRefs candidates).rejected.length := by
  unfold bisect
  induction candidates using List.reverseRecOn with
  | nil => exact ⟨rfl, rfl⟩
  | append_singleton init last induction =>
      rw [List.foldl_append, List.filter_append, List.filterMap_append, List.foldl_cons,
        List.foldl_nil]
      generalize init.foldl (bisectCandidate build mergedRefs) Bisection.start = bisection
        at induction ⊢
      unfold bisectCandidate
      split
      · rename_i skipped
        have dropped : mergedRefs.any (·.id = last.ref.id) = false := by simpa using skipped
        simpa [List.filter_cons, dropped] using induction
      · rename_i listed
        rw [not_not] at listed
        split
        · rename_i signed built
          simpa [List.filter_cons, listed, blame, built] using induction
        · rename_i error failed
          simp [listed, blame, failed, induction.1, induction.2]

/-! ## Selection and rejection -/

/-- The item was merged. -/
def Selected (screened : Screened) (merge : Merge) (candidate : Candidate) : Prop :=
  candidate ∈ screened.candidates ∧ candidate.ref ∈ merge.mergedRefs

theorem selected_iff {onChain : Record String Json} {screened : Screened} {merge : Merge}
    {chosen : List Candidate} (merges : Merges onChain screened.candidates merge chosen)
    (onePerId : OneItemPerId screened.candidates) {candidate : Candidate} :
    Selected screened merge candidate ↔ candidate ∈ chosen := by
  rw [Selected, merges.mergedRefs]
  constructor
  · intro selected
    rcases List.mem_map.mp selected.2 with ⟨other, member, same⟩
    rwa [onePerId candidate selected.1 other (merges.sublist.subset member) (by rw [same])]
  · exact fun member => ⟨merges.sublist.subset member, List.mem_map_of_mem member⟩

theorem bisected_iff {onChain : Record String Json} {screened : Screened} {merge : Merge}
    {chosen : List Candidate} (merges : Merges onChain screened.candidates merge chosen)
    (onePerId : OneItemPerId screened.candidates) {candidate : Candidate} :
    candidate ∈ screened.candidates ∧ merge.mergedRefs.any (·.id = candidate.ref.id) = true ↔
      candidate ∈ chosen := by
  rw [List.any_eq_true, merges.mergedRefs]
  constructor
  · intro listed
    rcases listed.2 with ⟨ref, refMember, same⟩
    rcases List.mem_map.mp refMember with ⟨other, member, rfl⟩
    rwa [onePerId candidate listed.1 other (merges.sublist.subset member)
      (of_decide_eq_true same).symm]
  · intro member
    exact ⟨merges.sublist.subset member, candidate.ref, List.mem_map_of_mem member, by simp⟩

def RejectedItem.Names (entry : RejectedItem) (ref : InboxBatchItemRef) : Prop :=
  entry.id = ref.id ∧ entry.type = ref.type

theorem RejectedItem.Names.ref_eq {other ref : InboxBatchItemRef} {error : String}
    (names : (reject other error).Names ref) : other = ref := by
  rcases other with ⟨id, type⟩
  rcases names with ⟨sameId, sameType⟩
  cases sameId
  cases sameType
  rfl

theorem mem_place_rejected {screened : Screened} {ref : InboxBatchItemRef}
    {screening : Screening} {entry : RejectedItem}
    (member : entry ∈ (screened.place ref screening).rejected) :
    (∃ error, screening = .rejected error ∧ entry = reject ref error) ∨
      entry ∈ screened.rejected := by
  cases screening with
  | deferred | alreadyDone | candidate => exact .inr member
  | rejected error =>
      rcases List.mem_cons.mp member with first | later
      · exact .inl ⟨error, rfl, first⟩
      · exact .inr later

theorem mem_screened_rejected {client : InboxClient} {nowMs : Int}
    {items : List InboxBatchItemRef} {screened : Screened}
    (screens : screenItems client nowMs items = .ok screened) {entry : RejectedItem}
    (member : entry ∈ screened.rejected) :
    ∃ ref error, screenItem client nowMs ref = .ok (.rejected error) ∧
      entry = reject ref error := by
  induction items generalizing screened with
  | nil =>
      cases screens
      cases member
  | cons head tail induction =>
      simp only [screenItems, bind_eq_ok, Except.ok.injEq] at screens
      rcases screens with ⟨screening, headScreened, rest, tailScreened, rfl⟩
      rcases mem_place_rejected member with ⟨error, rfl, same⟩ | later
      · exact ⟨head, error, headScreened, same⟩
      · exact induction tailScreened later

theorem candidate_not_screened_out {client : InboxClient} {nowMs : Int}
    {items : List InboxBatchItemRef} {screened : Screened}
    (screens : screenItems client nowMs items = .ok screened) {candidate : Candidate}
    (member : candidate ∈ screened.candidates) :
    ∀ entry ∈ screened.rejected, ¬ entry.Names candidate.ref := by
  intro entry entryMember names
  rcases mem_screened_rejected screens entryMember with ⟨ref, error, refused, rfl⟩
  rw [names.ref_eq, screenItem_candidate.mpr ((mem_candidates screens).mp member).2] at refused
  cases refused

theorem blame_names {build : Additions → Except Thrown SignedUpdate} {candidate : Candidate}
    {entry : RejectedItem} {ref : InboxBatchItemRef}
    (blamed : blame build candidate = some entry) (names : entry.Names ref) :
    candidate.ref = ref ∧ ¬ ∃ signed, build candidate.additions = .ok signed := by
  unfold blame at blamed
  split at blamed
  · cases blamed
  · rename_i error failed
    rw [← Option.some.inj blamed] at names
    exact ⟨names.ref_eq, by simp [failed]⟩

theorem named_iff_blamed {client : InboxClient} {nowMs : Int} {candidates : List Candidate}
    (screens : ∀ candidate ∈ candidates, Screens client nowMs candidate)
    (build : Additions → Except Thrown SignedUpdate) {candidate : Candidate}
    (member : candidate ∈ candidates) :
    (∃ entry ∈ candidates.filterMap (blame build), entry.Names candidate.ref) ↔
      ¬ ∃ signed, build candidate.additions = .ok signed := by
  constructor
  · intro named
    rcases named with ⟨entry, entryMember, names⟩
    rcases List.mem_filterMap.mp entryMember with ⟨other, otherMember, blamed⟩
    rcases blame_names blamed names with ⟨sameRef, fails⟩
    rwa [(screens other otherMember).unique (screens candidate member) sameRef] at fails
  · intro fails
    cases built : build candidate.additions with
    | ok signed => exact absurd ⟨signed, built⟩ fails
    | error error =>
        refine ⟨reject candidate.ref s!"tx build failed: {error.message}", ?_, rfl, rfl⟩
        exact List.mem_filterMap.mpr ⟨candidate, member, by simp [blame, built]⟩

/-! ## What phase 4 leaves -/

/-- Phase 4 has blamed exactly these items and built the transaction of the
others. -/
structure SettledFairly (build : Additions → Except Thrown SignedUpdate)
    (chosen : List Candidate) (own : Candidate → Prop) (settled : Settled) : Prop where
  deferred : settled.deferred = []
  rejected : ∀ candidate ∈ chosen,
    (∃ entry ∈ settled.rejected, entry.Names candidate.ref) ↔ ¬ own candidate
  kept : (∀ candidate ∈ chosen, ¬ own candidate) ∨ ∃ kept signed, settled.signed = some signed ∧
    settled.mergedRefs = kept.map Candidate.ref ∧ kept ≠ [] ∧
    build (unionAdditions kept) = .ok signed ∧
    ∀ candidate, candidate ∈ kept ↔ candidate ∈ chosen ∧ own candidate

section Settle

variable {client : InboxClient} {nowMs : Int} {items : List InboxBatchItemRef}
variable {screened : Screened} {merge : Merge} {chosen : List Candidate}
variable {onChain : Record String Json} {build : Additions → Except Thrown SignedUpdate}
variable {own : Candidate → Prop}

theorem settle_rejected {candidates : List Candidate} {settled : Settled}
    (settles : settle build merge candidates = .ok settled) {entry : RejectedItem}
    (member : entry ∈ settled.rejected) :
    entry ∈ (bisect build merge.mergedRefs candidates).rejected := by
  unfold settle at settles
  split at settles
  · rw [← Except.ok.inj settles] at member
    cases member
  · split at settles
    · cases settles
    · dsimp only at settles
      split at settles
      · cases settles
      · rw [← Except.ok.inj settles, rebuild] at member
        split at member
        · exact member
        · split at member
          · exact member
          · exact member

theorem settle_bisected (merges : Merges onChain screened.candidates merge chosen)
    (onePerId : OneItemPerId screened.candidates)
    (screens : ∀ candidate ∈ screened.candidates, Screens client nowMs candidate)
    (solo : ∀ candidate ∈ chosen,
      (∃ signed, build candidate.additions = .ok signed) ↔ own candidate)
    (rebuilds : ∀ kept, (∀ candidate ∈ kept, candidate ∈ chosen ∧ own candidate) →
      ∃ signed, build (unionAdditions kept) = .ok signed)
    (fails : ¬ ∃ signed, build merge.merged = .ok signed)
    (control : ∃ signed, build Record.empty = .ok signed) :
    ∃ settled, settle build merge screened.candidates = .ok settled ∧
      SettledFairly build chosen own settled := by
  rcases control with ⟨controlSigned, control⟩
  have bisects := bisect_rejected build merge.mergedRefs screened.candidates
  have survivors := bisect_survivors build merge.mergedRefs screened.candidates
  generalize bisection : bisect build merge.mergedRefs screened.candidates = bisected
    at bisects survivors
  have bisectedCandidates : ∀ candidate, candidate ∈ screened.candidates.filter
      (fun candidate => merge.mergedRefs.any (·.id = candidate.ref.id)) ↔ candidate ∈ chosen := by
    intro candidate
    rw [List.mem_filter, bisected_iff merges onePerId]
  have named : ∀ candidate ∈ chosen,
      (∃ entry ∈ bisected.rejected, entry.Names candidate.ref) ↔ ¬ own candidate := by
    intro candidate member
    have listedScreens : ∀ other ∈ screened.candidates.filter
        (fun candidate => merge.mergedRefs.any (·.id = candidate.ref.id)),
        Screens client nowMs other :=
      fun other listed => screens other (List.mem_filter.mp listed).1
    rw [bisects.1, named_iff_blamed listedScreens build
      ((bisectedCandidates candidate).mpr member), solo candidate member]
  have keeps : ∀ candidate,
      candidate ∈ screened.candidates.filter (survives build merge.mergedRefs) ↔
        candidate ∈ chosen ∧ own candidate := by
    intro candidate
    rw [List.mem_filter, survives, Bool.and_eq_true, ← and_assoc, bisected_iff merges onePerId]
    refine and_congr_right fun member => ?_
    rw [← solo candidate member]
    cases build candidate.additions <;> simp [Except.toBool]
  -- the merged values are the values of the items, so one of them is to blame
  have blames : bisected.blamed ≠ 0 := by
    intro none
    rw [bisects.2, List.length_eq_zero_iff] at none
    apply fails
    rw [merges.merged]
    apply rebuilds chosen
    intro candidate member
    refine ⟨member, ?_⟩
    by_contra notOwn
    rcases (named candidate member).mpr notOwn with ⟨entry, entryMember, _⟩
    rw [none] at entryMember
    cases entryMember
  cases merged : build merge.merged with
  | ok signed => exact absurd ⟨signed, merged⟩ fails
  | error buildError =>
      refine ⟨rebuild build bisected, ?_, ?_⟩
      · simp only [settle, merged, control, bisection, if_neg blames]
      · unfold rebuild
        split
        · rename_i noneLeft
          refine ⟨rfl, named, .inl fun candidate member holds => ?_⟩
          have kept := (keeps candidate).mpr ⟨member, holds⟩
          rw [List.isEmpty_iff, survivors.1, List.map_eq_nil_iff] at noneLeft
          rw [noneLeft] at kept
          cases kept
        · rename_i someLeft
          rcases rebuilds _ fun candidate => (keeps candidate).mp with ⟨signed, rebuilt⟩
          rw [survivors.2, rebuilt]
          refine ⟨rfl, named, .inr ⟨_, signed, rfl, survivors.1, ?_, rebuilt, keeps⟩⟩
          intro noneKept
          apply someLeft
          rw [survivors.1, noneKept]
          rfl

end Settle

/-! ## The batch -/

def batchMerge (data : RawIdentityData) (screened : Screened) (maxAdditionBytes : Option Int) :
    Merge :=
  mergeCandidates (onChainContentmultimap data) (maxAdditionBytes.getD maxBatchAdditionBytes)
    screened.candidates

/-- A batch that gets as far as phase 4 with something to write. -/
structure ReachesMerge (client : InboxClient) (agent : InboxAgent) (nowMs : Int)
    (items : List InboxBatchItemRef) (maxAdditionBytes : Option Int) (screened : Screened)
    (wif : String) (data : RawIdentityData) (utxos : Option (List Utxo)) (tip : Option Int) :
    Prop where
  reads : readPhase client agent nowMs items = .ok (screened, some (wif, data, utxos))
  tip : client.getChainInfo = .ok tip
  selects : (batchMerge data screened maxAdditionBytes).mergedRefs ≠ []

def InTheBroadcast (calls : List Call) (candidate : Candidate) : Prop :=
  ∃ signed refs, calls.filter Call.isBroadcast = [.broadcast signed refs] ∧
    candidate.ref ∈ refs ∧ ∀ key values, candidate.additions.get? key = some values →
      signed.identity.contentmultimap.get? key = some values

/-- No item that serialises pays for one that does not. -/
structure FairBlame (build : Additions → Except Thrown SignedUpdate) (screened : Screened)
    (merge : Merge) (serialises : String → List Json → Prop)
    (execution : Execution InboxBatchResult) : Prop where
  environment : (¬ ∃ signed, build merge.merged = .ok signed) →
    (¬ ∃ signed, build Record.empty = .ok signed) → ∃ error, execution = .throw error
  merged : (∃ signed, build merge.merged = .ok signed) →
    ∃ result, execution.outcome = .ok result ∧
      result.deferred = screened.deferred ++ merge.deferred ∧
      ∀ candidate, Selected screened merge candidate →
        (∀ entry ∈ result.rejected, ¬ entry.Names candidate.ref) ∧
        InTheBroadcast execution.calls candidate
  bisected : (¬ ∃ signed, build merge.merged = .ok signed) →
    (∃ signed, build Record.empty = .ok signed) →
    ∃ result, execution.outcome = .ok result ∧
      result.deferred = screened.deferred ++ merge.deferred ∧
      ∀ candidate, Selected screened merge candidate →
        ((∃ entry ∈ result.rejected, entry.Names candidate.ref) ↔
          ¬ AllSerialise serialises candidate.additions.get?) ∧
        (AllSerialise serialises candidate.additions.get? →
          InTheBroadcast execution.calls candidate)

section Batch

variable {library : TransactionLibrary} {client : InboxClient} {agent : InboxAgent} {nowMs : Int}
variable {items : List InboxBatchItemRef} {maxAdditionBytes : Option Int}
variable {screened : Screened} {wif : String} {data : RawIdentityData}
variable {utxos : Option (List Utxo)} {tip : Option Int}

theorem ReachesMerge.screens
    (reaches : ReachesMerge client agent nowMs items maxAdditionBytes screened wif data utxos tip) :
    screenItems client nowMs items = .ok screened ∧ screened.candidates ≠ [] := by
  have reads := reaches.reads
  simp only [readPhase, bind_eq_ok, requireSome_eq_ok] at reads
  rcases reads with ⟨_, _, screened', screens, rest⟩
  split at rest
  · cases rest
  · rename_i some
    simp only [bind_eq_ok, exists_unit, Except.ok.injEq, Prod.mk.injEq] at rest
    rcases rest with ⟨_, _, _, _, _, rfl, _⟩
    exact ⟨screens, mt List.isEmpty_iff.mpr some⟩

theorem ReachesMerge.execution
    (reaches : ReachesMerge client agent nowMs items maxAdditionBytes screened wif data utxos tip) :
    acceptInboxBatch library client agent nowMs items maxAdditionBytes =
      match buildPhase library client agent wif data utxos
        (batchMerge data screened maxAdditionBytes) screened.candidates with
      | .error error => .throw error
      | .ok (settled, expiryHeight) =>
          finishBatch client screened (batchMerge data screened maxAdditionBytes) settled
            expiryHeight := by
  have listed : items.isEmpty = false := by
    rw [List.isEmpty_eq_false_iff]
    rintro rfl
    rcases reaches.screens with ⟨screens, some⟩
    cases screens
    exact some rfl
  simp only [acceptInboxBatch, listed, reaches.reads, batchMerge]
  rfl

theorem ReachesMerge.buildPhase_eq
    (reaches : ReachesMerge client agent nowMs items maxAdditionBytes screened wif data utxos tip)
    (funded : utxos.any (· ≠ [])) :
    buildPhase library client agent wif data utxos (batchMerge data screened maxAdditionBytes)
      screened.candidates =
      (settle (batchBuild library agent wif data utxos tip)
        (batchMerge data screened maxAdditionBytes) screened.candidates).map
        (·, computeExpiryHeight tip identityExpiryDelta) := by
  have selects : (batchMerge data screened maxAdditionBytes).mergedRefs.isEmpty = false :=
    List.isEmpty_eq_false_iff.mpr reaches.selects
  rw [buildPhase, selects, reaches.tip, require, if_pos funded]
  rfl

theorem funded_of_batchBuild {additions : Additions} {signed : SignedUpdate}
    (built : batchBuild library agent wif data utxos tip additions = .ok signed) :
    utxos.any (· ≠ []) := by
  simp only [batchBuild, buildIdentityUpdateTx, bind_eq_ok, exists_unit, require_eq_ok] at built
  rcases built with ⟨_, _, _, _, funded, _⟩
  cases utxos with
  | none => exact absurd rfl funded
  | some listed => exact decide_eq_true funded

theorem finishBatch_result {merge : Merge} {settled : Settled} {expiryHeight : Option Int}
    {result : InboxBatchResult}
    (ends : (finishBatch client screened merge settled expiryHeight).outcome = .ok result) :
    result.rejected = screened.rejected ++ settled.rejected ∧
      result.deferred = screened.deferred ++ merge.deferred ++ settled.deferred := by
  have finishes := finishBatch_finishes client screened merge settled expiryHeight
  generalize finishBatch client screened merge settled expiryHeight = execution at finishes ends
  cases finishes with
  | refused signed error isSigned nonempty answered => cases ends
  | sent signed txid other isSigned nonempty answered equal =>
      cases ends
      rw [equal]
      exact ⟨rfl, rfl⟩
  | unsent other notSent equal =>
      cases ends
      rw [equal]
      exact ⟨rfl, rfl⟩

theorem finishBatch_returns {merge : Merge} {settled : Settled} {expiryHeight : Option Int}
    (resolves : ∀ signed refs, Call.broadcast signed refs ∈
      (finishBatch client screened merge settled expiryHeight).calls →
        ∃ txid, client.broadcast signed.hex.text = .ok txid) :
    (∃ result, (finishBatch client screened merge settled expiryHeight).outcome = .ok result) ∧
      ∀ signed, settled.signed = some signed → settled.mergedRefs ≠ [] →
        (finishBatch client screened merge settled expiryHeight).calls.filter Call.isBroadcast =
          [.broadcast signed settled.mergedRefs] := by
  have finishes := finishBatch_finishes client screened merge settled expiryHeight
  generalize finishBatch client screened merge settled expiryHeight = execution
    at finishes resolves ⊢
  cases finishes with
  | refused signed error isSigned nonempty answered =>
      rcases resolves signed _ List.mem_cons_self with ⟨txid, resolved⟩
      rw [answered] at resolved
      cases resolved
  | sent signed txid result isSigned nonempty answered equal =>
      refine ⟨⟨result, rfl⟩, ?_⟩
      intro other otherSigned _
      rw [isSigned] at otherSigned
      rw [Option.some.inj otherSigned, List.filter_cons_of_pos rfl, filter_ackCalls]
  | unsent result notSent equal =>
      refine ⟨⟨result, rfl⟩, ?_⟩
      intro signed isSigned nonempty
      rcases notSent with unsigned | empty
      · rw [isSigned] at unsigned
        cases unsigned
      · exact absurd empty nonempty

theorem batchBuild_carries {kept : List Candidate} {signed : SignedUpdate}
    (onePerKey : OneItemPerKey kept)
    (built : batchBuild library agent wif data utxos tip (unionAdditions kept) = .ok signed)
    {candidate : Candidate} (member : candidate ∈ kept) {key : String} {values : List Json}
    (found : candidate.additions.get? key = some values) :
    signed.identity.contentmultimap.get? key = some values := by
  rw [updatedContentmultimap_overwrites (buildIdentityUpdateTx_map built)]
  exact overwrite_of_some (get?_unionAdditions onePerKey member found)

theorem solo_not_rejected
    (reaches : ReachesMerge client agent nowMs items maxAdditionBytes screened wif data utxos tip)
    {candidate : Candidate} (member : candidate ∈ screened.candidates) {signed : SignedUpdate}
    (solo : batchBuild library agent wif data utxos tip candidate.additions = .ok signed)
    {result : InboxBatchResult}
    (returns : (acceptInboxBatch library client agent nowMs items maxAdditionBytes).outcome =
      .ok result) :
    ∀ entry ∈ result.rejected, ¬ entry.Names candidate.ref := by
  have screens := reaches.screens.1
  rw [reaches.execution, reaches.buildPhase_eq (funded_of_batchBuild solo)] at returns
  cases settles : settle (batchBuild library agent wif data utxos tip)
      (batchMerge data screened maxAdditionBytes) screened.candidates with
  | error error =>
      rw [settles] at returns
      cases returns
  | ok settled =>
      rw [settles] at returns
      intro entry entryMember
      rw [(finishBatch_result returns).1, List.mem_append] at entryMember
      rcases entryMember with early | late
      · exact candidate_not_screened_out screens member entry early
      · intro names
        have bisected := settle_rejected settles late
        rw [(bisect_rejected _ _ _).1] at bisected
        rcases List.mem_filterMap.mp bisected with ⟨other, otherMember, blamed⟩
        rcases blame_names blamed names with ⟨sameRef, fails⟩
        have otherScreens := ((mem_candidates screens).mp (List.mem_filter.mp otherMember).1).2
        rw [otherScreens.unique ((mem_candidates screens).mp member).2 sameRef] at fails
        exact fails ⟨signed, solo⟩

theorem ReachesMerge.returns
    (reaches : ReachesMerge client agent nowMs items maxAdditionBytes screened wif data utxos tip)
    (resolves : ∀ signed refs, Call.broadcast signed refs ∈
      (acceptInboxBatch library client agent nowMs items maxAdditionBytes).calls →
        ∃ txid, client.broadcast signed.hex.text = .ok txid)
    {chosen : List Candidate}
    (merges : Merges (onChainContentmultimap data) screened.candidates
      (batchMerge data screened maxAdditionBytes) chosen)
    (funded : utxos.any (· ≠ [])) {own : Candidate → Prop} {settled : Settled}
    (settles : settle (batchBuild library agent wif data utxos tip)
      (batchMerge data screened maxAdditionBytes) screened.candidates = .ok settled)
    (fair : SettledFairly (batchBuild library agent wif data utxos tip) chosen own settled) :
    ∃ result,
      (acceptInboxBatch library client agent nowMs items maxAdditionBytes).outcome = .ok result ∧
      result.deferred =
        screened.deferred ++ (batchMerge data screened maxAdditionBytes).deferred ∧
      ∀ candidate ∈ chosen,
        ((∃ entry ∈ result.rejected, entry.Names candidate.ref) ↔ ¬ own candidate) ∧
        (own candidate →
          InTheBroadcast
            (acceptInboxBatch library client agent nowMs items maxAdditionBytes).calls
            candidate) := by
  rw [reaches.execution, reaches.buildPhase_eq funded, settles] at resolves ⊢
  change ∀ signed refs, Call.broadcast signed refs ∈ (finishBatch client screened _ settled
    _).calls → _ at resolves
  rcases finishBatch_returns resolves with ⟨⟨result, returns⟩, sends⟩
  rcases finishBatch_result returns with ⟨rejected, deferred⟩
  refine ⟨result, returns, ?_, ?_⟩
  · rw [deferred, fair.deferred, List.append_nil]
  · intro candidate member
    constructor
    · rw [← fair.rejected candidate member, rejected]
      constructor
      · intro named
        rcases named with ⟨entry, entryMember, names⟩
        rcases List.mem_append.mp entryMember with early | late
        · exact absurd names (candidate_not_screened_out reaches.screens.1
            (merges.sublist.subset member) entry early)
        · exact ⟨entry, late, names⟩
      · intro named
        rcases named with ⟨entry, entryMember, names⟩
        exact ⟨entry, List.mem_append_right _ entryMember, names⟩
    · intro serialises
      rcases fair.kept with none | ⟨kept, signed, isSigned, refs, some, built, keeps⟩
      · exact absurd serialises (none candidate member)
      · have isKept := (keeps candidate).mpr ⟨member, serialises⟩
        have nonempty : settled.mergedRefs ≠ [] := by simpa [refs] using some
        refine ⟨signed, settled.mergedRefs, sends signed isSigned nonempty, ?_, ?_⟩
        · rw [refs]
          exact List.mem_map_of_mem isKept
        · intro key values found
          apply batchBuild_carries _ built isKept found
          exact merges.onePerKey.subset fun other listed => ((keeps other).mp listed).1

theorem ReachesMerge.throws
    (reaches : ReachesMerge client agent nowMs items maxAdditionBytes screened wif data utxos tip)
    (fails : ¬ ∃ signed, batchBuild library agent wif data utxos tip
      (batchMerge data screened maxAdditionBytes).merged = .ok signed)
    (control : ¬ ∃ signed, batchBuild library agent wif data utxos tip Record.empty =
      .ok signed) :
    ∃ error, acceptInboxBatch library client agent nowMs items maxAdditionBytes = .throw error := by
  rw [reaches.execution]
  by_cases funded : utxos.any (· ≠ [])
  · rw [reaches.buildPhase_eq funded, settle]
    cases merged : batchBuild library agent wif data utxos tip
        (batchMerge data screened maxAdditionBytes).merged with
    | ok signed => exact absurd ⟨signed, merged⟩ fails
    | error buildError =>
        cases controlled : batchBuild library agent wif data utxos tip Record.empty with
        | ok signed => exact absurd ⟨signed, controlled⟩ control
        | error error => exact ⟨buildError, rfl⟩
  · have selects : (batchMerge data screened maxAdditionBytes).mergedRefs.isEmpty = false :=
      List.isEmpty_eq_false_iff.mpr reaches.selects
    rw [buildPhase, selects, require, if_neg funded]
    exact ⟨_, rfl⟩

end Batch

/-- Fair blame. An item that builds alone is never rejected; and with a library
that serialises key by key, the selected items that do not serialise are the
ones to be rejected and the other selected items are broadcast. -/
theorem acceptInboxBatch_fair_blame (library : TransactionLibrary) (client : InboxClient)
    (agent : InboxAgent) (nowMs : Int) (items : List InboxBatchItemRef)
    (maxAdditionBytes : Option Int) {screened : Screened} {wif : String} {data : RawIdentityData}
    {utxos : Option (List Utxo)} {tip : Option Int}
    (labelled : LabelledOnce client items)
    (reaches : ReachesMerge client agent nowMs items maxAdditionBytes screened wif data utxos tip)
    (resolves : ∀ signed refs, Call.broadcast signed refs ∈
      (acceptInboxBatch library client agent nowMs items maxAdditionBytes).calls →
        ∃ txid, client.broadcast signed.hex.text = .ok txid) :
    (∀ candidate ∈ screened.candidates,
      (∃ signed, batchBuild library agent wif data utxos tip candidate.additions = .ok signed) →
      ∀ result,
        (acceptInboxBatch library client agent nowMs items maxAdditionBytes).outcome =
          .ok result →
        ∀ entry ∈ result.rejected, ¬ entry.Names candidate.ref) ∧
    ∀ serialises, SerialisesPerKey library serialises →
      FairBlame (batchBuild library agent wif data utxos tip) screened
        (batchMerge data screened maxAdditionBytes) serialises
        (acceptInboxBatch library client agent nowMs items maxAdditionBytes) := by
  refine ⟨?_, fun serialises perKey => ?_⟩
  · intro candidate member solo result returns
    rcases solo with ⟨signed, solo⟩
    exact solo_not_rejected reaches member solo returns
  · have screens := reaches.screens.1
    have onePerId := oneItemPerId screens labelled
    rcases mergeCandidates_merges (onChainContentmultimap data)
      (maxAdditionBytes.getD maxBatchAdditionBytes) screened.candidates with ⟨chosen, merges⟩
    have screensAll : ∀ candidate ∈ screened.candidates, Screens client nowMs candidate :=
      fun candidate member => ((mem_candidates screens).mp member).2
    have sized : ∀ candidate ∈ chosen,
        assertContentmultimapValueSizes candidate.additions = .ok () :=
      fun candidate member => (screensAll candidate (merges.sublist.subset member)).sized
    refine ⟨reaches.throws, ?_, ?_⟩
    · intro built
      rcases built with ⟨signed, built⟩
      have fair : SettledFairly (batchBuild library agent wif data utxos tip) chosen
          (fun _ => True)
          ⟨some signed, (batchMerge data screened maxAdditionBytes).mergedRefs, [], []⟩ := by
        refine ⟨rfl, by simp, .inr ⟨chosen, signed, rfl, merges.mergedRefs, ?_, ?_, by simp⟩⟩
        · rintro rfl
          exact reaches.selects merges.mergedRefs
        · rw [← merges.merged]
          exact built
      have settles : settle (batchBuild library agent wif data utxos tip)
          (batchMerge data screened maxAdditionBytes) screened.candidates =
          .ok ⟨some signed, (batchMerge data screened maxAdditionBytes).mergedRefs, [], []⟩ := by
        simp only [settle, built]
      rcases reaches.returns resolves merges (funded_of_batchBuild built) settles fair with
        ⟨result, returns, deferred, holds⟩
      refine ⟨result, returns, deferred, fun candidate selected => ?_⟩
      have outcome := holds candidate ((selected_iff merges onePerId).mp selected)
      refine ⟨fun entry member names => ?_, outcome.2 trivial⟩
      exact outcome.1.mp ⟨entry, member, names⟩ trivial
    · intro fails control
      rcases control with ⟨controlSigned, control⟩
      have solo : ∀ candidate ∈ chosen,
          (∃ signed, batchBuild library agent wif data utxos tip candidate.additions =
            .ok signed) ↔ AllSerialise serialises candidate.additions.get? := by
        intro candidate member
        constructor
        · intro built key values found
          rcases built with ⟨signed, built⟩
          exact batchBuild_serialised perKey built key values (overwrite_of_some found)
        · exact batchBuild_of_control perKey control (sized candidate member)
      have rebuilds : ∀ kept, (∀ candidate ∈ kept, candidate ∈ chosen ∧
          AllSerialise serialises candidate.additions.get?) →
          ∃ signed, batchBuild library agent wif data utxos tip (unionAdditions kept) =
            .ok signed := by
        intro kept fine
        apply batchBuild_of_control perKey control
        · exact unionAdditions_sized fun candidate member =>
            sized candidate (fine candidate member).1
        · exact unionAdditions_serialise fun candidate member => (fine candidate member).2
      rcases settle_bisected merges onePerId screensAll solo rebuilds fails
        ⟨controlSigned, control⟩ with ⟨settled, settles, fair⟩
      rcases reaches.returns resolves merges (funded_of_batchBuild control) settles fair with
        ⟨result, returns, deferred, holds⟩
      refine ⟨result, returns, deferred, fun candidate selected => ?_⟩
      exact holds candidate ((selected_iff merges onePerId).mp selected)

private def wellFormed (_ : String) (values : List Json) : Prop := values.length < 2

private instance (key : String) (values : List Json) : Decidable (wellFormed key values) :=
  inferInstanceAs (Decidable (_ < _))

private def pickyLibrary : TransactionLibrary :=
  { sampleLibrary with
    identityScript := fun identity =>
      if ∀ entry ∈ identity.contentmultimap.entries, wellFormed entry.1 entry.2 then .ok "51"
      else .error (.error "invalid value") }

private theorem pickyLibrary_perKey : SerialisesPerKey pickyLibrary wellFormed where
  script identity := by
    have scripts : ∀ identity : IdentityJson,
        (∃ text, pickyLibrary.identityScript identity = .ok text) ↔
          ∀ entry ∈ identity.contentmultimap.entries, wellFormed entry.1 entry.2 := by
      intro identity
      simp only [pickyLibrary]
      split
      · rename_i fine
        simpa using fine
      · rename_i bad
        simpa using bad
    rw [scripts, scripts]
    constructor
    · intro fine
      refine ⟨by simp [Record.empty], ?_⟩
      intro key values found
      exact fine (key, values) (Record.get?_eq_some_iff.mp found)
    · intro fine entry member
      exact fine.2 entry.1 entry.2 (Record.get?_eq_some_iff.mpr member)
  key _ _ _ := rfl
  sign _ _ _ _ _ _ _ := ⟨_, rfl⟩

private def poisonedItems : List InboxBatchItemRef :=
  [⟨"review", .review⟩, ⟨"vouch", .attestation⟩]

private def poisonedClient : InboxClient :=
  sampleClient Record.empty
    (fun id =>
      if id = "review" then pendingItem VdxfKeys.reviewRecord (.string "ab")
      else pendingItem VdxfKeys.reviewAttestation (.array [.string "cd", .string "ef"]))
    fun _ => .ok ()

/-- Both are merged, and only the vouch can be blamed. -/
theorem acceptInboxBatch_fair_blame_poisoned :
    ∃ screened,
      (batchMerge (sampleIdentity Record.empty) screened none).mergedRefs = poisonedItems ∧
      FairBlame
        (batchBuild pickyLibrary sampleAgent "wif" (sampleIdentity Record.empty)
          (some [sampleUtxo]) (some 120))
        screened (batchMerge (sampleIdentity Record.empty) screened none) wellFormed
        (acceptInboxBatch pickyLibrary poisonedClient sampleAgent 0 poisonedItems none) := by
  have executed : (screenItems poisonedClient 0 poisonedItems).toOption.any fun screened =>
      ¬ screened.candidates.isEmpty ∧
      (batchMerge (sampleIdentity Record.empty) screened none).mergedRefs = poisonedItems := by
    decide +kernel
  rcases (Option.any_eq_true _ _).mp executed with ⟨screened, screens, phase⟩
  rcases of_decide_eq_true phase with ⟨listed, merged⟩
  have labelled : LabelledOnce poisonedClient poisonedItems := by
    have distinct : ∀ ref ∈ poisonedItems, ∀ other ∈ poisonedItems,
        ref.id = other.id → ref = other := by decide
    exact fun ref member other otherMember same => .inl (distinct ref member other otherMember same)
  have reaches : ReachesMerge poisonedClient sampleAgent 0 poisonedItems none screened "wif"
      (sampleIdentity Record.empty) (some [sampleUtxo]) (some 120) := by
    refine ⟨?_, rfl, by simp [merged, poisonedItems]⟩
    have reads : readPhase poisonedClient sampleAgent 0 poisonedItems = (do
        let screened ← screenItems poisonedClient 0 poisonedItems
        if screened.candidates.isEmpty then .ok (screened, none)
        else .ok (screened, some ("wif", sampleIdentity Record.empty, some [sampleUtxo]))) := rfl
    rw [reads, toOption_eq_some.mp screens]
    exact if_neg listed
  have fair := acceptInboxBatch_fair_blame pickyLibrary poisonedClient sampleAgent 0 poisonedItems
    none labelled reaches fun _ _ _ => ⟨"txid", rfl⟩
  exact ⟨screened, merged, fair.2 wellFormed pickyLibrary_perKey⟩

end SovAgent.Inbox

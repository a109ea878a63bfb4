import SovAgent.Agent.InboxBatchPhases

/-! # Where a batch puts its items

Each phase moves an item from one list to another. Counting how often an id
occurs in all lists of a phase shows that none is lost and none is doubled.
-/

namespace SovAgent.Inbox

open Onboarding Identity

/-! ## Phases 1 and 3 -/

def Screened.ids (screened : Screened) : List String :=
  screened.candidates.map (·.ref.id) ++ screened.deferred.map (·.id) ++
    screened.rejected.map (·.id) ++ screened.alreadyDone

theorem place_ids_count (screened : Screened) (ref : InboxBatchItemRef) (screening : Screening)
    (id : String) :
    (screened.place ref screening).ids.count id = (ref.id :: screened.ids).count id := by
  cases screening <;>
    simp only [Screened.place, Screened.ids, reject, defer, List.map_cons, List.count_append,
      List.count_cons] <;> omega

theorem screenItems_ids_count {client : InboxClient} {nowMs : Int}
    {items : List InboxBatchItemRef} {screened : Screened}
    (screens : screenItems client nowMs items = .ok screened) (id : String) :
    screened.ids.count id = (items.map (·.id)).count id := by
  induction items generalizing screened with
  | nil =>
      cases screens
      rfl
  | cons head tail induction =>
      simp only [screenItems, bind_eq_ok, Except.ok.injEq] at screens
      rcases screens with ⟨screening, _, rest, tailScreens, rfl⟩
      rw [place_ids_count, List.map_cons, List.count_cons, List.count_cons,
        induction tailScreens]

def Merge.ids (merge : Merge) : List String :=
  merge.written.map (·.id) ++ merge.mergedRefs.map (·.id) ++ merge.deferred.map (·.id)

theorem mergeCandidate_ids_count (onChain : Record String Json) (maxBytes : Int) (merge : Merge)
    (candidate : Candidate) (id : String) :
    (mergeCandidate onChain maxBytes merge candidate).ids.count id =
      (candidate.ref.id :: merge.ids).count id := by
  unfold mergeCandidate
  simp only []
  split
  · simp only [Merge.ids, List.map_append, List.map_cons, List.map_nil, List.count_append,
      List.count_cons, List.count_nil]
    omega
  · split
    · simp only [Merge.ids, defer, List.map_append, List.map_cons, List.map_nil,
        List.count_append, List.count_cons, List.count_nil]
      omega
    · split <;>
        simp only [Merge.ids, defer, List.map_append, List.map_cons, List.map_nil,
          List.count_append, List.count_cons, List.count_nil] <;> omega

theorem mergeCandidates_ids_count (onChain : Record String Json) (maxBytes : Int)
    (candidates : List Candidate) (id : String) :
    (mergeCandidates onChain maxBytes candidates).ids.count id =
      (candidates.map (·.ref.id)).count id := by
  unfold mergeCandidates
  induction candidates using List.reverseRecOn with
  | nil => rfl
  | append_singleton init last induction =>
      rw [List.foldl_append, List.foldl_cons, List.foldl_nil, mergeCandidate_ids_count,
        List.count_cons, induction, List.map_append, List.count_append]
      simp [List.count_cons]

/-! ## Phase 4 -/

section Build

variable {build : Additions → Except Thrown SignedUpdate}

def Bisection.ids (bisection : Bisection) : List String :=
  bisection.survivors.map (·.id) ++ bisection.rejected.map (·.id)

theorem bisectCandidate_ids_count (mergedRefs : List InboxBatchItemRef) (bisection : Bisection)
    (candidate : Candidate) (id : String) :
    (bisectCandidate build mergedRefs bisection candidate).ids.count id =
      bisection.ids.count id +
        if mergedRefs.any (·.id = candidate.ref.id) ∧ candidate.ref.id = id then 1 else 0 := by
  unfold bisectCandidate
  split
  · rename_i skipped
    simp [skipped]
  · rename_i listed
    rw [not_not] at listed
    split <;>
      simp only [Bisection.ids, reject, List.map_append, List.map_cons, List.map_nil,
        List.count_append, List.count_cons, List.count_nil, listed, true_and, beq_iff_eq] <;>
      omega

theorem bisect_ids_count {mergedRefs : List InboxBatchItemRef} {candidates : List Candidate}
    (distinct : (candidates.map (·.ref.id)).Nodup)
    (sublist : (mergedRefs.map (·.id)).Sublist (candidates.map (·.ref.id))) (id : String) :
    (bisect build mergedRefs candidates).ids.count id = (mergedRefs.map (·.id)).count id := by
  have listed : ∀ candidates : List Candidate,
      (bisect build mergedRefs candidates).ids.count id =
        if id ∈ mergedRefs.map (·.id) then (candidates.map (·.ref.id)).count id else 0 := by
    intro candidates
    unfold bisect
    induction candidates using List.reverseRecOn with
    | nil => simp [Bisection.ids, Bisection.start]
    | append_singleton init last induction =>
        rw [List.foldl_append, List.foldl_cons, List.foldl_nil, bisectCandidate_ids_count,
          induction, List.map_append, List.count_append]
        have isListed : mergedRefs.any (·.id = last.ref.id) ↔
            last.ref.id ∈ mergedRefs.map (·.id) := by
          simp
        simp only [isListed]
        by_cases same : last.ref.id = id
        · subst same
          split <;> simp [*]
        · simp [same]
  rw [listed]
  have atMostOne := List.nodup_iff_count_le_one.mp distinct id
  have fewer := sublist.count_le id
  split
  · rename_i member
    have atLeastOne := List.count_pos_iff.mpr member
    omega
  · rename_i absent
    exact (List.count_eq_zero.mpr absent).symm

def Settled.ids (settled : Settled) : List String :=
  settled.mergedRefs.map (·.id) ++ settled.rejected.map (·.id) ++ settled.deferred.map (·.id)

theorem rebuild_ids_count (bisection : Bisection) (id : String) :
    (rebuild build bisection).ids.count id = bisection.ids.count id := by
  unfold rebuild
  split
  · rename_i none
    simp [Settled.ids, Bisection.ids, List.isEmpty_iff.mp none]
  · split
    · simp [Settled.ids, Bisection.ids]
    · simp only [Settled.ids, Bisection.ids, defer, List.map_nil, List.nil_append, List.map_map,
        Function.comp_def, List.count_append]
      omega

theorem settle_ids_count {merge : Merge} {candidates : List Candidate} {settled : Settled}
    (settles : settle build merge candidates = .ok settled)
    (distinct : (candidates.map (·.ref.id)).Nodup)
    (sublist : (merge.mergedRefs.map (·.id)).Sublist (candidates.map (·.ref.id))) (id : String) :
    settled.ids.count id = (merge.mergedRefs.map (·.id)).count id := by
  unfold settle at settles
  split at settles
  · cases settles
    simp [Settled.ids]
  · split at settles
    · cases settles
    · simp only [] at settles
      split at settles
      · cases settles
      · cases settles
        rw [rebuild_ids_count, bisect_ids_count distinct sublist]

end Build

theorem buildPhase_ids_count {library : TransactionLibrary} {client : InboxClient}
    {agent : InboxAgent} {wif : String} {data : RawIdentityData} {utxos : Option (List Utxo)}
    {merge : Merge} {candidates : List Candidate} {settled : Settled}
    {expiryHeight : Option Int}
    (builds : buildPhase library client agent wif data utxos merge candidates =
      .ok (settled, expiryHeight))
    (distinct : (candidates.map (·.ref.id)).Nodup)
    (sublist : (merge.mergedRefs.map (·.id)).Sublist (candidates.map (·.ref.id))) :
    (∀ id, settled.ids.count id = (merge.mergedRefs.map (·.id)).count id) ∧
      (settled.signed = none → settled.mergedRefs = []) := by
  unfold buildPhase at builds
  split at builds
  · rename_i none
    cases builds
    simp [List.isEmpty_iff.mp none, Settled.nothing, Settled.ids]
  · simp only [bind_eq_ok, exists_unit, Except.ok.injEq, Prod.mk.injEq] at builds
    rcases builds with ⟨_, _, _, settled', settles, rfl, _⟩
    exact ⟨settle_ids_count settles distinct sublist, settle_unsigned settles⟩

/-! ## Phase 5 -/

theorem ackItems_ids_count (client : InboxClient) (txid : Option String)
    (written : List InboxBatchItemRef) (id : String) :
    ((ackItems client txid written).acked ++
        (ackItems client txid written).ackFailed.map Prod.fst).count id =
      (written.map (·.id)).count id := by
  induction written with
  | nil => rfl
  | cons head tail induction =>
      rw [List.count_append] at induction ⊢
      rw [ackItems, List.map_cons, List.count_cons]
      split
      · simp only [List.count_cons]
        omega
      · split
        · simp only [List.count_cons]
          omega
        · simp only [List.map_cons, List.count_cons]
          omega

/-! ## The batch -/

inductive Bucket where
  | written
  | rejected
  | deferred
  | alreadyDone
deriving DecidableEq, Repr

def InboxBatchResult.idsIn (result : InboxBatchResult) : Bucket → List String
  | .written => result.written.map (·.id)
  | .rejected => result.rejected.map (·.id)
  | .deferred => result.deferred.map (·.id)
  | .alreadyDone => result.alreadyDone

def InboxBatchResult.ids (result : InboxBatchResult) : List String :=
  result.idsIn .written ++ result.idsIn .rejected ++ result.idsIn .deferred ++
    result.idsIn .alreadyDone

theorem collectResult_ids_count (client : InboxClient) {screened : Screened} {merge : Merge}
    {settled : Settled} {broadcast : Option (String × Option Int)}
    (settles : ∀ id, settled.ids.count id = (merge.mergedRefs.map (·.id)).count id)
    (merges : ∀ id, merge.ids.count id = (screened.candidates.map (·.ref.id)).count id)
    (unsent : broadcast = none → settled.mergedRefs = []) (id : String) :
    (collectResult client screened merge settled broadcast).ids.count id =
      screened.ids.count id := by
  have settledHere := settles id
  have mergedHere := merges id
  have written : ((if broadcast.isSome then settled.mergedRefs else []).map (·.id)).count id =
      (settled.mergedRefs.map (·.id)).count id := by
    cases broadcast with
    | none => simp [unsent rfl]
    | some sent => rfl
  simp only [Settled.ids, Merge.ids, List.count_append] at settledHere mergedHere
  simp only [collectResult, InboxBatchResult.ids, InboxBatchResult.idsIn, Screened.ids,
    List.map_append, List.count_append, written]
  omega

def Call.isBroadcast : Call → Bool
  | .broadcast _ _ => true
  | .acceptInboxItem _ _ => false

structure Partitioned (client : InboxClient) (items : List InboxBatchItemRef)
    (calls : List Call) (result : InboxBatchResult) : Prop where
  exactlyOne : ∀ ref ∈ items, ∃! bucket, ref.id ∈ result.idsIn bucket
  ackedOnce : List.Disjoint result.acked (result.ackFailed.map Prod.fst)
  ackedWritten : ∀ id, id ∈ result.acked ∨ id ∈ result.ackFailed.map Prod.fst ↔
    id ∈ result.idsIn .written
  oneBroadcast : (calls.filter Call.isBroadcast).length ≤ 1
  txidResolved : result.txid.isSome ↔ ∃ signed refs txid,
    Call.broadcast signed refs ∈ calls ∧ client.broadcast signed.hex.text = .ok txid
  mergedWritten : ∀ signed refs, Call.broadcast signed refs ∈ calls → ∀ ref ∈ refs,
    ref ∈ result.written

theorem exactlyOne_of_count {result : InboxBatchResult} {id : String}
    (once : result.ids.count id = 1) : ∃! bucket, id ∈ result.idsIn bucket := by
  have somewhere : ∃ bucket, id ∈ result.idsIn bucket := by
    have member : id ∈ result.ids := List.count_pos_iff.mp (by omega)
    simp only [InboxBatchResult.ids, List.mem_append] at member
    rcases member with ((written | rejected) | deferred) | alreadyDone
    · exact ⟨.written, written⟩
    · exact ⟨.rejected, rejected⟩
    · exact ⟨.deferred, deferred⟩
    · exact ⟨.alreadyDone, alreadyDone⟩
  have unique : ∀ left right, id ∈ result.idsIn left → id ∈ result.idsIn right → left = right := by
    intro left right inLeft inRight
    have leftCount := List.count_pos_iff.mpr inLeft
    have rightCount := List.count_pos_iff.mpr inRight
    simp only [InboxBatchResult.ids, List.count_append] at once
    cases left <;> cases right <;> first | rfl | omega
  rcases somewhere with ⟨bucket, inBucket⟩
  exact ⟨bucket, inBucket, fun other inOther => unique other bucket inOther inBucket⟩

theorem acks_of_written (client : InboxClient) (txid : Option String)
    {written : List InboxBatchItemRef} (distinct : (written.map (·.id)).Nodup) :
    List.Disjoint (ackItems client txid written).acked
        ((ackItems client txid written).ackFailed.map Prod.fst) ∧
      ∀ id, id ∈ (ackItems client txid written).acked ∨
          id ∈ (ackItems client txid written).ackFailed.map Prod.fst ↔
        id ∈ written.map (·.id) := by
  have counts := ackItems_ids_count client txid written
  constructor
  · intro id acked failed
    have ackedCount := List.count_pos_iff.mpr acked
    have failedCount := List.count_pos_iff.mpr failed
    have atMostOne := List.nodup_iff_count_le_one.mp distinct id
    have total := counts id
    rw [List.count_append] at total
    omega
  · intro id
    rw [← List.mem_append, ← List.count_pos_iff, counts, List.count_pos_iff]

/-! What `finishBatch` sends and returns. -/

theorem filter_ackCalls (result : InboxBatchResult) :
    (ackCalls result).filter Call.isBroadcast = [] := by
  simp [ackCalls, List.filter_map, Function.comp_def, Call.isBroadcast]

theorem broadcast_notMem_ackCalls {signed : SignedUpdate} {refs : List InboxBatchItemRef}
    (result : InboxBatchResult) : Call.broadcast signed refs ∉ ackCalls result := by
  simp [ackCalls]

section Collected

variable {client : InboxClient} {items : List InboxBatchItemRef} {screened : Screened}
variable {merge : Merge} {settled : Settled} {broadcast : Option (String × Option Int)}

/-- Every phase keeps the ids of its items. -/
structure KeepsIds (items : List InboxBatchItemRef) (screened : Screened) (merge : Merge)
    (settled : Settled) : Prop where
  screens : ∀ id, screened.ids.count id = (items.map (·.id)).count id
  merges : ∀ id, merge.ids.count id = (screened.candidates.map (·.ref.id)).count id
  settles : ∀ id, settled.ids.count id = (merge.mergedRefs.map (·.id)).count id
  unsigned : settled.signed = none → settled.mergedRefs = []

theorem KeepsIds.exactlyOne (keeps : KeepsIds items screened merge settled)
    (distinct : (items.map (·.id)).Nodup)
    (unsent : broadcast = none → settled.mergedRefs = []) :
    ∀ ref ∈ items, ∃! bucket,
      ref.id ∈ (collectResult client screened merge settled broadcast).idsIn bucket := by
  intro ref member
  apply exactlyOne_of_count
  rw [collectResult_ids_count _ keeps.settles keeps.merges unsent, keeps.screens]
  exact List.count_eq_one_of_mem distinct (List.mem_map_of_mem member)

theorem KeepsIds.written_nodup (client : InboxClient)
    (keeps : KeepsIds items screened merge settled)
    (distinct : (items.map (·.id)).Nodup)
    (unsent : broadcast = none → settled.mergedRefs = []) :
    ((collectResult client screened merge settled broadcast).written.map (·.id)).Nodup := by
  rw [List.nodup_iff_count_le_one]
  intro id
  have total := collectResult_ids_count client keeps.settles keeps.merges unsent id
  rw [keeps.screens] at total
  have atMostOne := List.nodup_iff_count_le_one.mp distinct id
  simp only [InboxBatchResult.ids, List.count_append, InboxBatchResult.idsIn] at total
  omega

theorem finishBatch_partitioned {expiryHeight : Option Int} {result : InboxBatchResult}
    {execution : Execution InboxBatchResult} (distinct : (items.map (·.id)).Nodup)
    (keeps : KeepsIds items screened merge settled)
    (finishes : Finishes client screened merge settled expiryHeight execution)
    (returned : execution.outcome = .ok result) :
    Partitioned client items execution.calls result := by
  cases finishes with
  | refused => cases returned
  | sent signed txid result isSigned nonempty answered equal =>
      cases returned
      subst equal
      have wasSent : some (txid, expiryHeight) = none → settled.mergedRefs = [] := by simp
      have acks := acks_of_written client (some txid) (keeps.written_nodup client distinct wasSent)
      refine ⟨keeps.exactlyOne distinct wasSent, acks.1, acks.2, ?_, ?_, ?_⟩
      · rw [List.filter_cons_of_pos rfl, filter_ackCalls]
        rfl
      · constructor
        · intro _
          exact ⟨signed, _, txid, List.mem_cons_self, answered⟩
        · intro _
          rfl
      · intro other refs member ref refMember
        rcases List.mem_cons.mp member with equal | later
        · cases equal
          exact List.mem_append_right _ refMember
        · exact absurd later (broadcast_notMem_ackCalls _)
  | unsent result notSent equal =>
      cases returned
      subst equal
      have empty : settled.mergedRefs = [] := notSent.elim keeps.unsigned id
      have wasEmpty : (none : Option (String × Option Int)) = none → settled.mergedRefs = [] :=
        fun _ => empty
      have acks := acks_of_written client none (keeps.written_nodup client distinct wasEmpty)
      refine ⟨keeps.exactlyOne distinct wasEmpty, acks.1, acks.2, ?_, ?_, ?_⟩
      · simp [filter_ackCalls]
      · simp [collectResult, ackCalls]
      · intro signed refs member
        exact absurd member (broadcast_notMem_ackCalls _)

end Collected

theorem mergeCandidates_refs_sublist (onChain : Record String Json) (maxBytes : Int)
    (candidates : List Candidate) :
    ((mergeCandidates onChain maxBytes candidates).mergedRefs.map (·.id)).Sublist
      (candidates.map (·.ref.id)) := by
  rcases mergeCandidates_merges onChain maxBytes candidates with ⟨chosen, merges⟩
  rw [merges.mergedRefs, List.map_map]
  exact merges.sublist.map _

theorem screened_nodup {client : InboxClient} {nowMs : Int} {items : List InboxBatchItemRef}
    {screened : Screened} (screens : screenItems client nowMs items = .ok screened)
    (distinct : (items.map (·.id)).Nodup) : (screened.candidates.map (·.ref.id)).Nodup := by
  rw [List.nodup_iff_count_le_one] at distinct ⊢
  intro id
  have total := screenItems_ids_count screens id
  simp only [Screened.ids, List.count_append] at total
  have atMostOne := distinct id
  omega

/-- If the batch returns, every item is in one bucket, the acknowledged items
and the failed acknowledgements split the written items, at most one
transaction was sent, and its items are written. -/
theorem acceptInboxBatch_partitioned (library : TransactionLibrary) (client : InboxClient)
    (agent : InboxAgent) (nowMs : Int) (items : List InboxBatchItemRef)
    (maxAdditionBytes : Option Int) (result : InboxBatchResult)
    (distinct : (items.map (·.id)).Nodup)
    (returned : (acceptInboxBatch library client agent nowMs items maxAdditionBytes).outcome =
      .ok result) :
    Partitioned client items
      (acceptInboxBatch library client agent nowMs items maxAdditionBytes).calls result := by
  have outcome := acceptInboxBatch_outcome library client agent nowMs items maxAdditionBytes
  generalize acceptInboxBatch library client agent nowMs items maxAdditionBytes = execution
    at outcome returned ⊢
  cases outcome with
  | threw error => cases returned
  | unwritten screened screens noCandidates =>
      have keeps : KeepsIds items screened Merge.start Settled.nothing :=
        ⟨screenItems_ids_count screens, by simp [noCandidates, Merge.ids, Merge.start],
          by simp [Settled.ids, Settled.nothing, Merge.start], fun _ => rfl⟩
      have finishes : Finishes client screened Merge.start Settled.nothing none _ :=
        .unsent _ (.inl rfl) rfl
      exact finishBatch_partitioned distinct keeps finishes returned
  | finished screened wif data utxos settled expiryHeight screens key reads funds builds =>
      have kept := buildPhase_ids_count builds (screened_nodup screens distinct)
        (mergeCandidates_refs_sublist _ _ _)
      have keeps : KeepsIds items screened _ settled :=
        ⟨screenItems_ids_count screens, mergeCandidates_ids_count _ _ _, kept.1, kept.2⟩
      exact finishBatch_partitioned distinct keeps (finishBatch_finishes _ _ _ _ _) returned

private def mixedItems : List InboxBatchItemRef :=
  [⟨"first", .review⟩, ⟨"second", .review⟩, ⟨"foreign", .attestation⟩]

/-- Two reviews compete for one key, and an attestation carries a foreign key. -/
private def mixedItem (id : String) : Json :=
  if id = "foreign" then pendingItem VdxfKeys.agentStatus (.string "00")
  else pendingItem VdxfKeys.reviewRecord (.string id)

private def mixedResult : InboxBatchResult where
  txid := some "txid"
  expiryHeight := some 320
  written := [⟨"first", .review⟩]
  acked := ["first"]
  ackFailed := []
  rejected := [⟨"foreign", .attestation,
    "acceptInboxBatch foreign: inbox vdxfData contained no review.attestation keys " ++
      "after whitelist"⟩]
  deferred := [⟨"second", .review, "key-collision — deferred to next cycle"⟩]
  alreadyDone := []

theorem acceptInboxBatch_partitioned_mixed :
    Partitioned (sampleClient Record.empty mixedItem fun _ => .ok ()) mixedItems
      (acceptInboxBatch sampleLibrary (sampleClient Record.empty mixedItem fun _ => .ok ())
        sampleAgent 0 mixedItems none).calls mixedResult :=
  acceptInboxBatch_partitioned _ _ _ _ _ _ _ (by decide) (by decide +kernel)

end SovAgent.Inbox

import SovAgent.Agent.InboxBatchAcks

/-! # The transaction that an acknowledgement cites

Every acknowledgement of a batch cites the transaction of the batch, also for
items that were on-chain before. The transaction replaces the arrays of the
keys that it writes, so it can drop what those items are acknowledged for.
-/

namespace SovAgent.Inbox

open Onboarding Identity

/-- A cited transaction carries the values of the item that it is cited for. -/
def CitesCarrier (onChain : Record String Json) (details : String → Json) (nowMs : Int)
    (items : List InboxBatchItemRef) : Prop :=
  ∀ library client agent maxAdditionBytes, Serves onChain details client →
    ∀ candidate, Eligible details nowMs items candidate → ∀ txid,
      Call.acceptInboxItem candidate.ref.id (some txid) ∈
        (acceptInboxBatch library client agent nowMs items maxAdditionBytes).calls →
      ∃ signed refs, Call.broadcast signed refs ∈
          (acceptInboxBatch library client agent nowMs items maxAdditionBytes).calls ∧
        client.broadcast signed.hex.text = .ok txid ∧
        CarriesAll signed.identity.contentmultimap.get? candidate.additions

/-- The on-chain map, overwritten by any item that is not on-chain, carries
every item that the presence test finds. -/
def FreshItemsCarry (onChain : Record String Json) (details : String → Json) (nowMs : Int)
    (items : List InboxBatchItemRef) : Prop :=
  ∀ old fresh, Eligible details nowMs items old → Eligible details nowMs items fresh →
    alreadyPresent onChain old.additions → ¬ alreadyPresent onChain fresh.additions →
    CarriesAll (overwrite (carried onChain) fresh.additions.get?) old.additions

theorem acceptInboxItem_cites {library : TransactionLibrary} {client : InboxClient}
    {agent : InboxAgent} {nowMs : Int} {items : List InboxBatchItemRef}
    {maxAdditionBytes : Option Int} {id txid : String}
    (acknowledged : Call.acceptInboxItem id (some txid) ∈
      (acceptInboxBatch library client agent nowMs items maxAdditionBytes).calls) :
    ∃ result signed refs,
      (acceptInboxBatch library client agent nowMs items maxAdditionBytes).outcome =
        .ok result ∧
      (∃ ref ∈ result.written, ref.id = id) ∧ result.txid = some txid ∧
      Call.broadcast signed refs ∈
        (acceptInboxBatch library client agent nowMs items maxAdditionBytes).calls ∧
      client.broadcast signed.hex.text = .ok txid := by
  have outcome := acceptInboxBatch_outcome library client agent nowMs items maxAdditionBytes
  generalize acceptInboxBatch library client agent nowMs items maxAdditionBytes = execution
    at outcome acknowledged ⊢
  cases outcome with
  | threw error => cases acknowledged
  | unwritten screened screens noCandidates => cases acknowledged
  | finished screened wif data utxos settled expiryHeight screens key reads funds builds =>
      have finishes := finishBatch_finishes client screened (mergeCandidates
        (onChainContentmultimap data) (maxAdditionBytes.getD maxBatchAdditionBytes)
        screened.candidates) settled expiryHeight
      generalize finishBatch client screened _ settled expiryHeight = execution
        at finishes acknowledged ⊢
      cases finishes with
      | refused => simp at acknowledged
      | sent signed other result isSigned nonempty answered equal =>
          have cites : result.txid = some other := by rw [equal]; rfl
          rcases List.mem_cons.mp acknowledged with broadcast | acked
          · cases broadcast
          · simp only [ackCalls, List.mem_map, Call.acceptInboxItem.injEq] at acked
            rcases acked with ⟨ref, written, sameId, sameTxid⟩
            cases cites.symm.trans sameTxid
            exact ⟨result, signed, _, rfl, ⟨ref, written, sameId⟩, cites, List.mem_cons_self,
              answered⟩
      | unsent result notSent equal =>
          have citesNone : result.txid = none := by rw [equal]; rfl
          simp [ackCalls, citesNone] at acknowledged

section Cites

variable {onChain : Record String Json} {details : String → Json} {nowMs : Int}
variable {items : List InboxBatchItemRef}

/-- An item that the presence test finds is carried by a transaction whose items
each leave it on-chain. -/
theorem FreshItemsCarry.transaction (carry : FreshItemsCarry onChain details nowMs items)
    {client : InboxClient} (serves : Serves onChain details client) {kept : List Candidate}
    (built : BuiltFrom client nowMs items onChain kept) {library : TransactionLibrary}
    {written : Record String (List Json)}
    (updates : updatedContentmultimap library.hash160Hex false (some onChain)
      (unionAdditions kept) = .ok written)
    {old : Candidate} (eligible : Eligible details nowMs items old)
    (present : alreadyPresent onChain old.additions) :
    CarriesAll written.get? old.additions := by
  have eligibles : ∀ fresh ∈ kept, Eligible details nowMs items fresh := fun fresh member =>
    serves.screens (built.screens fresh member) (built.listed fresh member)
  intro key values found value member
  by_cases writer : ∃ fresh ∈ kept, key ∈ fresh.additions.keys
  · rcases writer with ⟨fresh, freshMember, keyOf⟩
    have carries := carry old fresh eligible (eligibles fresh freshMember) present
      (built.absent fresh freshMember) key values found value member
    rcases Option.isSome_iff_exists.mp (Record.mem_keys_iff.mp keyOf) with ⟨others, freshFound⟩
    rw [overwrite_of_some freshFound, ← freshFound,
      built.values updates freshMember keyOf] at carries
    exact carries
  · rcases List.exists_mem_of_ne_nil _ built.nonempty with ⟨fresh, freshMember⟩
    have carries := carry old fresh eligible (eligibles fresh freshMember) present
      (built.absent fresh freshMember) key values found value member
    have unwritten : ∀ other ∈ kept, key ∉ other.additions.keys :=
      fun other otherMember keyOf => writer ⟨other, otherMember, keyOf⟩
    have freshNone : fresh.additions.get? key = none :=
      Record.get?_eq_none_iff.mpr (unwritten fresh freshMember)
    have unionNone : (unionAdditions kept).get? key = none := by
      rw [Record.get?_eq_none_iff, mem_keys_unionAdditions]
      exact writer
    rw [overwrite_of_none freshNone] at carries
    rwa [updatedContentmultimap_overwrites updates, overwrite_of_none unionNone]

theorem citesCarrier_of_fresh (oneType : OneTypePerId details items)
    (carry : FreshItemsCarry onChain details nowMs items) :
    CitesCarrier onChain details nowMs items := by
  intro library client agent maxAdditionBytes serves candidate eligible txid acknowledged
  rcases acceptInboxItem_cites acknowledged with
    ⟨result, signed, refs, returned, ⟨ref, written, sameId⟩, cites, sent, answered⟩
  rcases mem_written returned written with
    ⟨data, other, reads, rfl, listed, screens, present⟩ |
      ⟨signed, refs, txid', inRefs, answered, cites', sent⟩
  · rw [serves.identity data reads] at present
    cases (serves.screens screens listed).same eligible oneType sameId
    rcases acceptInboxBatch_builtFrom (serves.labelled oneType) sent with
      ⟨data', kept, reads', _, built, updates⟩
    rw [serves.identity data' reads'] at built updates
    exact ⟨signed, refs, sent, answered, carry.transaction serves built updates eligible present⟩
  · cases cites.symm.trans cites'
    refine ⟨signed, refs, sent, answered, ?_⟩
    intro key values found value member
    left
    rw [broadcast_values oneType serves sent eligible inRefs sameId found]
    exact member

/-! ### One fresh item in a batch of items that are on-chain -/

theorem sampleLibrary_builds {additions : Additions}
    (sized : assertContentmultimapValueSizes additions = .ok ()) (tip : Option Int) :
    ∃ signed, buildIdentityUpdateTx sampleLibrary (updateParams sampleAgent "wif"
      (sampleIdentity onChain) [sampleUtxo] tip additions) = .ok signed := by
  have sortable : Sortable sampleLibrary.hash160Hex
      ((carriedContentmultimap false (some onChain)).assign additions).keys :=
    .inr fun _ _ => rfl
  rcases sortByHash160_eq_ok.mpr sortable with ⟨sorted, sorts⟩
  have updates : updatedContentmultimap sampleLibrary.hash160Hex false (some onChain) additions =
      .ok sorted := by
    simp only [updatedContentmultimap, bind_eq_ok, exists_unit, sized]
    exact ⟨rfl, sorts⟩
  have spendable : spendableWith "Ragent" [sampleUtxo] = [sampleUtxo] := rfl
  have selects : selectUtxos [sampleUtxo] defaultFee =
      .ok ([sampleUtxo], 50000) := by decide +kernel
  have controls : requireControl (sampleRawIdentity onChain) "Ragent" = .ok () := by
    have one : Decimal.toRat 1 = 1 := by decide +kernel
    simp [requireControl, sampleRawIdentity, require, bind, Except.bind, one]
  cases built : buildIdentityUpdateTx sampleLibrary (updateParams sampleAgent "wif"
    (sampleIdentity onChain) [sampleUtxo] tip additions) with
  | ok signed => exact ⟨signed, rfl⟩
  | error error =>
      have existing : (sampleRawIdentity onChain).contentmultimap = some onChain := rfl
      have script : ∀ identity, sampleLibrary.identityScript identity = .ok "51" := fun _ => rfl
      have address : sampleLibrary.keyAddress "wif" .verustest = .ok "Ragent" := rfl
      have output : sampleLibrary.outputScript "Ragent" .verustest = .ok "76" := rfl
      have signs : ∀ transaction, sampleLibrary.sign "wif" .verustest transaction =
          .ok ⟨"0400", by decide⟩ := fun _ => rfl
      simp [buildIdentityUpdateTx, updateParams, sampleIdentity, requireSome, require, bind,
        Except.bind, sampleAgent, existing, updates, script, address, output, controls, spendable,
        selects, signs] at built

structure MergesOne (fresh : Candidate) (candidates : List Candidate) (merge : Merge) : Prop where
  before : fresh ∉ candidates →
    merge.mergedRefs = [] ∧ merge.merged = Record.empty ∧ merge.runningBytes = 0
  after : fresh ∈ candidates → merge.mergedRefs = [fresh.ref] ∧
    merge.merged = Record.empty.assign fresh.additions

theorem MergesOne.present {fresh other : Candidate} {candidates : List Candidate} {merge : Merge}
    {maxBytes : Int} (merges : MergesOne fresh candidates merge)
    (absent : ¬ alreadyPresent onChain fresh.additions)
    (present : alreadyPresent onChain other.additions) :
    MergesOne fresh (candidates ++ [other]) (mergeCandidate onChain maxBytes merge other) := by
  have different : fresh ≠ other := by
    rintro rfl
    exact absent present
  have same : fresh ∈ candidates ++ [other] ↔ fresh ∈ candidates := by simp [different]
  rw [mergeCandidate, if_pos present]
  exact ⟨fun notMember => merges.before (same.not.mp notMember),
    fun member => merges.after (same.mp member)⟩

theorem MergesOne.fresh {fresh : Candidate} {candidates : List Candidate} {merge : Merge}
    {maxBytes : Int} (merges : MergesOne fresh candidates merge)
    (absent : ¬ alreadyPresent onChain fresh.additions)
    (fits : additionsByteSize fresh.additions ≤ maxBytes) {key : String} {values : List Json}
    (single : fresh.additions.entries = [(key, values)]) :
    MergesOne fresh (candidates ++ [fresh]) (mergeCandidate onChain maxBytes merge fresh) := by
  constructor
  · simp
  · intro _
    have keyOf : key ∈ fresh.additions.keys := by simp [Record.keys, single]
    rw [mergeCandidate, if_neg absent]
    by_cases member : fresh ∈ candidates
    · have collides : fresh.additions.keys.any (· ∈ merge.merged.keys) := by
        rw [List.any_eq_true]
        refine ⟨key, keyOf, ?_⟩
        rw [decide_eq_true_eq, (merges.after member).2, Record.mem_keys_assign]
        exact .inl keyOf
      rw [if_pos collides]
      exact merges.after member
    · rcases merges.before member with ⟨noRefs, noneMerged, noBytes⟩
      have noCollision : ¬ fresh.additions.keys.any (· ∈ merge.merged.keys) := by
        simp [noneMerged, Record.keys, Record.empty]
      have inBudget : ¬ maxBytes < merge.runningBytes + additionsByteSize fresh.additions := by
        rw [noBytes]
        omega
      rw [if_neg noCollision, if_neg inBudget]
      simp [noRefs, noneMerged]

theorem mergeCandidates_one {maxBytes : Int} {candidates : List Candidate} {fresh : Candidate}
    (absent : ¬ alreadyPresent onChain fresh.additions)
    (others : ∀ other ∈ candidates, other = fresh ∨ alreadyPresent onChain other.additions)
    (fits : additionsByteSize fresh.additions ≤ maxBytes) {key : String} {values : List Json}
    (single : fresh.additions.entries = [(key, values)]) :
    MergesOne fresh candidates (mergeCandidates onChain maxBytes candidates) := by
  unfold mergeCandidates
  induction candidates using List.reverseRecOn with
  | nil => exact ⟨fun _ => ⟨rfl, rfl, rfl⟩, by simp⟩
  | append_singleton init last induction =>
      have merges := induction fun other member => others other (List.mem_append_left _ member)
      rw [List.foldl_append, List.foldl_cons, List.foldl_nil]
      rcases others last (by simp) with rfl | present
      · exact merges.fresh absent fits single
      · exact merges.present absent present

theorem assign_single {additions : Additions} {key : String} {values : List Json}
    (single : additions.entries = [(key, values)]) : Record.empty.assign additions = additions := by
  rcases additions with ⟨entries, distinct⟩
  cases single
  rfl

theorem acceptInboxBatch_one {ids : List String} {screened : Screened} {fresh : Candidate}
    (screens : screenItems (answering onChain details ids) nowMs items = .ok screened)
    (eligible : Eligible details nowMs items fresh)
    (absent : ¬ alreadyPresent onChain fresh.additions) (asked : fresh ∈ screened.candidates)
    (others : ∀ other ∈ screened.candidates,
      other = fresh ∨ alreadyPresent onChain other.additions) :
    ∃ signed result, acceptInboxBatch sampleLibrary (answering onChain details ids) sampleAgent
        nowMs items (some (additionsByteSize fresh.additions)) =
          ⟨.broadcast signed [fresh.ref] :: ackCalls result, .ok result⟩ ∧
      result.txid = some "txid" ∧
      (∀ other ∈ screened.candidates, other.ref ∈ result.written) ∧
      signed.identity.contentmultimap.get? =
        overwrite (carried onChain) fresh.additions.get? := by
  rcases eligible.gated.single with ⟨values, single⟩
  have merges := (mergeCandidates_one absent others le_rfl single).after asked
  rcases mergeCandidates_merges onChain (additionsByteSize fresh.additions)
    screened.candidates with ⟨chosen, spec⟩
  rw [assign_single single] at merges
  have sized := (gateItem_eq_ok.mp eligible.gated.gateItem).2
  rcases @sampleLibrary_builds onChain _ sized (some 120) with ⟨signed, built⟩
  have builds : buildPhase sampleLibrary (answering onChain details ids) sampleAgent "wif"
      (sampleIdentity onChain) (some [sampleUtxo])
      (mergeCandidates onChain (additionsByteSize fresh.additions) screened.candidates)
      screened.candidates = .ok (⟨some signed, [fresh.ref], [], []⟩, some 320) := by
    have tip : (answering onChain details ids).getChainInfo = .ok (some 120) := rfl
    simp [buildPhase, merges, require, tip, bind, Except.bind, settle, built, computeExpiryHeight,
      identityExpiryDelta]
  have key : sampleAgent.key? = some "wif" := rfl
  have batch := @acceptInboxBatch_of_phases sampleLibrary (answering onChain details ids)
    sampleAgent nowMs items (some (additionsByteSize fresh.additions)) "wif" screened
    (sampleIdentity onChain) (some [sampleUtxo]) _ _ key screens
    (List.ne_nil_of_mem asked) rfl rfl rfl builds
  have sameMap : onChainContentmultimap (sampleIdentity onChain) = onChain := rfl
  rw [sameMap, Option.getD_some] at batch
  refine ⟨signed, _, batch, rfl, ?_, ?_⟩
  · intro other member
    rcases others other member with rfl | present
    · exact List.mem_append_right _ (List.mem_singleton_self _)
    · apply List.mem_append_left
      rw [spec.written]
      exact List.mem_map_of_mem (List.mem_filter.mpr ⟨member, present⟩)
  · exact updatedContentmultimap_overwrites (buildIdentityUpdateTx_map built)

theorem fresh_of_citesCarrier (oneType : OneTypePerId details items)
    (cites : CitesCarrier onChain details nowMs items) :
    FreshItemsCarry onChain details nowMs items := by
  intro old fresh oldEligible freshEligible present absent
  let ids := [old.ref.id, fresh.ref.id]
  rcases @screenItems_answering onChain details nowMs ids items with ⟨screened, screens⟩
  have mem := fun other => @candidates_answering onChain details nowMs items other _ _ screens
  have oldAsked := (mem old).mpr ⟨oldEligible, List.mem_cons_self⟩
  have freshAsked := (mem fresh).mpr ⟨freshEligible, by simp [ids]⟩
  have others : ∀ other ∈ screened.candidates,
      other = fresh ∨ alreadyPresent onChain other.additions := by
    intro other member
    rcases (mem other).mp member with ⟨eligible, asked⟩
    rcases List.mem_cons.mp asked with isOld | isFresh
    · right
      rwa [eligible.same oldEligible oneType isOld]
    · left
      exact eligible.same freshEligible oneType (List.mem_singleton.mp isFresh)
  rcases acceptInboxBatch_one screens freshEligible absent freshAsked others with
    ⟨signed, result, batch, txid, written, map⟩
  have acknowledged : Call.acceptInboxItem old.ref.id (some "txid") ∈
      (acceptInboxBatch sampleLibrary (answering onChain details ids) sampleAgent nowMs items
        (some (additionsByteSize fresh.additions))).calls := by
    rw [batch]
    apply List.mem_cons_of_mem
    rw [← txid]
    exact List.mem_map_of_mem (written old oldAsked)
  rcases cites _ _ _ _ (answering_serves onChain details ids) old oldEligible "txid" acknowledged
    with ⟨other, refs, sent, _, carries⟩
  rw [batch] at sent
  rcases List.mem_cons.mp sent with broadcast | later
  · cases broadcast
    rwa [map] at carries
  · simp [ackCalls] at later

/-- Cited transactions carry what they are cited for exactly when every item
that is not on-chain leaves the listed items that are on-chain there. -/
theorem citesCarrier_iff_fresh (oneType : OneTypePerId details items) :
    CitesCarrier onChain details nowMs items ↔ FreshItemsCarry onChain details nowMs items :=
  ⟨fresh_of_citesCarrier oneType, citesCarrier_of_fresh oneType⟩

end Cites

private def oldAndNew : List InboxBatchItemRef := [⟨"old", .review⟩, ⟨"new", .review⟩]

private def oldOrNew (id : String) : Json :=
  pendingItem VdxfKeys.reviewRecord (jobReview (if id = "old" then "one" else "two") "5")

private def oldCandidate : Candidate :=
  ⟨⟨"old", .review⟩, .mk [(VdxfKeys.reviewRecord, [jobReview "one" "5"])] (by decide)⟩

private def newCandidate : Candidate :=
  ⟨⟨"new", .review⟩, .mk [(VdxfKeys.reviewRecord, [jobReview "two" "5"])] (by decide)⟩

private theorem oldAndNew_oneType : OneTypePerId oldOrNew oldAndNew := by
  have distinct : ∀ ref ∈ oldAndNew, ∀ other ∈ oldAndNew, ref.id = other.id → ref = other := by
    decide
  exact fun ref member other otherMember sameId =>
    .inl (distinct ref member other otherMember sameId)

/-- The review of job "one" is acknowledged with the transaction that replaces
it by the review of job "two". -/
theorem cited_transaction_drops_review : ¬ CitesCarrier ratedOnce oldOrNew 0 oldAndNew := by
  intro cites
  have carry := fresh_of_citesCarrier oldAndNew_oneType cites
  have oldEligible : Eligible oldOrNew 0 oldAndNew oldCandidate :=
    ⟨List.mem_cons_self, by simp [oldOrNew, pendingItem], rfl⟩
  have newEligible : Eligible oldOrNew 0 oldAndNew newCandidate :=
    ⟨List.mem_cons_of_mem _ List.mem_cons_self, by simp [oldOrNew, pendingItem], rfl⟩
  have present : alreadyPresent ratedOnce oldCandidate.additions := by decide +kernel
  have absent : ¬ alreadyPresent ratedOnce newCandidate.additions := by decide +kernel
  have carries := carry oldCandidate newCandidate oldEligible newEligible present absent
    VdxfKeys.reviewRecord _ rfl (jobReview "one" "5") (List.mem_singleton_self _)
  have dropped : ¬ Carries VdxfKeys.reviewRecord ((overwrite (carried ratedOnce)
      newCandidate.additions.get? VdxfKeys.reviewRecord).getD []) (jobReview "one" "5") := by
    decide +kernel
  exact dropped carries

theorem citesCarrier_iff_fresh_two :
    CitesCarrier ratedOnce oldOrNew 0 oldAndNew ↔
      FreshItemsCarry ratedOnce oldOrNew 0 oldAndNew :=
  citesCarrier_iff_fresh oldAndNew_oneType

end SovAgent.Inbox

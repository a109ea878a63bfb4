import SovAgent.Foundation.Overwrite
import SovAgent.Agent.InboxBatchPhases

/-! # The contentmultimap that a batch broadcasts

The transaction of a batch overwrites the on-chain map with the additions of
the items it was built from. These write different keys, so accepting the items
one after the other reaches the same map in every order.
-/

namespace SovAgent.Inbox

open Onboarding Identity

def LabelledOnce (client : InboxClient) (items : List InboxBatchItemRef) : Prop :=
  ∀ ref ∈ items, ∀ other ∈ items, ref.id = other.id → ref = other ∨
    ∀ detail, client.getInboxItem ref.id = .ok (some detail) →
      (truthyProperty detail "type").isSome

/-- The on-chain values that an update starts from. -/
def carried (onChain : Record String Json) : String → Option (List Json) := fun key =>
  if key = multimapRemoveKey then none else (onChain.get? key).map Json.asArray

theorem name_injective : Function.Injective InboxAcceptType.name := by
  intro left right equal
  cases left <;> cases right <;> first | rfl | exact absurd equal (by decide)

theorem Screens.same_type {client : InboxClient} {nowMs : Int} {left right : Candidate}
    (leftScreens : Screens client nowMs left) (rightScreens : Screens client nowMs right)
    (sameId : left.ref.id = right.ref.id)
    (named : ∀ detail, client.getInboxItem left.ref.id = .ok (some detail) →
      (truthyProperty detail "type").isSome) : left.ref = right.ref := by
  rcases leftScreens with ⟨detail, leftFetched, _, leftGated⟩
  rcases rightScreens with ⟨other, rightFetched, _, rightGated⟩
  rw [← sameId] at rightFetched
  cases leftFetched.symm.trans rightFetched
  rcases Option.isSome_iff_exists.mp (named detail leftFetched) with ⟨type, names⟩
  have sameName := (leftGated.named names).symm.trans (rightGated.named names)
  have sameType := name_injective (Json.string.inj sameName)
  rcases left with ⟨⟨leftId, leftType⟩, leftAdditions⟩
  rcases right with ⟨⟨rightId, rightType⟩, rightAdditions⟩
  cases sameId
  cases sameType
  rfl

theorem oneItemPerId {client : InboxClient} {nowMs : Int} {items : List InboxBatchItemRef}
    {screened : Screened} (screens : screenItems client nowMs items = .ok screened)
    (labelled : LabelledOnce client items) : OneItemPerId screened.candidates := by
  intro left leftMember right rightMember sameId
  rcases (mem_candidates screens).mp leftMember with ⟨leftListed, leftScreens⟩
  rcases (mem_candidates screens).mp rightMember with ⟨rightListed, rightScreens⟩
  rcases labelled _ leftListed _ rightListed sameId with sameRef | named
  · exact leftScreens.unique rightScreens sameRef
  · exact leftScreens.unique rightScreens (leftScreens.same_type rightScreens sameId named)

/-! ## The transaction -/

structure BuiltFrom (client : InboxClient) (nowMs : Int) (items : List InboxBatchItemRef)
    (onChain : Record String Json) (kept : List Candidate) : Prop where
  nonempty : kept ≠ []
  listed : ∀ candidate ∈ kept, candidate.ref ∈ items
  screens : ∀ candidate ∈ kept, Screens client nowMs candidate
  absent : ∀ candidate ∈ kept, ¬ alreadyPresent onChain candidate.additions
  onePerKey : OneItemPerKey kept

theorem updatedContentmultimap_getD (hash160Hex : String → Option String)
    (existing : Option (Record String Json)) (additions : Additions) :
    updatedContentmultimap hash160Hex false existing additions =
      updatedContentmultimap hash160Hex false (some (existing.getD Record.empty)) additions := by
  cases existing with
  | none => rfl
  | some existing => rfl

theorem buildIdentityUpdateTx_map {library : TransactionLibrary} {agent : InboxAgent}
    {wif : String} {data : RawIdentityData} {utxos : List Utxo} {tip : Option Int}
    {additions : Additions} {signed : SignedUpdate}
    (built : buildIdentityUpdateTx library (updateParams agent wif data utxos tip additions) =
      .ok signed) :
    updatedContentmultimap library.hash160Hex false (some (onChainContentmultimap data))
      additions = .ok signed.identity.contentmultimap := by
  rcases buildIdentityUpdateTx_builds built with ⟨_, identity, _, _, builds⟩
  have reads : data.identity = some identity := builds.reads
  have writes : updatedContentmultimap library.hash160Hex false identity.contentmultimap
      additions = .ok signed.identity.contentmultimap := builds.writes
  rw [updatedContentmultimap_getD] at writes
  simpa [onChainContentmultimap, reads] using writes

theorem updatedContentmultimap_overwrites {hash160Hex : String → Option String}
    {onChain : Record String Json} {additions updated : Record String (List Json)}
    (updates : updatedContentmultimap hash160Hex false (some onChain) additions = .ok updated) :
    updated.get? = overwrite (carried onChain) additions.get? := by
  funext key
  rw [updatedContentmultimap_get? updates, carriedContentmultimap_get?]
  rfl

/-- Whatever a batch broadcasts was built from items that it screened, that were
not on-chain and that write different keys. -/
theorem acceptInboxBatch_builtFrom {library : TransactionLibrary} {client : InboxClient}
    {agent : InboxAgent} {nowMs : Int} {items : List InboxBatchItemRef}
    {maxAdditionBytes : Option Int} {signed : SignedUpdate} {refs : List InboxBatchItemRef}
    (labelled : LabelledOnce client items)
    (sent : Call.broadcast signed refs ∈
      (acceptInboxBatch library client agent nowMs items maxAdditionBytes).calls) :
    ∃ data kept, client.getIdentityRaw = .ok data ∧ refs = kept.map Candidate.ref ∧
      BuiltFrom client nowMs items (onChainContentmultimap data) kept ∧
      updatedContentmultimap library.hash160Hex false (some (onChainContentmultimap data))
        (unionAdditions kept) = .ok signed.identity.contentmultimap := by
  rcases acceptInboxBatch_broadcast sent with ⟨screened, wif, data, utxos, settled, _, screens, _,
    reads, _, builds, isSigned, sameRefs, nonempty⟩
  rcases buildPhase_signed builds isSigned with ⟨tip, settles⟩
  rcases mergeCandidates_merges (onChainContentmultimap data)
    (maxAdditionBytes.getD maxBatchAdditionBytes) screened.candidates with ⟨chosen, merges⟩
  rcases settle_signed merges (oneItemPerId screens labelled) settles isSigned with
    ⟨kept, refsOf, keptChosen, built⟩
  have candidates := fun candidate member =>
    (mem_candidates screens).mp (merges.sublist.subset (keptChosen candidate member))
  refine ⟨data, kept, reads, sameRefs ▸ refsOf, ?_, buildIdentityUpdateTx_map built⟩
  constructor
  · rintro rfl
    exact nonempty (sameRefs ▸ refsOf)
  · exact fun candidate member => (candidates candidate member).1
  · exact fun candidate member => (candidates candidate member).2
  · exact fun candidate member => merges.absent candidate (keptChosen candidate member)
  · exact merges.onePerKey.subset keptChosen

/-! ## Accepting one item after the other -/

def confirmed (contentmultimap : Record String (List Json)) : Record String Json :=
  contentmultimap.mapValues Json.array

def additionsOf (client : InboxClient) (nowMs : Int) (ref : InboxBatchItemRef) : Additions :=
  match screenItem client nowMs ref with
  | .ok (.candidate additions) => additions
  | _ => Record.empty

theorem additionsOf_screens {client : InboxClient} {nowMs : Int} {candidate : Candidate}
    (screens : Screens client nowMs candidate) :
    additionsOf client nowMs candidate.ref = candidate.additions := by
  rw [additionsOf, screenItem_candidate.mpr screens]

inductive UpdatedAlone (hash160Hex : String → Option String) :
    Record String Json → List Additions → Record String Json → Prop
  | nil (onChain) : UpdatedAlone hash160Hex onChain [] onChain
  | cons {onChain additions updated rest final} :
      updatedContentmultimap hash160Hex false (some onChain) additions = .ok updated →
      UpdatedAlone hash160Hex (confirmed updated) rest final →
      UpdatedAlone hash160Hex onChain (additions :: rest) final

/-- Single accepts of pending items, each broadcast confirmed before the next.
Wallet and chain tip may differ from one accept to the other. -/
inductive AcceptedAlone (library : TransactionLibrary) (agent : InboxAgent) (nowMs : Int)
    (getInboxItem : String → Except Thrown (Option Json)) :
    Record String Json → List InboxBatchItemRef → Record String Json → Prop
  | nil (onChain) : AcceptedAlone library agent nowMs getInboxItem onChain [] onChain
  | cons {data client ref signed rest final} :
      client.getInboxItem ref.id = getInboxItem ref.id →
      client.getIdentityRaw = .ok data →
      Call.broadcast signed [ref] ∈
        (acceptByType ref.type library client agent nowMs ref.id).calls →
      AcceptedAlone library agent nowMs getInboxItem
        (confirmed signed.identity.contentmultimap) rest final →
      AcceptedAlone library agent nowMs getInboxItem (onChainContentmultimap data) (ref :: rest)
        final

theorem carried_confirmed {updated : Record String (List Json)}
    (removed : updated.get? multimapRemoveKey = none) :
    carried (confirmed updated) = updated.get? := by
  funext key
  by_cases isRemove : key = multimapRemoveKey
  · simp [carried, isRemove, removed]
  · simp [carried, confirmed, isRemove, Function.comp_def, Json.asArray]

theorem updated_removed {hash160Hex : String → Option String} {onChain : Record String Json}
    {additions updated : Record String (List Json)}
    (updates : updatedContentmultimap hash160Hex false (some onChain) additions = .ok updated)
    (foreign : additions.get? multimapRemoveKey = none) :
    updated.get? multimapRemoveKey = none := by
  rw [updatedContentmultimap_overwrites updates, overwrite_of_none foreign]
  simp [carried]

/-- The map after single updates is the fold of their overwrites. -/
theorem UpdatedAlone.carried_eq {hash160Hex : String → Option String}
    {onChain final : Record String Json} {updates : List Additions}
    (updatedAlone : UpdatedAlone hash160Hex onChain updates final)
    (foreign : ∀ additions ∈ updates, additions.get? multimapRemoveKey = none) :
    carried final =
      updates.foldl (fun map additions => overwrite map additions.get?) (carried onChain) := by
  induction updatedAlone with
  | nil onChain => rfl
  | cons updates rest induction =>
      have removed := updated_removed updates (foreign _ List.mem_cons_self)
      rw [induction fun other member => foreign other (List.mem_cons_of_mem _ member),
        List.foldl_cons, carried_confirmed removed, updatedContentmultimap_overwrites updates]

theorem UpdatedAlone.get?_eq {hash160Hex : String → Option String}
    {onChain final : Record String Json} {updates : List Additions}
    (updatedAlone : UpdatedAlone hash160Hex onChain updates final) (nonempty : updates ≠ [])
    (foreign : ∀ additions ∈ updates, additions.get? multimapRemoveKey = none) (key : String) :
    final.get? key = (carried final key).map Json.array := by
  induction updatedAlone with
  | nil => exact absurd rfl nonempty
  | cons updates rest induction =>
      have later := fun other member => foreign other (List.mem_cons_of_mem _ member)
      cases rest with
      | nil =>
          rw [carried_confirmed (updated_removed updates (foreign _ List.mem_cons_self))]
          simp [confirmed]
      | cons next rest => exact induction (List.cons_ne_nil _ _) later

/-! ### Every single update goes through -/

theorem updatedContentmultimap_sortable {hash160Hex : String → Option String}
    {onChain : Record String Json} {additions updated : Record String (List Json)}
    (updates : updatedContentmultimap hash160Hex false (some onChain) additions = .ok updated) :
    Sortable hash160Hex updated.keys := by
  simp only [updatedContentmultimap, bind_eq_ok, exists_unit] at updates
  have sortable := sortByHash160_eq_ok.mp ⟨updated, updates.2⟩
  apply sortable.subset updated.distinct
  intro key member
  have present : key ∈ updated.keys := member
  rw [Record.mem_keys_iff] at present ⊢
  rwa [← sortByHash160_get? updates.2]

theorem updatedContentmultimap_exists {hash160Hex : String → Option String}
    {onChain : Record String Json} {additions : Additions} {keys : List String}
    (sized : assertContentmultimapValueSizes additions = .ok ())
    (sortable : Sortable hash160Hex keys)
    (base : ∀ key, (carried onChain key).isSome → key ∈ keys)
    (own : ∀ key ∈ additions.keys, key ∈ keys) :
    ∃ updated, updatedContentmultimap hash160Hex false (some onChain) additions = .ok updated := by
  have current : Sortable hash160Hex
      ((carriedContentmultimap false (some onChain)).assign additions).keys := by
    apply sortable.subset (Record.distinct _)
    intro key member
    rcases Record.mem_keys_assign.mp member with added | carriedOver
    · exact own key added
    · apply base key
      rw [Record.mem_keys_iff, carriedContentmultimap_get?] at carriedOver
      exact carriedOver
  rcases sortByHash160_eq_ok.mpr current with ⟨sorted, sorts⟩
  refine ⟨sorted, ?_⟩
  simp only [updatedContentmultimap, bind_eq_ok, exists_unit, sized]
  exact ⟨rfl, sorts⟩

theorem UpdatedAlone.exists_final {hash160Hex : String → Option String}
    {onChain : Record String Json} {updates : List Additions} {keys : List String}
    (sortable : Sortable hash160Hex keys)
    (sized : ∀ additions ∈ updates, assertContentmultimapValueSizes additions = .ok ())
    (foreign : ∀ additions ∈ updates, additions.get? multimapRemoveKey = none)
    (own : ∀ additions ∈ updates, ∀ key ∈ additions.keys, key ∈ keys)
    (base : ∀ key, (carried onChain key).isSome → key ∈ keys) :
    ∃ final, UpdatedAlone hash160Hex onChain updates final := by
  induction updates generalizing onChain with
  | nil => exact ⟨onChain, .nil onChain⟩
  | cons additions rest induction =>
      rcases updatedContentmultimap_exists (sized _ List.mem_cons_self) sortable base
        (own _ List.mem_cons_self) with ⟨updated, updates⟩
      have removed := updated_removed updates (foreign _ List.mem_cons_self)
      have nextBase : ∀ key, (carried (confirmed updated) key).isSome → key ∈ keys := by
        intro key present
        rw [carried_confirmed removed, updatedContentmultimap_overwrites updates] at present
        cases added : additions.get? key with
        | some values =>
            apply own _ List.mem_cons_self
            rw [Record.mem_keys_iff, added]
            rfl
        | none =>
            rw [overwrite_of_none added] at present
            exact base key present
      rcases induction (fun other member => sized other (List.mem_cons_of_mem _ member))
        (fun other member => foreign other (List.mem_cons_of_mem _ member))
        (fun other member => own other (List.mem_cons_of_mem _ member)) nextBase with
        ⟨final, alone⟩
      exact ⟨final, .cons updates alone⟩

/-! ## The batch reaches the same map -/

theorem get?_unionAdditions_foldl (kept : List Candidate) :
    (unionAdditions kept).get? =
      kept.foldl (fun map candidate => overwrite map candidate.additions.get?) fun _ => none := by
  induction kept using List.reverseRecOn with
  | nil => rfl
  | append_singleton init last induction =>
      rw [unionAdditions_append, Record.get?_assign_overwrite, induction, List.foldl_append]
      rfl

theorem overwrite_unionAdditions (kept : List Candidate) (base : String → Option (List Json)) :
    overwrite base (unionAdditions kept).get? =
      kept.foldl (fun map candidate => overwrite map candidate.additions.get?) base := by
  rw [get?_unionAdditions_foldl, overwrite_foldl kept]
  rfl

theorem acceptItem_broadcast {type : InboxAcceptType} {labels : AcceptLabels}
    {library : TransactionLibrary} {client : InboxClient} {agent : InboxAgent} {nowMs : Int}
    {id : String} {signed : SignedUpdate} {refs : List InboxBatchItemRef}
    (sent : Call.broadcast signed refs ∈
      (acceptItem type labels library client agent nowMs id).calls) :
    ∃ item data additions label wif utxos tip, client.getInboxItem id = .ok (some item) ∧
      client.getIdentityRaw = .ok data ∧
      buildInboxVdxfAdditions type item label nowMs = .ok additions ∧
      agent.key? = some wif ∧ client.getUtxos = .ok utxos ∧
      buildIdentityUpdateTx library
        (updateParams agent wif data (utxos.getD []) tip additions) = .ok signed := by
  have prepared : prepareAccept type labels library client agent nowMs id = .ok (some signed) := by
    unfold acceptItem at sent
    split at sent
    · cases sent
    · cases sent
    · rename_i other prepared
      have same : signed = other := by
        simp only [] at sent
        split at sent <;> simp at sent <;> exact sent.1
      rw [prepared, same]
  simp only [prepareAccept, bind_eq_ok, requireSome_eq_ok] at prepared
  rcases prepared with ⟨wif, key, fetched, fetches, rest⟩
  split at rest
  · cases rest
  · cases rest
  · rename_i item _
    split at rest
    · cases rest
    · simp only [bind_eq_ok, exists_unit, mapError_eq_ok, Except.ok.injEq, Option.some.injEq]
        at rest
      rcases rest with
        ⟨data, reads, utxos, funds, _, _, additions, gated, tip, _, other, built, rfl⟩
      exact ⟨item, data, additions, _, wif, utxos, tip, fetches, reads, gated, key, funds, built⟩

theorem acceptByType_broadcast {type : InboxAcceptType} {library : TransactionLibrary}
    {client : InboxClient} {agent : InboxAgent} {nowMs : Int} {id : String}
    {signed : SignedUpdate} {refs : List InboxBatchItemRef}
    (sent : Call.broadcast signed refs ∈ (acceptByType type library client agent nowMs id).calls) :
    ∃ item data additions label wif utxos tip, client.getInboxItem id = .ok (some item) ∧
      client.getIdentityRaw = .ok data ∧
      buildInboxVdxfAdditions type item label nowMs = .ok additions ∧
      agent.key? = some wif ∧ client.getUtxos = .ok utxos ∧
      buildIdentityUpdateTx library
        (updateParams agent wif data (utxos.getD []) tip additions) = .ok signed := by
  cases type with
  | review | attestation | jobRecord => exact acceptItem_broadcast sent

theorem acceptByType_writes {library : TransactionLibrary} {client other : InboxClient}
    {agent : InboxAgent} {nowMs : Int} {candidate : Candidate} {data : RawIdentityData}
    {signed : SignedUpdate} {refs : List InboxBatchItemRef}
    (screens : Screens client nowMs candidate)
    (sameItem : other.getInboxItem candidate.ref.id = client.getInboxItem candidate.ref.id)
    (reads : other.getIdentityRaw = .ok data)
    (sent : Call.broadcast signed refs ∈
      (acceptByType candidate.ref.type library other agent nowMs candidate.ref.id).calls) :
    updatedContentmultimap library.hash160Hex false (some (onChainContentmultimap data))
      candidate.additions = .ok signed.identity.contentmultimap := by
  rcases acceptByType_broadcast sent with
    ⟨item, data', additions, label, wif, utxos, tip, fetches, reads', gated, _, _, built⟩
  rcases screens with ⟨detail, fetched, _, isGated⟩
  cases reads.symm.trans reads'
  cases fetched.symm.trans (sameItem.symm.trans fetches)
  have inBatch := (gateItem_eq_ok.mp isGated.gateItem).1
  have alone := buildInboxVdxfAdditions_label gated s!"acceptInboxBatch {candidate.ref.id}"
  cases inBatch.symm.trans alone
  exact buildIdentityUpdateTx_map built

theorem AcceptedAlone.updatedAlone {library : TransactionLibrary} {client : InboxClient}
    {agent : InboxAgent} {nowMs : Int} {onChain final : Record String Json}
    {order : List Candidate} {refs : List InboxBatchItemRef}
    (screens : ∀ candidate ∈ order, Screens client nowMs candidate)
    (sameRefs : refs = order.map Candidate.ref)
    (accepted : AcceptedAlone library agent nowMs client.getInboxItem onChain refs final) :
    UpdatedAlone library.hash160Hex onChain (order.map Candidate.additions) final := by
  induction accepted generalizing order with
  | nil onChain =>
      cases List.map_eq_nil_iff.mp sameRefs.symm
      exact .nil onChain
  | cons sameItem reads sent rest induction =>
      cases order with
      | nil => cases sameRefs
      | cons head tail =>
          cases sameRefs
          apply UpdatedAlone.cons
          · exact acceptByType_writes (screens _ List.mem_cons_self) sameItem reads sent
          · exact induction (fun other member => screens other (List.mem_cons_of_mem _ member)) rfl

theorem Screens.foreign {client : InboxClient} {nowMs : Int} {candidate : Candidate}
    (screens : Screens client nowMs candidate) :
    candidate.additions.get? multimapRemoveKey = none := by
  rcases screens with ⟨_, _, _, gated⟩
  rcases gated.single with ⟨values, single⟩
  simp [Record.get?, single, (allowedKey_ne_multimapRemoveKey candidate.ref.type).symm]

theorem Screens.mem_keys_iff {client : InboxClient} {nowMs : Int} {candidate : Candidate}
    (screens : Screens client nowMs candidate) {key : String} :
    key ∈ candidate.additions.keys ↔ key ∈ inboxAllowlistForType candidate.ref.type := by
  rcases screens with ⟨_, _, _, gated⟩
  rcases gated.single with ⟨values, single⟩
  simp [Record.keys, single, inboxAllowlistForType_eq]

theorem Screens.sized {client : InboxClient} {nowMs : Int} {candidate : Candidate}
    (screens : Screens client nowMs candidate) :
    assertContentmultimapValueSizes candidate.additions = .ok () := by
  rcases screens with ⟨_, _, _, gated⟩
  exact (gateItem_eq_ok.mp gated.gateItem).2

/-- The items of a transaction, in any order. -/
structure Reordered (client : InboxClient) (nowMs : Int) (kept order : List Candidate) : Prop where
  same : order.Perm kept
  screens : ∀ candidate ∈ kept, Screens client nowMs candidate
  onePerKey : OneItemPerKey kept

theorem candidates_of_refs {client : InboxClient} {nowMs : Int} {kept : List Candidate}
    (screens : ∀ candidate ∈ kept, Screens client nowMs candidate) :
    (kept.map Candidate.ref).map
      (fun ref => Candidate.mk ref (additionsOf client nowMs ref)) = kept := by
  rw [List.map_map]
  refine (List.map_congr_left fun candidate member => ?_).trans (List.map_id kept)
  simp [additionsOf_screens (screens candidate member)]

theorem Reordered.of_refs {client : InboxClient} {nowMs : Int} {kept : List Candidate}
    {refs : List InboxBatchItemRef} (same : refs.Perm (kept.map Candidate.ref))
    (screens : ∀ candidate ∈ kept, Screens client nowMs candidate)
    (onePerKey : OneItemPerKey kept) :
    ∃ order, Reordered client nowMs kept order ∧ refs = order.map Candidate.ref := by
  refine ⟨refs.map fun ref => ⟨ref, additionsOf client nowMs ref⟩, ⟨?_, screens, onePerKey⟩, ?_⟩
  · have permuted := same.map fun ref => Candidate.mk ref (additionsOf client nowMs ref)
    rwa [candidates_of_refs screens] at permuted
  · simp [Function.comp_def]

section Reordered

variable {client : InboxClient} {nowMs : Int} {kept order : List Candidate}

theorem Reordered.screened (reordered : Reordered client nowMs kept order) :
    ∀ candidate ∈ order, Screens client nowMs candidate :=
  fun candidate member => reordered.screens candidate (reordered.same.subset member)

theorem Reordered.foldl (reordered : Reordered client nowMs kept order)
    (base : String → Option (List Json)) :
    order.foldl (fun map candidate => overwrite map candidate.additions.get?) base =
      overwrite base (unionAdditions kept).get? := by
  rw [overwrite_unionAdditions]
  apply foldl_overwrite_perm reordered.same
  intro left leftMember right rightMember
  by_cases equal : left = right
  · exact .inl equal
  · right
    intro key
    by_contra both
    rw [not_or] at both
    apply equal
    apply reordered.onePerKey left (reordered.same.subset leftMember) right
      (reordered.same.subset rightMember) key
    · exact Record.mem_keys_iff.mpr (Option.isSome_iff_ne_none.mpr both.1)
    · exact Record.mem_keys_iff.mpr (Option.isSome_iff_ne_none.mpr both.2)

theorem UpdatedAlone.eq_confirmed {hash160Hex : String → Option String}
    {onChain final : Record String Json} {updated : Record String (List Json)}
    (reordered : Reordered client nowMs kept order) (nonempty : kept ≠ [])
    (updates : updatedContentmultimap hash160Hex false (some onChain) (unionAdditions kept) =
      .ok updated)
    (alone : UpdatedAlone hash160Hex onChain (order.map Candidate.additions) final) :
    final.get? = (confirmed updated).get? := by
  have foreign : ∀ additions ∈ order.map Candidate.additions,
      additions.get? multimapRemoveKey = none := by
    rw [List.forall_mem_map]
    exact fun candidate member => (reordered.screened candidate member).foreign
  have someOrder : order.map Candidate.additions ≠ [] := by
    rw [Ne, List.map_eq_nil_iff]
    rintro rfl
    exact nonempty (List.nil_perm.mp reordered.same)
  have folded : carried final = updated.get? := by
    rw [alone.carried_eq foreign, List.foldl_map, reordered.foldl,
      updatedContentmultimap_overwrites updates]
  funext key
  rw [alone.get?_eq someOrder foreign, folded]
  simp [confirmed]

theorem Reordered.exists_final {hash160Hex : String → Option String}
    {onChain : Record String Json} {updated : Record String (List Json)}
    (reordered : Reordered client nowMs kept order)
    (updates : updatedContentmultimap hash160Hex false (some onChain) (unionAdditions kept) =
      .ok updated) :
    ∃ final, UpdatedAlone hash160Hex onChain (order.map Candidate.additions) final := by
  have overwrites := updatedContentmultimap_overwrites updates
  apply UpdatedAlone.exists_final (updatedContentmultimap_sortable updates)
  · rw [List.forall_mem_map]
    exact fun candidate member => (reordered.screened candidate member).sized
  · rw [List.forall_mem_map]
    exact fun candidate member => (reordered.screened candidate member).foreign
  · rw [List.forall_mem_map]
    intro candidate member key keyOf
    have inUnion : key ∈ (unionAdditions kept).keys :=
      mem_keys_unionAdditions.mpr ⟨candidate, reordered.same.subset member, keyOf⟩
    rw [Record.mem_keys_iff] at inUnion ⊢
    rcases Option.isSome_iff_exists.mp inUnion with ⟨values, found⟩
    rw [overwrites, overwrite_of_some found]
    rfl
  · intro key present
    rw [Record.mem_keys_iff, overwrites]
    cases found : (unionAdditions kept).get? key with
    | some values =>
        rw [overwrite_of_some found]
        rfl
    | none => rwa [overwrite_of_none found]

end Reordered

/-- The transaction of a batch against single accepts of its items. -/
structure MatchesSingleAccepts (library : TransactionLibrary) (client : InboxClient)
    (agent : InboxAgent) (nowMs : Int) (onChain : Record String Json)
    (refs : List InboxBatchItemRef) (written : Record String (List Json)) : Prop where
  anyOrder : ∀ (order : List InboxBatchItemRef) (final : Record String Json), order.Perm refs →
    AcceptedAlone library agent nowMs client.getInboxItem onChain order final →
    final.get? = (confirmed written).get?
  everyOrder : ∀ order : List InboxBatchItemRef, order.Perm refs → ∃ final,
    UpdatedAlone library.hash160Hex onChain (order.map (additionsOf client nowMs)) final ∧
    final.get? = (confirmed written).get?
  changed : ∀ key, key ≠ multimapRemoveKey →
    written.get? key ≠ (onChain.get? key).map Json.asArray →
    ∃! ref, ref ∈ refs ∧ key ∈ inboxAllowlistForType ref.type ∧
      (additionsOf client nowMs ref).get? key = written.get? key
  onlyAllowed : ∀ key, key ≠ multimapRemoveKey →
    (∀ ref ∈ refs, key ∉ inboxAllowlistForType ref.type) →
    written.get? key = (onChain.get? key).map Json.asArray
  removed : written.get? multimapRemoveKey = none

section Matches

variable {library : TransactionLibrary} {client : InboxClient} {agent : InboxAgent} {nowMs : Int}
variable {items : List InboxBatchItemRef} {onChain : Record String Json} {kept : List Candidate}
variable {written : Record String (List Json)}

theorem BuiltFrom.values (built : BuiltFrom client nowMs items onChain kept)
    (updates : updatedContentmultimap library.hash160Hex false (some onChain)
      (unionAdditions kept) = .ok written)
    {candidate : Candidate} (member : candidate ∈ kept) {key : String}
    (keyOf : key ∈ candidate.additions.keys) :
    candidate.additions.get? key = written.get? key := by
  rcases Option.isSome_iff_exists.mp (Record.mem_keys_iff.mp keyOf) with ⟨values, found⟩
  rw [updatedContentmultimap_overwrites updates, found,
    overwrite_of_some (get?_unionAdditions built.onePerKey member found)]

theorem BuiltFrom.unwritten (built : BuiltFrom client nowMs items onChain kept)
    (updates : updatedContentmultimap library.hash160Hex false (some onChain)
      (unionAdditions kept) = .ok written)
    {key : String}
    (keyOfNone : ∀ candidate ∈ kept, key ∉ inboxAllowlistForType candidate.ref.type) :
    written.get? key = carried onChain key := by
  rw [updatedContentmultimap_overwrites updates]
  apply overwrite_of_none
  rw [← Option.not_isSome_iff_eq_none, ← Record.mem_keys_iff, mem_keys_unionAdditions]
  intro holds
  rcases holds with ⟨candidate, member, keyOf⟩
  exact keyOfNone candidate member ((built.screens candidate member).mem_keys_iff.mp keyOf)

theorem BuiltFrom.changed (built : BuiltFrom client nowMs items onChain kept)
    (updates : updatedContentmultimap library.hash160Hex false (some onChain)
      (unionAdditions kept) = .ok written)
    {key : String} (differs : written.get? key ≠ carried onChain key) :
    ∃! ref, ref ∈ kept.map Candidate.ref ∧ key ∈ inboxAllowlistForType ref.type ∧
      (additionsOf client nowMs ref).get? key = written.get? key := by
  have writer : ∃ candidate ∈ kept, key ∈ inboxAllowlistForType candidate.ref.type := by
    by_contra none
    apply differs
    apply built.unwritten updates
    intro candidate member allowed
    exact none ⟨candidate, member, allowed⟩
  rcases writer with ⟨candidate, member, allowed⟩
  have keyOf := (built.screens candidate member).mem_keys_iff.mpr allowed
  refine ⟨candidate.ref, ⟨List.mem_map_of_mem member, allowed, ?_⟩, ?_⟩
  · rw [additionsOf_screens (built.screens candidate member)]
    exact built.values updates member keyOf
  · intro ref holds
    rcases holds with ⟨refMember, refAllowed, _⟩
    rcases List.mem_map.mp refMember with ⟨other, otherMember, rfl⟩
    have otherKeyOf := (built.screens other otherMember).mem_keys_iff.mpr refAllowed
    rw [built.onePerKey other otherMember candidate member key otherKeyOf keyOf]

theorem BuiltFrom.matches (built : BuiltFrom client nowMs items onChain kept)
    (updates : updatedContentmultimap library.hash160Hex false (some onChain)
      (unionAdditions kept) = .ok written) :
    MatchesSingleAccepts library client agent nowMs onChain (kept.map Candidate.ref) written := by
  have carriedOver : ∀ key, key ≠ multimapRemoveKey →
      carried onChain key = (onChain.get? key).map Json.asArray := by
    intro key notRemove
    simp [carried, notRemove]
  constructor
  · intro order final same accepted
    rcases Reordered.of_refs same built.screens built.onePerKey with ⟨candidates, reordered, refs⟩
    exact (accepted.updatedAlone reordered.screened refs).eq_confirmed reordered built.nonempty
      updates
  · intro order same
    rcases Reordered.of_refs same built.screens built.onePerKey with ⟨candidates, reordered, rfl⟩
    have gated : (candidates.map Candidate.ref).map (additionsOf client nowMs) =
        candidates.map Candidate.additions := by
      rw [List.map_map]
      apply List.map_congr_left
      exact fun candidate member => additionsOf_screens (reordered.screened candidate member)
    rcases reordered.exists_final updates with ⟨final, alone⟩
    exact ⟨final, gated ▸ alone, alone.eq_confirmed reordered built.nonempty updates⟩
  · intro key notRemove differs
    rw [← carriedOver key notRemove] at differs
    exact built.changed updates differs
  · intro key notRemove keyOfNone
    rw [← carriedOver key notRemove]
    apply built.unwritten updates
    exact fun candidate member => keyOfNone candidate.ref (List.mem_map_of_mem member)
  · apply updated_removed updates
    rw [← Option.not_isSome_iff_eq_none, ← Record.mem_keys_iff, mem_keys_unionAdditions]
    intro holds
    rcases holds with ⟨candidate, member, keyOf⟩
    rw [Record.mem_keys_iff, (built.screens candidate member).foreign] at keyOf
    cases keyOf

end Matches

/-- The transaction of a batch writes the map that single accepts of its items
reach in any order, and changes only keys that its items may write. -/
theorem acceptInboxBatch_matches_single_accepts (library : TransactionLibrary)
    (client : InboxClient) (agent : InboxAgent) (nowMs : Int) (items : List InboxBatchItemRef)
    (maxAdditionBytes : Option Int) (signed : SignedUpdate) (refs : List InboxBatchItemRef)
    (labelled : LabelledOnce client items)
    (sent : Call.broadcast signed refs ∈
      (acceptInboxBatch library client agent nowMs items maxAdditionBytes).calls) :
    ∃ data, client.getIdentityRaw = .ok data ∧
      MatchesSingleAccepts library client agent nowMs (onChainContentmultimap data) refs
        signed.identity.contentmultimap := by
  rcases acceptInboxBatch_builtFrom labelled sent with ⟨data, kept, reads, rfl, built, updates⟩
  exact ⟨data, reads, built.matches updates⟩

private def pairItems : List InboxBatchItemRef := [⟨"review", .review⟩, ⟨"vouch", .attestation⟩]

private def pairItem (id : String) : Json :=
  if id = "review" then pendingItem VdxfKeys.reviewRecord (.string "ab")
  else pendingItem VdxfKeys.reviewAttestation (.array [.string "cd", .string "ef"])

private def pairClient : InboxClient :=
  sampleClient (.mk [(VdxfKeys.agentStatus, .string "00"),
    (VdxfKeys.reviewRecord, .array [.string "99"])] (by decide)) pairItem fun _ => .ok ()

theorem acceptInboxBatch_matches_single_accepts_pair :
    ∃ signed : SignedUpdate, ∃ data, pairClient.getIdentityRaw = .ok data ∧
      MatchesSingleAccepts sampleLibrary pairClient sampleAgent 0 (onChainContentmultimap data)
        pairItems signed.identity.contentmultimap := by
  have sent : pairItems ∈ (acceptInboxBatch sampleLibrary pairClient sampleAgent 0 pairItems
      none).calls.filterMap Call.broadcastItems := by decide +kernel
  rcases exists_broadcast sent with ⟨signed, broadcast⟩
  have labelled : LabelledOnce pairClient pairItems := by
    have distinct : ∀ ref ∈ pairItems, ∀ other ∈ pairItems, ref.id = other.id → ref = other := by
      decide
    exact fun ref member other otherMember same => .inl (distinct ref member other otherMember same)
  exact ⟨signed, acceptInboxBatch_matches_single_accepts _ _ _ _ _ _ _ _ labelled broadcast⟩

end SovAgent.Inbox

import SovAgent.Foundation.Execution
import SovAgent.Agent.InboxBatchAcks

/-! # Cycles of batch accepts

An item stays pending until it is acknowledged. The only memory between two
batches is what is on-chain: an item whose acknowledgement failed is written
again when a later batch replaces its key, or when its record is built anew.
-/

namespace SovAgent.Inbox

open Onboarding Identity

structure InboxItems where
  type : String → InboxAcceptType
  data : String → Json

structure Cycle where
  library : TransactionLibrary
  client : InboxClient
  agent : InboxAgent
  nowMs : Int
  items : List InboxBatchItemRef
  maxAdditionBytes : Option Int

def Cycle.execute (cycle : Cycle) : Execution InboxBatchResult :=
  acceptInboxBatch cycle.library cycle.client cycle.agent cycle.nowMs cycle.items
    cycle.maxAdditionBytes

/-- The confirmed map, the acknowledged ids, and the items of each confirmed
transaction, newest first. -/
structure InboxState where
  onChain : Record String Json
  acked : List String
  transactions : List (List Candidate)

def Call.transaction? : Call → Option (SignedUpdate × List InboxBatchItemRef)
  | .broadcast signed items => some (signed, items)
  | .acceptInboxItem _ _ => none

/-- A transaction that was sent is confirmed before the next cycle. -/
def InboxState.next (state : InboxState) (cycle : Cycle) : InboxState :=
  match cycle.execute.outcome with
  | .error _ => state
  | .ok result =>
      let acked := result.acked ++ state.acked
      match cycle.execute.calls.findSome? Call.transaction? with
      | none => { state with acked }
      | some (signed, refs) =>
          { onChain := confirmed signed.identity.contentmultimap
            acked
            transactions :=
              refs.map (fun ref => ⟨ref, additionsOf cycle.client cycle.nowMs ref⟩) ::
                state.transactions }

def inboxMachine : Machine InboxState Cycle where
  step state cycle := some (state.next cycle)

/-- The platform of a cycle: items are pending until they are acknowledged, each
is listed under its type, and the identity is the one on-chain. Any call may
fail. -/
structure Faithful (inbox : InboxItems) (state : InboxState) (cycle : Cycle) : Prop where
  listed : ∀ ref ∈ cycle.items, ref.type = inbox.type ref.id
  pending : ∀ id detail, cycle.client.getInboxItem id = .ok (some detail) →
    id ∉ state.acked → detail = inbox.data id
  done : ∀ id detail, cycle.client.getInboxItem id = .ok (some detail) →
    id ∈ state.acked → ¬ isPending detail
  identity : ∀ data, cycle.client.getIdentityRaw = .ok data →
    onChainContentmultimap data = state.onChain

def InboxState.NoRebroadcast (state : InboxState) : Prop :=
  state.transactions.Pairwise fun newer older =>
    ∀ item ∈ newer, ∀ other ∈ older, item.ref.id ≠ other.ref.id

instance (state : InboxState) : Decidable state.NoRebroadcast :=
  inferInstanceAs (Decidable (List.Pairwise _ _))

/-- Written items whose acknowledgement is missing. -/
def InboxState.Outstanding (state : InboxState) (item : Candidate) : Prop :=
  item ∈ state.transactions.flatten ∧ item.ref.id ∉ state.acked

/-- A cycle keeps the outstanding items on-chain: an outstanding item that is
listed still has the additions that it was written with, and an item of its
type that is not on-chain carries it. -/
structure KeepsOutstanding (inbox : InboxItems) (state : InboxState) (cycle : Cycle) : Prop where
  unchanged : ∀ item, state.Outstanding item → item.ref ∈ cycle.items → ∀ additions,
    Gated (inbox.data item.ref.id) cycle.nowMs ⟨item.ref, additions⟩ →
    additions = item.additions
  carried : ∀ item, state.Outstanding item → ∀ fresh,
    Eligible inbox.data cycle.nowMs cycle.items fresh → fresh.ref.type = item.ref.type →
    ¬ alreadyPresent state.onChain fresh.additions →
    alreadyPresent (confirmed fresh.additions) item.additions

/-! ## What a cycle does -/

section Cycle

variable {inbox : InboxItems} {state : InboxState} {cycle : Cycle}

theorem Faithful.labelled (faithful : Faithful inbox state cycle) :
    LabelledOnce cycle.client cycle.items := by
  intro ref member other otherMember sameId
  left
  have refType := faithful.listed ref member
  have otherType := faithful.listed other otherMember
  rcases ref with ⟨id, type⟩
  rcases other with ⟨otherId, otherType'⟩
  cases sameId
  rw [InboxBatchItemRef.mk.injEq]
  exact ⟨rfl, refType.trans otherType.symm⟩

theorem Faithful.unacknowledged (faithful : Faithful inbox state cycle) {candidate : Candidate}
    (screens : Screens cycle.client cycle.nowMs candidate) : candidate.ref.id ∉ state.acked := by
  rcases screens with ⟨detail, fetched, _, gated⟩
  intro acked
  exact faithful.done _ _ fetched acked gated.isPending

theorem Faithful.eligible (faithful : Faithful inbox state cycle) {candidate : Candidate}
    (screens : Screens cycle.client cycle.nowMs candidate)
    (listed : candidate.ref ∈ cycle.items) :
    Eligible inbox.data cycle.nowMs cycle.items candidate := by
  have unacked := faithful.unacknowledged screens
  rcases screens with ⟨detail, fetched, notNull, gated⟩
  cases faithful.pending _ _ fetched unacked
  exact ⟨listed, notNull, gated⟩

inductive Progress (state : InboxState) (cycle : Cycle) : InboxState → Prop
  | quiet (acked) :
      Progress state cycle { state with acked := acked ++ state.acked }
  | wrote (acked written kept) :
      BuiltFrom cycle.client cycle.nowMs cycle.items state.onChain kept →
      updatedContentmultimap cycle.library.hash160Hex false (some state.onChain)
        (unionAdditions kept) = .ok written →
      Progress state cycle {
        onChain := confirmed written
        acked := acked ++ state.acked
        transactions := kept :: state.transactions }

theorem Faithful.progress (faithful : Faithful inbox state cycle) :
    Progress state cycle (state.next cycle) := by
  unfold InboxState.next
  split
  · exact .quiet []
  · rename_i result returned
    simp only []
    split
    · exact .quiet result.acked
    · rename_i signed refs found
      rcases List.exists_of_findSome?_eq_some found with ⟨call, member, isTransaction⟩
      cases call with
      | acceptInboxItem id txid => cases isTransaction
      | broadcast signed' refs' =>
          cases isTransaction
          rcases acceptInboxBatch_builtFrom faithful.labelled member with
            ⟨data, kept, reads, rfl, built, updates⟩
          rw [faithful.identity data reads] at built updates
          rw [candidates_of_refs built.screens]
          exact .wrote result.acked _ kept built updates

end Cycle

/-! ## What is on-chain after a transaction -/

section Confirmed

variable {onChain : Record String Json} {written : Record String (List Json)}

@[simp] theorem onChainValues_confirmed (key : String) :
    onChainValues (confirmed written) key = written.get? key := by
  rw [onChainValues, confirmed, Record.get?_mapValues]
  cases written.get? key with
  | none => rfl
  | some values => rfl

theorem keyAlreadyPresent_congr {left right : Record String Json} {key : String}
    (same : onChainValues left key = onChainValues right key) (values : List Json) :
    keyAlreadyPresent left key values = keyAlreadyPresent right key values := by
  simp only [keyAlreadyPresent, valueAlreadyOnChain, jobHashAlreadyOnChain, same]

theorem keyAlreadyPresent_listed {key : String} {values : List Json}
    (present : keyAlreadyPresent onChain key values) : (onChainValues onChain key).isSome := by
  cases listed : onChainValues onChain key with
  | some others => rfl
  | none =>
      simp [keyAlreadyPresent, valueAlreadyOnChain, jobHashAlreadyOnChain, listed] at present

theorem onChainValues_carried {key : String} (notRemove : key ≠ multimapRemoveKey)
    (listed : (onChainValues onChain key).isSome) (kept : written.get? key = carried onChain key) :
    onChainValues (confirmed written) key = onChainValues onChain key := by
  rw [onChainValues_confirmed, kept]
  cases found : onChain.get? key with
  | none => simp [carried, onChainValues, found]
  | some value =>
      by_cases isNull : value = .null
      · simp [onChainValues, found, isNull] at listed
      · simp [carried, onChainValues, notRemove, found, isNull]

end Confirmed

/-! ## Runs -/

structure CyclesInvariant (inbox : InboxItems) (state : InboxState) : Prop where
  once : state.NoRebroadcast
  typed : ∀ item ∈ state.transactions.flatten, item.ref.type = inbox.type item.ref.id
  single : ∀ item ∈ state.transactions.flatten,
    ∃ values, item.additions.entries = [(allowedKey item.ref.type, values)]
  present : ∀ item, state.Outstanding item → alreadyPresent state.onChain item.additions

section Step

variable {inbox : InboxItems} {state : InboxState} {cycle : Cycle} {kept : List Candidate}
variable {written : Record String (List Json)}

theorem CyclesInvariant.quiet (invariant : CyclesInvariant inbox state) (acked : List String) :
    CyclesInvariant inbox { state with acked := acked ++ state.acked } := by
  refine ⟨invariant.once, invariant.typed, invariant.single, ?_⟩
  intro item outstanding
  rcases outstanding with ⟨member, unacked⟩
  exact invariant.present item ⟨member, fun acked' => unacked (List.mem_append_right _ acked')⟩

/-- An outstanding item is on-chain, so it is not merged. -/
theorem CyclesInvariant.fresh_ids (invariant : CyclesInvariant inbox state)
    (faithful : Faithful inbox state cycle) (keeps : KeepsOutstanding inbox state cycle)
    (built : BuiltFrom cycle.client cycle.nowMs cycle.items state.onChain kept) :
    ∀ fresh ∈ kept, ∀ older ∈ state.transactions, ∀ item ∈ older,
      fresh.ref.id ≠ item.ref.id := by
  intro fresh member older olderMember item itemMember sameId
  have screens := built.screens fresh member
  have listed := built.listed fresh member
  have sent : item ∈ state.transactions.flatten := List.mem_flatten_of_mem olderMember itemMember
  have outstanding : state.Outstanding item := ⟨sent, sameId ▸ faithful.unacknowledged screens⟩
  have sameType : fresh.ref.type = item.ref.type := by
    rw [faithful.listed _ listed, invariant.typed item sent, sameId]
  have sameRef : fresh.ref = item.ref := by
    rcases fresh with ⟨⟨id, type⟩, additions⟩
    rcases item with ⟨⟨otherId, otherType⟩, others⟩
    cases sameId
    cases sameType
    rfl
  have gated : Gated (inbox.data item.ref.id) cycle.nowMs ⟨item.ref, fresh.additions⟩ := by
    rw [← sameRef]
    exact (faithful.eligible screens listed).gated
  rw [sameRef] at listed
  have unchanged := keeps.unchanged item outstanding listed fresh.additions gated
  exact built.absent fresh member (unchanged ▸ invariant.present item outstanding)

theorem CyclesInvariant.still_present (invariant : CyclesInvariant inbox state)
    (faithful : Faithful inbox state cycle) (keeps : KeepsOutstanding inbox state cycle)
    (built : BuiltFrom cycle.client cycle.nowMs cycle.items state.onChain kept)
    (updates : updatedContentmultimap cycle.library.hash160Hex false (some state.onChain)
      (unionAdditions kept) = .ok written) {item : Candidate}
    (outstanding : state.Outstanding item) :
    alreadyPresent (confirmed written) item.additions := by
  rcases invariant.single item outstanding.1 with ⟨values, single⟩
  have present := invariant.present item outstanding
  simp only [alreadyPresent, single, List.all_cons, List.all_nil, Bool.and_true] at present ⊢
  by_cases writer : ∃ fresh ∈ kept, allowedKey item.ref.type ∈ fresh.additions.keys
  · rcases writer with ⟨fresh, member, keyOf⟩
    have eligible := faithful.eligible (built.screens fresh member) (built.listed fresh member)
    have sameType : fresh.ref.type = item.ref.type := by
      rw [(built.screens fresh member).mem_keys_iff, inboxAllowlistForType_eq,
        List.mem_singleton] at keyOf
      exact (allowedKey_injective keyOf).symm
    have carried := keeps.carried item outstanding fresh eligible sameType
      (built.absent fresh member)
    simp only [alreadyPresent, single, List.all_cons, List.all_nil, Bool.and_true] at carried
    rw [← keyAlreadyPresent_congr _ values]
    · exact carried
    · rw [onChainValues_confirmed, onChainValues_confirmed, built.values updates member keyOf]
  · have unwritten : written.get? (allowedKey item.ref.type) =
        Inbox.carried state.onChain (allowedKey item.ref.type) := by
      rw [updatedContentmultimap_overwrites updates]
      apply overwrite_of_none
      rw [Record.get?_eq_none_iff, mem_keys_unionAdditions]
      exact writer
    have same := onChainValues_carried (allowedKey_ne_multimapRemoveKey _)
      (keyAlreadyPresent_listed present) unwritten
    rw [keyAlreadyPresent_congr same]
    exact present

theorem CyclesInvariant.wrote (invariant : CyclesInvariant inbox state)
    (faithful : Faithful inbox state cycle) (keeps : KeepsOutstanding inbox state cycle)
    (built : BuiltFrom cycle.client cycle.nowMs cycle.items state.onChain kept)
    (updates : updatedContentmultimap cycle.library.hash160Hex false (some state.onChain)
      (unionAdditions kept) = .ok written) (acked : List String) :
    CyclesInvariant inbox {
      onChain := confirmed written
      acked := acked ++ state.acked
      transactions := kept :: state.transactions } := by
  have singles : ∀ item ∈ kept, ∃ values,
      item.additions.entries = [(allowedKey item.ref.type, values)] := by
    intro item member
    exact (faithful.eligible (built.screens item member) (built.listed item member)).gated.single
  constructor
  · apply List.pairwise_cons.mpr
    refine ⟨?_, invariant.once⟩
    intro older olderMember fresh member item itemMember
    exact invariant.fresh_ids faithful keeps built fresh member older olderMember item itemMember
  · intro item member
    rcases List.mem_append.mp (List.flatten_cons ▸ member) with new | old
    · exact faithful.listed _ (built.listed item new)
    · exact invariant.typed item old
  · intro item member
    rcases List.mem_append.mp (List.flatten_cons ▸ member) with new | old
    · exact singles item new
    · exact invariant.single item old
  · intro item outstanding
    rcases outstanding with ⟨member, unacked⟩
    rcases List.mem_append.mp (List.flatten_cons ▸ member) with new | old
    · rcases singles item new with ⟨values, single⟩
      have found : item.additions.get? (allowedKey item.ref.type) = some values := by
        simp [Record.get?, single]
      have keyOf : allowedKey item.ref.type ∈ item.additions.keys := by
        simp [Record.keys, single]
      have listed : written.get? (allowedKey item.ref.type) = some values := by
        rw [← built.values updates new keyOf, found]
      simp [alreadyPresent, single, keyAlreadyPresent, valueAlreadyOnChain, listed]
    · have notYet : item.ref.id ∉ state.acked :=
        fun acked' => unacked (List.mem_append_right _ acked')
      exact invariant.still_present faithful keeps built updates ⟨old, notYet⟩

theorem CyclesInvariant.next (invariant : CyclesInvariant inbox state)
    (faithful : Faithful inbox state cycle) (keeps : KeepsOutstanding inbox state cycle) :
    CyclesInvariant inbox (state.next cycle) := by
  have progress := faithful.progress
  generalize state.next cycle = next at progress ⊢
  cases progress with
  | quiet acked => exact invariant.quiet acked
  | wrote acked written kept built updates =>
      exact invariant.wrote faithful keeps built updates acked

end Step

def InboxState.start (onChain : Record String Json) : InboxState := ⟨onChain, [], []⟩

theorem CyclesInvariant.start (inbox : InboxItems) (onChain : Record String Json) :
    CyclesInvariant inbox (.start onChain) := by
  constructor
  · exact List.Pairwise.nil
  · simp [InboxState.start]
  · simp [InboxState.start]
  · intro item outstanding
    rcases outstanding with ⟨member, _⟩
    cases member

/-- As long as every cycle keeps the outstanding items on-chain, no item is in
two transactions. -/
theorem cycles_no_rebroadcast (inbox : InboxItems) (onChain : Record String Json)
    (cycles : List Cycle) (final : InboxState)
    (runs : inboxMachine.Runs
      (fun state cycle => Faithful inbox state cycle ∧ KeepsOutstanding inbox state cycle)
      (.start onChain) cycles final) :
    final.NoRebroadcast := by
  have invariant := runs.preserves (CyclesInvariant inbox) ?_ (CyclesInvariant.start inbox onChain)
  · exact invariant.once
  · intro state cycle next allowed invariant stepped
    rcases allowed with ⟨faithful, keeps⟩
    cases stepped
    exact invariant.next faithful keeps

private def rivals : InboxItems where
  type _ := .review
  data id := pendingItem VdxfKeys.reviewRecord (jobReview id "5")

private def rivalCycle (ack : Except Thrown Unit) (items : List String) (state : InboxState) :
    Cycle where
  library := sampleLibrary
  client := sampleClient state.onChain
    (fun id => if id ∈ state.acked then .object [("status", .string "accepted")]
      else rivals.data id)
    fun _ => ack
  agent := sampleAgent
  nowMs := 0
  items := items.map (⟨·, .review⟩)
  maxAdditionBytes := none

private theorem rivalCycle_faithful (ack : Except Thrown Unit) (items : List String)
    (state : InboxState) : Faithful rivals state (rivalCycle ack items state) := by
  constructor
  · intro ref member
    rcases List.mem_map.mp member with ⟨id, _, rfl⟩
    rfl
  · intro id detail fetched unacked
    cases fetched
    exact if_neg unacked
  · intro id detail fetched acked
    cases fetched
    simp only [if_pos acked]
    decide
  · intro data reads
    cases reads
    rfl

private def unacknowledged := rivalCycle (.error (.error "502")) ["one", "two"]
private def firstWritten := (InboxState.start Record.empty).next
  (unacknowledged (.start Record.empty))
private def secondWritten := firstWritten.next (unacknowledged firstWritten)

/-- No acknowledgement succeeds: the review that was written first is
overwritten by the other one and then written again. -/
theorem overwritten_review_rebroadcast : ∃ cycles final,
    inboxMachine.Runs (Faithful rivals) (.start Record.empty) cycles final ∧
      ¬ final.NoRebroadcast := by
  refine ⟨[unacknowledged (.start Record.empty), unacknowledged firstWritten,
    unacknowledged secondWritten], secondWritten.next (unacknowledged secondWritten), ?_, ?_⟩
  · refine .cons (rivalCycle_faithful _ _ _) rfl ?_
    refine .cons (rivalCycle_faithful _ _ _) rfl ?_
    exact .cons (rivalCycle_faithful _ _ _) rfl (.nil _)
  · decide +kernel

private theorem keeps_of_acknowledged {inbox : InboxItems} {state : InboxState} {cycle : Cycle}
    (acknowledged : ∀ item ∈ state.transactions.flatten, item.ref.id ∈ state.acked) :
    KeepsOutstanding inbox state cycle := by
  constructor
  · exact fun item outstanding => absurd (acknowledged item outstanding.1) outstanding.2
  · exact fun item outstanding => absurd (acknowledged item outstanding.1) outstanding.2

private def oneAdditions : Additions :=
  additionsOf (sampleClient Record.empty rivals.data fun _ => .ok ()) 0 ⟨"one", .review⟩

private theorem gated_one {additions : Additions}
    (gated : Gated (rivals.data "one") 0 ⟨⟨"one", .review⟩, additions⟩) :
    additions = oneAdditions := by
  have notNull : rivals.data "one" ≠ .null := by decide
  have screens : Screens (sampleClient Record.empty rivals.data fun _ => .ok ()) 0
      ⟨⟨"one", .review⟩, additions⟩ := ⟨_, rfl, notNull, gated⟩
  exact (additionsOf_screens screens).symm

private theorem keeps_one {state : InboxState} (ack : Except Thrown Unit)
    (sent : state.transactions.flatten.map (fun item => (item.ref, item.additions.entries)) =
      [(⟨"one", .review⟩, oneAdditions.entries)])
    (present : alreadyPresent state.onChain oneAdditions) :
    KeepsOutstanding rivals state (rivalCycle ack ["one"] state) := by
  have only : ∀ item ∈ state.transactions.flatten, item = ⟨⟨"one", .review⟩, oneAdditions⟩ := by
    intro item member
    have listed : (item.ref, item.additions.entries) ∈
        [((⟨"one", .review⟩ : InboxBatchItemRef), oneAdditions.entries)] := by
      rw [← sent]
      exact List.mem_map_of_mem member
    rw [List.mem_singleton] at listed
    rcases item with ⟨ref, ⟨entries, distinct⟩⟩
    cases listed
    rfl
  constructor
  · intro item outstanding _ additions gated
    cases only item outstanding.1
    exact gated_one gated
  · intro item outstanding fresh eligible _ absent
    rcases fresh with ⟨ref, additions⟩
    cases List.mem_singleton.mp eligible.listed
    cases gated_one eligible.gated
    exact absurd present absent

private def stuck := (InboxState.start Record.empty).next
  (rivalCycle (.error (.error "502")) ["one"] (.start Record.empty))
private def stuckTwice := stuck.next (rivalCycle (.error (.error "502")) ["one"] stuck)
private def freed := stuckTwice.next (rivalCycle (.ok ()) ["one"] stuckTwice)
private def bothAccepted := freed.next (rivalCycle (.ok ()) ["two"] freed)

/-- The first review is acknowledged at the third attempt, and only then the second one is
listed. -/
theorem cycles_no_rebroadcast_stuck : stuckTwice.acked = [] ∧
    bothAccepted.transactions.length = 2 ∧ bothAccepted.NoRebroadcast := by
  refine ⟨by decide +kernel, by decide +kernel, ?_⟩
  apply cycles_no_rebroadcast rivals Record.empty [rivalCycle (.error (.error "502")) ["one"] _,
    rivalCycle (.error (.error "502")) ["one"] stuck, rivalCycle (.ok ()) ["one"] stuckTwice,
    rivalCycle (.ok ()) ["two"] freed]
  refine .cons ⟨rivalCycle_faithful _ _ _, keeps_of_acknowledged ?_⟩ rfl ?_
  · simp [InboxState.start]
  refine .cons ⟨rivalCycle_faithful _ _ _, keeps_one _ ?_ ?_⟩ rfl ?_
  · decide +kernel
  · decide +kernel
  refine .cons ⟨rivalCycle_faithful _ _ _, keeps_one _ ?_ ?_⟩ rfl ?_
  · decide +kernel
  · decide +kernel
  refine .cons ⟨rivalCycle_faithful _ _ _, keeps_of_acknowledged ?_⟩ rfl (.nil _)
  decide +kernel

end SovAgent.Inbox

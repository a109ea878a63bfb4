import SovAgent.Agent.InboxBatchMap

/-! # What an acknowledgement attests

An acknowledged item should be on-chain, and a cited transaction should carry
the item. An item that the presence test accepts is tested on its first record
only, and it cites the transaction that the rest of its batch was written in.
-/

namespace SovAgent.Inbox

open Onboarding Identity

structure Serves (onChain : Record String Json) (details : String → Json)
    (client : InboxClient) : Prop where
  items : ∀ id detail, client.getInboxItem id = .ok (some detail) → detail = details id
  identity : ∀ data, client.getIdentityRaw = .ok data → onChainContentmultimap data = onChain

structure Eligible (details : String → Json) (nowMs : Int) (items : List InboxBatchItemRef)
    (candidate : Candidate) : Prop where
  listed : candidate.ref ∈ items
  notNull : details candidate.ref.id ≠ .null
  gated : Gated (details candidate.ref.id) nowMs candidate

/-- Every id is listed under one type, or its item names its type. -/
def OneTypePerId (details : String → Json) (items : List InboxBatchItemRef) : Prop :=
  ∀ ref ∈ items, ∀ other ∈ items, ref.id = other.id → ref = other ∨
    (truthyProperty (details ref.id) "type").isSome

def SameJob (left right : Json) : Prop :=
  ∃ jobHash, extractJobHash (some left) = some jobHash ∧ extractJobHash (some right) = some jobHash

instance (left right : Json) : Decidable (SameJob left right) :=
  decidable_of_iff ((extractJobHash (some left)).isSome ∧
      extractJobHash (some left) = extractJobHash (some right)) <| by
    unfold SameJob
    cases extractJobHash (some left) <;> simp [eq_comm]

/-- The value is listed, or for a review a record of the same job. -/
def Carries (key : String) (listed : List Json) (value : Json) : Prop :=
  value ∈ listed ∨ key = VdxfKeys.reviewRecord ∧ ∃ other ∈ listed, SameJob value other

instance (key : String) (listed : List Json) (value : Json) :
    Decidable (Carries key listed value) :=
  inferInstanceAs (Decidable (_ ∨ _))

def listedOnChain (onChain : Record String Json) (key : String) : List Json :=
  (onChainValues onChain key).getD []

def CarriesAll (map : String → Option (List Json)) (additions : Additions) : Prop :=
  ∀ key values, additions.get? key = some values → ∀ value ∈ values,
    Carries key ((map key).getD []) value

section Platform

variable {onChain : Record String Json} {details : String → Json} {client : InboxClient}
variable {nowMs : Int} {items : List InboxBatchItemRef}

theorem Serves.screens (serves : Serves onChain details client) {candidate : Candidate}
    (screens : Screens client nowMs candidate) (listed : candidate.ref ∈ items) :
    Eligible details nowMs items candidate := by
  rcases screens with ⟨detail, fetched, notNull, gated⟩
  cases serves.items _ _ fetched
  exact ⟨listed, notNull, gated⟩

theorem Serves.labelled (serves : Serves onChain details client)
    (oneType : OneTypePerId details items) : LabelledOnce client items := by
  intro ref member other otherMember sameId
  rcases oneType ref member other otherMember sameId with equal | named
  · exact .inl equal
  · right
    intro detail fetched
    rw [serves.items _ _ fetched]
    exact named

def answering (onChain : Record String Json) (details : String → Json) (ids : List String) :
    InboxClient where
  getInboxItem id :=
    if id ∈ ids ∧ details id ≠ .null then .ok (some (details id))
    else .error (.error "offline")
  getIdentityRaw := .ok (sampleIdentity onChain)
  getUtxos := .ok (some [sampleUtxo])
  getChainInfo := .ok (some 120)
  broadcast _ := .ok "txid"
  acceptInboxItem _ _ := .ok ()

theorem answering_serves (onChain : Record String Json) (details : String → Json)
    (ids : List String) : Serves onChain details (answering onChain details ids) := by
  constructor
  · intro id detail fetched
    by_cases answers : id ∈ ids ∧ details id ≠ .null
    · have answered : (answering onChain details ids).getInboxItem id =
          .ok (some (details id)) := if_pos answers
      cases fetched.symm.trans answered
      rfl
    · simp [answering, answers] at fetched
  · intro data reads
    cases reads
    rfl

theorem Eligible.answered {candidate : Candidate}
    (eligible : Eligible details nowMs items candidate)
    {ids : List String} (asked : candidate.ref.id ∈ ids) :
    Screens (answering onChain details ids) nowMs candidate :=
  ⟨_, if_pos ⟨asked, eligible.notNull⟩, eligible.notNull, eligible.gated⟩

theorem Screens.asked {ids : List String} {candidate : Candidate}
    (screens : Screens (answering onChain details ids) nowMs candidate) :
    candidate.ref.id ∈ ids := by
  rcases screens with ⟨detail, fetched, _, _⟩
  by_contra unasked
  simp [answering, unasked] at fetched

theorem screenItems_answering (ids : List String) (items : List InboxBatchItemRef) :
    ∃ screened, screenItems (answering onChain details ids) nowMs items = .ok screened := by
  induction items with
  | nil => exact ⟨Screened.empty, rfl⟩
  | cons ref rest induction =>
      rcases induction with ⟨screened, screens⟩
      have screening : ∃ screening,
          screenItem (answering onChain details ids) nowMs ref = .ok screening := by
        by_cases answers : ref.id ∈ ids ∧ details ref.id ≠ .null
        · have fetched : (answering onChain details ids).getInboxItem ref.id =
              .ok (some (details ref.id)) := if_pos answers
          unfold screenItem
          rw [fetched]
          cases known : details ref.id with
          | null => exact absurd known answers.2
          | bool | number | string | array | object => exact ⟨_, rfl⟩
        · have failed : (answering onChain details ids).getInboxItem ref.id =
              .error (.error "offline") := if_neg answers
          unfold screenItem
          rw [failed]
          exact ⟨_, rfl⟩
      rcases screening with ⟨screening, screensHead⟩
      refine ⟨screened.place ref screening, ?_⟩
      simp only [screenItems, bind_eq_ok]
      exact ⟨screening, screensHead, screened, screens, rfl⟩

end Platform

/-! ## Items that are written -/

theorem mem_written {library : TransactionLibrary} {client : InboxClient} {agent : InboxAgent}
    {nowMs : Int} {items : List InboxBatchItemRef} {maxAdditionBytes : Option Int}
    {result : InboxBatchResult}
    (returned : (acceptInboxBatch library client agent nowMs items maxAdditionBytes).outcome =
      .ok result)
    {ref : InboxBatchItemRef} (written : ref ∈ result.written) :
    (∃ data candidate, client.getIdentityRaw = .ok data ∧ candidate.ref = ref ∧ ref ∈ items ∧
        Screens client nowMs candidate ∧
        alreadyPresent (onChainContentmultimap data) candidate.additions) ∨
      ∃ signed refs txid, ref ∈ refs ∧ client.broadcast signed.hex.text = .ok txid ∧
        result.txid = some txid ∧ Call.broadcast signed refs ∈
          (acceptInboxBatch library client agent nowMs items maxAdditionBytes).calls := by
  have outcome := acceptInboxBatch_outcome library client agent nowMs items maxAdditionBytes
  generalize acceptInboxBatch library client agent nowMs items maxAdditionBytes = execution
    at outcome returned ⊢
  cases outcome with
  | threw error => cases returned
  | unwritten screened screens noCandidates =>
      cases returned
      simp [collectResult, Merge.start] at written
  | finished screened wif data utxos settled expiryHeight screens key reads funds builds =>
      rcases mergeCandidates_merges (onChainContentmultimap data)
        (maxAdditionBytes.getD maxBatchAdditionBytes) screened.candidates with ⟨chosen, merges⟩
      have present : ∀ ref ∈ (mergeCandidates (onChainContentmultimap data)
          (maxAdditionBytes.getD maxBatchAdditionBytes) screened.candidates).written,
          ∃ candidate : Candidate, candidate.ref = ref ∧ ref ∈ items ∧
            Screens client nowMs candidate ∧
            alreadyPresent (onChainContentmultimap data) candidate.additions := by
        intro ref member
        rw [merges.written] at member
        rcases List.mem_map.mp member with ⟨candidate, filtered, rfl⟩
        rcases List.mem_filter.mp filtered with ⟨listed, isPresent⟩
        rcases (mem_candidates screens).mp listed with ⟨inItems, passes⟩
        exact ⟨candidate, rfl, inItems, passes, isPresent⟩
      have finishes := finishBatch_finishes client screened (mergeCandidates
        (onChainContentmultimap data) (maxAdditionBytes.getD maxBatchAdditionBytes)
        screened.candidates) settled expiryHeight
      generalize finishBatch client screened _ settled expiryHeight = execution
        at finishes returned ⊢
      cases finishes with
      | refused => cases returned
      | sent signed txid other isSigned nonempty answered equal =>
          cases returned
          subst equal
          rcases List.mem_append.mp written with earlier | merged
          · rcases present ref earlier with ⟨candidate, isPresent⟩
            exact .inl ⟨data, candidate, reads, isPresent⟩
          · exact .inr ⟨signed, _, txid, merged, answered, rfl, List.mem_cons_self⟩
      | unsent other notSent equal =>
          cases returned
          subst equal
          have earlier : ref ∈ _ := (List.mem_append.mp written).resolve_right List.not_mem_nil
          rcases present ref earlier with ⟨candidate, isPresent⟩
          exact .inl ⟨data, candidate, reads, isPresent⟩

/-- Every value of a written item is in the broadcast transaction or on-chain. -/
def WrittenMeansOnChain (onChain : Record String Json) (details : String → Json) (nowMs : Int)
    (items : List InboxBatchItemRef) : Prop :=
  ∀ library client agent maxAdditionBytes result, Serves onChain details client →
    (acceptInboxBatch library client agent nowMs items maxAdditionBytes).outcome = .ok result →
    ∀ candidate, Eligible details nowMs items candidate → candidate.ref ∈ result.written →
      ∀ key values, candidate.additions.get? key = some values → ∀ value ∈ values,
        (∃ signed refs, Call.broadcast signed refs ∈
            (acceptInboxBatch library client agent nowMs items maxAdditionBytes).calls ∧
          value ∈ (signed.identity.contentmultimap.get? key).getD []) ∨
        Carries key (listedOnChain onChain key) value

/-- A listed review whose first record is on-chain by its job hash has its
further records on-chain too. -/
def FurtherRecordsOnChain (onChain : Record String Json) (details : String → Json) (nowMs : Int)
    (items : List InboxBatchItemRef) : Prop :=
  ∀ candidate, Eligible details nowMs items candidate → ∀ first rest,
    candidate.additions.get? VdxfKeys.reviewRecord = some (first :: rest) →
    jobHashAlreadyOnChain onChain VdxfKeys.reviewRecord (extractJobHash (some first)) →
    ∀ value ∈ rest,
      Carries VdxfKeys.reviewRecord (listedOnChain onChain VdxfKeys.reviewRecord) value

theorem jobHashAlreadyOnChain_sameJob {onChain : Record String Json} {key : String} {value : Json}
    (present : jobHashAlreadyOnChain onChain key (extractJobHash (some value))) :
    ∃ other ∈ listedOnChain onChain key, SameJob value other := by
  unfold jobHashAlreadyOnChain at present
  split at present
  · rename_i jobHash existing hash values
    rw [decide_eq_true_eq, List.any_eq_true] at present
    rcases present.2 with ⟨other, member, same⟩
    refine ⟨other, ?_, jobHash, hash, of_decide_eq_true same⟩
    rw [listedOnChain, values]
    exact member
  · cases present

theorem alreadyPresent_key {onChain : Record String Json} {additions : Additions} {key : String}
    {values : List Json} (present : alreadyPresent onChain additions)
    (found : additions.get? key = some values) : keyAlreadyPresent onChain key values := by
  have member : (key, values) ∈ additions.entries := Record.get?_eq_some_iff.mp found
  exact List.all_eq_true.mp present _ member

theorem keyAlreadyPresent_carries {onChain : Record String Json} {key : String}
    {values : List Json} (present : keyAlreadyPresent onChain key values)
    (further : ∀ first rest, key = VdxfKeys.reviewRecord → values = first :: rest →
      jobHashAlreadyOnChain onChain key (extractJobHash (some first)) →
      ∀ value ∈ rest, Carries key (listedOnChain onChain key) value) :
    ∀ value ∈ values, Carries key (listedOnChain onChain key) value := by
  intro value member
  rw [keyAlreadyPresent, Bool.or_eq_true, Bool.and_eq_true, decide_eq_true_eq] at present
  rcases present with identical | ⟨isReview, hashPresent⟩
  · left
    rw [listedOnChain, of_decide_eq_true identical]
    exact member
  · cases values with
    | nil => cases member
    | cons first rest =>
        rcases List.mem_cons.mp member with rfl | later
        · exact .inr ⟨isReview, jobHashAlreadyOnChain_sameJob hashPresent⟩
        · exact further first rest isReview rfl hashPresent value later

/-! ### A batch whose items are all on-chain -/

theorem acceptInboxBatch_of_phases {library : TransactionLibrary} {client : InboxClient}
    {agent : InboxAgent} {nowMs : Int} {items : List InboxBatchItemRef}
    {maxAdditionBytes : Option Int} {wif : String} {screened : Screened}
    {data : RawIdentityData} {utxos : Option (List Utxo)} {settled : Settled}
    {expiryHeight : Option Int} (key : agent.key? = some wif)
    (screens : screenItems client nowMs items = .ok screened) (some : screened.candidates ≠ [])
    (reads : client.getIdentityRaw = .ok data) (funds : client.getUtxos = .ok utxos)
    (onIdentity : data.prevOutput.isSome)
    (builds : buildPhase library client agent wif data utxos
      (mergeCandidates (onChainContentmultimap data)
        (maxAdditionBytes.getD maxBatchAdditionBytes) screened.candidates)
      screened.candidates = .ok (settled, expiryHeight)) :
    acceptInboxBatch library client agent nowMs items maxAdditionBytes =
      finishBatch client screened (mergeCandidates (onChainContentmultimap data)
        (maxAdditionBytes.getD maxBatchAdditionBytes) screened.candidates) settled
        expiryHeight := by
  have nonempty : items.isEmpty = false := by
    cases items with
    | nil =>
        cases screens
        exact absurd rfl some
    | cons head tail => rfl
  have candidates : screened.candidates.isEmpty = false := by
    simpa [List.isEmpty_iff] using some
  have reads : readPhase client agent nowMs items = .ok (screened, .some (wif, data, utxos)) := by
    simp only [readPhase, bind_eq_ok, requireSome_eq_ok]
    refine ⟨wif, key, screened, screens, ?_⟩
    simp [candidates, bind_eq_ok, exists_unit, reads, funds, onIdentity]
  unfold acceptInboxBatch
  simp only [nonempty, Bool.false_eq_true, if_false, reads, builds]

theorem mergeCandidates_present {onChain : Record String Json} {maxBytes : Int}
    {candidates : List Candidate}
    (present : ∀ candidate ∈ candidates, alreadyPresent onChain candidate.additions) :
    (mergeCandidates onChain maxBytes candidates).mergedRefs = [] ∧
      (mergeCandidates onChain maxBytes candidates).written = candidates.map Candidate.ref := by
  rcases mergeCandidates_merges onChain maxBytes candidates with ⟨chosen, merges⟩
  have none : chosen = [] := by
    rw [List.eq_nil_iff_forall_not_mem]
    intro candidate member
    exact merges.absent candidate member (present candidate (merges.sublist.subset member))
  constructor
  · rw [merges.mergedRefs, none]
    rfl
  · rw [merges.written, List.filter_eq_self.mpr present]

theorem acceptInboxBatch_present {onChain : Record String Json} {details : String → Json}
    {nowMs : Int} {items : List InboxBatchItemRef} {ids : List String} {screened : Screened}
    (screens : screenItems (answering onChain details ids) nowMs items = .ok screened)
    (nonempty : screened.candidates ≠ [])
    (present : ∀ candidate ∈ screened.candidates, alreadyPresent onChain candidate.additions) :
    ∃ result, acceptInboxBatch sampleLibrary (answering onChain details ids) sampleAgent nowMs
        items none = ⟨ackCalls result, .ok result⟩ ∧
      result.written = screened.candidates.map Candidate.ref := by
  have merges := @mergeCandidates_present onChain maxBatchAdditionBytes _ present
  have reads : (answering onChain details ids).getIdentityRaw = .ok (sampleIdentity onChain) := rfl
  have sameMap : onChainContentmultimap (sampleIdentity onChain) = onChain := rfl
  have key : sampleAgent.key? = some "wif" := rfl
  have batch := @acceptInboxBatch_of_phases sampleLibrary (answering onChain details ids)
    sampleAgent nowMs items none "wif" screened (sampleIdentity onChain)
    (some [sampleUtxo]) Settled.nothing none key screens nonempty reads rfl rfl
  rw [sameMap, buildPhase, Option.getD_none, merges.1] at batch
  rw [batch rfl]
  refine ⟨_, rfl, ?_⟩
  simp [collectResult, merges.2]

section Written

variable {onChain : Record String Json} {details : String → Json} {nowMs : Int}
variable {items : List InboxBatchItemRef}

theorem Eligible.entries {candidate : Candidate}
    (eligible : Eligible details nowMs items candidate) {key : String} {values : List Json}
    (found : candidate.additions.get? key = some values) :
    candidate.additions.entries = [(key, values)] := by
  rcases eligible.gated.single with ⟨others, single⟩
  have member := Record.get?_eq_some_iff.mp found
  rw [single, List.mem_singleton] at member
  rw [single, ← member]

theorem Eligible.present {candidate : Candidate}
    (eligible : Eligible details nowMs items candidate) {key : String} {values : List Json}
    (found : candidate.additions.get? key = some values) :
    alreadyPresent onChain candidate.additions ↔ keyAlreadyPresent onChain key values := by
  simp [alreadyPresent, eligible.entries found]

theorem Eligible.same {left right : Candidate}
    (leftEligible : Eligible details nowMs items left)
    (rightEligible : Eligible details nowMs items right)
    (oneType : OneTypePerId details items) (sameId : left.ref.id = right.ref.id) :
    left = right := by
  have serves := answering_serves Record.empty details [left.ref.id]
  have leftScreens : Screens (answering Record.empty details [left.ref.id]) nowMs left :=
    leftEligible.answered (List.mem_singleton_self _)
  have rightScreens : Screens (answering Record.empty details [left.ref.id]) nowMs right :=
    rightEligible.answered (by simp [sameId])
  have labelled := serves.labelled oneType
  rcases labelled _ leftEligible.listed _ rightEligible.listed sameId with sameRef | named
  · exact leftScreens.unique rightScreens sameRef
  · exact leftScreens.unique rightScreens (leftScreens.same_type rightScreens sameId named)

theorem candidates_answering {candidate : Candidate} {ids : List String} {screened : Screened}
    (screens : screenItems (answering onChain details ids) nowMs items = .ok screened) :
    candidate ∈ screened.candidates ↔
      Eligible details nowMs items candidate ∧ candidate.ref.id ∈ ids := by
  rw [mem_candidates screens]
  constructor
  · intro holds
    rcases holds with ⟨listed, passes⟩
    exact ⟨(answering_serves onChain details ids).screens passes listed, passes.asked⟩
  · intro holds
    rcases holds with ⟨eligible, asked⟩
    exact ⟨eligible.listed, eligible.answered asked⟩

theorem broadcast_values {library : TransactionLibrary} {client : InboxClient}
    {agent : InboxAgent} {maxAdditionBytes : Option Int} {signed : SignedUpdate}
    {refs : List InboxBatchItemRef} (oneType : OneTypePerId details items)
    (serves : Serves onChain details client)
    (sent : Call.broadcast signed refs ∈
      (acceptInboxBatch library client agent nowMs items maxAdditionBytes).calls)
    {candidate : Candidate} (eligible : Eligible details nowMs items candidate)
    {ref : InboxBatchItemRef} (member : ref ∈ refs) (sameId : ref.id = candidate.ref.id)
    {key : String} {values : List Json}
    (found : candidate.additions.get? key = some values) :
    signed.identity.contentmultimap.get? key = some values := by
  rcases acceptInboxBatch_builtFrom (serves.labelled oneType) sent with
    ⟨data, kept, _, rfl, built, updates⟩
  rcases List.mem_map.mp member with ⟨other, otherMember, rfl⟩
  have otherEligible := serves.screens (built.screens other otherMember)
    (built.listed other otherMember)
  cases otherEligible.same eligible oneType sameId
  have keyOf : key ∈ candidate.additions.keys := by
    rw [Record.mem_keys_iff, found]
    rfl
  rw [← built.values updates otherMember keyOf, found]

theorem writtenMeansOnChain_of_further (oneType : OneTypePerId details items)
    (further : FurtherRecordsOnChain onChain details nowMs items) :
    WrittenMeansOnChain onChain details nowMs items := by
  intro library client agent maxAdditionBytes result serves returned candidate eligible written
    key values found value member
  rcases mem_written returned written with
    ⟨data, other, reads, sameRef, listed, screens, present⟩ |
      ⟨signed, refs, _, inRefs, _, _, sent⟩
  · right
    rw [serves.identity data reads] at present
    have otherEligible := serves.screens screens (sameRef ▸ listed)
    cases otherEligible.same eligible oneType (by rw [sameRef])
    apply keyAlreadyPresent_carries (alreadyPresent_key present found) _ value member
    rintro first rest rfl rfl hashPresent
    exact further candidate eligible first rest found hashPresent
  · left
    refine ⟨signed, refs, sent, ?_⟩
    rw [broadcast_values oneType serves sent eligible inRefs rfl found]
    exact member

/-- The records behind the first of a review are never looked at. -/
theorem further_of_writtenMeansOnChain (oneType : OneTypePerId details items)
    (means : WrittenMeansOnChain onChain details nowMs items) :
    FurtherRecordsOnChain onChain details nowMs items := by
  intro candidate eligible first rest found hashPresent value member
  rcases @screenItems_answering onChain details nowMs [candidate.ref.id] items with
    ⟨screened, screens⟩
  have mem := fun other => @candidates_answering onChain details nowMs items other _ _ screens
  have asked := (mem candidate).mpr ⟨eligible, List.mem_singleton_self _⟩
  have keyPresent : keyAlreadyPresent onChain VdxfKeys.reviewRecord (first :: rest) := by
    simp [keyAlreadyPresent, hashPresent]
  have present : ∀ other ∈ screened.candidates, alreadyPresent onChain other.additions := by
    intro other otherMember
    rcases (mem other).mp otherMember with ⟨otherEligible, otherAsked⟩
    rw [otherEligible.same eligible oneType (List.mem_singleton.mp otherAsked)]
    exact (eligible.present found).mpr keyPresent
  rcases acceptInboxBatch_present screens (List.ne_nil_of_mem asked) present with
    ⟨result, batch, written⟩
  have inWritten : candidate.ref ∈ result.written := by
    rw [written]
    exact List.mem_map_of_mem asked
  rcases means sampleLibrary _ sampleAgent none result (answering_serves onChain details _)
    (by rw [batch]) candidate eligible inWritten _ _ found value (List.mem_cons_of_mem _ member)
    with ⟨signed, refs, sent, _⟩ | carries
  · rw [batch] at sent
    simp [ackCalls] at sent
  · exact carries

/-- Written items are on-chain exactly when every listed review that the
presence test finds by its first record has its further records on-chain. -/
theorem writtenMeansOnChain_iff_further (oneType : OneTypePerId details items) :
    WrittenMeansOnChain onChain details nowMs items ↔
      FurtherRecordsOnChain onChain details nowMs items :=
  ⟨further_of_writtenMeansOnChain oneType, writtenMeansOnChain_of_further oneType⟩

end Written

def jobReview (jobHash rating : String) : Json :=
  .string s!"\x7b\"jobHash\":\"{jobHash}\",\"rating\":{rating}\x7d"

def ratedOnce : Record String Json :=
  .mk [(VdxfKeys.reviewRecord, .array [jobReview "one" "4"])] (by decide)

private def twoReviews (_ : String) : Json :=
  pendingItem VdxfKeys.reviewRecord (.array [jobReview "one" "5", jobReview "two" "5"])

private def twoReviewsCandidate : Candidate :=
  ⟨⟨"item", .review⟩, .mk [(VdxfKeys.reviewRecord, [jobReview "one" "5", jobReview "two" "5"])]
    (by decide)⟩

private def acknowledged : InboxBatchResult :=
  { emptyResult with written := [⟨"item", .review⟩], acked := ["item"] }

/-- The review of job "two" is acknowledged and never written. -/
theorem acknowledged_review_not_onChain :
    ¬ WrittenMeansOnChain ratedOnce twoReviews 0 [⟨"item", .review⟩] := by
  intro means
  have serves := answering_serves ratedOnce twoReviews ["item"]
  have returned : (acceptInboxBatch sampleLibrary (answering ratedOnce twoReviews ["item"])
      sampleAgent 0 [⟨"item", .review⟩] none).outcome = .ok acknowledged := by decide +kernel
  have unsent : (acceptInboxBatch sampleLibrary (answering ratedOnce twoReviews ["item"])
      sampleAgent 0 [⟨"item", .review⟩] none).calls.filterMap Call.broadcastItems = [] := by
    decide +kernel
  have eligible : Eligible twoReviews 0 [⟨"item", .review⟩] twoReviewsCandidate :=
    ⟨List.mem_singleton_self _, by simp [twoReviews, pendingItem], rfl⟩
  have absent : ¬ Carries VdxfKeys.reviewRecord (listedOnChain ratedOnce VdxfKeys.reviewRecord)
      (jobReview "two" "5") := by decide +kernel
  rcases means _ _ _ _ _ serves returned _ eligible (List.mem_singleton_self _)
      VdxfKeys.reviewRecord _ rfl (jobReview "two" "5") (by simp)
    with ⟨signed, refs, sent, _⟩ | carries
  · have items : refs ∈ ([] : List (List InboxBatchItemRef)) := by
      rw [← unsent]
      exact List.mem_filterMap.mpr ⟨_, sent, rfl⟩
    cases items
  · exact absent carries

def ratedTwice : Record String Json :=
  .mk [(VdxfKeys.reviewRecord, .array [jobReview "one" "4", jobReview "two" "4"])] (by decide)

private def twoItems (id : String) : Json :=
  if id = "both" then
    pendingItem VdxfKeys.reviewRecord (.array [jobReview "one" "5", jobReview "two" "5"])
  else pendingItem VdxfKeys.reviewRecord (jobReview "three" "5")

private def bothCandidate : Candidate :=
  ⟨⟨"both", .review⟩, .mk [(VdxfKeys.reviewRecord, [jobReview "one" "5", jobReview "two" "5"])]
    (by decide)⟩

private def thirdCandidate : Candidate :=
  ⟨⟨"third", .review⟩, .mk [(VdxfKeys.reviewRecord, [jobReview "three" "5"])] (by decide)⟩

/-- A review of two jobs that are both on-chain, and one of a new job. -/
theorem writtenMeansOnChain_iff_further_two :
    WrittenMeansOnChain ratedTwice twoItems 0 [⟨"both", .review⟩, ⟨"third", .review⟩] := by
  have oneType : OneTypePerId twoItems [⟨"both", .review⟩, ⟨"third", .review⟩] := by
    intro ref member other otherMember sameId
    left
    simp only [List.mem_cons, List.not_mem_nil, or_false] at member otherMember
    rcases member with rfl | rfl <;> rcases otherMember with rfl | rfl <;> simp at sameId ⊢
  have both : Eligible twoItems 0 [⟨"both", .review⟩, ⟨"third", .review⟩] bothCandidate :=
    ⟨by simp [bothCandidate], by simp [twoItems, bothCandidate, pendingItem], rfl⟩
  have third : Eligible twoItems 0 [⟨"both", .review⟩, ⟨"third", .review⟩] thirdCandidate :=
    ⟨by simp [thirdCandidate], by simp [twoItems, thirdCandidate, pendingItem], rfl⟩
  apply (writtenMeansOnChain_iff_further oneType).mpr
  intro candidate eligible first rest found _ value member
  have listed := eligible.listed
  simp only [List.mem_cons, List.not_mem_nil, or_false] at listed
  rcases listed with isBoth | isThird
  · cases eligible.same both oneType (by rw [isBoth]; rfl)
    cases found
    rw [List.mem_singleton.mp member]
    decide +kernel
  · cases eligible.same third oneType (by rw [isThird]; rfl)
    cases found
    cases member

end SovAgent.Inbox

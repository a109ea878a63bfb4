import SovAgent.Agent.InboxAccept

/-! # Accepting a batch of inbox items

`acceptInboxBatch`: every item is screened on its own, the additions of the
items that are not on-chain yet are merged into one identity update, and each
item that is on-chain is acknowledged.
-/

namespace SovAgent.Inbox

open Onboarding Identity

structure RejectedItem where
  id : String
  type : InboxAcceptType
  error : String
deriving DecidableEq, Repr

structure DeferredItem where
  id : String
  type : InboxAcceptType
  reason : String
deriving DecidableEq, Repr

structure InboxBatchResult where
  txid : Option String
  expiryHeight : Option Int
  written : List InboxBatchItemRef
  acked : List String
  ackFailed : List (String × String)
  rejected : List RejectedItem
  deferred : List DeferredItem
  alreadyDone : List String
deriving DecidableEq, Repr

def reject (ref : InboxBatchItemRef) (error : String) : RejectedItem := ⟨ref.id, ref.type, error⟩
def defer (ref : InboxBatchItemRef) (reason : String) : DeferredItem := ⟨ref.id, ref.type, reason⟩

/-! ## Phase 1: fetch and gate -/

structure Candidate where
  ref : InboxBatchItemRef
  additions : Additions

inductive Screening where
  | deferred (reason : String)
  | alreadyDone
  | rejected (error : String)
  | candidate (additions : Additions)

/-- The gate and the size guard, whose errors are the item's own fault. -/
def gateItem (ref : InboxBatchItemRef) (detail : Json) (nowMs : Int) : Except String Additions := do
  let additions ← buildInboxVdxfAdditions ref.type detail s!"acceptInboxBatch {ref.id}" nowMs
  assertContentmultimapValueSizes additions
  .ok additions

def screenDetail (ref : InboxBatchItemRef) (detail : Json) (nowMs : Int) : Screening :=
  if ¬ isPending detail then .alreadyDone
  else match truthyProperty detail "type" with
    | some type =>
        if type = .string ref.type.name then screenGate
        else .rejected (s!"inbox item type mismatch: caller said '{ref.type.name}', " ++
          s!"backend says '{type.templateText}'")
    | none => screenGate
where
  screenGate : Screening :=
    match gateItem ref detail nowMs with
    | .ok additions => .candidate additions
    | .error error => .rejected error

/-- A failed fetch defers the item; a response without data throws outside the
`try` block. -/
def screenItem (client : InboxClient) (nowMs : Int) (ref : InboxBatchItemRef) :
    Except Thrown Screening :=
  match client.getInboxItem ref.id with
  | .error error => .ok (.deferred s!"getInboxItem failed: {error.message}")
  | .ok none | .ok (some .null) => .error (undefinedProperty "status")
  | .ok (some detail) => .ok (screenDetail ref detail nowMs)

structure Screened where
  candidates : List Candidate
  deferred : List DeferredItem
  rejected : List RejectedItem
  alreadyDone : List String

namespace Screened

def empty : Screened := ⟨[], [], [], []⟩

def place (screened : Screened) (ref : InboxBatchItemRef) : Screening → Screened
  | .deferred reason => { screened with deferred := defer ref reason :: screened.deferred }
  | .alreadyDone => { screened with alreadyDone := ref.id :: screened.alreadyDone }
  | .rejected error => { screened with rejected := reject ref error :: screened.rejected }
  | .candidate additions => { screened with candidates := ⟨ref, additions⟩ :: screened.candidates }

end Screened

def screenItems (client : InboxClient) (nowMs : Int) :
    List InboxBatchItemRef → Except Thrown Screened
  | [] => .ok Screened.empty
  | ref :: rest => do
      let screening ← screenItem client nowMs ref
      let screened ← screenItems client nowMs rest
      .ok (screened.place ref screening)

/-! ## Phase 3: merge -/

/-- The record is on-chain already: byte-identical, or for a review another
encoding of the same job hash. -/
def keyAlreadyPresent (onChain : Record String Json) (key : String) (values : List Json) : Bool :=
  valueAlreadyOnChain onChain key values ||
    (key = VdxfKeys.reviewRecord &&
      jobHashAlreadyOnChain onChain key (extractJobHash values.head?))

def alreadyPresent (onChain : Record String Json) (additions : Additions) : Bool :=
  additions.entries.all fun entry => keyAlreadyPresent onChain entry.1 entry.2

structure Merge where
  merged : Additions
  mergedRefs : List InboxBatchItemRef
  runningBytes : Nat
  written : List InboxBatchItemRef
  deferred : List DeferredItem

def Merge.start : Merge := ⟨Record.empty, [], 0, [], []⟩

def mergeCandidate (onChain : Record String Json) (maxBytes : Int) (merge : Merge)
    (candidate : Candidate) : Merge :=
  if alreadyPresent onChain candidate.additions then
    { merge with written := merge.written ++ [candidate.ref] }
  else if candidate.additions.keys.any (· ∈ merge.merged.keys) then
    { merge with deferred :=
        merge.deferred ++ [defer candidate.ref "key-collision — deferred to next cycle"] }
  else
    let size := additionsByteSize candidate.additions
    if maxBytes < merge.runningBytes + size then
      { merge with deferred :=
          merge.deferred ++ [defer candidate.ref "size-budget — deferred to next cycle"] }
    else
      { merge with
        merged := merge.merged.assign candidate.additions
        mergedRefs := merge.mergedRefs ++ [candidate.ref]
        runningBytes := merge.runningBytes + size }

def mergeCandidates (onChain : Record String Json) (maxBytes : Int) (candidates : List Candidate) :
    Merge :=
  candidates.foldl (mergeCandidate onChain maxBytes) Merge.start

/-! ## Phase 4: build with blame bisection -/

structure Bisection where
  rebuilt : Additions
  survivors : List InboxBatchItemRef
  rejected : List RejectedItem
  blamed : Nat

def Bisection.start : Bisection := ⟨Record.empty, [], [], 0⟩

section Build

variable (build : Additions → Except Thrown SignedUpdate)

def bisectCandidate (mergedRefs : List InboxBatchItemRef) (bisection : Bisection)
    (candidate : Candidate) : Bisection :=
  if ¬ mergedRefs.any (·.id = candidate.ref.id) then bisection
  else match build candidate.additions with
    | .ok _ =>
        { bisection with
          rebuilt := bisection.rebuilt.assign candidate.additions
          survivors := bisection.survivors ++ [candidate.ref] }
    | .error error =>
        { bisection with
          rejected := bisection.rejected ++
            [reject candidate.ref s!"tx build failed: {error.message}"]
          blamed := bisection.blamed + 1 }

def bisect (mergedRefs : List InboxBatchItemRef) (candidates : List Candidate) : Bisection :=
  candidates.foldl (bisectCandidate build mergedRefs) Bisection.start

/-- What phase 4 leaves: the transaction to broadcast, if any, and the items
that it was built from. -/
structure Settled where
  signed : Option SignedUpdate
  mergedRefs : List InboxBatchItemRef
  rejected : List RejectedItem
  deferred : List DeferredItem

def rebuild (bisection : Bisection) : Settled :=
  if bisection.survivors.isEmpty then ⟨none, [], bisection.rejected, []⟩
  else match build bisection.rebuilt with
    | .ok signed => ⟨some signed, bisection.survivors, bisection.rejected, []⟩
    | .error error =>
        ⟨none, [], bisection.rejected, bisection.survivors.map fun ref =>
          defer ref s!"post-bisection rebuild failed: {error.message}"⟩

/-- The control build carries no additions: when it fails too, the fault is the
environment's and no item is blamed. -/
def settle (merge : Merge) (candidates : List Candidate) : Except Thrown Settled :=
  match build merge.merged with
  | .ok signed => .ok ⟨some signed, merge.mergedRefs, [], []⟩
  | .error buildError =>
      match build Record.empty with
      | .error _ => .error buildError
      | .ok _ =>
          let bisection := bisect build merge.mergedRefs candidates
          if bisection.blamed = 0 then .error buildError
          else .ok (rebuild build bisection)

end Build

/-! ## Phase 5: acknowledge -/

def isAlreadyProcessed (error : Thrown) : Bool := error.code = some "ALREADY_PROCESSED"

structure Acks where
  acked : List String
  ackFailed : List (String × String)

def ackItems (client : InboxClient) (txid : Option String) : List InboxBatchItemRef → Acks
  | [] => ⟨[], []⟩
  | ref :: rest =>
      let acks := ackItems client txid rest
      match client.acceptInboxItem ref.id txid with
      | .ok () => { acks with acked := ref.id :: acks.acked }
      | .error error =>
          if isAlreadyProcessed error then { acks with acked := ref.id :: acks.acked }
          else { acks with ackFailed := (ref.id, error.message) :: acks.ackFailed }

/-! ## The batch -/

/-- The result of phases 1 and 3 and of what phase 4 left. -/
def collectResult (client : InboxClient) (screened : Screened) (merge : Merge) (settled : Settled)
    (broadcast : Option (String × Option Int)) : InboxBatchResult :=
  let written := merge.written ++ if broadcast.isSome then settled.mergedRefs else []
  let txid := broadcast.map Prod.fst
  let acks := ackItems client txid written
  { txid
    expiryHeight := broadcast.bind Prod.snd
    written
    acked := acks.acked
    ackFailed := acks.ackFailed
    rejected := screened.rejected ++ settled.rejected
    deferred := screened.deferred ++ merge.deferred ++ settled.deferred
    alreadyDone := screened.alreadyDone }

def ackCalls (result : InboxBatchResult) : List Call :=
  result.written.map fun ref => .acceptInboxItem ref.id result.txid

/-- Broadcast what phase 4 built, then acknowledge. -/
def finishBatch (client : InboxClient) (screened : Screened) (merge : Merge) (settled : Settled)
    (expiryHeight : Option Int) : Execution InboxBatchResult :=
  match settled.signed, settled.mergedRefs with
  | some signed, _ :: _ =>
      let sent := .broadcast signed settled.mergedRefs
      match client.broadcast signed.hex.text with
      | .error error => ⟨[sent], .error error⟩
      | .ok txid =>
          let result := collectResult client screened merge settled (some (txid, expiryHeight))
          ⟨sent :: ackCalls result, .ok result⟩
  | _, _ =>
      let result := collectResult client screened merge settled none
      ⟨ackCalls result, .ok result⟩

/-- Nothing to write: phase 4 is skipped. -/
def Settled.nothing : Settled := ⟨none, [], [], []⟩

/-- Phase 4 up to the transaction: nothing to write, or a funded build. -/
def buildPhase (library : TransactionLibrary) (client : InboxClient) (agent : InboxAgent)
    (wif : String) (data : RawIdentityData) (utxos : Option (List Utxo)) (merge : Merge)
    (candidates : List Candidate) : Except Thrown (Settled × Option Int) :=
  if merge.mergedRefs.isEmpty then .ok (Settled.nothing, none)
  else do
    require (utxos.any (· ≠ []))
      (.error "Cannot accept inbox batch: no UTXOs available for TX fee")
    let tip ← client.getChainInfo
    let build := fun additions =>
      buildIdentityUpdateTx library (updateParams agent wif data (utxos.getD []) tip additions)
    let settled ← settle build merge candidates
    .ok (settled, computeExpiryHeight tip identityExpiryDelta)

/-- Phases 1 and 2: the screened items and, when one is left to write, the state
of the identity and the wallet. -/
def readPhase (client : InboxClient) (agent : InboxAgent) (nowMs : Int)
    (items : List InboxBatchItemRef) :
    Except Thrown (Screened × Option (String × RawIdentityData × Option (List Utxo))) := do
  let wif ← requireSome agent.key?
    "Cannot accept inbox batch: WIF key and i-address required"
  let screened ← screenItems client nowMs items
  if screened.candidates.isEmpty then .ok (screened, none)
  else do
    let data ← client.getIdentityRaw
    let utxos ← client.getUtxos
    require (data.prevOutput.isSome)
      (.error "Cannot accept inbox batch: identity previous output not found")
    .ok (screened, some (wif, data, utxos))

def emptyResult : InboxBatchResult := ⟨none, none, [], [], [], [], [], []⟩

def acceptInboxBatch (library : TransactionLibrary) (client : InboxClient) (agent : InboxAgent)
    (nowMs : Int) (items : List InboxBatchItemRef) (maxAdditionBytes : Option Int) :
    Execution InboxBatchResult :=
  let maxBytes := maxAdditionBytes.getD maxBatchAdditionBytes
  if items.isEmpty then ⟨[], .ok emptyResult⟩
  else match readPhase client agent nowMs items with
    | .error error => .throw error
    | .ok (screened, none) =>
        ⟨[], .ok { emptyResult with
          rejected := screened.rejected
          deferred := screened.deferred
          alreadyDone := screened.alreadyDone }⟩
    | .ok (screened, some (wif, data, utxos)) =>
        let merge := mergeCandidates (onChainContentmultimap data) maxBytes screened.candidates
        match buildPhase library client agent wif data utxos merge screened.candidates with
        | .error error => .throw error
        | .ok (settled, expiryHeight) => finishBatch client screened merge settled expiryHeight

end SovAgent.Inbox

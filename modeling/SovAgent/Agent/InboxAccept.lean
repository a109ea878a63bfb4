import SovAgent.Identity.Update
import SovAgent.Inbox.VdxfGate

/-! # Accepting one inbox item

`acceptReview`, `acceptAttestationTuple` and `acceptJobRecord`: fetch the item,
write its gated data in an identity update, acknowledge the item.
-/

namespace SovAgent.Inbox

open Onboarding Identity

/-- Answers of the platform during one call. The `data` of an inbox item may be
any value. -/
structure InboxClient where
  getInboxItem : String → Except Thrown (Option Json)
  getIdentityRaw : Except Thrown RawIdentityData
  getUtxos : Except Thrown (Option (List Utxo))
  getChainInfo : Except Thrown (Option Int)
  broadcast : String → Except Thrown String
  acceptInboxItem : String → Option String → Except Thrown Unit

structure InboxAgent where
  wif : Option String
  iAddress : Option String
  networkType : Network

structure InboxBatchItemRef where
  id : String
  type : InboxAcceptType
deriving DecidableEq, Repr

/-- A call that reaches the chain or the backend. A transaction is listed with
the items whose additions it was built from. -/
inductive Call where
  | broadcast (signed : SignedUpdate) (items : List InboxBatchItemRef)
  | acceptInboxItem (id : String) (txid : Option String)

structure Execution (α : Type) where
  calls : List Call
  outcome : Except Thrown α

def Execution.throw (error : Thrown) : Execution α := ⟨[], .error error⟩

def InboxAgent.key? (agent : InboxAgent) : Option String :=
  if agent.iAddress.isSome then agent.wif else none

def computeExpiryHeight (tipHeight : Option Int) (delta : Int) : Option Int :=
  tipHeight.map (· + delta)

def onChainContentmultimap (data : RawIdentityData) : Record String Json :=
  (data.identity.bind RawIdentity.contentmultimap).getD Record.empty

def updateParams (agent : InboxAgent) (wif : String) (data : RawIdentityData)
    (utxos : List Utxo) (tip : Option Int) (additions : Additions) : IdentityUpdateParams where
  wif := wif
  identityData := data
  utxos := utxos
  vdxfAdditions := additions
  network := agent.networkType
  fee := defaultFee
  revocationauthority := none
  recoveryauthority := none
  clearContentmultimap := false
  expiryHeight := computeExpiryHeight tip identityExpiryDelta

/-- The messages in which the three accepts differ. -/
structure AcceptLabels where
  function : String
  item : String
  noPrevOutput : String
  noUtxos : String

/-- Text of the `TypeError` for a property of a missing value. -/
def undefinedProperty (key : String) : Thrown :=
  .error s!"Cannot read properties of undefined (reading '{key}')"

def isPending (item : Json) : Bool := item.get? "status" = some (.string "pending")

/-- Everything before the broadcast: the signed update, or `none` for an item
that is not pending. -/
def prepareAccept (type : InboxAcceptType) (labels : AcceptLabels) (library : TransactionLibrary)
    (client : InboxClient) (agent : InboxAgent) (nowMs : Int) (inboxId : String) :
    Except Thrown (Option SignedUpdate) := do
  let cannot := s!"Cannot accept {labels.item} {inboxId}: "
  let wif ← requireSome agent.key? (cannot ++ "WIF key and i-address required")
  match ← client.getInboxItem inboxId with
  | none | some .null => .error (undefinedProperty "status")
  | some item =>
      if ¬ isPending item then .ok none
      else do
        let data ← client.getIdentityRaw
        let utxos ← client.getUtxos
        require (data.prevOutput.isSome) (.error (cannot ++ labels.noPrevOutput))
        require (utxos.any (· ≠ [])) (.error (cannot ++ labels.noUtxos))
        let additions ← (buildInboxVdxfAdditions type item s!"{labels.function} {inboxId}"
          nowMs).mapError Thrown.error
        let tip ← client.getChainInfo
        let signed ← buildIdentityUpdateTx library
          (updateParams agent wif data (utxos.getD []) tip additions)
        .ok (some signed)

def acceptItem (type : InboxAcceptType) (labels : AcceptLabels) (library : TransactionLibrary)
    (client : InboxClient) (agent : InboxAgent) (nowMs : Int) (inboxId : String) :
    Execution Unit :=
  match prepareAccept type labels library client agent nowMs inboxId with
  | .error error => .throw error
  | .ok none => ⟨[], .ok ()⟩
  | .ok (some signed) =>
      let sent := .broadcast signed [⟨inboxId, type⟩]
      match client.broadcast signed.hex.text with
      | .error error => ⟨[sent], .error error⟩
      | .ok txid =>
          ⟨[sent, .acceptInboxItem inboxId (some txid)],
            client.acceptInboxItem inboxId (some txid)⟩

def acceptReview := acceptItem .review {
  function := "acceptReview"
  item := "review"
  noPrevOutput := "identity previous output not found — identity may not be on-chain yet"
  noUtxos := "no UTXOs available for TX fee — fund the agent wallet" }

def acceptAttestationTuple := acceptItem .attestation {
  function := "acceptAttestationTuple"
  item := "attestation"
  noPrevOutput := "identity previous output not found"
  noUtxos := "no UTXOs available for TX fee" }

def acceptJobRecord := acceptItem .jobRecord {
  function := "acceptJobRecord"
  item := "job record"
  noPrevOutput := "identity not found on-chain"
  noUtxos := "no UTXOs — fund the agent wallet" }

def acceptByType : InboxAcceptType → TransactionLibrary → InboxClient → InboxAgent → Int →
    String → Execution Unit
  | .review => acceptReview
  | .attestation => acceptAttestationTuple
  | .jobRecord => acceptJobRecord

end SovAgent.Inbox

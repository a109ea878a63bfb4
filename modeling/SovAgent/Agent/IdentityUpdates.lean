import SovAgent.Agent.InboxBatch
import SovAgent.Foundation.Text

/-! # Operations that update the identity

What each of them hands to the broadcast, given the platform's answers about
the identity, the wallet and the chain. Nothing that happens before the last of
these answers depends on anything but them.
-/

namespace SovAgent.Wallet

open Identity Inbox Onboarding

inductive AgentStatus where
  | active
  | inactive
  | invite
deriving DecidableEq, Repr

def AgentStatus.name : AgentStatus → String
  | .active => "active"
  | .inactive => "inactive"
  | .invite => "invite"

def statusAdditions (status : AgentStatus) : Additions :=
  Record.empty.set VdxfKeys.agentStatus [makeSubDD VdxfKeys.agentStatus status.name]

section Update

variable (library : TransactionLibrary) (agent : InboxAgent)
variable (data : RawIdentityData) (utxos : Option (List Utxo)) (tip : Option Int)

/-- `_updateOnChainStatus`, the update of `activate` and `deactivate`. -/
def updateOnChainStatus (status : AgentStatus) : Except Thrown (Option SignedUpdate) :=
  match agent.key?, utxos.getD [] with
  | none, _ => .ok none
  | _, [] => .ok none
  | some wif, listed => do
      let signed ← buildIdentityUpdateTx library
        (updateParams agent wif data listed tip (statusAdditions status))
      .ok (some signed)

def setOnChainStatus (status : AgentStatus) : Except Thrown (Option SignedUpdate) := do
  let wif ← requireSome agent.key? "WIF and i-address required"
  require data.prevOutput.isSome (.error "Identity not found on-chain")
  let listed := (utxos.getD []).filter (0 < ·.satoshis)
  require (listed ≠ []) (.error "No UTXOs available for TX fee")
  let signed ← buildIdentityUpdateTx library
    (updateParams agent wif data listed tip (statusAdditions status))
  .ok (some signed)

def isAuthorityAddress (address : String) : Bool :=
  startsWith address "i" ∧ 30 ≤ utf16Length address

def setRevokeRecoverAuthorities (revokeAddress recoverAddress : String) :
    Except Thrown (Option SignedUpdate) := do
  let wif ← requireSome agent.key?
    "WIF key and iAddress are required to update identity authorities"
  require (isAuthorityAddress revokeAddress)
    (.error s!"Invalid revocation authority address: {revokeAddress}")
  require (isAuthorityAddress recoverAddress)
    (.error s!"Invalid recovery authority address: {recoverAddress}")
  require data.prevOutput.isSome
    (.error "Identity previous output not found — identity may not be confirmed on-chain")
  match data.identity with
  | none => .error (undefinedProperty "revocationauthority")
  | some identity =>
      if identity.revocationauthority = some (.string revokeAddress) ∧
          identity.recoveryauthority = some (.string recoverAddress) then .ok none
      else match utxos with
        | none => .error (undefinedProperty "length")
        | some listed => do
            let signed ← buildIdentityUpdateTx library {
              updateParams agent wif data listed tip Record.empty with
              revocationauthority := some revokeAddress
              recoveryauthority := some recoverAddress }
            .ok (some signed)

def answers (getInboxItem : String → Except Thrown (Option Json)) : InboxClient where
  getInboxItem := getInboxItem
  getIdentityRaw := .ok data
  getUtxos := .ok utxos
  getChainInfo := .ok tip
  broadcast _ := .error (.error "unanswered")
  acceptInboxItem _ _ := .error (.error "unanswered")

def Call.signed? : Call → Option SignedUpdate
  | .broadcast signed _ => some signed
  | .acceptInboxItem _ _ => none

/-- An operation with the inbox items that it fetched. -/
inductive UpdateRequest where
  | updateOnChainStatus (status : AgentStatus)
  | setOnChainStatus (status : AgentStatus)
  | setRevokeRecoverAuthorities (revokeAddress recoverAddress : String)
  | acceptItem (type : InboxAcceptType) (id : String) (item : Except Thrown (Option Json))
      (nowMs : Int)
  | acceptInboxBatch (items : List InboxBatchItemRef)
      (getInboxItem : String → Except Thrown (Option Json)) (maxAdditionBytes : Option Int)
      (nowMs : Int)

/-- The update that the operation broadcasts, if it gets that far. -/
def UpdateRequest.handsOver : UpdateRequest → Option SignedUpdate
  | .updateOnChainStatus status =>
      (Wallet.updateOnChainStatus library agent data utxos tip status).toOption.join
  | .setOnChainStatus status =>
      (Wallet.setOnChainStatus library agent data utxos tip status).toOption.join
  | .setRevokeRecoverAuthorities revokeAddress recoverAddress =>
      (Wallet.setRevokeRecoverAuthorities library agent data utxos tip revokeAddress
        recoverAddress).toOption.join
  | .acceptItem type id item nowMs =>
      (acceptByType type library (answers data utxos tip fun _ => item) agent nowMs
        id).calls.findSome? Call.signed?
  | .acceptInboxBatch items getInboxItem maxAdditionBytes nowMs =>
      (Inbox.acceptInboxBatch library (answers data utxos tip getInboxItem) agent nowMs items
        maxAdditionBytes).calls.findSome? Call.signed?

end Update

end SovAgent.Wallet

import SovAgent.Onboarding.Vdxf
import Mathlib.Data.Rat.Floor

/-! # Identity update transactions

Everything that decides the contents of an update: the merged contentmultimap,
the identity that is written, the funding inputs and the change. Serialization
and signing are third-party code and enter through `TransactionLibrary`.
-/

namespace SovAgent.Identity

open Onboarding

inductive Network where
  | verus
  | verustest
deriving DecidableEq, Repr

structure Utxo where
  txid : String
  vout : Nat
  satoshis : Int
  script : Option String
  address : Option String
deriving DecidableEq, Repr

structure PrevOutput where
  txid : String
  vout : Nat
  scriptHex : String
  value : Decimal
deriving DecidableEq, Repr

structure RawIdentity where
  version : Option Json
  flags : Option Json
  minimumsignatures : Option Json
  primaryaddresses : Option Json
  parent : Option Json
  name : Option Json
  contentmap : Option Json
  contentmultimap : Option (Record String Json)
  revocationauthority : Option Json
  recoveryauthority : Option Json
  systemid : Option Json

structure RawIdentityData where
  identity : Option RawIdentity
  blockHeight : Int
  prevOutput : Option PrevOutput

structure IdentityJson where
  version : Json
  flags : Json
  minimumsignatures : Option Json
  primaryaddresses : Option Json
  parent : Option Json
  name : Option Json
  contentmap : Json
  contentmultimap : Record String (List Json)
  revocationauthority : Option Json
  recoveryauthority : Option Json
  systemid : Option Json
  timelock : Json

structure TransactionInput where
  txid : String
  vout : Nat
  script : String
  value : Int
deriving DecidableEq, Repr

structure Transaction where
  version : Nat
  versionGroupId : Nat
  expiryHeight : Int
  inputs : List TransactionInput
  outputs : List (String × Int)
deriving DecidableEq, Repr

/-- A serialized transaction, which has at least its version bytes. -/
structure TransactionHex where
  text : String
  nonempty : text ≠ ""

structure TransactionLibrary where
  /-- `bs58check.decode(key).slice(1)` in hexadecimal, `none` when it throws. -/
  hash160Hex : String → Option String
  identityScript : IdentityJson → Except Thrown String
  keyAddress : String → Network → Except Thrown String
  outputScript : String → Network → Except Thrown String
  sign : String → Network → Transaction → Except Thrown TransactionHex

structure IdentityUpdateParams where
  wif : String
  identityData : RawIdentityData
  utxos : List Utxo
  vdxfAdditions : Record String (List Json)
  network : Network
  fee : Int
  revocationauthority : Option String
  recoveryauthority : Option String
  clearContentmultimap : Bool
  expiryHeight : Option Int

structure SignedUpdate where
  hex : TransactionHex
  identity : IdentityJson
  transaction : Transaction

def defaultFee : Int := 10000
def satsPerCoin : Int := 100000000
def identityExpiryDelta : Int := 200

/-! ## Funding -/

section Selection

variable {Amount : Type} [Add Amount] [LE Amount] [DecidableLE Amount]

/-- Take outputs in order until the target is covered. -/
def takeUntil (value : Utxo → Amount) (target : Amount) :
    List Utxo → Amount → List Utxo × Amount
  | [], total => ([], total)
  | utxo :: rest, total =>
      let total := total + value utxo
      if target ≤ total then ([utxo], total)
      else
        let (selected, final) := takeUntil value target rest total
        (utxo :: selected, final)

variable [LT Amount] [DecidableLT Amount]

/-- The selection in the arithmetic of the amounts, whose total starts from `zero`. -/
def selectUtxosIn (value : Utxo → Amount) (zero : Amount) (text : Amount → String)
    (utxos : List Utxo) (targetSatoshis : Amount) : Except Thrown (List Utxo × Amount) :=
  let sorted := utxos.mergeSort fun left right => right.satoshis ≤ left.satoshis
  let (selected, total) := takeUntil value targetSatoshis sorted zero
  if total < targetSatoshis then
    .error (.error
      s!"Insufficient funds: need {text targetSatoshis} satoshis, have {text total}")
  else .ok (selected, total)

end Selection

/-- The selection in exact numbers of satoshis. -/
def selectUtxos (utxos : List Utxo) (targetSatoshis : Int) : Except Thrown (List Utxo × Int) :=
  selectUtxosIn Utxo.satoshis 0 toString utxos targetSatoshis

/-- Outputs that a signature of the agent's key alone can spend. -/
def spendableWith (address : String) (utxos : List Utxo) : List Utxo :=
  utxos.filter fun utxo =>
    0 < utxo.satoshis ∧ (utxo.address.all (· = "") ∨ utxo.address = some address)

/-! ## Contentmultimap -/

/-- The existing map that an update starts from. Removal instructions are never
carried forward. -/
def carriedContentmultimap (clear : Bool) (existing : Option (Record String Json)) :
    Record String (List Json) :=
  match existing with
  | some existing =>
      if clear then Record.empty
      else (existing.filterKeys (· ≠ multimapRemoveKey)).mapValues Json.asArray
  | none => Record.empty

/-- Sort by the hash of the key. With fewer than two keys nothing is compared
and no key is decoded. -/
def sortByHash160 (hash160Hex : String → Option String) (cmm : Record String (List Json)) :
    Except Thrown (Record String (List Json)) :=
  if cmm.entries.length < 2 then .ok cmm
  else if cmm.keys.all fun key => (hash160Hex key).isSome then
    .ok (cmm.sortKeys fun left right => ¬ (hash160Hex right).getD "" < (hash160Hex left).getD "")
  else .error (.error "Invalid checksum")

def updatedContentmultimap (hash160Hex : String → Option String) (clear : Bool)
    (existing : Option (Record String Json)) (vdxfAdditions : Record String (List Json)) :
    Except Thrown (Record String (List Json)) := do
  let current := carriedContentmultimap clear existing
  (assertContentmultimapValueSizes vdxfAdditions).mapError Thrown.error
  sortByHash160 hash160Hex (current.assign vdxfAdditions)

/-! ## The update -/

def orDefault (value : Option Json) (default : Json) : Json :=
  match value with
  | none | some .null => default
  | some value => value

/-- `first || second` for an optional text before a property. -/
def orProperty (text : Option String) (property : Option Json) : Option Json :=
  match text.filter (· ≠ "") with
  | some text => some (.string text)
  | none => property

def updatedIdentity (params : IdentityUpdateParams) (identity : RawIdentity)
    (contentmultimap : Record String (List Json)) : IdentityJson where
  version := orDefault identity.version (.number 3)
  flags := orDefault identity.flags (.number 0)
  minimumsignatures := identity.minimumsignatures
  primaryaddresses := identity.primaryaddresses
  parent := identity.parent
  name := identity.name
  contentmap := (identity.contentmap.filter Json.truthy).getD (.object [])
  contentmultimap := contentmultimap
  revocationauthority := orProperty params.revocationauthority identity.revocationauthority
  recoveryauthority := orProperty params.recoveryauthority identity.recoveryauthority
  systemid := (identity.systemid.filter Json.truthy).or identity.parent
  timelock := .number 0

/-- Refuse an identity that the signing key does not control. -/
def requireControl (identity : RawIdentity) (agentAddress : String) : Except Thrown Unit :=
  match identity.primaryaddresses with
  | some (.array addresses) => do
      require (.string agentAddress ∈ addresses) (.error
        ("Refusing to build identity update: signing key is not a primary address of " ++
          "the returned identity (possible tampered getidentity response)."))
      match identity.minimumsignatures with
      | some (.number count) =>
          require (1 ≤ count.toRat ∧ count.toRat ≤ addresses.length) (.error
            ("Refusing to build identity update: implausible minimumsignatures " ++
              "in the returned identity."))
      | _ => .ok ()
  | _ => .error (.error
      ("Refusing to build identity update: signing key is not a primary address of " ++
        "the returned identity (possible tampered getidentity response)."))

/-- `Math.round(value * SATS_PER_COIN)`. -/
def toSatoshis (value : Decimal) : Int := (value.toRat * satsPerCoin + 1 / 2).floor

def updateExpiry (params : IdentityUpdateParams) : Int :=
  match params.expiryHeight.filter (0 < ·) with
  | some height => height
  | none => params.identityData.blockHeight + identityExpiryDelta

def updateTransaction (params : IdentityUpdateParams) (prevOutput : PrevOutput)
    (identityScript agentScript : String) (selected : List Utxo) (total : Int) : Transaction where
  version := 4
  versionGroupId := 0x892f2085
  expiryHeight := updateExpiry params
  inputs :=
    selected.map (fun utxo => ⟨utxo.txid, utxo.vout, agentScript, utxo.satoshis⟩) ++
      [⟨prevOutput.txid, prevOutput.vout, prevOutput.scriptHex, toSatoshis prevOutput.value⟩]
  outputs :=
    (identityScript, 0) ::
      if 0 < total - params.fee then [(agentScript, total - params.fee)] else []

def requireSome (value : Option α) (message : String) : Except Thrown α :=
  match value with
  | some value => .ok value
  | none => .error (.error message)

def buildIdentityUpdateTx (library : TransactionLibrary) (params : IdentityUpdateParams) :
    Except Thrown SignedUpdate := do
  let prevOutput ← requireSome params.identityData.prevOutput
    "Identity prevOutput is required (previous identity transaction output)"
  let identity ← requireSome params.identityData.identity "Identity data is required"
  require (params.utxos ≠ [])
    (.error "At least one UTXO is required to fund the transaction fee")
  let contentmultimap ← updatedContentmultimap library.hash160Hex params.clearContentmultimap
    identity.contentmultimap params.vdxfAdditions
  let updated := updatedIdentity params identity contentmultimap
  let identityScript ← library.identityScript updated
  let agentAddress ← library.keyAddress params.wif params.network
  let agentScript ← library.outputScript agentAddress params.network
  requireControl identity agentAddress
  let spendable := spendableWith agentAddress params.utxos
  require (spendable ≠ []) (.error
    s!"No spendable R-address UTXOs for fee. Fund {agentAddress} with at least 0.0001 VRSC.")
  let (selected, total) ← selectUtxos spendable params.fee
  let transaction := updateTransaction params prevOutput identityScript agentScript selected total
  let hex ← library.sign params.wif params.network transaction
  .ok { hex, identity := updated, transaction }

end SovAgent.Identity

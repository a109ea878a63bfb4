import SovAgent.Agent.WalletSpending
import SovAgent.Tx.Conservation

/-! # Chaining payments over unconfirmed change

The candidates of a payment are what the platform lists and the change of the
agent's earlier transactions, less everything that these have spent.
-/

namespace SovAgent.Wallet

open Identity Inbox Tx

/-! ## Outpoints -/

abbrev outpointOf (utxo : Utxo) : Outpoint := (utxo.txid, utxo.vout)

theorem outpointKey_eq (utxo : Utxo) : outpointKey utxo = outpointText (outpointOf utxo) := rfl

theorem toList_outpointText (outpoint : Outpoint) :
    (outpointText outpoint).toList =
      outpoint.1.toList ++ ':' :: Nat.toDigits 10 outpoint.2 := by
  simp only [outpointText, String.toList_append, toString_text, Nat.toString_eq_repr,
    Nat.toList_repr, List.append_assoc]
  rfl

theorem colon_notMem_digits (vout : Nat) : ':' ∉ Nat.toDigits 10 vout := by
  intro member
  have digit := Nat.isDigit_of_mem_toDigits (by omega) le_rfl member
  exact absurd digit (by decide)

/-- The output index has no colon, so a key names one outpoint. -/
theorem outpointText_inj {left right : Outpoint}
    (same : outpointText left = outpointText right) : left = right := by
  have texts := congrArg String.toList same
  rw [toList_outpointText, toList_outpointText] at texts
  rcases append_cons_inj texts (colon_notMem_digits _) (colon_notMem_digits _) with
    ⟨txid, digits⟩
  have vout := congrArg (Nat.ofDigitChars 10 · 0) digits
  simp only [Nat.ofDigitChars_ten_toDigits] at vout
  exact Prod.ext (String.toList_inj.mp txid) vout

/-! ## Candidates -/

/-- `utxos.filter(u => u.satoshis > 0)`. -/
def positive (listed : List Utxo) : List Utxo := listed.filter (0 < ·.satoshis)

/-- What a call may spend, before any filter by `sourceAddress`. -/
def candidates (tracking : UtxoTracking) (listed : List Utxo) : List Utxo :=
  (tracking.mergeUtxos (positive listed)).2

theorem mem_unspent {spentUtxos seen : List String} {utxos : List Utxo} {outpoint : Outpoint} :
    outpoint ∈ (UtxoTracking.unspent spentUtxos seen utxos).map outpointOf ↔
      outpoint ∈ utxos.map outpointOf ∧ outpointText outpoint ∉ spentUtxos ∧
        outpointText outpoint ∉ seen := by
  induction utxos generalizing seen with
  | nil => simp [UtxoTracking.unspent]
  | cons head tail induction =>
      rw [UtxoTracking.unspent]
      split
      · rename_i dropped
        rw [induction, List.map_cons, List.mem_cons]
        constructor
        · intro kept
          exact ⟨.inr kept.1, kept.2⟩
        · intro kept
          refine ⟨?_, kept.2⟩
          rcases kept.1 with same | later
          · rw [same] at kept
            exact absurd dropped (not_or.mpr kept.2)
          · exact later
      · rename_i fresh
        rw [List.map_cons, List.mem_cons, List.map_cons, List.mem_cons, induction]
        rw [not_or] at fresh
        constructor
        · intro kept
          rcases kept with same | ⟨later, unspent, unseen⟩
          · rw [same]
            exact ⟨.inl rfl, fresh⟩
          · exact ⟨.inr later, unspent, fun member => unseen (List.mem_cons_of_mem _ member)⟩
        · intro kept
          by_cases same : outpoint = outpointOf head
          · exact .inl same
          · refine .inr ⟨kept.1.resolve_left same, kept.2.1, ?_⟩
            intro member
            rcases List.mem_cons.mp member with equal | seen
            · exact same (outpointText_inj equal)
            · exact kept.2.2 seen

theorem unspent_nodup (spentUtxos seen : List String) (utxos : List Utxo) :
    ((UtxoTracking.unspent spentUtxos seen utxos).map outpointOf).Nodup := by
  induction utxos generalizing seen with
  | nil => simp [UtxoTracking.unspent]
  | cons head tail induction =>
      rw [UtxoTracking.unspent]
      split
      · exact induction seen
      · rw [List.map_cons, List.nodup_cons]
        refine ⟨?_, induction _⟩
        intro again
        exact (mem_unspent.mp again).2.2 List.mem_cons_self

theorem mergeUtxos_pending {tracking : UtxoTracking} (listed : List Utxo) {outpoint : Outpoint}
    (pending : outpoint ∈ tracking.pendingChange.map outpointOf) :
    outpointText outpoint ∈ tracking.spentUtxos ∨
      outpoint ∈ (positive listed).map outpointOf ∨
      outpoint ∈ (tracking.mergeUtxos (positive listed)).1.pendingChange.map outpointOf := by
  by_cases spent : outpointText outpoint ∈ tracking.spentUtxos
  · exact .inl spent
  · by_cases fetched : outpoint ∈ (positive listed).map outpointOf
    · exact .inr (.inl fetched)
    · right
      right
      rcases List.mem_map.mp pending with ⟨change, member, rfl⟩
      refine List.mem_map.mpr ⟨change, List.mem_filter.mpr ⟨member, ?_⟩, rfl⟩
      rw [decide_eq_true_eq]
      refine ⟨spent, ?_⟩
      intro listedKey
      rcases List.mem_map.mp listedKey with ⟨utxo, utxoMember, sameKey⟩
      rw [outpointKey_eq, outpointKey_eq] at sameKey
      exact fetched (List.mem_map.mpr ⟨utxo, utxoMember, outpointText_inj sameKey⟩)

theorem mem_candidates {tracking : UtxoTracking} {listed : List Utxo} {outpoint : Outpoint} :
    outpoint ∈ (candidates tracking listed).map outpointOf ↔
      (outpoint ∈ (positive listed).map outpointOf ∨
        outpoint ∈ tracking.pendingChange.map outpointOf) ∧
      outpointText outpoint ∉ tracking.spentUtxos := by
  rw [candidates, UtxoTracking.mergeUtxos, mem_unspent, List.map_append, List.mem_append]
  constructor
  · intro kept
    refine ⟨?_, kept.2.1⟩
    rcases kept.1 with fetched | pending
    · exact .inl fetched
    · rcases List.mem_map.mp pending with ⟨change, member, same⟩
      exact .inr (List.mem_map.mpr ⟨change, List.mem_of_mem_filter member, same⟩)
  · intro kept
    refine ⟨?_, kept.2, List.not_mem_nil⟩
    rcases kept.1 with fetched | pending
    · exact .inl fetched
    · exact (mergeUtxos_pending listed pending).resolve_left kept.2

def Payment.sourceAddress : Payment → Option String
  | .sendCurrency _ _ options => options.sourceAddress
  | .sendMultiPayment _ => none

theorem fundPayment_candidates {library : PaymentLibrary} {agent : InboxAgent} {wif : String}
    {tracking : UtxoTracking} {payment : Payment} {payInfo : Except Thrown String}
    {listed : List Utxo} {funded : FundedPayment}
    (funds : (fundPayment library agent wif tracking payment payInfo listed).2 = .ok funded) :
    funded.funding.utxos = fromSource payment.sourceAddress (candidates tracking listed) := by
  simp only [fundPayment] at funds
  split at funds
  · split at funds
    · cases funds
    · rcases map_eq_ok.mp funds with ⟨funding, chosen, rfl⟩
      simp only [fundCurrency, bind_eq_ok, exists_unit, Except.ok.injEq] at chosen
      rcases chosen with ⟨_, _, _, _, _, _, _, rfl⟩
      rfl
  · rcases map_eq_ok.mp funds with ⟨funding, chosen, rfl⟩
    simp only [fundMulti, bind_eq_ok, exists_unit, Except.ok.injEq] at chosen
    rcases chosen with ⟨_, _, _, rfl⟩
    rfl

theorem candidates_nodup (tracking : UtxoTracking) (listed : List Utxo) :
    ((candidates tracking listed).map outpointOf).Nodup := unspent_nodup _ _ _

/-! ## The payments of one agent -/

def Handed.inputs (handed : Handed) : List Outpoint :=
  handed.transaction.inputs.map fun input => (input.txid, input.vout)

/-- An input of an earlier broadcast. -/
def Spent (handed : List Handed) (outpoint : Outpoint) : Prop :=
  ∃ earlier ∈ handed, outpoint ∈ earlier.inputs

instance (handed : List Handed) (outpoint : Outpoint) : Decidable (Spent handed outpoint) :=
  inferInstanceAs (Decidable (∃ earlier ∈ handed, _))

/-- The agent, with the positive outputs that were listed for its calls and the
change of its broadcasts. -/
structure Chaining where
  agent : AgentState := .start
  listings : List (List Utxo) := []
  changes : List Utxo := []

def fetches (payment : Payment) (payInfo : Except Thrown String) : Bool :=
  match payment with
  | .sendCurrency destination _ options =>
      (resolveRecipient destination options.trustPlatformResolution payInfo).isOk
  | .sendMultiPayment _ => true

def fetched (state : AgentState) : WalletEvent → Option (List Utxo)
  | .paymentListed payInfo listed =>
      match state.running with
      | some (.started payment) => if fetches payment payInfo then some listed else none
      | _ => none
  | _ => none

/-- The change of the transaction that an event has handed over. -/
def changeMade (next : AgentState) : WalletEvent → Option Utxo
  | .paymentTip _ =>
      match next.running with
      | some (.broadcasting _ change _) => change
      | _ => none
  | _ => none

section Machine

variable (library : PaymentLibrary) (agent : InboxAgent)

def chainingStep (chaining : Chaining) (event : WalletEvent) : Option Chaining :=
  ((walletMachine library agent).step chaining.agent event).map fun next => {
    agent := next
    listings := chaining.listings ++ ((fetched chaining.agent event).map positive).toList
    changes := chaining.changes ++ (changeMade next event).toList }

def chainingMachine : Machine Chaining WalletEvent where
  step := chainingStep library agent

end Machine

namespace Chaining

/-- Everything listed before and not spent by a broadcast is listed again. -/
def StaysListed (chaining : Chaining) (listed : List Utxo) : Prop :=
  ∀ earlier ∈ chaining.listings, ∀ utxo ∈ earlier,
    ¬ Spent chaining.agent.handed (outpointOf utxo) →
      outpointOf utxo ∈ (positive listed).map outpointOf

def spentCount (chaining : Chaining) : Nat :=
  (chaining.agent.handed.flatMap Handed.inputs).length

def Small (chaining : Chaining) : Prop :=
  chaining.spentCount < maxSpentUtxos ∧
    chaining.agent.tracking.pendingChange.length < maxPendingChange

/-- The change that waits for its broadcast to resolve. -/
def unanswered (chaining : Chaining) : Option Utxo :=
  match chaining.agent.running with
  | some (.broadcasting _ change _) => change
  | _ => none

/-- Payments only, whose listings keep what was listed and whose broadcasts
resolve with the transaction's own id. -/
def Regular (chaining : Chaining) : WalletEvent → Prop
  | .callPayment _ | .startPayment | .paymentFails | .paymentTip _ => True
  | .paymentListed payInfo listed =>
      ∀ current ∈ fetched chaining.agent (.paymentListed payInfo listed),
        chaining.StaysListed current
  | .paymentAnswered (.ok txid) => ∀ change ∈ chaining.unanswered, txid = change.txid
  | .paymentAnswered (.error _) | .callUpdate _ | .updateFails _ | .updateListed _ _ _
  | .updateTip _ _ | .updateAnswered _ _ => False

instance (chaining : Chaining) (listed : List Utxo) : Decidable (chaining.StaysListed listed) :=
  inferInstanceAs (Decidable (∀ earlier ∈ _, ∀ utxo ∈ _, _ → _))

instance (chaining : Chaining) : Decidable chaining.Small :=
  inferInstanceAs (Decidable (_ ∧ _))

instance (chaining : Chaining) (event : WalletEvent) : Decidable (chaining.Regular event) :=
  match event with
  | .callPayment _ | .startPayment | .paymentFails | .paymentTip _ =>
      inferInstanceAs (Decidable True)
  | .paymentListed _ _ | .paymentAnswered (.ok _) => inferInstanceAs (Decidable (∀ _ ∈ _, _))
  | .paymentAnswered (.error _) | .callUpdate _ | .updateFails _ | .updateListed _ _ _
  | .updateTip _ _ | .updateAnswered _ _ => inferInstanceAs (Decidable False)

end Chaining

/-- The invariant: what is recorded as spent is what was spent, and change that
is not spent is pending, or listed before, or waits for its broadcast. -/
structure Chained (chaining : Chaining) : Prop where
  recorded : ∀ key, key ∈ chaining.agent.tracking.spentUtxos ↔
    ∃ outpoint, Spent chaining.agent.handed outpoint ∧ outpointText outpoint = key
  counted : chaining.agent.tracking.spentUtxos.length ≤ chaining.spentCount
  pending : ∀ utxo ∈ chaining.agent.tracking.pendingChange, utxo ∈ chaining.changes
  awaited : ∀ change ∈ chaining.unanswered, change ∈ chaining.changes
  kept : ∀ change ∈ chaining.changes, Spent chaining.agent.handed (outpointOf change) ∨
    outpointOf change ∈ chaining.agent.tracking.pendingChange.map outpointOf ∨
    (∃ earlier ∈ chaining.listings, outpointOf change ∈ earlier.map outpointOf) ∨
    change ∈ chaining.unanswered
  fresh : ∀ funded, chaining.agent.running = some (.funded funded) →
    ∀ utxo ∈ funded.funding.utxos, ¬ Spent chaining.agent.handed (outpointOf utxo)
  disjoint : chaining.agent.handed.Pairwise fun first second =>
    ∀ outpoint ∈ first.inputs, outpoint ∉ second.inputs

namespace Chained

variable {chaining next : Chaining}

theorem initial : Chained {} where
  recorded key := by simp [AgentState.start, UtxoTracking.empty, Spent]
  counted := Nat.zero_le _
  pending := by simp [AgentState.start, UtxoTracking.empty]
  awaited := by simp [Chaining.unanswered, AgentState.start]
  kept := by simp
  fresh := by simp [AgentState.start]
  disjoint := .nil

theorem notMem_spentUtxos (chained : Chained chaining) (outpoint : Outpoint) :
    outpointText outpoint ∉ chaining.agent.tracking.spentUtxos ↔
      ¬ Spent chaining.agent.handed outpoint := by
  rw [chained.recorded, not_iff_not]
  constructor
  · intro found
    rcases found with ⟨other, spent, same⟩
    exact outpointText_inj same ▸ spent
  · exact fun spent => ⟨outpoint, spent, rfl⟩

/-- When no broadcast is unanswered, the candidates are the listed outputs and
the change, less what was spent. -/
theorem candidates_exact (chained : Chained chaining) (answered : chaining.unanswered = none)
    {listed : List Utxo} (stays : chaining.StaysListed listed) (outpoint : Outpoint) :
    outpoint ∈ (candidates chaining.agent.tracking listed).map outpointOf ↔
      (outpoint ∈ (positive listed).map outpointOf ∨
        outpoint ∈ chaining.changes.map outpointOf) ∧
      ¬ Spent chaining.agent.handed outpoint := by
  rw [mem_candidates, chained.notMem_spentUtxos]
  constructor
  · intro chosen
    refine ⟨?_, chosen.2⟩
    rcases chosen.1 with isListed | pending
    · exact .inl isListed
    · rcases List.mem_map.mp pending with ⟨change, member, same⟩
      exact .inr (List.mem_map.mpr ⟨change, chained.pending change member, same⟩)
  · intro available
    refine ⟨?_, available.2⟩
    rcases available.1 with isListed | changed
    · exact .inl isListed
    · rcases List.mem_map.mp changed with ⟨change, member, rfl⟩
      rcases chained.kept change member with spent | pending | ⟨earlier, listing, before⟩ | waits
      · exact absurd spent available.2
      · exact .inr pending
      · rcases List.mem_map.mp before with ⟨utxo, utxoMember, same⟩
        rw [← same] at available ⊢
        exact .inl (stays earlier listing utxo utxoMember available.2)
      · rw [answered] at waits
        cases waits

theorem quiet (chained : Chained chaining)
    (tracking : next.agent.tracking = chaining.agent.tracking)
    (handed : next.agent.handed = chaining.agent.handed)
    (listings : next.listings = chaining.listings) (changes : next.changes = chaining.changes)
    (unanswered : next.unanswered = chaining.unanswered)
    (funded : ∀ funded, next.agent.running = some (.funded funded) →
      chaining.agent.running = some (.funded funded)) : Chained next where
  recorded := by rw [tracking, handed]; exact chained.recorded
  counted := by rw [tracking, Chaining.spentCount, handed]; exact chained.counted
  pending := by rw [tracking, changes]; exact chained.pending
  awaited := by rw [unanswered, changes]; exact chained.awaited
  kept := by rw [tracking, handed, listings, changes, unanswered]; exact chained.kept
  fresh := by
    rw [handed]
    exact fun other runs => chained.fresh other (funded other runs)
  disjoint := by rw [handed]; exact chained.disjoint

end Chained

/-! ## Steps -/

theorem spent_append {handed : List Handed} {last : Handed} {outpoint : Outpoint} :
    Spent (handed ++ [last]) outpoint ↔ Spent handed outpoint ∨ outpoint ∈ last.inputs := by
  simp [Spent, or_and_right, exists_or]

theorem spent_iff_mem_map {handed : List Handed} {outpoint : Outpoint} :
    Spent handed outpoint ↔ ∃ inputs ∈ handed.map Handed.inputs, outpoint ∈ inputs := by
  simp [Spent]

theorem settle_inputs (handed : List Handed) (index : Nat) (answer : Except Thrown String) :
    (handed.modify index (Handed.settle answer)).map Handed.inputs =
      handed.map Handed.inputs := by
  have unchanged : ∀ entry : Handed, (entry.settle answer).inputs = entry.inputs := fun _ => rfl
  exact map_modify unchanged handed index

theorem mem_foldl_addSpent_iff {utxos : List Utxo} {spentUtxos : List String} {key : String} :
    key ∈ utxos.foldl UtxoTracking.addSpent spentUtxos ↔
      key ∈ spentUtxos ∨ ∃ utxo ∈ utxos, outpointKey utxo = key := by
  induction utxos generalizing spentUtxos with
  | nil => simp
  | cons head tail induction =>
      have added : key ∈ UtxoTracking.addSpent spentUtxos head ↔
          key ∈ spentUtxos ∨ outpointKey head = key := by
        rw [UtxoTracking.addSpent]
        split
        · rename_i already
          constructor
          · exact .inl
          · intro member
            rcases member with member | same
            · exact member
            · exact same ▸ already
        · rw [List.mem_append, List.mem_singleton, eq_comm (a := key)]
      simp only [List.foldl_cons, induction, added, List.mem_cons, exists_eq_or_imp, or_assoc]

theorem dropOldest_eq {limit : Nat} {entries : List α} (few : entries.length ≤ limit) :
    UtxoTracking.dropOldest limit entries = entries := by
  rw [UtxoTracking.dropOldest, Nat.sub_eq_zero_of_le few, List.drop_zero]

theorem chainChange_pendingChange {tracking : UtxoTracking} (payment : Payment) (change : Utxo)
    (few : tracking.pendingChange.length < maxPendingChange) :
    (tracking.chainChange payment (some change) change.txid).pendingChange =
      tracking.pendingChange ++ [change] := by
  cases payment with
  | sendCurrency destination amount options =>
      have room : (tracking.pendingChange ++ [change]).length ≤ maxPendingChange := by
        rw [List.length_append, List.length_singleton]
        omega
      have undropped := dropOldest_eq room
      simp [UtxoTracking.chainChange, undropped]
  | sendMultiPayment outputs => rfl

theorem recordSpent_pendingChange (tracking : UtxoTracking) (payment : Payment)
    (spent : List Utxo) :
    (tracking.recordSpent payment spent).pendingChange = tracking.pendingChange := by
  -- The record is opened first, else the limit on the other field is evaluated.
  rcases tracking with ⟨spentUtxos, pendingChange⟩
  change _ = pendingChange
  cases payment with
  | sendCurrency destination amount options => rfl
  | sendMultiPayment outputs => rfl

theorem buildOutputs_inputs {library : PaymentLibrary} {options : PaymentOptions}
    {outputs : List (String × Int)} {built : MultiPaymentResult}
    (builds : buildOutputs library options outputs = .ok built) :
    (handedPayment built).inputs = built.spentUtxos.map outpointOf := by
  simp only [buildOutputs, bind_eq_ok, Except.ok.injEq] at builds
  rcases builds with ⟨_, _, _, _, _, _, _, _, _, _, rfl⟩
  simp only [handedPayment, Handed.inputs, List.map_map]
  rfl

theorem buildFunded_inputs {library : PaymentLibrary} {agent : InboxAgent} {wif : String}
    {funded : FundedPayment} {tip : Option Int} {built : MultiPaymentResult}
    (builds : buildFunded library agent wif funded tip = .ok built) :
    (handedPayment built).inputs = built.spentUtxos.map outpointOf := by
  simp only [buildFunded] at builds
  split at builds
  · simp only [buildPayment, bind_eq_ok, exists_unit] at builds
    rcases builds with ⟨_, _, _, outputs⟩
    exact buildOutputs_inputs outputs
  · simp only [buildMultiPayment, bind_eq_ok, exists_unit] at builds
    rcases builds with ⟨_, _, _, outputs⟩
    exact buildOutputs_inputs outputs

theorem fundPayment_fetched (library : PaymentLibrary) (agent : InboxAgent) (wif : String)
    (tracking : UtxoTracking) {payment : Payment} {payInfo : Except Thrown String}
    (listed : List Utxo) (fetch : fetches payment payInfo = true) :
    (fundPayment library agent wif tracking payment payInfo listed).1 =
      (tracking.mergeUtxos (positive listed)).1 := by
  cases payment with
  | sendCurrency destination amount options =>
      cases resolved : resolveRecipient destination options.trustPlatformResolution payInfo with
      | error error =>
          simp only [fetches, resolved] at fetch
          cases fetch
      | ok recipient =>
          simp only [fundPayment, resolved]
          rfl
  | sendMultiPayment outputs => rfl

theorem fundPayment_unfetched (library : PaymentLibrary) (agent : InboxAgent) (wif : String)
    (tracking : UtxoTracking) {payment : Payment} {payInfo : Except Thrown String}
    (listed : List Utxo) (refused : fetches payment payInfo = false) :
    ∃ error, fundPayment library agent wif tracking payment payInfo listed =
      (tracking, .error error) := by
  cases payment with
  | sendCurrency destination amount options =>
      cases resolved : resolveRecipient destination options.trustPlatformResolution payInfo with
      | error error =>
          simp only [fundPayment, resolved]
          exact ⟨error, rfl⟩
      | ok recipient =>
          simp only [fetches, resolved] at refused
          cases refused
  | sendMultiPayment outputs => cases refused

namespace Chained

variable {chaining next : Chaining}

theorem list (chained : Chained chaining) (answered : chaining.unanswered = none)
    {listed : List Utxo}
    (tracking : next.agent.tracking =
      (chaining.agent.tracking.mergeUtxos (positive listed)).1)
    (handed : next.agent.handed = chaining.agent.handed)
    (listings : next.listings = chaining.listings ++ [positive listed])
    (changes : next.changes = chaining.changes) (unanswered : next.unanswered = none)
    (funded : ∀ funded, next.agent.running = some (.funded funded) →
      ∀ utxo ∈ funded.funding.utxos,
        outpointKey utxo ∉ chaining.agent.tracking.spentUtxos) : Chained next where
  recorded := by rw [tracking, handed]; exact chained.recorded
  counted := by rw [tracking, Chaining.spentCount, handed]; exact chained.counted
  pending := by
    rw [tracking, changes]
    exact fun utxo member => chained.pending utxo (List.mem_of_mem_filter member)
  awaited := by simp [unanswered]
  kept := by
    rw [tracking, handed, listings, changes, unanswered]
    intro change member
    rcases chained.kept change member with spent | pending | ⟨earlier, listing, before⟩ | waits
    · exact .inl spent
    · rcases mergeUtxos_pending listed pending with recorded | fetched | pending
      · rcases (chained.recorded _).mp recorded with ⟨outpoint, spent, same⟩
        exact .inl (outpointText_inj same ▸ spent)
      · exact .inr (.inr (.inl ⟨_, List.mem_append_right _ List.mem_cons_self, fetched⟩))
      · exact .inr (.inl pending)
    · exact .inr (.inr (.inl ⟨earlier, List.mem_append_left _ listing, before⟩))
    · rw [answered] at waits
      cases waits
  fresh := by
    rw [handed]
    intro other runs utxo member
    exact (chained.notMem_spentUtxos _).mp (funded other runs utxo member)
  disjoint := by rw [handed]; exact chained.disjoint

theorem broadcast (chained : Chained chaining) {funded : FundedPayment}
    (running : chaining.agent.running = some (.funded funded)) {built : MultiPaymentResult}
    (chosen : ∀ utxo ∈ built.spentUtxos, utxo ∈ funded.funding.utxos)
    (inputs : (handedPayment built).inputs = built.spentUtxos.map outpointOf)
    (handed : next.agent.handed = chaining.agent.handed ++ [handedPayment built])
    (tracking : next.agent.tracking =
      chaining.agent.tracking.recordSpent funded.payment built.spentUtxos)
    (listings : next.listings = chaining.listings)
    (changes : next.changes = chaining.changes ++ built.changeUtxo.toList)
    (unanswered : next.unanswered = built.changeUtxo)
    (notFunded : ∀ funded, next.agent.running ≠ some (.funded funded))
    (few : next.spentCount < maxSpentUtxos) : Chained next := by
  have answered : chaining.unanswered = none := by rw [Chaining.unanswered, running]
  have grows : next.spentCount = chaining.spentCount + built.spentUtxos.length := by
    simp [Chaining.spentCount, handed, inputs]
  have spentUtxos : next.agent.tracking.spentUtxos =
      built.spentUtxos.foldl UtxoTracking.addSpent chaining.agent.tracking.spentUtxos := by
    have counted := chained.counted
    rw [tracking]
    exact recordSpent_spentUtxos (by omega)
  have pendingChange : next.agent.tracking.pendingChange =
      chaining.agent.tracking.pendingChange := by
    rw [tracking, recordSpent_pendingChange]
  exact {
    recorded := fun key => by
      rw [spentUtxos, mem_foldl_addSpent_iff, chained.recorded, handed]
      simp only [spent_append, inputs, or_and_right, exists_or, List.mem_map]
      apply or_congr Iff.rfl
      constructor
      · intro spent
        rcases spent with ⟨utxo, member, same⟩
        exact ⟨_, ⟨utxo, member, rfl⟩, same⟩
      · intro spent
        rcases spent with ⟨outpoint, ⟨utxo, member, rfl⟩, same⟩
        exact ⟨utxo, member, same⟩
    counted := by
      have counted := chained.counted
      have length := length_foldl_addSpent built.spentUtxos chaining.agent.tracking.spentUtxos
      rw [spentUtxos]
      omega
    pending := by
      rw [pendingChange, changes]
      exact fun utxo member => List.mem_append_left _ (chained.pending utxo member)
    awaited := by
      rw [unanswered, changes]
      exact fun change waits => List.mem_append_right _ (Option.mem_toList.mpr waits)
    kept := by
      rw [pendingChange, handed, listings, changes, unanswered]
      intro change member
      rw [spent_append]
      rcases List.mem_append.mp member with old | new
      · rcases chained.kept change old with spent | pending | listing | waits
        · exact .inl (.inl spent)
        · exact .inr (.inl pending)
        · exact .inr (.inr (.inl listing))
        · rw [answered] at waits
          cases waits
      · exact .inr (.inr (.inr (Option.mem_toList.mp new)))
    fresh := fun other runs => absurd runs (notFunded other)
    disjoint := by
      rw [handed]
      apply pairwise_concat chained.disjoint
      intro earlier member outpoint spends again
      rw [inputs] at again
      rcases List.mem_map.mp again with ⟨utxo, utxoMember, rfl⟩
      exact chained.fresh funded running utxo (chosen utxo utxoMember)
        ⟨earlier, member, spends⟩ }

theorem answer (chained : Chained chaining) {index : Nat} {answer : Except Thrown String}
    (handed : next.agent.handed =
      chaining.agent.handed.modify index (Handed.settle answer))
    (spentUtxos : next.agent.tracking.spentUtxos = chaining.agent.tracking.spentUtxos)
    (pendingChange : next.agent.tracking.pendingChange =
      chaining.agent.tracking.pendingChange ++ chaining.unanswered.toList)
    (listings : next.listings = chaining.listings) (changes : next.changes = chaining.changes)
    (idle : next.agent.running = none) : Chained next := by
  have spent : ∀ outpoint, Spent next.agent.handed outpoint ↔
      Spent chaining.agent.handed outpoint := by
    intro outpoint
    rw [spent_iff_mem_map, handed, settle_inputs, ← spent_iff_mem_map]
  have unanswered : next.unanswered = none := by rw [Chaining.unanswered, idle]
  have disjoint := chained.disjoint
  rw [← List.pairwise_map (f := Handed.inputs)
    (R := fun first second => ∀ outpoint ∈ first, outpoint ∉ second)] at disjoint
  exact {
    recorded := by simpa only [spentUtxos, spent] using chained.recorded
    counted := by
      rw [spentUtxos, Chaining.spentCount, handed, List.flatMap_def, settle_inputs,
        ← List.flatMap_def]
      exact chained.counted
    pending := by
      rw [pendingChange, changes]
      intro utxo member
      rcases List.mem_append.mp member with old | new
      · exact chained.pending utxo old
      · exact chained.awaited utxo (Option.mem_toList.mp new)
    awaited := by simp [unanswered]
    kept := by
      rw [pendingChange, listings, changes, unanswered]
      intro change member
      rw [spent, List.map_append, List.mem_append]
      rcases chained.kept change member with spent | pending | listing | waits
      · exact .inl spent
      · exact .inr (.inl (.inl pending))
      · exact .inr (.inr (.inl listing))
      · exact .inr (.inl (.inr (List.mem_map.mpr ⟨change, Option.mem_toList.mpr waits, rfl⟩)))
    fresh := by simp [idle]
    disjoint := by
      rw [← List.pairwise_map (f := Handed.inputs)
        (R := fun first second => ∀ outpoint ∈ first, outpoint ∉ second), handed, settle_inputs]
      exact disjoint }

end Chained

section Steps

variable {library : PaymentLibrary} {agent : InboxAgent} {chaining : Chaining}
  {state : AgentState}

def Chaining.after (chaining : Chaining) (state : AgentState) (event : WalletEvent) : Chaining where
  agent := state
  listings := chaining.listings ++ ((fetched chaining.agent event).map positive).toList
  changes := chaining.changes ++ (changeMade state event).toList

theorem Chained.listPayment {payInfo : Except Thrown String} {listed : List Utxo}
    (chained : Chained chaining)
    (stepped : Wallet.listPayment library agent payInfo listed chaining.agent = some state) :
    Chained (chaining.after state (.paymentListed payInfo listed)) := by
  simp only [Wallet.listPayment] at stepped
  split at stepped
  · rename_i payment running
    have answered : chaining.unanswered = none := by rw [Chaining.unanswered, running]
    cases fetch : fetches payment payInfo with
    | true =>
        have tracking := fundPayment_fetched library agent (walletKey agent)
          chaining.agent.tracking listed fetch
        have gets : fetched chaining.agent (.paymentListed payInfo listed) = some listed := by
          rw [fetched, running]
          exact if_pos fetch
        rw [← Option.some.inj stepped]
        refine chained.list answered tracking rfl ?_ ?_ ?_ ?_
        · rw [Chaining.after, gets]
          rfl
        · exact List.append_nil _
        · rw [Chaining.unanswered, Chaining.after]
          split
          · rename_i runs
            rcases Option.map_eq_some_iff.mp runs with ⟨_, _, impossible⟩
            cases impossible
          · rfl
        · intro funded runs
          rcases Option.map_eq_some_iff.mp runs with ⟨other, funds, same⟩
          cases same
          exact fundPayment_fresh (toOption_eq_some.mp funds)
    | false =>
        rcases fundPayment_unfetched library agent (walletKey agent) chaining.agent.tracking
          listed fetch with ⟨error, refused⟩
        have gets : fetched chaining.agent (.paymentListed payInfo listed) = none := by
          rw [fetched, running]
          exact if_neg (by simp [fetch])
        rw [refused] at stepped
        rw [← Option.some.inj stepped]
        refine chained.quiet rfl rfl ?_ ?_ ?_ ?_
        · rw [Chaining.after, gets]
          exact List.append_nil _
        · exact List.append_nil _
        · exact answered.symm
        · intro funded runs
          cases runs
  · cases stepped

theorem Chained.buildRunning {tip : Option Int} (chained : Chained chaining)
    (stepped : Wallet.buildRunning library agent tip chaining.agent = some state)
    (few : (chaining.after state (.paymentTip tip)).spentCount < maxSpentUtxos) :
    Chained (chaining.after state (.paymentTip tip)) := by
  simp only [Wallet.buildRunning] at stepped
  split at stepped
  · rename_i funded running
    split at stepped
    · rw [← Option.some.inj stepped]
      refine chained.quiet rfl rfl (List.append_nil _) (List.append_nil _) ?_ ?_
      · rw [Chaining.unanswered, Chaining.unanswered, running]
        rfl
      · intro other runs
        cases runs
    · rename_i built builds
      rw [← Option.some.inj stepped] at few ⊢
      exact chained.broadcast running (fun utxo => mem_buildFunded builds)
        (buildFunded_inputs builds) rfl rfl (List.append_nil _) rfl rfl (by simp [Chaining.after])
        few
  · cases stepped

theorem Chained.answerPayment {txid : String} (chained : Chained chaining)
    (real : ∀ change ∈ chaining.unanswered, txid = change.txid)
    (few : chaining.agent.tracking.pendingChange.length < maxPendingChange)
    (stepped : Wallet.answerPayment (.ok txid) chaining.agent = some state) :
    Chained (chaining.after state (.paymentAnswered (.ok txid))) := by
  simp only [Wallet.answerPayment] at stepped
  split at stepped
  · rename_i payment change index running
    have waits : chaining.unanswered = change := by rw [Chaining.unanswered, running]
    rw [← Option.some.inj stepped]
    refine chained.answer rfl (chainChange_spentUtxos _ _ _ _) ?_ (List.append_nil _)
      (List.append_nil _) rfl
    rw [waits]
    cases change with
    | none => exact (List.append_nil _).symm
    | some change =>
        rw [real change waits]
        exact chainChange_pendingChange payment change few
  · cases stepped

theorem Chained.moved {event : WalletEvent} (chained : Chained chaining)
    (tracking : state.tracking = chaining.agent.tracking)
    (handed : state.handed = chaining.agent.handed)
    (running : state.running = chaining.agent.running ∨
      chaining.unanswered = none ∧ (state.running = none ∨
        ∃ payment, state.running = some (.started payment)))
    (unlisted : fetched chaining.agent event = none)
    (unchanged : changeMade state event = none) : Chained (chaining.after state event) := by
  refine chained.quiet tracking handed ?_ ?_ ?_ ?_
  · rw [Chaining.after, unlisted]
    exact List.append_nil _
  · rw [Chaining.after, unchanged]
    exact List.append_nil _
  · rcases running with same | ⟨answered, idle | ⟨payment, started⟩⟩
    · rw [Chaining.unanswered, Chaining.unanswered, Chaining.after, same]
    · rw [answered, Chaining.unanswered, Chaining.after, idle]
    · rw [answered, Chaining.unanswered, Chaining.after, started]
  · intro funded runs
    change state.running = some (.funded funded) at runs
    rcases running with same | ⟨_, idle | ⟨payment, started⟩⟩
    · exact same ▸ runs
    · rw [idle] at runs
      cases runs
    · rw [started] at runs
      cases runs

theorem Chained.step {event : WalletEvent} {next : Chaining} (chained : Chained chaining)
    (small : chaining.Small) (regular : chaining.Regular event)
    (stepped : chainingStep library agent chaining event = some next)
    (few : next.spentCount < maxSpentUtxos) : Chained next := by
  rcases Option.map_eq_some_iff.mp stepped with ⟨state, moved, rfl⟩
  change Chained (chaining.after state event)
  cases event with
  | callPayment payment =>
      change Wallet.callPayment agent payment chaining.agent = some state at moved
      simp only [Wallet.callPayment] at moved
      split at moved
      · rw [← Option.some.inj moved]
        exact chained.moved rfl rfl (.inl rfl) rfl rfl
      · cases moved
  | startPayment =>
      change Wallet.startPayment chaining.agent = some state at moved
      simp only [Wallet.startPayment] at moved
      split at moved
      · rename_i payment waiting idle _
        rw [← Option.some.inj moved]
        refine chained.moved rfl rfl (.inr ⟨?_, .inr ⟨payment, rfl⟩⟩) rfl rfl
        rw [Chaining.unanswered, idle]
      · cases moved
  | paymentFails =>
      change Wallet.failPayment chaining.agent = some state at moved
      simp only [Wallet.failPayment] at moved
      split at moved
      · rename_i running
        rw [← Option.some.inj moved]
        refine chained.moved rfl rfl (.inr ⟨?_, .inl rfl⟩) rfl rfl
        rw [Chaining.unanswered, running]
      · rename_i running
        rw [← Option.some.inj moved]
        refine chained.moved rfl rfl (.inr ⟨?_, .inl rfl⟩) rfl rfl
        rw [Chaining.unanswered, running]
      · cases moved
  | paymentListed payInfo listed => exact chained.listPayment moved
  | paymentTip tip => exact chained.buildRunning moved few
  | paymentAnswered answer =>
      cases answer with
      | ok txid => exact chained.answerPayment regular small.2 moved
      | error error => exact regular.elim
  | callUpdate request => exact regular.elim
  | updateFails index => exact regular.elim
  | updateListed index data utxos => exact regular.elim
  | updateTip index tip => exact regular.elim
  | updateAnswered index answer => exact regular.elim

end Steps

/-! ## Runs -/

/-- In every run of payments within the bounds, no two broadcasts share an
input. A call that has started has as its candidates, once each, precisely the
unspent outputs that are listed to it or are change of an earlier broadcast. -/
theorem utxo_chaining_exact (library : PaymentLibrary) (agent : InboxAgent)
    {events : List WalletEvent} {final : Chaining}
    (runs : (chainingMachine library agent).Runs
      (fun chaining event => chaining.Small ∧ chaining.Regular event) {} events final)
    (small : final.Small) :
    (final.agent.handed.Pairwise fun first second =>
      ∀ outpoint ∈ first.inputs, outpoint ∉ second.inputs) ∧
    (∀ payment listed, final.agent.running = some (.started payment) →
      final.StaysListed listed →
      ((candidates final.agent.tracking listed).map outpointOf).Nodup ∧
      ∀ outpoint, outpoint ∈ (candidates final.agent.tracking listed).map outpointOf ↔
        (outpoint ∈ (positive listed).map outpointOf ∨
          outpoint ∈ final.changes.map outpointOf) ∧
        ¬ Spent final.agent.handed outpoint) ∧
    ∀ payment listed payInfo funded,
      (fundPayment library agent (walletKey agent) final.agent.tracking payment payInfo
        listed).2 = .ok funded →
      funded.funding.utxos =
        fromSource payment.sourceAddress (candidates final.agent.tracking listed) := by
  have invariant : final.spentCount < maxSpentUtxos → Chained final := by
    apply runs.preserves fun chaining => chaining.spentCount < maxSpentUtxos → Chained chaining
    · intro chaining event next allowed chained stepped few
      exact (chained allowed.1.1).step allowed.1 allowed.2 stepped few
    · exact fun _ => Chained.initial
  have chained := invariant small.1
  refine ⟨chained.disjoint, ?_, fun _ _ _ _ => fundPayment_candidates⟩
  intro payment listed started stays
  have answered : final.unanswered = none := by rw [Chaining.unanswered, started]
  exact ⟨candidates_nodup _ _, chained.candidates_exact answered stays⟩

private def chainingLibrary : PaymentLibrary :=
  { sampleLibrary with
    isIAddress := fun _ => false
    transactionId := fun _ => "first" }

private def shopPayment : Payment :=
  .sendCurrency "Rshop" (.finite (Decimal.ofScientific 1 (-4))) ⟨none, none, false⟩

private def twoSends : List WalletEvent :=
  [.callPayment shopPayment, .startPayment, .callPayment shopPayment,
    .paymentListed (.ok "") [sampleUtxo], .paymentTip (some 120), .paymentAnswered (.ok "first"),
    .startPayment]

private def startedCall (state : AgentState) : Option Payment :=
  match state.running with
  | some (.started payment) => some payment
  | _ => none

private theorem running_of_startedCall {state : AgentState} {payment : Payment}
    (started : startedCall state = some payment) :
    state.running = some (.started payment) := by
  simp only [startedCall] at started
  split at started
  · rename_i running
    rw [running, Option.some.inj started]
  · cases started

/-- The second call may spend the change of the first, also while the platform
still lists the output that the first has spent. -/
theorem utxo_chaining_exact_two_sends :
    ∃ final, (chainingMachine chainingLibrary sampleAgent).run {} twoSends = some final ∧
      (candidates final.agent.tracking [sampleUtxo]).map outpointOf = [("first", 1)] ∧
      ∀ outpoint, outpoint ∈ (candidates final.agent.tracking [sampleUtxo]).map outpointOf ↔
        (outpoint ∈ (positive [sampleUtxo]).map outpointOf ∨
          outpoint ∈ final.changes.map outpointOf) ∧
        ¬ Spent final.agent.handed outpoint := by
  have executed : ((chainingMachine chainingLibrary sampleAgent).runAllowed
      (fun chaining event => chaining.Small ∧ chaining.Regular event) {} twoSends).any
        fun final => final.Small ∧ startedCall final.agent = some shopPayment ∧
          final.StaysListed [sampleUtxo] ∧
          (candidates final.agent.tracking [sampleUtxo]).map outpointOf = [("first", 1)] := by
    decide +kernel
  rcases (Option.any_eq_true _ _).mp executed with ⟨final, allowed, holds⟩
  rcases of_decide_eq_true holds with ⟨small, started, stays, chosen⟩
  have runs := Machine.runs_of_runAllowed allowed
  exact ⟨final, runs.executes, chosen,
    ((utxo_chaining_exact chainingLibrary sampleAgent runs small).2.1 shopPayment [sampleUtxo]
      (running_of_startedCall started) stays).2⟩

end SovAgent.Wallet

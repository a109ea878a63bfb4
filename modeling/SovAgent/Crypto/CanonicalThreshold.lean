import Mathlib.Algebra.Order.Ring.Rat
import Mathlib.Data.Nat.Cast.Order.Ring
import Mathlib.Data.Finset.Card
import SovAgent.Crypto.Canonical
import SovAgent.Foundation.NumberText

/-! # The threshold of a canonical envelope

The loop over the primary addresses stops as soon as enough of them are matched. What
it decides is how many distinct addresses have a signature that validates.
-/

namespace SovAgent.Crypto

/-! ## The addresses that validate -/

/-- The distinct addresses of a list that some signature validates for. -/
def validatedAddresses (validates : Json → String → Bool) (signatures : List String)
    (addresses : List Json) : Finset Json :=
  addresses.toFinset.filter fun address => signatures.any (validates address)

section Loop

variable {validates : Json → String → Bool} {signatures : List String} {threshold : ℚ}

theorem mem_validatedAddresses {addresses : List Json} {address : Json} :
    address ∈ validatedAddresses validates signatures addresses ↔
      address ∈ addresses ∧ ∃ signature ∈ signatures, validates address signature := by
  rw [validatedAddresses, Finset.mem_filter, List.mem_toFinset, List.any_eq_true]

/-- `matchedAddresses` after one address. -/
def matchStep (validates : Json → String → Bool) (signatures : List String) (address : Json)
    (matched : List Json) : List Json :=
  if signatures.any (validates address) then matched.insert address else matched

theorem matchAddresses_cons (address : Json) (rest matched : List Json) :
    matchAddresses validates signatures threshold (address :: rest) matched =
      if threshold ≤ (matchStep validates signatures address matched).length then
        matchStep validates signatures address matched
      else matchAddresses validates signatures threshold rest
        (matchStep validates signatures address matched) :=
  rfl

theorem mem_matchStep {address other : Json} {matched : List Json} :
    other ∈ matchStep validates signatures address matched ↔
      other ∈ matched ∨
        other = address ∧ ∃ signature ∈ signatures, validates address signature := by
  rw [matchStep, ← List.any_eq_true]
  split
  · rename_i valid
    simp [List.mem_insert_iff, valid, or_comm]
  · rename_i invalid
    simp [invalid]

theorem nodup_matchStep {address : Json} {matched : List Json} (distinct : matched.Nodup) :
    (matchStep validates signatures address matched).Nodup := by
  rw [matchStep]
  split
  · exact distinct.insert
  · exact distinct

theorem matchAddresses_sound {listed : Finset Json} {addresses matched : List Json}
    (distinct : matched.Nodup) (inside : ∀ address ∈ matched, address ∈ listed)
    (covered : validatedAddresses validates signatures addresses ⊆ listed) :
    (matchAddresses validates signatures threshold addresses matched).Nodup ∧
      ∀ address ∈ matchAddresses validates signatures threshold addresses matched,
        address ∈ listed := by
  induction addresses generalizing matched with
  | nil => exact ⟨distinct, inside⟩
  | cons address rest induction =>
      have next : ∀ other ∈ matchStep validates signatures address matched, other ∈ listed := by
        intro other member
        rcases mem_matchStep.mp member with before | ⟨rfl, valid⟩
        · exact inside other before
        · exact covered (mem_validatedAddresses.mpr ⟨List.mem_cons_self, valid⟩)
      have later : validatedAddresses validates signatures rest ⊆ listed := by
        intro other member
        rcases mem_validatedAddresses.mp member with ⟨member, valid⟩
        exact covered (mem_validatedAddresses.mpr ⟨List.mem_cons_of_mem address member, valid⟩)
      rw [matchAddresses_cons]
      split
      · exact ⟨nodup_matchStep distinct, next⟩
      · exact induction (nodup_matchStep distinct) next later

theorem matchAddresses_complete {addresses matched : List Json}
    (below : (matchAddresses validates signatures threshold addresses matched).length <
      threshold) :
    matched ⊆ matchAddresses validates signatures threshold addresses matched ∧
      ∀ address ∈ validatedAddresses validates signatures addresses,
        address ∈ matchAddresses validates signatures threshold addresses matched := by
  induction addresses generalizing matched with
  | nil => exact ⟨List.Subset.refl _, by simp [validatedAddresses]⟩
  | cons address rest induction =>
      rw [matchAddresses_cons] at below ⊢
      split at below
      · rename_i met
        exact absurd met (not_le.mpr below)
      · rename_i unmet
        rw [if_neg unmet]
        rcases induction below with ⟨kept, found⟩
        constructor
        · exact fun other member => kept (mem_matchStep.mpr (.inl member))
        · intro other member
          rcases mem_validatedAddresses.mp member with ⟨member, valid⟩
          rcases List.mem_cons.mp member with rfl | later
          · exact kept (mem_matchStep.mpr (.inr ⟨rfl, valid⟩))
          · exact found other (mem_validatedAddresses.mpr ⟨later, valid⟩)

theorem threshold_le_matchAddresses_iff {addresses : List Json} :
    threshold ≤ (matchAddresses validates signatures threshold addresses []).length ↔
      threshold ≤ (validatedAddresses validates signatures addresses).card := by
  constructor
  · intro met
    rcases @matchAddresses_sound validates signatures threshold
      (validatedAddresses validates signatures addresses) addresses [] List.nodup_nil
      (by simp) (Finset.Subset.refl _) with ⟨distinct, inside⟩
    refine met.trans ?_
    rw [← List.toFinset_card_of_nodup distinct, Nat.cast_le]
    exact Finset.card_le_card fun address member => inside address (List.mem_toFinset.mp member)
  · intro enough
    by_contra unmet
    have below := not_le.mp unmet
    have found := (matchAddresses_complete below).2
    have few : (validatedAddresses validates signatures addresses).card ≤
        (matchAddresses validates signatures threshold addresses []).length :=
      (Finset.card_le_card fun address member => List.mem_toFinset.mpr (found address member)).trans
        (List.toFinset_card_le _)
    exact absurd enough (not_le.mpr (lt_of_le_of_lt (Nat.cast_le.mpr few) below))

end Loop

/-! ## What the resolver answers -/

def Resolves (getIdentityKeys : String → Except ε (Option Json)) (envelope resolved : Json) :
    Prop :=
  ∃ buyer, envelope.get? "buyer" = some buyer ∧ buyer ≠ .null ∧
    getIdentityKeys (propertyText (buyer.get? "iaddress")) = .ok (some resolved) ∧
    resolved ≠ .null

def Rejects (getIdentityKeys : String → Except ε (Option Json)) (envelope : Json) : Prop :=
  ∀ buyer, envelope.get? "buyer" = some buyer → buyer ≠ .null →
    ∃ error, getIdentityKeys (propertyText (buyer.get? "iaddress")) = .error error

/-- A verification that throws counts as one that fails. -/
def caught : Except String Bool → Bool
  | .ok verified => verified
  | .error _ => false

section Verify

variable {canonicalize : Json → String} {verifies : String → String → String → Bool}
  {getIdentityKeys : String → Except ε (Option Json)} {envelope resolved : Json}
  {signatures : List String}

theorem verifyCanonicalSignatures_resolved
    (fits : (canonicalize envelope).utf8ByteSize ≤ canonicalMaxBytes)
    (answers : Resolves getIdentityKeys envelope resolved) (filled : signatures ≠ []) :
    verifyCanonicalSignatures canonicalize verifies getIdentityKeys envelope signatures =
      .ok (meetsThreshold (addressValidates verifies (canonicalize envelope)) signatures
        resolved) := by
  rcases answers with ⟨buyer, party, present, answer, value⟩
  have bytes : canonicalBytes canonicalize envelope = .ok (canonicalize envelope) :=
    if_neg (Nat.not_lt.mpr fits)
  rw [verifyCanonicalSignatures, if_neg (by simpa using filled), bytes]
  simp only [party, answer]
  rw [authenticate]
  exact fun null => value null

theorem verifyCanonicalSignatures_rejected
    (fits : (canonicalize envelope).utf8ByteSize ≤ canonicalMaxBytes)
    (rejects : Rejects getIdentityKeys envelope) :
    verifyCanonicalSignatures canonicalize verifies getIdentityKeys envelope signatures =
      .ok false := by
  have bytes : canonicalBytes canonicalize envelope = .ok (canonicalize envelope) :=
    if_neg (Nat.not_lt.mpr fits)
  rw [verifyCanonicalSignatures, bytes]
  split
  · rfl
  · dsimp only
    split
    · rfl
    · rfl
    · rename_i buyer present party
      rcases rejects buyer party present with ⟨error, rejected⟩
      rw [rejected]
      rfl

end Verify

/-! ## The threshold -/

structure Lists (resolved : Json) (addresses : List Json) (minimum : Nat) : Prop where
  primary : resolved.get? "primaryAddresses" = some (.array addresses)
  positive : 0 < minimum
  number : ∃ value, resolved.get? "minimumSignatures" = some (.number value) ∧
    value.toRat = minimum

theorem meetsThreshold_lists {validates : Json → String → Bool} {signatures : List String}
    {resolved : Json} {addresses : List Json} {minimum : Nat}
    (lists : Lists resolved addresses minimum) :
    meetsThreshold validates signatures resolved =
      decide (minimum ≤ (validatedAddresses validates signatures addresses).card) := by
  rcases lists.number with ⟨value, number, equal⟩
  have threshold : signatureThreshold (resolved.get? "minimumSignatures") = minimum := by
    rw [number, signatureThreshold, equal, if_pos (Nat.cast_pos.mpr lists.positive)]
  rw [meetsThreshold, lists.primary, threshold]
  cases addresses with
  | nil =>
      symm
      apply decide_eq_false
      have positive := lists.positive
      simpa [validatedAddresses] using positive.ne'
  | cons first rest =>
      apply decide_eq_decide.mpr
      rw [threshold_le_matchAddresses_iff, Nat.cast_le]

theorem meetsThreshold_unlisted {validates : Json → String → Bool} {signatures : List String}
    {resolved : Json}
    (unlisted : ∀ first rest,
      resolved.get? "primaryAddresses" ≠ some (.array (first :: rest))) :
    meetsThreshold validates signatures resolved = false := by
  rw [meetsThreshold]
  split
  · rename_i first rest listed
    exact absurd listed (unlisted first rest)
  · rfl

theorem validatedAddresses_subset {validates : Json → String → Bool}
    {signatures signatures' : List String} {addresses addresses' : List Json}
    (more : signatures ⊆ signatures') (listed : addresses ⊆ addresses') :
    validatedAddresses validates signatures addresses ⊆
      validatedAddresses validates signatures' addresses' := by
  intro address member
  rcases mem_validatedAddresses.mp member with ⟨inside, signature, given, valid⟩
  exact mem_validatedAddresses.mpr ⟨listed inside, signature, more given, valid⟩

/-- The result counts the distinct addresses that some signature validates for. The order
and the repetition of signatures and addresses do not matter, more signatures do no harm,
and without signatures, addresses or an answer nothing is authentic. -/
theorem verifyCanonicalSignatures_threshold {canonicalize : Json → String} {envelope : Json}
    (fits : (canonicalize envelope).utf8ByteSize ≤ canonicalMaxBytes)
    (verifies : String → String → String → Except String Bool)
    (getIdentityKeys : String → Except ε (Option Json)) :
    let validates := addressValidates
      (fun message address signature => caught (verifies message address signature))
      (canonicalize envelope)
    let verify := fun getIdentityKeys : String → Except ε (Option Json) =>
      verifyCanonicalSignatures canonicalize
        (fun message address signature => caught (verifies message address signature))
        getIdentityKeys envelope
    (∀ resolved addresses minimum signatures, Resolves getIdentityKeys envelope resolved →
      Lists resolved addresses minimum →
      verify getIdentityKeys signatures =
        .ok (decide (minimum ≤ (validatedAddresses validates signatures addresses).card))) ∧
    (∀ getIdentityKeys' resolved resolved' addresses addresses' minimum signatures signatures',
      Resolves getIdentityKeys envelope resolved → Lists resolved addresses minimum →
      Resolves getIdentityKeys' envelope resolved' → Lists resolved' addresses' minimum →
      (∀ address, address ∈ addresses ↔ address ∈ addresses') →
      (∀ signature, signature ∈ signatures ↔ signature ∈ signatures') →
      verify getIdentityKeys signatures = verify getIdentityKeys' signatures') ∧
    (∀ resolved addresses minimum signatures signature,
      Resolves getIdentityKeys envelope resolved → Lists resolved addresses minimum →
      verify getIdentityKeys signatures = .ok true →
      ∀ before after, signatures = before ++ after →
        verify getIdentityKeys (before ++ signature :: after) = .ok true) ∧
    (Rejects getIdentityKeys envelope → ∀ signatures,
      verify getIdentityKeys signatures = .ok false) ∧
    (∀ resolved signatures, Resolves getIdentityKeys envelope resolved →
      (∀ first rest, resolved.get? "primaryAddresses" ≠ some (.array (first :: rest))) →
      verify getIdentityKeys signatures = .ok false) ∧
    verify getIdentityKeys [] = .ok false := by
  intro validates verify
  have none : ∀ getIdentityKeys : String → Except ε (Option Json),
      verify getIdentityKeys [] = .ok false := fun _ => rfl
  have counts : ∀ (getIdentityKeys : String → Except ε (Option Json)) resolved addresses minimum
      signatures, Resolves getIdentityKeys envelope resolved → Lists resolved addresses minimum →
      verify getIdentityKeys signatures =
        .ok (decide (minimum ≤ (validatedAddresses validates signatures addresses).card)) := by
    intro getIdentityKeys resolved addresses minimum signatures answers lists
    by_cases filled : signatures = []
    · have positive := lists.positive
      rw [filled, none]
      congr 1
      symm
      apply decide_eq_false
      simpa [validatedAddresses] using positive.ne'
    · exact (verifyCanonicalSignatures_resolved fits answers filled).trans
        (congrArg Except.ok (meetsThreshold_lists lists))
  refine ⟨counts getIdentityKeys, ?_, ?_, ?_, ?_, none getIdentityKeys⟩
  · intro getIdentityKeys' resolved resolved' addresses addresses' minimum signatures signatures'
      answers lists answers' lists' sameAddresses sameSignatures
    have same : validatedAddresses validates signatures addresses =
        validatedAddresses validates signatures' addresses' :=
      Finset.Subset.antisymm
        (validatedAddresses_subset (fun signature => (sameSignatures signature).mp)
          fun address => (sameAddresses address).mp)
        (validatedAddresses_subset (fun signature => (sameSignatures signature).mpr)
          fun address => (sameAddresses address).mpr)
    rw [counts _ _ _ _ _ answers lists, counts _ _ _ _ _ answers' lists', same]
  · intro resolved addresses minimum signatures signature answers lists authentic before after equal
    rw [counts _ _ _ _ _ answers lists, Except.ok.injEq, decide_eq_true_eq] at authentic ⊢
    refine authentic.trans (Finset.card_le_card (validatedAddresses_subset ?_ (List.Subset.refl _)))
    intro other member
    rw [equal, List.mem_append] at member
    rw [List.mem_append]
    exact member.imp_right (List.mem_cons_of_mem signature)
  · intro rejects signatures
    exact verifyCanonicalSignatures_rejected fits rejects
  · intro resolved signatures answers unlisted
    by_cases filled : signatures = []
    · rw [filled, none]
    · exact (verifyCanonicalSignatures_resolved fits answers filled).trans
        (congrArg Except.ok (meetsThreshold_unlisted unlisted))

/-- Two of three signers are asked for, and one signs twice. -/
theorem verifyCanonicalSignatures_one_signer_twice :
    verifyCanonicalSignatures (fun _ => "canonical")
        (fun _ address signature => caught (.ok (decide (signature = "by " ++ address))))
        (fun _ => (.ok (some (.object [("primaryAddresses",
          .array [.string "R1", .string "R2", .string "R1"]), ("minimumSignatures", .number 2)])) :
            Except Unit (Option Json)))
        (.object [("buyer", .object [("iaddress", .string "i1")])]) ["by R1", "by R1"] =
      .ok false := by
  have counts := (@verifyCanonicalSignatures_threshold Unit (fun _ => "canonical")
    (.object [("buyer", .object [("iaddress", .string "i1")])]) (by decide)
    (fun _ address signature => .ok (decide (signature = "by " ++ address)))
    (fun _ => .ok (some (.object [("primaryAddresses",
      .array [.string "R1", .string "R2", .string "R1"]), ("minimumSignatures", .number 2)])))).1
  refine (counts _ [.string "R1", .string "R2", .string "R1"] 2 ["by R1", "by R1"]
    ⟨_, rfl, by simp, rfl, by simp⟩ ⟨rfl, by decide, 2, rfl, Decimal.toRat_ofInt 2⟩).trans ?_
  decide

end SovAgent.Crypto

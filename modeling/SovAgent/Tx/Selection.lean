import SovAgent.Foundation.Binary64
import SovAgent.Foundation.Checks
import SovAgent.Foundation.Greedy
import SovAgent.Tx.Conservation

/-! # The fewest outputs

Greedy selection takes the fewest outputs that reach a target, where its running total is a
double. The payments take their target in coins, and a double does not hold every amount of
coins.
-/

namespace SovAgent.Tx

open Identity Binary64

/-! ## Selection in doubles -/

def inDoubles (utxo : Utxo) : Binary64 := .ofRat utxo.satoshis

def inCoins (satoshis : Int) : Binary64 := .ofRat satoshis / .finite satsPerCoin

def targetSatoshis (targetAmount : Binary64) : Binary64 :=
  (targetAmount * .finite satsPerCoin).mathRound

/-- What is left of a target after its way through coins. -/
def throughCoins (target : Int) : Binary64 := targetSatoshis (inCoins target)

section Copies

variable (text : Binary64 → String)

/-- `selectUtxos` of the identity updates. -/
def selectInDoubles (utxos : List Utxo) (targetSatoshis : Binary64) :
    Except Thrown (List Utxo × Binary64) :=
  selectUtxosIn inDoubles (.finite 0) text utxos targetSatoshis

/-- `selectUtxos` of the payments. -/
def selectUtxosByCoins (utxos : List Utxo) (targetAmount : Binary64) :
    Except Thrown (List Utxo × Binary64) :=
  selectInDoubles text utxos (targetSatoshis targetAmount)

end Copies

/-- Two outputs of one satoshi are lost on a total of 2^53. -/
example : (takeUntil inDoubles (.ofRat (2 ^ 53 + 2)) [⟨"aa", 0, 2 ^ 53, none, none⟩,
    ⟨"bb", 0, 1, none, none⟩, ⟨"cc", 0, 1, none, none⟩] (.finite 0)).2 = .finite (2 ^ 53) := by
  decide +kernel

/-! ## Minimal selections -/

/-- A selection that succeeds whenever the outputs suffice, and then with as few
of them as can reach the target. -/
structure SelectsFewest (utxos : List Utxo) (target : Int)
    (selection : Option (List Utxo × Binary64)) : Prop where
  succeeds : selection.isSome = true ↔ target ≤ utxoTotal utxos
  included : ∀ selected total, selection = some (selected, total) →
    selected.Subperm utxos ∧ total = .finite (utxoTotal selected) ∧ target ≤ utxoTotal selected
  fewest : ∀ selected total, selection = some (selected, total) →
    ∀ other : List Utxo, other.Subperm utxos → other.length < selected.length →
      utxoTotal other < target
  needed : ∀ selected total, selection = some (selected, total) →
    utxoTotal selected.dropLast < target

def selectedValues (selection : Option (List Utxo × Binary64)) : Option (List Int) :=
  selection.map fun result => result.1.map Utxo.satoshis

/-- Both copies select minimally, and the same values. -/
structure SelectionsMinimal (text : Binary64 → String) (utxos : List Utxo) (target : Int) :
    Prop where
  byCoins : SelectsFewest utxos target (selectUtxosByCoins text utxos (inCoins target)).toOption
  bySatoshis : SelectsFewest utxos target (selectInDoubles text utxos (.ofRat target)).toOption
  same : selectedValues (selectUtxosByCoins text utxos (inCoins target)).toOption =
    selectedValues (selectInDoubles text utxos (.ofRat target)).toOption

/-! ## Sums of the largest values -/

def largestFirst (utxos : List Utxo) : List Utxo :=
  utxos.mergeSort fun left right => right.satoshis ≤ left.satoshis

def largestTotal (utxos : List Utxo) (count : Nat) : Int :=
  utxoTotal ((largestFirst utxos).take count)

theorem largestFirst_perm (utxos : List Utxo) : (largestFirst utxos).Perm utxos :=
  List.mergeSort_perm _ _

theorem largestFirst_descending (utxos : List Utxo) :
    Descending ((largestFirst utxos).map Utxo.satoshis) := by
  rw [Descending, List.pairwise_map]
  have sorted : (largestFirst utxos).Pairwise fun left right =>
      decide (right.satoshis ≤ left.satoshis) = true := by
    apply List.pairwise_mergeSort
    · intro first second third
      simp only [decide_eq_true_eq]
      omega
    · intro left right
      simp only [Bool.or_eq_true, decide_eq_true_eq]
      omega
  exact sorted.imp of_decide_eq_true

theorem largestTotal_eq_sum (utxos : List Utxo) (count : Nat) :
    largestTotal utxos count = (((largestFirst utxos).map Utxo.satoshis).take count).sum := by
  rw [largestTotal, utxoTotal, List.map_take]

theorem utxoTotal_le_largest {utxos other : List Utxo} (included : other.Subperm utxos) :
    utxoTotal other ≤ largestTotal utxos other.length := by
  have values : (other.map Utxo.satoshis).Subperm ((largestFirst utxos).map Utxo.satoshis) := by
    rcases included.trans (largestFirst_perm utxos).symm.subperm with ⟨ordered, perm, sub⟩
    exact ⟨ordered.map Utxo.satoshis, perm.map Utxo.satoshis, sub.map Utxo.satoshis⟩
  have bounded := sum_le_sum_take_of_subperm values (largestFirst_descending utxos)
  rw [List.length_map, ← largestTotal_eq_sum] at bounded
  exact bounded

theorem largestTotal_mono {utxos : List Utxo} (nonneg : ∀ utxo ∈ utxos, 0 ≤ utxo.satoshis)
    {fewer more : Nat} (within : fewer ≤ more) :
    largestTotal utxos fewer ≤ largestTotal utxos more := by
  rw [largestTotal_eq_sum, largestTotal_eq_sum]
  apply sum_take_mono _ within
  intro satoshis member
  rcases List.mem_map.mp member with ⟨utxo, listed, rfl⟩
  exact nonneg utxo ((largestFirst_perm utxos).subset listed)

theorem largestTotal_le {utxos : List Utxo} (nonneg : ∀ utxo ∈ utxos, 0 ≤ utxo.satoshis)
    (count : Nat) : largestTotal utxos count ≤ utxoTotal utxos := by
  rw [← utxoTotal_perm (largestFirst_perm utxos)]
  apply ((List.take_sublist count (largestFirst utxos)).map Utxo.satoshis).sum_le_sum
  intro satoshis member
  rcases List.mem_map.mp member with ⟨utxo, listed, rfl⟩
  exact nonneg utxo ((largestFirst_perm utxos).subset listed)

theorem largestTotal_length (utxos : List Utxo) :
    largestTotal utxos utxos.length = utxoTotal utxos := by
  rw [largestTotal, ← (largestFirst_perm utxos).length_eq, List.take_length,
    utxoTotal_perm (largestFirst_perm utxos)]

def roundedTotal (utxos : List Utxo) (count : Nat) : Binary64 :=
  ((largestFirst utxos).take count).foldl (fun total utxo => total + inDoubles utxo) (.finite 0)

theorem inDoubles_nonneg {utxo : Utxo} (nonneg : 0 ≤ utxo.satoshis) : Nonneg (inDoubles utxo) :=
  ofRat_nonneg (by exact_mod_cast nonneg)

theorem roundedTotal_of_length_le {utxos : List Utxo} {count : Nat}
    (all : utxos.length ≤ count) : roundedTotal utxos count = roundedTotal utxos utxos.length := by
  rw [← (largestFirst_perm utxos).length_eq] at all ⊢
  rw [roundedTotal, roundedTotal, List.take_of_length_le all, List.take_length]

theorem roundedTotal_succ (utxos : List Utxo) (count : Nat) :
    roundedTotal utxos (count + 1) = roundedTotal utxos count ∨
      ∃ utxo ∈ utxos, roundedTotal utxos (count + 1) =
        roundedTotal utxos count + inDoubles utxo := by
  rcases Nat.lt_or_ge count utxos.length with within | beyond
  · right
    have sorted : count < (largestFirst utxos).length := by
      rwa [(largestFirst_perm utxos).length_eq]
    refine ⟨(largestFirst utxos)[count], ?_, ?_⟩
    · exact (largestFirst_perm utxos).subset (List.getElem_mem sorted)
    · rw [roundedTotal, List.take_succ_eq_append_getElem sorted, List.foldl_append]
      rfl
  · left
    rw [roundedTotal_of_length_le (beyond.trans (Nat.le_succ count)),
      roundedTotal_of_length_le beyond]

theorem roundedTotal_nonneg {utxos : List Utxo} (nonneg : ∀ utxo ∈ utxos, 0 ≤ utxo.satoshis)
    (count : Nat) :
    Nonneg (roundedTotal utxos count) ∧ Represented (roundedTotal utxos count) := by
  induction count with
  | zero => exact ⟨nonneg_finite.mpr le_rfl, ofRat_zero⟩
  | succ count induction =>
      rcases roundedTotal_succ utxos count with same | ⟨utxo, listed, sum⟩
      · rw [same]
        exact induction
      · rw [sum]
        exact ⟨nonneg_add induction.1 (inDoubles_nonneg (nonneg utxo listed)),
          represented_add _ _⟩

theorem roundedTotal_mono {utxos : List Utxo} (nonneg : ∀ utxo ∈ utxos, 0 ≤ utxo.satoshis)
    {fewer more : Nat} (le : fewer ≤ more) :
    roundedTotal utxos fewer ≤ roundedTotal utxos more := by
  induction more, le using Nat.le_induction with
  | base => exact (roundedTotal_nonneg nonneg fewer).1.le_self
  | succ count _ induction =>
      rcases roundedTotal_succ utxos count with same | ⟨utxo, listed, sum⟩
      · rw [same]
        exact induction
      · have total := roundedTotal_nonneg nonneg count
        have more := le_add total.1 total.2 (inDoubles_nonneg (nonneg utxo listed))
        rw [← sum] at more
        exact le_of_le_of_le induction more

theorem roundedTotal_le_all {utxos : List Utxo} (nonneg : ∀ utxo ∈ utxos, 0 ≤ utxo.satoshis)
    (count : Nat) : roundedTotal utxos count ≤ roundedTotal utxos utxos.length := by
  rcases Nat.le_total count utxos.length with within | beyond
  · exact roundedTotal_mono nonneg within
  · rw [roundedTotal_of_length_le beyond]
    exact (roundedTotal_nonneg nonneg _).1.le_self

theorem utxoTotal_dropLast {utxos : List Utxo} {count : Nat} (within : count ≤ utxos.length) :
    utxoTotal ((largestFirst utxos).take count).dropLast = largestTotal utxos (count - 1) := by
  rw [← (largestFirst_perm utxos).length_eq] at within
  rw [List.dropLast_eq_take, List.length_take_of_le within, List.take_take,
    Nat.min_eq_left (Nat.sub_le _ _), largestTotal]

/-! ## Where the loop stops -/

theorem takeUntil_stops {Amount : Type} [Add Amount] [LE Amount] [DecidableLE Amount]
    (value : Utxo → Amount) (target : Amount) (utxos : List Utxo) (start : Amount) :
    ∃ count ≤ utxos.length,
      takeUntil value target utxos start =
        (utxos.take count,
          (utxos.take count).foldl (fun total utxo => total + value utxo) start) ∧
      (∀ fewer < count, fewer ≠ 0 →
        ¬target ≤ (utxos.take fewer).foldl (fun total utxo => total + value utxo) start) ∧
      (count < utxos.length →
        target ≤ (utxos.take count).foldl (fun total utxo => total + value utxo) start) := by
  induction utxos generalizing start with
  | nil => exact ⟨0, le_rfl, rfl, by simp, by simp⟩
  | cons head tail induction =>
      simp only [takeUntil]
      split
      · rename_i covered
        refine ⟨1, by simp, rfl, ?_, fun _ => covered⟩
        intro fewer less nonzero
        omega
      · rename_i uncovered
        rcases induction (start + value head) with ⟨count, within, result, before, reached⟩
        refine ⟨count + 1, Nat.succ_le_succ within, ?_, ?_, ?_⟩
        · rw [result]
          rfl
        · intro fewer less nonzero
          cases fewer with
          | zero => exact absurd rfl nonzero
          | succ fewer =>
              cases fewer with
              | zero => exact uncovered
              | succ fewer => exact before (fewer + 1) (Nat.lt_of_succ_lt_succ less) (by omega)
        · intro more
          exact reached (Nat.lt_of_succ_lt_succ more)

/-- As many of the largest outputs as reach a limit in doubles. -/
structure FirstReached (utxos : List Utxo) (limit : Binary64) (count : Nat) : Prop where
  within : count ≤ utxos.length
  reached : limit ≤ roundedTotal utxos count
  before : ∀ fewer < count, ¬limit ≤ roundedTotal utxos fewer

theorem FirstReached.unique {utxos : List Utxo} {limit : Binary64} {left right : Nat}
    (first : FirstReached utxos limit left) (second : FirstReached utxos limit right) :
    left = right := by
  rcases Nat.lt_trichotomy left right with less | same | more
  · exact absurd first.reached (second.before left less)
  · exact same
  · exact absurd second.reached (first.before right more)

theorem selectUtxosIn_toOption {Amount : Type} [Add Amount] [LE Amount] [DecidableLE Amount]
    [LT Amount] [DecidableLT Amount] (value : Utxo → Amount) (zero : Amount)
    (text : Amount → String) (utxos : List Utxo) (target : Amount) :
    (selectUtxosIn value zero text utxos target).toOption =
      if (takeUntil value target (largestFirst utxos) zero).2 < target then none
      else some (takeUntil value target (largestFirst utxos) zero) := by
  rw [selectUtxosIn]
  change (if (takeUntil value target (largestFirst utxos) zero).2 < target then _
    else Except.ok (takeUntil value target (largestFirst utxos) zero)).toOption = _
  split <;> rfl

theorem selectInDoubles_spec (text : Binary64 → String) {utxos : List Utxo} {limit : Binary64}
    (nonneg : ∀ utxo ∈ utxos, 0 ≤ utxo.satoshis) (positive : .finite 1 ≤ limit) :
    (limit ≤ roundedTotal utxos utxos.length ∧ ∃ count, FirstReached utxos limit count ∧
      (selectInDoubles text utxos limit).toOption =
        some ((largestFirst utxos).take count, roundedTotal utxos count)) ∨
    (¬limit ≤ roundedTotal utxos utxos.length ∧
      (selectInDoubles text utxos limit).toOption = none) := by
  have limitNonneg : Nonneg limit :=
    le_of_le_of_le (finite_le_finite.mpr zero_le_one) positive
  rcases takeUntil_stops inDoubles limit (largestFirst utxos) (.finite 0) with
    ⟨count, within, result, before, reached⟩
  rw [(largestFirst_perm utxos).length_eq] at within reached
  have covered := (roundedTotal_nonneg nonneg count).1.not_lt_iff limitNonneg
  rw [selectInDoubles, selectUtxosIn_toOption, result]
  by_cases enough : limit ≤ roundedTotal utxos count
  · left
    refine ⟨le_of_le_of_le enough (roundedTotal_le_all nonneg count), count,
      ⟨within, enough, ?_⟩, if_neg (covered.mpr enough)⟩
    intro fewer less
    rcases Nat.eq_zero_or_pos fewer with rfl | some
    · intro small
      have one : (1 : ℚ) ≤ 0 := finite_le_finite.mp (le_of_le_of_le positive small)
      exact absurd one (by norm_num)
    · exact before fewer less some.ne'
  · right
    have all : count = utxos.length := by
      rcases within.lt_or_eq with less | same
      · exact absurd (reached less) enough
      · exact same
    exact ⟨all ▸ enough, if_pos (not_not.mp (mt covered.mp enough))⟩

/-- The sums that reach a target are those that reach a limit in doubles. -/
def ReachedTogether (utxos : List Utxo) (target : Int) (limit : Binary64) : Prop :=
  ∀ count, target ≤ largestTotal utxos count ↔ limit ≤ roundedTotal utxos count

def ReachedExactly (utxos : List Utxo) (target : Int) : Prop :=
  ∀ count, largestTotal utxos count < target → target ≤ largestTotal utxos (count + 1) →
    roundedTotal utxos (count + 1) = .finite (largestTotal utxos (count + 1))

section Fewest

variable {utxos : List Utxo} {target : Int} {limit : Binary64}

theorem reached_of_selectsFewest (text : Binary64 → String)
    (nonneg : ∀ utxo ∈ utxos, 0 ≤ utxo.satoshis) (positive : .finite 1 ≤ limit)
    (fewest : SelectsFewest utxos target (selectInDoubles text utxos limit).toOption) :
    ReachedTogether utxos target limit ∧ ReachedExactly utxos target := by
  rcases selectInDoubles_spec text nonneg positive with
    ⟨enough, count, first, selects⟩ | ⟨lacking, selects⟩
  · have included := (fewest.included _ _ selects).2
    change roundedTotal utxos count = .finite (largestTotal utxos count) ∧
      target ≤ largestTotal utxos count at included
    have needed := fewest.needed _ _ selects
    rw [utxoTotal_dropLast first.within] at needed
    have missed {fewer : Nat} (less : fewer < count) : largestTotal utxos fewer < target :=
      (largestTotal_mono nonneg (Nat.le_sub_one_of_lt less)).trans_lt needed
    have kept {more : Nat} (le : count ≤ more) : target ≤ largestTotal utxos more :=
      included.2.trans (largestTotal_mono nonneg le)
    constructor
    · intro other
      rcases Nat.lt_or_ge other count with less | more
      · exact iff_of_false (not_le.mpr (missed less)) (first.before other less)
      · exact iff_of_true (kept more)
          (le_of_le_of_le first.reached (roundedTotal_mono nonneg more))
    · intro other below above
      have less : other < count := by
        by_contra notLess
        exact absurd (kept (not_lt.mp notLess)) (not_le.mpr below)
      have same : other + 1 = count := by
        by_contra apart
        exact absurd above (not_le.mpr (missed (by omega)))
      rw [same]
      exact included.1
  · have short : ¬target ≤ utxoTotal utxos := by
      intro enough
      have succeeds := fewest.succeeds.mpr enough
      rw [selects] at succeeds
      cases succeeds
    have missed (count : Nat) : ¬target ≤ largestTotal utxos count :=
      fun above => short (above.trans (largestTotal_le nonneg count))
    constructor
    · intro count
      exact iff_of_false (missed count) fun above =>
        lacking (le_of_le_of_le above (roundedTotal_le_all nonneg count))
    · intro count _ above
      exact absurd above (missed _)

theorem selectsFewest_of_reached (text : Binary64 → String)
    (nonneg : ∀ utxo ∈ utxos, 0 ≤ utxo.satoshis) (targetPos : 0 < target)
    (positive : .finite 1 ≤ limit) (together : ReachedTogether utxos target limit)
    (whole : ReachedExactly utxos target) :
    SelectsFewest utxos target (selectInDoubles text utxos limit).toOption := by
  have all := together utxos.length
  rw [largestTotal_length] at all
  rcases selectInDoubles_spec text nonneg positive with
    ⟨enough, count, first, selects⟩ | ⟨lacking, selects⟩
  · have missed {fewer : Nat} (less : fewer < count) : largestTotal utxos fewer < target :=
      not_le.mp fun above => first.before fewer less ((together fewer).mp above)
    have reached := (together count).mpr first.reached
    have some : count ≠ 0 := by
      rintro rfl
      exact absurd reached (not_le.mpr targetPos)
    have exactly := whole (count - 1) (missed (by omega))
    rw [Nat.sub_add_cancel (Nat.one_le_iff_ne_zero.mpr some)] at exactly
    have length : ((largestFirst utxos).take count).length = count := by
      rw [List.length_take_of_le]
      rw [(largestFirst_perm utxos).length_eq]
      exact first.within
    rw [selects]
    constructor
    · exact iff_of_true rfl (all.mpr enough)
    · rintro selected total ⟨⟩
      exact ⟨(List.take_sublist _ _).subperm.trans (largestFirst_perm utxos).subperm,
        exactly reached, reached⟩
    · rintro selected total ⟨⟩ other included fewer
      rw [length] at fewer
      exact (utxoTotal_le_largest included).trans_lt (missed fewer)
    · rintro selected total ⟨⟩
      rw [utxoTotal_dropLast first.within]
      exact missed (by omega)
  · rw [selects]
    constructor
    · apply iff_of_false
      · exact Bool.false_ne_true
      · exact mt all.mp lacking
    · rintro selected total ⟨⟩
    · rintro selected total ⟨⟩
    · rintro selected total ⟨⟩

end Fewest

/-! ## The way through coins -/

theorem one_le_ofRat {target : Int} (positive : 0 < target) : .finite 1 ≤ ofRat target := by
  have least : (1 : ℚ) ≤ target := by exact_mod_cast positive
  have mono := ofRat_mono zero_le_one least
  rwa [show ofRat 1 = .finite 1 by decide +kernel] at mono

theorem one_le_throughCoins {target : Int} (positive : 0 < target) :
    .finite 1 ≤ throughCoins target := by
  have coin : (0 : ℚ) < satsPerCoin := by norm_num [satsPerCoin]
  have one : Nonneg (.finite 1) := nonneg_finite.mpr zero_le_one
  have coins := div_mono one (one_le_ofRat positive) coin le_rfl
  have satoshis := mul_mono (nonneg_div one coin) coins coin le_rfl
  have least : mathRound (.finite 1 / .finite satsPerCoin * .finite satsPerCoin) = .finite 1 := by
    decide +kernel
  rw [← least]
  exact mathRound_mono satoshis

theorem inCoins_error {target : Int} (positive : 0 < target) :
    |double (target / satsPerCoin) * satsPerCoin - target| ≤ target / 2 ^ 53 := by
  have targetPos : (0 : ℚ) < target := by exact_mod_cast positive
  have coinPos : (0 : ℚ) < satsPerCoin := by norm_num [satsPerCoin]
  have coinsPos : (0 : ℚ) < target / satsPerCoin := div_pos targetPos coinPos
  have rounded := double_error coinsPos.ne'
  rw [abs_of_pos coinsPos] at rounded
  calc |double (target / satsPerCoin) * satsPerCoin - target|
      = |double (target / satsPerCoin) - target / satsPerCoin| * satsPerCoin := by
        rw [← abs_of_pos coinPos, ← abs_mul, abs_of_pos coinPos, sub_mul,
          div_mul_cancel₀ _ coinPos.ne']
    _ ≤ target / satsPerCoin / 2 ^ 53 * satsPerCoin :=
        mul_le_mul_of_nonneg_right rounded coinPos.le
    _ = target / 2 ^ 53 := by
        rw [div_right_comm, div_mul_cancel₀ _ coinPos.ne']

theorem throughCoins_error {target : Int} (positive : 0 < target) :
    |double (double (target / satsPerCoin) * satsPerCoin) - target| ≤ target / 2 ^ 51 := by
  have targetPos : (0 : ℚ) < target := by exact_mod_cast positive
  have first := inCoins_error positive
  have bounds := abs_le.mp first
  have productPos : 0 < double (target / satsPerCoin) * satsPerCoin := by linarith
  have second := double_error productPos.ne'
  rw [abs_of_pos productPos] at second
  calc |double (double (target / satsPerCoin) * satsPerCoin) - target|
      ≤ |double (double (target / satsPerCoin) * satsPerCoin) -
            double (target / satsPerCoin) * satsPerCoin| +
          |double (target / satsPerCoin) * satsPerCoin - target| := abs_sub_le _ _ _
    _ ≤ target / 2 ^ 51 := by linarith

theorem roundHalfUp_eq {value : ℚ} {integer : Int} (close : |value - integer| < 1 / 2) :
    roundHalfUp value = integer := by
  have bounds := abs_lt.mp close
  change ⌊value + 1 / 2⌋ = integer
  rw [Int.floor_eq_iff]
  constructor <;> linarith

theorem ofRat_moderate {value : ℚ} (low : 2 ^ (-30 : Int) ≤ value) (high : value ≤ 2 ^ 60) :
    ofRat value = .finite (double value) := by
  have positive : 0 < value := lt_of_lt_of_le (zpow_pos two_pos _) low
  apply ofRat_eq_double
  · rw [abs_of_pos positive]
    exact (zpow_le_zpow_right₀ one_le_two (by decide)).trans low
  · have error := double_error positive.ne'
    rw [abs_of_pos positive] at error
    calc |double value|
        ≤ |double value - value| + |value| := by
          have sum := abs_add_le (double value - value) value
          rwa [sub_add_cancel] at sum
      _ ≤ 2 ^ 60 / 2 ^ 53 + 2 ^ 60 := by
          rw [abs_of_pos positive]
          linarith
      _ < 2 ^ 61 := by norm_num
      _ ≤ 2 ^ 1024 := pow_le_pow_right₀ one_le_two (by decide)

/-- Targets of up to eleven million coins keep their satoshis. -/
theorem throughCoins_eq {target : Int} (positive : 0 < target) (small : target < 2 ^ 50) :
    throughCoins target = .finite target := by
  have least : (1 : ℚ) ≤ target := by exact_mod_cast positive
  have most : (target : ℚ) < 2 ^ 50 := by exact_mod_cast small
  have near := abs_le.mp (inCoins_error positive)
  have coins : inCoins target = .finite (double (target / satsPerCoin)) := by
    rw [inCoins, ofRat_intCast (abs_le.mpr (by omega)), div_finite _ (by norm_num [satsPerCoin])]
    apply ofRat_moderate
    · norm_num [satsPerCoin]
      linarith
    · norm_num [satsPerCoin]
      linarith
  have satoshis : inCoins target * .finite satsPerCoin =
      .finite (double (double (target / satsPerCoin) * satsPerCoin)) := by
    rw [coins, mul_finite]
    apply ofRat_moderate
    · calc (2 : ℚ) ^ (-30 : Int) ≤ 1 / 2 := by norm_num
        _ ≤ double (target / satsPerCoin) * satsPerCoin := by linarith
    · linarith
  have rounded : roundHalfUp (double (double (target / satsPerCoin) * satsPerCoin)) = target := by
    apply roundHalfUp_eq
    calc |double (double (target / satsPerCoin) * satsPerCoin) - target|
        ≤ target / 2 ^ 51 := throughCoins_error positive
      _ < 1 / 2 := by linarith
  rw [throughCoins, targetSatoshis, satoshis]
  exact congrArg (fun integer : Int => Binary64.finite integer) rounded

/-! ## Sums that doubles hold -/

theorem add_inDoubles {total : Int} {utxo : Utxo} (totalNonneg : 0 ≤ total)
    (nonneg : 0 ≤ utxo.satoshis) (bounded : total + utxo.satoshis ≤ 2 ^ 53) :
    .finite total + inDoubles utxo = .finite (total + utxo.satoshis : Int) := by
  rw [inDoubles, ofRat_intCast (abs_le.mpr (by omega)), add_finite, ← Int.cast_add,
    ofRat_intCast (abs_le.mpr (by omega))]

theorem foldl_inDoubles {utxos : List Utxo} (nonneg : ∀ utxo ∈ utxos, 0 ≤ utxo.satoshis)
    (total : Int) (totalNonneg : 0 ≤ total) (bounded : total + utxoTotal utxos ≤ 2 ^ 53) :
    utxos.foldl (fun total utxo => total + inDoubles utxo) (.finite total) =
      .finite (total + utxoTotal utxos : Int) := by
  induction utxos generalizing total with
  | nil => simp
  | cons head tail induction =>
      rw [List.forall_mem_cons] at nonneg
      rw [utxoTotal_cons] at bounded ⊢
      have rest := utxoTotal_nonneg nonneg.2
      rw [List.foldl_cons, add_inDoubles totalNonneg nonneg.1 (by omega),
        induction nonneg.2 _ (by omega) (by omega), add_assoc]

theorem roundedTotal_eq {utxos : List Utxo} (nonneg : ∀ utxo ∈ utxos, 0 ≤ utxo.satoshis)
    (bounded : utxoTotal utxos ≤ 2 ^ 53) (count : Nat) :
    roundedTotal utxos count = .finite (largestTotal utxos count) := by
  have taken : ∀ utxo ∈ (largestFirst utxos).take count, 0 ≤ utxo.satoshis := fun utxo member =>
    nonneg utxo ((largestFirst_perm utxos).subset (List.mem_of_mem_take member))
  have most := (largestTotal_le nonneg count).trans bounded
  rw [← zero_add (largestTotal utxos count)] at most
  have sum := foldl_inDoubles taken 0 le_rfl most
  rw [zero_add, Int.cast_zero] at sum
  exact sum

theorem takeUntil_inDoubles (target : Int) {utxos : List Utxo}
    (nonneg : ∀ utxo ∈ utxos, 0 ≤ utxo.satoshis) (total : Int) (totalNonneg : 0 ≤ total)
    (bounded : total + utxoTotal utxos ≤ 2 ^ 53) :
    takeUntil inDoubles (.finite target) utxos (.finite total) =
      ((takeUntil Utxo.satoshis target utxos total).1,
        .finite (takeUntil Utxo.satoshis target utxos total).2) := by
  induction utxos generalizing total with
  | nil => rfl
  | cons head tail induction =>
      rw [List.forall_mem_cons] at nonneg
      rw [utxoTotal_cons] at bounded
      have rest := utxoTotal_nonneg nonneg.2
      simp only [takeUntil]
      rw [add_inDoubles totalNonneg nonneg.1 (by omega)]
      simp only [finite_le_finite, Int.cast_le]
      split
      · rfl
      · rw [induction nonneg.2 _ (by omega) (by omega)]

/-- Up to a total of 2^53 the selection in doubles is the one in exact numbers. -/
theorem selectInDoubles_eq (text : Binary64 → String) {utxos : List Utxo}
    (nonneg : ∀ utxo ∈ utxos, 0 ≤ utxo.satoshis) (bounded : utxoTotal utxos ≤ 2 ^ 53)
    (target : Int) : (selectInDoubles text utxos (.finite target)).toOption =
      (Identity.selectUtxos utxos target).toOption.map fun result =>
        (result.1, .finite result.2) := by
  have perm := largestFirst_perm utxos
  have sorted : ∀ utxo ∈ largestFirst utxos, 0 ≤ utxo.satoshis :=
    fun utxo member => nonneg utxo (perm.subset member)
  have taken := takeUntil_inDoubles target sorted 0 le_rfl
    (by rwa [zero_add, utxoTotal_perm perm])
  rw [Int.cast_zero] at taken
  rw [selectInDoubles, selectUtxosIn_toOption, taken, Identity.selectUtxos,
    selectUtxosIn_toOption]
  simp only [finite_lt_finite, Int.cast_lt]
  split <;> rfl

theorem selectUtxosByCoins_eq (text : Binary64 → String) {utxos : List Utxo}
    (nonneg : ∀ utxo ∈ utxos, 0 ≤ utxo.satoshis) (bounded : utxoTotal utxos ≤ 2 ^ 53)
    {target : Int} (positive : 0 < target) (small : target < 2 ^ 50) :
    (selectUtxosByCoins text utxos (inCoins target)).toOption =
      (selectUtxos utxos (target / satsPerCoin)).toOption.map fun result =>
        (result.1, .finite result.2) := by
  have coins : targetSatoshis (inCoins target) = .finite target := throughCoins_eq positive small
  rw [selectUtxosByCoins, coins, selectInDoubles_eq text nonneg bounded, selectUtxos,
    roundHalfUp_coins]

theorem buildOutputs_selects (text : Binary64 → String) {library : PaymentLibrary}
    {options : PaymentOptions} {outputs : List (String × Int)} {built : MultiPaymentResult}
    (nonneg : ∀ utxo ∈ options.utxos, 0 ≤ utxo.satoshis)
    (bounded : utxoTotal options.utxos ≤ 2 ^ 53)
    (positive : 0 < outputTotal outputs + options.fee)
    (small : outputTotal outputs + options.fee < 2 ^ 50)
    (builds : buildOutputs library options outputs = .ok built) :
    (selectUtxosByCoins text options.utxos
        (inCoins (outputTotal outputs + options.fee))).toOption =
      some (built.spentUtxos, .finite (utxoTotal built.spentUtxos)) := by
  rw [selectUtxosByCoins_eq text nonneg bounded positive small]
  simp only [buildOutputs, bind_eq_ok, Except.ok.injEq] at builds
  rcases builds with ⟨⟨selected, total⟩, selects, changeAddress, _, scripts, _, changeScripts, _,
    rawhex, _, rfl⟩
  have covers := selects
  rw [selectUtxos, roundHalfUp_coins] at covers
  change selectUtxos options.utxos ((outputTotal outputs + options.fee : Int) / satsPerCoin) =
    .ok (selected, total) at selects
  rw [selects, ← (selectUtxos_covers covers).1]
  rfl

/-! ## Exactly when both copies select minimally -/

/-- No rounding, of the target or of a sum, takes a sum across the target, and the sum that
reaches it is exact. -/
structure TargetKept (utxos : List Utxo) (target : Int) : Prop where
  byCoins : ReachedTogether utxos target (throughCoins target)
  bySatoshis : ReachedTogether utxos target (.ofRat target)
  exact : ReachedExactly utxos target

theorem targetKept_of_small {utxos : List Utxo} {target : Int}
    (nonneg : ∀ utxo ∈ utxos, 0 ≤ utxo.satoshis) (bounded : utxoTotal utxos ≤ 2 ^ 53)
    (positive : 0 < target) (small : target < 2 ^ 50) : TargetKept utxos target where
  byCoins count := by
    rw [throughCoins_eq positive small, roundedTotal_eq nonneg bounded, finite_le_finite,
      Int.cast_le]
  bySatoshis count := by
    rw [ofRat_intCast (abs_le.mpr (by omega)), roundedTotal_eq nonneg bounded, finite_le_finite,
      Int.cast_le]
  exact count _ _ := roundedTotal_eq nonneg bounded (count + 1)

theorem selectedValues_same (text : Binary64 → String) {utxos : List Utxo} {target : Int}
    {left right : Binary64} (nonneg : ∀ utxo ∈ utxos, 0 ≤ utxo.satoshis)
    (leftPos : .finite 1 ≤ left) (rightPos : .finite 1 ≤ right)
    (leftReached : ReachedTogether utxos target left)
    (rightReached : ReachedTogether utxos target right) :
    selectedValues (selectInDoubles text utxos left).toOption =
      selectedValues (selectInDoubles text utxos right).toOption := by
  have same (count : Nat) : left ≤ roundedTotal utxos count ↔ right ≤ roundedTotal utxos count :=
    (leftReached count).symm.trans (rightReached count)
  rcases selectInDoubles_spec text nonneg leftPos with
    ⟨enough, count, first, selects⟩ | ⟨lacking, selects⟩
  · rcases selectInDoubles_spec text nonneg rightPos with
      ⟨_, other, second, selects'⟩ | ⟨lacking, _⟩
    · have moved : FirstReached utxos right count :=
        ⟨first.within, (same count).mp first.reached,
          fun fewer less => mt (same fewer).mpr (first.before fewer less)⟩
      rw [selects, selects', moved.unique second]
    · exact absurd ((same _).mp enough) lacking
  · rcases selectInDoubles_spec text nonneg rightPos with ⟨enough, _⟩ | ⟨_, selects'⟩
    · exact absurd ((same _).mpr enough) lacking
    · rw [selects, selects']

theorem selectUtxos_minimal_iff (text : Binary64 → String) {utxos : List Utxo} {target : Int}
    (nonneg : ∀ utxo ∈ utxos, 0 ≤ utxo.satoshis) (positive : 0 < target) :
    SelectionsMinimal text utxos target ↔ TargetKept utxos target := by
  have coinsPos := one_le_throughCoins positive
  have satoshisPos := one_le_ofRat positive
  constructor
  · intro minimal
    have coins := reached_of_selectsFewest text nonneg coinsPos minimal.byCoins
    have satoshis := reached_of_selectsFewest text nonneg satoshisPos minimal.bySatoshis
    exact ⟨coins.1, satoshis.1, coins.2⟩
  · intro kept
    exact {
      byCoins :=
        selectsFewest_of_reached text nonneg positive coinsPos kept.byCoins kept.exact
      bySatoshis :=
        selectsFewest_of_reached text nonneg positive satoshisPos kept.bySatoshis kept.exact
      same := selectedValues_same text nonneg coinsPos satoshisPos kept.byCoins kept.bySatoshis }

/-- Equal values, one of nothing, and a target that two of them reach. -/
theorem selectUtxos_minimal_ties : SelectionsMinimal (fun _ => "")
    [⟨"aa", 0, 50, none, none⟩, ⟨"bb", 0, 0, none, none⟩, ⟨"cc", 1, 50, none, none⟩] 60 :=
  (selectUtxos_minimal_iff (fun _ => "") (by decide) (by decide)).mpr
    (targetKept_of_small (by decide) (by decide) (by decide) (by decide))

theorem throughCoins_moves : throughCoins 3355446655055653 = .finite (3355446655055654 : Int) := by
  decide +kernel

/-- A wallet that holds exactly the target: the payments find it a satoshi short. -/
theorem exact_wallet_is_short : ¬SelectionsMinimal (fun _ => "")
    [⟨"aa", 0, 3355446655055653, none, none⟩] 3355446655055653 := by
  intro minimal
  have found := minimal.byCoins.succeeds.mpr (by decide)
  have moved : targetSatoshis (inCoins 3355446655055653) = .finite (3355446655055654 : Int) :=
    throughCoins_moves
  have lacks := selectUtxos_eq 3355446655055654
    (show ∀ utxo ∈ [⟨"aa", 0, 3355446655055653, none, none⟩], 0 ≤ Utxo.satoshis utxo by decide)
  rw [if_pos (by decide)] at lacks
  rw [selectUtxosByCoins, moved, selectInDoubles_eq _ (by decide) (by decide), lacks] at found
  cases found

end SovAgent.Tx

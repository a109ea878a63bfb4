import SovAgent.Pricing.Calculator
import SovAgent.Foundation.Checks

/-! # The order of prices

Every rounding keeps the order of numbers, so the prices that are recommended ascend, and
grow with what a job needs. Costs may be infinite.
-/

namespace SovAgent.Pricing

open Binary64

/-! ## Rounded amounts -/

theorem factor_pos (decimals : Nat) : (0 : ℚ) < 10 ^ decimals := by positivity

theorem round_mono {n n' : Binary64} (nonneg : Nonneg n) (le : n ≤ n') (decimals : Nat) :
    round n decimals ≤ round n' decimals := by
  have factor := factor_pos decimals
  have scaled := mul_mono nonneg le factor le_rfl
  exact div_mono (nonneg_mathRound (nonneg_mul nonneg factor)) (mathRound_mono scaled) factor le_rfl

/-! ## Costs -/

theorem not_lt_iff {left right : ℚ} : ¬Binary64.finite left < .finite right ↔ right ≤ left := by
  constructor
  · intro notLess
    by_contra less
    rw [not_le] at less
    exact notLess ⟨finite_le_finite.mpr less.le,
      fun reverse => less.not_ge (finite_le_finite.mp reverse)⟩
  · exact fun le less => less.2 (finite_le_finite.mpr le)

theorem isCount_iff {count : Binary64} :
    isCount count = true ↔ ∃ value, 0 ≤ value ∧ count = .finite value := by
  rw [isCount, decide_eq_true_eq]
  constructor
  · intro holds
    cases count with
    | finite value =>
        exact ⟨value, not_lt_iff.mp holds.2, rfl⟩
    | infinity negative => cases holds.1
    | nan => cases holds.1
  · intro holds
    rcases holds with ⟨value, nonneg, rfl⟩
    exact ⟨rfl, not_lt_iff.mpr nonneg⟩

theorem le_self_of_isCount {count : Binary64} (counted : isCount count = true) :
    count ≤ count := by
  rcases isCount_iff.mp counted with ⟨value, _, rfl⟩
  exact finite_le_finite.mpr le_rfl

/-- Additional calls of which the second ones are at least as many. -/
structure CallsLe (call call' : AdditionalApiCost) : Prop where
  api : call.api = call'.api
  count : call.count ≤ call'.count

theorem addApiCosts_mono {apiCost apiCost' cost cost' : Binary64}
    {calls calls' : List AdditionalApiCost} (nonneg : Nonneg apiCost) (le : apiCost ≤ apiCost')
    (callsLe : List.Forall₂ CallsLe calls calls')
    (added : addApiCosts apiCost calls = .ok cost)
    (added' : addApiCosts apiCost' calls' = .ok cost') : Nonneg cost ∧ cost ≤ cost' := by
  induction callsLe generalizing apiCost apiCost' with
  | nil =>
      cases added
      cases added'
      exact ⟨nonneg, le⟩
  | @cons call call' rest rest' callLe _ induction =>
      rw [addApiCosts] at added added'
      split at added
      · cases added
      · split at added'
        · cases added'
        · rename_i count count'
          rw [not_not] at count count'
          rcases isCount_iff.mp count with ⟨value, valueNonneg, equal⟩
          rcases isCount_iff.mp count' with ⟨value', _, equal'⟩
          have valueLe := callLe.count
          rw [equal, equal', finite_le_finite] at valueLe
          rw [callLe.api] at added
          cases entry : apiCosts.find? (·.api = call'.api) with
          | none =>
              rw [entry] at added added'
              exact induction nonneg le added added'
          | some apiEntry =>
              rw [entry] at added added'
              rcases apiCosts_positive apiEntry (List.mem_of_find?_eq_some entry) with
                ⟨price, positive, priced⟩
              dsimp only at added added'
              rw [priced, equal, mul_finite] at added
              rw [priced, equal', mul_finite] at added'
              have calls : Nonneg (ofRat (price * value)) := ofRat_nonneg (by positivity)
              have more : ofRat (price * value) ≤ ofRat (price * value') :=
                ofRat_mono (by positivity) (by gcongr)
              exact induction (nonneg_add nonneg calls) (add_mono nonneg calls le more)
                added added'

def llmCost (modelCost : LLMCostEntry) (inputTokens outputTokens : Binary64) : Binary64 :=
  inputTokens / .finite 1000 * modelCost.inputPer1k +
    outputTokens / .finite 1000 * modelCost.outputPer1k

theorem estimateJobCost_eq_ok {model : String} {inputTokens outputTokens cost : Binary64}
    {calls : List AdditionalApiCost}
    (estimated : estimateJobCost model inputTokens outputTokens calls = .ok cost) :
    ∃ modelCost apiCost, llmCosts.find? (·.model = model) = some modelCost ∧
      isCount inputTokens = true ∧ isCount outputTokens = true ∧
      addApiCosts (.finite 0) calls = .ok apiCost ∧
      cost = llmCost modelCost inputTokens outputTokens + apiCost := by
  rw [estimateJobCost] at estimated
  split at estimated
  · cases estimated
  · rename_i input
    split at estimated
    · cases estimated
    · rename_i output
      rw [not_not] at input output
      cases entry : llmCosts.find? (·.model = model) with
      | none =>
          rw [entry] at estimated
          cases estimated
      | some modelCost =>
          rw [entry] at estimated
          rcases bind_eq_ok.mp estimated with ⟨apiCost, added, equal⟩
          cases equal
          exact ⟨modelCost, apiCost, rfl, input, output, added, rfl⟩

theorem tokens_mono {tokens tokens' price : Binary64} (count : isCount tokens = true)
    (le : tokens ≤ tokens') (positive : Positive price) :
    Nonneg (tokens / .finite 1000 * price) ∧
      tokens / .finite 1000 * price ≤ tokens' / .finite 1000 * price := by
  rcases isCount_iff.mp count with ⟨value, valueNonneg, rfl⟩
  rcases positive with ⟨factor, factorPos, rfl⟩
  have nonneg := nonneg_finite.mpr valueNonneg
  have thousand : (0 : ℚ) < 1000 := by norm_num
  have part := nonneg_div nonneg thousand
  exact ⟨nonneg_mul part factorPos,
    mul_mono part (div_mono nonneg le thousand le_rfl) factorPos le_rfl⟩

theorem estimateJobCost_mono {model : String}
    {inputTokens outputTokens inputTokens' outputTokens' cost cost' : Binary64}
    {calls calls' : List AdditionalApiCost} (inputLe : inputTokens ≤ inputTokens')
    (outputLe : outputTokens ≤ outputTokens') (callsLe : List.Forall₂ CallsLe calls calls')
    (estimated : estimateJobCost model inputTokens outputTokens calls = .ok cost)
    (estimated' : estimateJobCost model inputTokens' outputTokens' calls' = .ok cost') :
    Nonneg cost ∧ cost ≤ cost' := by
  rcases estimateJobCost_eq_ok estimated with ⟨modelCost, apiCost, entry, input, output, added, rfl⟩
  rcases estimateJobCost_eq_ok estimated' with ⟨modelCost', apiCost', entry', _, _, added', rfl⟩
  rw [entry] at entry'
  cases entry'
  have prices := llmCosts_positive modelCost (List.mem_of_find?_eq_some entry)
  have inputs := tokens_mono input inputLe prices.1
  have outputs := tokens_mono output outputLe prices.2
  have none : Nonneg (.finite 0) := nonneg_finite.mpr le_rfl
  have apis := addApiCosts_mono none none callsLe added added'
  have llm : Nonneg (llmCost modelCost inputTokens outputTokens) :=
    nonneg_add inputs.1 outputs.1
  exact ⟨nonneg_add llm apis.1,
    add_mono llm apis.1 (add_mono inputs.1 outputs.1 inputs.2 outputs.2) apis.2⟩

theorem callsLe_refl {calls : List AdditionalApiCost} {apiCost cost : Binary64}
    (added : addApiCosts apiCost calls = .ok cost) : List.Forall₂ CallsLe calls calls := by
  induction calls generalizing apiCost with
  | nil => exact .nil
  | cons call rest induction =>
      rw [addApiCosts] at added
      split at added
      · cases added
      · rename_i count
        rw [not_not] at count
        refine .cons ⟨rfl, le_self_of_isCount count⟩ ?_
        split at added
        · exact induction added
        · exact induction added

theorem estimateJobCost_nonneg {model : String} {inputTokens outputTokens cost : Binary64}
    {calls : List AdditionalApiCost}
    (estimated : estimateJobCost model inputTokens outputTokens calls = .ok cost) :
    Nonneg cost ∧ Represented cost := by
  rcases estimateJobCost_eq_ok estimated with ⟨modelCost, apiCost, _, input, output, added, rfl⟩
  have same := estimateJobCost_mono (le_self_of_isCount input) (le_self_of_isCount output)
    (callsLe_refl added) estimated estimated
  exact ⟨same.1, represented_add _ _⟩

/-! ## Prices -/

theorem privacyMultipliers_eq (tier : PrivacyTier) :
    ∃ multiplier, 1 ≤ multiplier ∧ privacyMultipliers tier = .finite multiplier := by
  have bounds : .finite 1 ≤ privacyMultipliers tier ∧ privacyMultipliers tier ≤ .finite 2 := by
    cases tier <;> decide +kernel
  rcases finite_of_between bounds.1 bounds.2 with ⟨multiplier, least, _, equal⟩
  exact ⟨multiplier, least, equal⟩

theorem share_eq : ∃ share, 0 < share ∧ 1 / 2 ≤ share ∧ share ≤ 1 ∧
    .finite 1 - platformFee = .finite share := by
  have bounds : .finite (1 / 2) ≤ .finite 1 - platformFee ∧
      .finite 1 - platformFee ≤ .finite 1 := by decide +kernel
  rcases finite_of_between bounds.1 bounds.2 with ⟨share, least, most, equal⟩
  exact ⟨share, by linarith, least, most, equal⟩

theorem le_privacyPremium {cost : Binary64} (nonneg : Nonneg cost)
    (represented : Represented cost) (tier : PrivacyTier) :
    cost ≤ privacyPremium cost tier ∧ Represented (privacyPremium cost tier) := by
  rcases privacyMultipliers_eq tier with ⟨multiplier, least, equal⟩
  rw [privacyPremium, equal]
  exact ⟨le_mul nonneg represented least, represented_mul _ _⟩

theorem privacyPremium_mono {cost cost' : Binary64} (nonneg : Nonneg cost) (le : cost ≤ cost')
    {tier tier' : PrivacyTier} (tierLe : privacyMultipliers tier ≤ privacyMultipliers tier') :
    privacyPremium cost tier ≤ privacyPremium cost' tier' := by
  rcases privacyMultipliers_eq tier with ⟨multiplier, least, equal⟩
  rcases privacyMultipliers_eq tier' with ⟨multiplier', _, equal'⟩
  rw [equal, equal', finite_le_finite] at tierLe
  rw [privacyPremium, privacyPremium, equal, equal']
  exact mul_mono nonneg le (by linarith) tierLe

theorem makePricePoint_mono {cost rate usd usd' : Binary64} (nonneg : Nonneg cost)
    (covers : cost ≤ usd) (le : usd ≤ usd') (positive : Positive rate) :
    (makePricePoint cost rate usd).usd ≤ (makePricePoint cost rate usd').usd ∧
    (makePricePoint cost rate usd).vrsc ≤ (makePricePoint cost rate usd').vrsc := by
  rcases positive with ⟨divisor, divisorPos, rfl⟩
  have price := nonneg.trans covers
  exact ⟨round_mono price le 6,
    round_mono (nonneg_div price divisorPos) (div_mono price le divisorPos le_rfl) 6⟩

theorem marginPercent_mono {amount : ℚ} {rate usd usd' : Binary64} (amountNonneg : 0 ≤ amount)
    (covers : .finite amount ≤ usd) (le : usd ≤ usd') :
    (makePricePoint (.finite amount) rate usd).marginPercent ≤
      (makePricePoint (.finite amount) rate usd').marginPercent := by
  dsimp only [makePricePoint]
  split
  · rename_i more
    have amountPos : 0 < amount := by
      by_contra none
      exact more.2 (finite_le_finite.mpr (not_lt.mp none))
    rcases sub_mono amountNonneg covers le with ⟨marginNonneg, margin⟩
    have hundred : (0 : ℚ) < 100 := by norm_num
    have share := div_mono marginNonneg margin amountPos le_rfl
    have shareNonneg := nonneg_div marginNonneg amountPos
    exact round_mono (nonneg_mul shareNonneg hundred)
      (mul_mono shareNonneg share hundred le_rfl) 1
  · exact finite_le_finite.mpr le_rfl

theorem makePricePoint_infinity {rate usd : Binary64} (positive : Positive rate)
    (covers : .infinity false ≤ usd) :
    makePricePoint (.infinity false) rate usd = ⟨.infinity false, .infinity false, .nan⟩ := by
  have price : Nonneg usd := le_of_le_of_le (finite_le_infinity.mpr rfl) covers
  rcases positive with ⟨divisor, divisorPos, rfl⟩
  rcases price.finite_or_infinite with ⟨amount, _, rfl⟩ | rfl
  · cases covers
  · rw [makePricePoint, infinity_div divisorPos]
    decide +kernel

/-! ## The four prices -/

section Prices

variable (adjustedCost : Binary64) (category : JobCategory)

def minUsd : Binary64 := adjustedCost / (.finite 1 - platformFee)

def recUsd : Binary64 :=
  adjustedCost *
    (((categoryMarkups category).min + (categoryMarkups category).max) / .finite 2)

def premUsd : Binary64 := adjustedCost * (categoryMarkups category).max

def ceilUsd : Binary64 := premUsd adjustedCost category * .finite 1.5

end Prices

theorem markup_eq (category : JobCategory) :
    ∃ mid max, 2 ≤ mid ∧ mid ≤ max ∧ (categoryMarkups category).max = .finite max ∧
      ((categoryMarkups category).min + (categoryMarkups category).max) / .finite 2 =
        .finite mid := by
  have bounds : .finite 2 ≤
        ((categoryMarkups category).min + (categoryMarkups category).max) / .finite 2 ∧
      ((categoryMarkups category).min + (categoryMarkups category).max) / .finite 2 ≤
        (categoryMarkups category).max ∧
      (categoryMarkups category).max ≤ .finite 50 := by
    cases category <;> decide +kernel
  rcases bounds with ⟨above, inside, below⟩
  rcases finite_of_between above (le_of_le_of_le inside below) with ⟨mid, least, _, midEq⟩
  rw [midEq] at inside
  rcases finite_of_between inside below with ⟨max, midLe, _, maxEq⟩
  exact ⟨mid, max, least, midLe, maxEq, midEq⟩

theorem prices_ascend {cost : Binary64} (nonneg : Nonneg cost) (represented : Represented cost)
    (category : JobCategory) :
    cost ≤ minUsd cost ∧ minUsd cost ≤ recUsd cost category ∧
      recUsd cost category ≤ premUsd cost category ∧
      premUsd cost category ≤ ceilUsd cost category := by
  rcases share_eq with ⟨share, sharePos, half, most, shareEq⟩
  rcases markup_eq category with ⟨mid, max, midLeast, midLe, maxEq, midEq⟩
  have midPos : 0 < mid := by linarith
  rw [ceilUsd, premUsd, recUsd, minUsd, shareEq, midEq, maxEq]
  refine ⟨le_div nonneg represented sharePos most, ?_, ?_, ?_⟩
  · apply div_le_mul nonneg sharePos
    calc (1 : ℚ)
        = 1 / 2 * 2 := by norm_num
      _ ≤ share * mid := mul_le_mul half midLeast zero_le_two sharePos.le
  · exact mul_mono nonneg nonneg.le_self midPos midLe
  · exact le_mul (nonneg_mul nonneg (by linarith)) (represented_mul _ _) (by norm_num)

theorem prices_mono {cost cost' : Binary64} (nonneg : Nonneg cost) (le : cost ≤ cost')
    (category : JobCategory) :
    minUsd cost ≤ minUsd cost' ∧ recUsd cost category ≤ recUsd cost' category ∧
      premUsd cost category ≤ premUsd cost' category ∧
      ceilUsd cost category ≤ ceilUsd cost' category := by
  rcases share_eq with ⟨share, sharePos, _, _, shareEq⟩
  rcases markup_eq category with ⟨mid, max, midLeast, midLe, maxEq, midEq⟩
  have maxPos : 0 < max := by linarith
  have premium := mul_mono nonneg le maxPos le_rfl
  rw [ceilUsd, ceilUsd, premUsd, premUsd, recUsd, recUsd, minUsd, minUsd, shareEq, midEq, maxEq]
  exact ⟨div_mono nonneg le sharePos le_rfl, mul_mono nonneg le (by linarith) le_rfl, premium,
    mul_mono (nonneg_mul nonneg maxPos) premium (by norm_num) le_rfl⟩

/-! ## Recommendations -/

/-- What `recommendPrice` returns for a raw cost. -/
structure Recommends (params : RecommendPriceParams) (rawCost : Binary64)
    (result : PriceRecommendation) : Prop where
  estimated : estimateJobCost params.model params.inputTokens params.outputTokens
    params.additionalApis = .ok rawCost
  rate : Positive params.vrscUsdRate
  raw : result.rawCost = round rawCost 6
  fee : result.platformFee =
    round (privacyPremium rawCost params.privacyTier * platformFee) 6
  minimum : result.minimum = makePricePoint (privacyPremium rawCost params.privacyTier)
    params.vrscUsdRate (minUsd (privacyPremium rawCost params.privacyTier))
  recommended : result.recommended = makePricePoint (privacyPremium rawCost params.privacyTier)
    params.vrscUsdRate (recUsd (privacyPremium rawCost params.privacyTier) params.category)
  premium : result.premium = makePricePoint (privacyPremium rawCost params.privacyTier)
    params.vrscUsdRate (premUsd (privacyPremium rawCost params.privacyTier) params.category)
  ceiling : result.ceiling = makePricePoint (privacyPremium rawCost params.privacyTier)
    params.vrscUsdRate (ceilUsd (privacyPremium rawCost params.privacyTier) params.category)

theorem recommendPrice_eq_ok {params : RecommendPriceParams} {result : PriceRecommendation}
    (returned : recommendPrice params = .ok result) :
    ∃ rawCost, Recommends params rawCost result := by
  rw [recommendPrice] at returned
  split at returned
  · cases returned
  · rename_i rate
    rw [not_or, not_not] at rate
    rcases bind_eq_ok.mp returned with ⟨rawCost, estimated, returned⟩
    have positive : Positive params.vrscUsdRate := by
      cases given : params.vrscUsdRate with
      | finite value =>
          rw [given, finite_le_finite, not_le] at rate
          exact ⟨value, rate.1, rfl⟩
      | infinity negative =>
          rw [given] at rate
          cases rate.2
      | nan =>
          rw [given] at rate
          cases rate.2
    dsimp only at returned
    split at returned
    · cases returned
    · cases returned
      exact ⟨rawCost, estimated, positive, rfl, rfl, rfl, rfl, rfl, rfl⟩

def Ascending (result : PriceRecommendation) (amount : PricePoint → Binary64) : Prop :=
  amount result.minimum ≤ amount result.recommended ∧
  amount result.recommended ≤ amount result.premium ∧
  amount result.premium ≤ amount result.ceiling

/-- Every price is infinite, in both currencies, so that there is no margin. -/
def NoMargin (result : PriceRecommendation) : Prop :=
  ∀ point ∈ [result.minimum, result.recommended, result.premium, result.ceiling],
    point = ⟨.infinity false, .infinity false, .nan⟩

def adjustedCost (params : RecommendPriceParams) : Except PricingError Binary64 :=
  (estimateJobCost params.model params.inputTokens params.outputTokens
    params.additionalApis).map fun rawCost => privacyPremium rawCost params.privacyTier

/-- Whatever a job costs and at whatever rate: the prices ascend from one that is not below the
cost, in both currencies and in their margins. Only a cost that is infinite leaves no margins. -/
theorem recommendPrice_ascending {params : RecommendPriceParams} {result : PriceRecommendation}
    (returned : recommendPrice params = .ok result) :
    result.rawCost ≤ result.minimum.usd ∧ Ascending result PricePoint.usd ∧
      Ascending result PricePoint.vrsc ∧
      ((∃ amount, adjustedCost params = .ok (.finite amount)) ∧
          Ascending result PricePoint.marginPercent ∨
        adjustedCost params = .ok (.infinity false) ∧ NoMargin result) := by
  rcases recommendPrice_eq_ok returned with ⟨rawCost, recommends⟩
  rcases estimateJobCost_nonneg recommends.estimated with ⟨rawNonneg, rawRepresented⟩
  rcases le_privacyPremium rawNonneg rawRepresented params.privacyTier with ⟨covers, represented⟩
  have nonneg := rawNonneg.trans covers
  rcases prices_ascend nonneg represented params.category with ⟨least, low, middle, high⟩
  have lowLeast := le_of_le_of_le least low
  have middleLeast := le_of_le_of_le lowLeast middle
  have minimum := makePricePoint_mono nonneg least low recommends.rate
  have recommended := makePricePoint_mono nonneg lowLeast middle recommends.rate
  have premium := makePricePoint_mono nonneg middleLeast high recommends.rate
  have adjusted : adjustedCost params = .ok (privacyPremium rawCost params.privacyTier) := by
    rw [adjustedCost, recommends.estimated]
    rfl
  rw [Ascending, Ascending, Ascending, NoMargin, recommends.raw, recommends.minimum,
    recommends.recommended, recommends.premium, recommends.ceiling, adjusted]
  refine ⟨round_mono rawNonneg (le_of_le_of_le covers least) 6,
    ⟨minimum.1, recommended.1, premium.1⟩, ⟨minimum.2, recommended.2, premium.2⟩, ?_⟩
  rcases nonneg.finite_or_infinite with ⟨amount, amountNonneg, equal⟩ | equal
  · left
    rw [equal] at least low lowLeast middle middleLeast high ⊢
    exact ⟨⟨amount, rfl⟩, marginPercent_mono amountNonneg least low,
      marginPercent_mono amountNonneg lowLeast middle,
      marginPercent_mono amountNonneg middleLeast high⟩
  · right
    rw [equal] at least lowLeast middleLeast high ⊢
    simp only [List.forall_mem_cons]
    exact ⟨trivial, makePricePoint_infinity recommends.rate least,
      makePricePoint_infinity recommends.rate lowLeast,
      makePricePoint_infinity recommends.rate middleLeast,
      makePricePoint_infinity recommends.rate (le_of_le_of_le middleLeast high),
      List.forall_mem_nil _⟩

theorem recommendPrice_ascending_medium :
    let params : RecommendPriceParams := {
      model := "gpt-4.1", inputTokens := .finite 2000, outputTokens := .finite 1000
      category := .medium, privacyTier := .sovereign, vrscUsdRate := ofRat 0.6 }
    ∃ result, recommendPrice params = .ok result ∧
      result.rawCost ≤ result.minimum.usd ∧ Ascending result PricePoint.usd ∧
      Ascending result PricePoint.vrsc ∧ Ascending result PricePoint.marginPercent := by
  intro params
  have isOk : (recommendPrice params).isOk = true := by decide +kernel
  have finite : adjustedCost params ≠ .ok (.infinity false) := by decide +kernel
  cases returned : recommendPrice params with
  | error error =>
      rw [returned] at isOk
      cases isOk
  | ok result =>
      have ascending := recommendPrice_ascending returned
      rcases ascending.2.2.2 with margins | overflow
      · exact ⟨result, rfl, ascending.1, ascending.2.1, ascending.2.2.1, margins.2⟩
      · exact absurd overflow.1 finite

/-! ## Larger jobs -/

/-- A job that needs no less, with a price in no weaker currency. -/
structure NeedsMore (params params' : RecommendPriceParams) : Prop where
  model : params.model = params'.model
  category : params.category = params'.category
  inputTokens : params.inputTokens ≤ params'.inputTokens
  outputTokens : params.outputTokens ≤ params'.outputTokens
  additionalApis : List.Forall₂ CallsLe params.additionalApis params'.additionalApis
  privacyTier : privacyMultipliers params.privacyTier ≤ privacyMultipliers params'.privacyTier
  vrscUsdRate : params'.vrscUsdRate ≤ params.vrscUsdRate

def PricePoint.AtMost (point point' : PricePoint) : Prop :=
  point.usd ≤ point'.usd ∧ point.vrsc ≤ point'.vrsc

theorem makePricePoint_atMost (cost cost' : Binary64) {rate rate' usd usd' : Binary64}
    (nonneg : Nonneg usd) (le : usd ≤ usd') (positive : Positive rate)
    (positive' : Positive rate') (rateLe : rate' ≤ rate) :
    (makePricePoint cost rate usd).AtMost (makePricePoint cost' rate' usd') := by
  rcases positive with ⟨divisor, divisorPos, rfl⟩
  rcases positive' with ⟨divisor', divisorPos', rfl⟩
  rw [finite_le_finite] at rateLe
  exact ⟨round_mono nonneg le 6,
    round_mono (nonneg_div nonneg divisorPos) (div_mono nonneg le divisorPos' rateLe) 6⟩

/-- A larger job never costs less, and none of its prices is lower. -/
theorem recommendPrice_mono {params params' : RecommendPriceParams}
    {result result' : PriceRecommendation} (more : NeedsMore params params')
    (returned : recommendPrice params = .ok result)
    (returned' : recommendPrice params' = .ok result') :
    result.rawCost ≤ result'.rawCost ∧ result.platformFee ≤ result'.platformFee ∧
      result.minimum.AtMost result'.minimum ∧ result.recommended.AtMost result'.recommended ∧
      result.premium.AtMost result'.premium ∧ result.ceiling.AtMost result'.ceiling := by
  rcases recommendPrice_eq_ok returned with ⟨rawCost, recommends⟩
  rcases recommendPrice_eq_ok returned' with ⟨rawCost', recommends'⟩
  have estimated := recommends.estimated
  rw [more.model] at estimated
  have rawLe := (estimateJobCost_mono more.inputTokens more.outputTokens more.additionalApis
    estimated recommends'.estimated).2
  rcases estimateJobCost_nonneg recommends.estimated with ⟨rawNonneg, rawRepresented⟩
  rcases le_privacyPremium rawNonneg rawRepresented params.privacyTier with ⟨covers, represented⟩
  have nonneg := rawNonneg.trans covers
  have le := privacyPremium_mono rawNonneg rawLe more.privacyTier
  rcases prices_ascend nonneg represented params.category with ⟨least, low, middle, high⟩
  have minimum := nonneg.trans least
  have recommended := minimum.trans low
  have premium := recommended.trans middle
  have mono := prices_mono nonneg le params.category
  have fee : Positive platformFee := by decide +kernel
  rcases fee with ⟨share, sharePos, shareEq⟩
  have point {usd usd' : Binary64} (price : Nonneg usd) (priceLe : usd ≤ usd') :=
    makePricePoint_atMost (privacyPremium rawCost params.privacyTier)
      (privacyPremium rawCost' params'.privacyTier) price priceLe recommends.rate
      recommends'.rate more.vrscUsdRate
  rw [recommends.raw, recommends'.raw, recommends.fee, recommends'.fee, recommends.minimum,
    recommends'.minimum, recommends.recommended, recommends'.recommended, recommends.premium,
    recommends'.premium, recommends.ceiling, recommends'.ceiling, ← more.category, shareEq]
  exact ⟨round_mono rawNonneg rawLe 6,
    round_mono (nonneg_mul nonneg sharePos) (mul_mono nonneg le sharePos le_rfl) 6,
    point minimum mono.1, point recommended mono.2.1, point premium mono.2.2.1,
    point (premium.trans high) mono.2.2.2⟩

theorem recommendPrice_mono_searches :
    let params : RecommendPriceParams := {
      model := "gpt-4.1", inputTokens := .finite 2000, outputTokens := .finite 1000
      category := .medium, additionalApis := [⟨"web-search", .finite 2⟩] }
    let params' : RecommendPriceParams := { params with
      inputTokens := .finite 2001, privacyTier := .sovereign
      additionalApis := [⟨"web-search", .finite 3⟩] }
    ∃ result result', recommendPrice params = .ok result ∧ recommendPrice params' = .ok result' ∧
      result.rawCost ≤ result'.rawCost ∧ result.platformFee ≤ result'.platformFee ∧
      result.minimum.AtMost result'.minimum ∧ result.recommended.AtMost result'.recommended ∧
      result.premium.AtMost result'.premium ∧ result.ceiling.AtMost result'.ceiling := by
  intro params params'
  have more : NeedsMore params params' := by
    refine ⟨rfl, rfl, by decide +kernel, by decide +kernel, .cons ⟨rfl, ?_⟩ .nil,
      by decide +kernel, by decide +kernel⟩
    exact finite_le_finite.mpr (by norm_num)
  have isOk : (recommendPrice params).isOk = true ∧ (recommendPrice params').isOk = true := by
    constructor <;> decide +kernel
  cases returned : recommendPrice params with
  | error error =>
      rw [returned] at isOk
      cases isOk.1
  | ok result =>
      cases returned' : recommendPrice params' with
      | error error =>
          rw [returned'] at isOk
          cases isOk.2
      | ok result' => exact ⟨result, result', rfl, rfl, recommendPrice_mono more returned returned'⟩

/-! ## Listed prices -/

theorem listedFactor_eq {markupPercent : Binary64} (low : .finite 1 ≤ markupPercent)
    (high : markupPercent ≤ .finite 50) :
    ∃ factor, 1 ≤ factor ∧ .finite 1 + markupPercent / .finite 100 = .finite factor := by
  have hundred : (0 : ℚ) < 100 := by norm_num
  have nonneg : Nonneg markupPercent := (nonneg_finite.mpr zero_le_one).trans low
  have share := nonneg_div nonneg hundred
  have shareLe : markupPercent / .finite 100 ≤ .finite (1 / 2) := by
    have half : (.finite 50 : Binary64) / .finite 100 = .finite (1 / 2) := by decide +kernel
    rw [← half]
    exact div_mono nonneg high hundred le_rfl
  have one : Nonneg (.finite 1) := nonneg_finite.mpr zero_le_one
  have above := add_mono one (nonneg_finite.mpr le_rfl) one.le_self share
  have below := add_mono one share one.le_self shareLe
  have least : (.finite 1 : Binary64) + .finite 0 = .finite 1 := by decide +kernel
  have most : (.finite 1 : Binary64) + .finite (1 / 2) = .finite 1.5 := by decide +kernel
  rw [least] at above
  rw [most] at below
  rcases finite_of_between above below with ⟨factor, factorLeast, _, equal⟩
  exact ⟨factor, factorLeast, equal⟩

theorem rawCost_le_listedPrice {params : CalculateListedPriceParams} {result : ListedPriceResult}
    (returned : calculateListedPrice params = .ok result) :
    result.rawCost ≤ result.listedPrice := by
  rw [calculateListedPrice] at returned
  split at returned
  · cases returned
  · rename_i inside
    rw [not_or, not_or, not_not] at inside
    rcases bind_eq_ok.mp returned with ⟨rawCost, estimated, equal⟩
    rcases estimateJobCost_nonneg estimated with ⟨nonneg, represented⟩
    have bounds : .finite 1 ≤ params.markupPercent ∧ params.markupPercent ≤ .finite 50 := by
      rcases inside with ⟨finite, low, high⟩
      cases given : params.markupPercent with
      | finite value =>
          rw [given, not_lt_iff] at low high
          exact ⟨finite_le_finite.mpr low, finite_le_finite.mpr high⟩
      | infinity negative =>
          rw [given] at finite
          cases finite
      | nan =>
          rw [given] at finite
          cases finite
    rcases listedFactor_eq bounds.1 bounds.2 with ⟨factor, least, factorEq⟩
    cases equal
    dsimp only
    rw [factorEq]
    exact round_mono nonneg (le_mul nonneg represented least) 6

end SovAgent.Pricing

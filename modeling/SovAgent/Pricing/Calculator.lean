import SovAgent.Pricing.Tables

/-! # Pricing calculator

Prices from the cost of a job, in the arithmetic of binary64.
-/

namespace SovAgent.Pricing

open Binary64

def privacyPremium (basePrice : Binary64) (tier : PrivacyTier) : Binary64 :=
  basePrice * privacyMultipliers tier

inductive PricingError where
  | inputTokens (got : Binary64)
  | outputTokens (got : Binary64)
  | unknownModel (model : String)
  | apiCount (api : String) (got : Binary64)
  | markupPercent (got : Binary64)
  | vrscUsdRate (got : Binary64)
  | platformFee
deriving DecidableEq

def PricingError.message (text : Binary64 → String) : PricingError → String
  | .inputTokens got => s!"inputTokens must be a non-negative finite number, got: {text got}"
  | .outputTokens got => s!"outputTokens must be a non-negative finite number, got: {text got}"
  | .unknownModel model =>
      s!"Unknown model: {model}. Available: " ++ ", ".intercalate (llmCosts.map (·.model))
  | .apiCount api got =>
      s!"API call count for \"{api}\" must be a non-negative finite number, got: {text got}"
  | .markupPercent got => s!"markupPercent must be between 1 and 50, got: {text got}"
  | .vrscUsdRate got => s!"vrscUsdRate must be a finite positive number, got: {text got}"
  | .platformFee => "PLATFORM_FEE must be less than 1 (100%)"

/-! ## Costs -/

structure AdditionalApiCost where
  api : String
  count : Binary64

def isCount (count : Binary64) : Bool := count.isFinite ∧ ¬count < .finite 0

/-- The loop over the additional APIs. One that is not in the table costs nothing. -/
def addApiCosts : (apiCost : Binary64) → List AdditionalApiCost → Except PricingError Binary64
  | apiCost, [] => .ok apiCost
  | apiCost, additional :: rest =>
      if ¬isCount additional.count then .error (.apiCount additional.api additional.count)
      else
        match apiCosts.find? (·.api = additional.api) with
        | some apiEntry => addApiCosts (apiCost + apiEntry.costPerRequest * additional.count) rest
        | none => addApiCosts apiCost rest

def estimateJobCost (model : String) (inputTokens outputTokens : Binary64)
    (additionalApis : List AdditionalApiCost) : Except PricingError Binary64 :=
  if ¬isCount inputTokens then .error (.inputTokens inputTokens)
  else if ¬isCount outputTokens then .error (.outputTokens outputTokens)
  else
    match llmCosts.find? (·.model = model) with
    | none => .error (.unknownModel model)
    | some modelCost => do
        let llmCost := inputTokens / .finite 1000 * modelCost.inputPer1k +
          outputTokens / .finite 1000 * modelCost.outputPer1k
        let apiCost ← addApiCosts (.finite 0) additionalApis
        .ok (llmCost + apiCost)

/-! ## Prices -/

/-- `Math.round(n * factor) / factor`, where the factor is a power of ten. -/
def round (n : Binary64) (decimals : Nat) : Binary64 :=
  mathRound (n * .finite (10 ^ decimals)) / .finite (10 ^ decimals)

structure CalculateListedPriceParams where
  model : String
  inputTokens : Binary64
  outputTokens : Binary64
  markupPercent : Binary64
  additionalApis : List AdditionalApiCost := []

structure ListedPriceResult where
  rawCost : Binary64
  listedPrice : Binary64
  markupPercent : Binary64
deriving DecidableEq

def calculateListedPrice (params : CalculateListedPriceParams) :
    Except PricingError ListedPriceResult :=
  if ¬params.markupPercent.isFinite ∨ params.markupPercent < .finite 1 ∨
      .finite 50 < params.markupPercent then
    .error (.markupPercent params.markupPercent)
  else do
    let rawCost ← estimateJobCost params.model params.inputTokens params.outputTokens
      params.additionalApis
    let listedPrice :=
      round (rawCost * (.finite 1 + params.markupPercent / .finite 100)) 6
    .ok { rawCost := round rawCost 6, listedPrice, markupPercent := params.markupPercent }

structure RecommendPriceParams where
  model : String
  inputTokens : Binary64
  outputTokens : Binary64
  category : JobCategory
  privacyTier : PrivacyTier := .standard
  vrscUsdRate : Binary64 := .finite 1
  additionalApis : List AdditionalApiCost := []

structure PricePoint where
  usd : Binary64
  vrsc : Binary64
  marginPercent : Binary64
deriving DecidableEq

structure PriceRecommendation where
  rawCost : Binary64
  platformFee : Binary64
  privacyMultiplier : Binary64
  minimum : PricePoint
  recommended : PricePoint
  premium : PricePoint
  ceiling : PricePoint
deriving DecidableEq

def makePricePoint (adjustedCost vrscUsdRate usd : Binary64) : PricePoint where
  usd := round usd 6
  vrsc := round (usd / vrscUsdRate) 6
  marginPercent :=
    if .finite 0 < adjustedCost then
      round ((usd - adjustedCost) / adjustedCost * .finite 100) 1
    else .finite 0

def recommendPrice (params : RecommendPriceParams) : Except PricingError PriceRecommendation :=
  if params.vrscUsdRate ≤ .finite 0 ∨ ¬params.vrscUsdRate.isFinite then
    .error (.vrscUsdRate params.vrscUsdRate)
  else do
    let rawCost ← estimateJobCost params.model params.inputTokens params.outputTokens
      params.additionalApis
    let adjustedCost := privacyPremium rawCost params.privacyTier
    let markup := categoryMarkups params.category
    if .finite 1 ≤ Pricing.platformFee then .error .platformFee
    else
      let minUsd := adjustedCost / (.finite 1 - Pricing.platformFee)
      let midMarkup := (markup.min + markup.max) / .finite 2
      let recUsd := adjustedCost * midMarkup
      let premUsd := adjustedCost * markup.max
      let ceilUsd := premUsd * .finite 1.5
      let makePricePoint := makePricePoint adjustedCost params.vrscUsdRate
      .ok {
        rawCost := round rawCost 6
        platformFee := round (adjustedCost * Pricing.platformFee) 6
        privacyMultiplier := privacyMultipliers params.privacyTier
        minimum := makePricePoint minUsd
        recommended := makePricePoint recUsd
        premium := makePricePoint premUsd
        ceiling := makePricePoint ceilUsd }

end SovAgent.Pricing

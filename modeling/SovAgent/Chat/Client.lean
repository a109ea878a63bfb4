import SovAgent.Foundation.Execution
import SovAgent.Foundation.ListUpdate

/-! # ChatClient

The rooms that a chat client means to be in, its sockets, and the packets about
rooms on each connection. socket.io reconnects a socket by itself and fires
`connect` on every connection; the server forgets the rooms of a dropped one.
-/

namespace SovAgent.Chat

inductive Packet where
  | joinJob (jobId : String)
  | leaveJob (jobId : String)
deriving DecidableEq, Repr

/-- A socket, with the variables of the `connect()` call that opened it. -/
structure ChatSocket where
  connected : Bool := false
  /-- The client disconnected it: it does not connect again. -/
  closed : Bool := false
  listening : Bool := true
  /-- The promise of `connect()` is settled, and its timer cleared. -/
  resolved : Bool := false
  /-- The current connection's `connect` event has been handled. -/
  handled : Bool := false
  sent : List Packet := []
  /-- Packets emitted without a connection, for the next one. -/
  sendBuffer : List Packet := []
deriving DecidableEq, Repr

namespace ChatSocket

def emit (socket : ChatSocket) (packet : Packet) : ChatSocket :=
  if socket.connected then { socket with sent := socket.sent ++ [packet] }
  else { socket with sendBuffer := socket.sendBuffer ++ [packet] }

def drop (socket : ChatSocket) : ChatSocket :=
  { socket with connected := false, handled := false, sent := [] }

def disconnect (socket : ChatSocket) : ChatSocket :=
  { socket.drop with closed := true }

def removeAllListeners (socket : ChatSocket) : ChatSocket :=
  { socket with listening := false }

/-- A connection starts: what was buffered is sent, then `connect` is fired. -/
def onconnect (socket : ChatSocket) : ChatSocket :=
  { socket with
    connected := true
    handled := socket.listening
    sent := socket.sendBuffer
    sendBuffer := [] }

def settle (socket : ChatSocket) : ChatSocket :=
  { socket with resolved := true }

def joinAll (socket : ChatSocket) (rooms : List String) : ChatSocket :=
  rooms.foldl (fun socket jobId => socket.emit (.joinJob jobId)) socket

end ChatSocket

structure ChatClient where
  sockets : List ChatSocket := []
  /-- The field `socket`, as a position in `sockets`. -/
  socket : Option Nat := none
  joinedRooms : List String := []
  reconnectCycles : Nat := 0
  /-- `connect()` calls that await their token. -/
  fetching : Nat := 0
  /-- Reconnect cycles that sleep before they call `connect()`. -/
  sleeping : Nat := 0
deriving DecidableEq, Repr

def maxReconnectCycles : Nat := 3

namespace ChatClient

def current? (client : ChatClient) : Option ChatSocket :=
  client.socket.bind fun index => client.sockets[index]?

def onSocket (client : ChatClient) (index : Nat) (change : ChatSocket → ChatSocket) :
    ChatClient :=
  { client with sockets := client.sockets.modify index change }

def onCurrent (client : ChatClient) (change : ChatSocket → ChatSocket) : ChatClient :=
  match client.socket with
  | none => client
  | some index => client.onSocket index change

def isConnected (client : ChatClient) : Bool :=
  match client.current? with
  | none => false
  | some socket => socket.connected

def connect (client : ChatClient) : ChatClient :=
  { client.onCurrent fun socket => socket.removeAllListeners.disconnect with
    socket := none
    fetching := client.fetching + 1 }

/-- `connect()` from the answer about the token to the promise it returns. -/
def afterToken (client : ChatClient) (granted : Bool) : ChatClient :=
  if granted then
    { client with
      sockets := client.sockets ++ [{}]
      socket := some client.sockets.length
      fetching := client.fetching - 1 }
  else { client with fetching := client.fetching - 1 }

def joinJob (client : ChatClient) (jobId : String) : ChatClient :=
  let joined := { client with
    joinedRooms :=
      if jobId ∈ client.joinedRooms then client.joinedRooms
      else client.joinedRooms ++ [jobId] }
  if client.isConnected then joined.onCurrent fun socket => socket.emit (.joinJob jobId)
  else joined

def leaveJob (client : ChatClient) (jobId : String) : ChatClient :=
  let left := { client with joinedRooms := client.joinedRooms.filter (· ≠ jobId) }
  if client.isConnected then left.onCurrent fun socket => socket.emit (.leaveJob jobId)
  else left

def disconnect (client : ChatClient) : ChatClient :=
  { client.onCurrent fun socket => socket.removeAllListeners.disconnect with
    socket := none
    joinedRooms := [] }

/-- The callback of `connect`. It joins on the field `socket`, which need not be
the socket that connected. -/
def onConnect (client : ChatClient) (index : Nat) (resolved : Bool) : ChatClient :=
  let counted := { client with reconnectCycles := 0 }
  if resolved then counted
  else (counted.onSocket index ChatSocket.settle).onCurrent fun socket =>
    socket.joinAll client.joinedRooms

/-- The callback of `reconnect_failed`. -/
def onReconnectFailed (client : ChatClient) : ChatClient :=
  let cycles := client.reconnectCycles + 1
  if maxReconnectCycles < cycles then { client with reconnectCycles := cycles }
  else { client with reconnectCycles := cycles, sleeping := client.sleeping + 1 }

end ChatClient

inductive ChatEvent where
  | connect
  | token (granted : Bool)
  | wake
  | joinJob (jobId : String)
  | leaveJob (jobId : String)
  | disconnect
  | connected (index : Nat)
  | dropped (index : Nat)
  | connectError (index : Nat)
  | timeout (index : Nat)
  | reconnectFailed (index : Nat)
deriving DecidableEq, Repr

open ChatSocket

def chatStep (client : ChatClient) : ChatEvent → Option ChatClient
  | .connect => some client.connect
  | .token granted => if 0 < client.fetching then some (client.afterToken granted) else none
  | .wake =>
      if 0 < client.sleeping then
        some { client with sleeping := client.sleeping - 1 }.connect
      else none
  | .joinJob jobId => some (client.joinJob jobId)
  | .leaveJob jobId => some (client.leaveJob jobId)
  | .disconnect => some client.disconnect
  | .connected index =>
      client.sockets[index]?.bind fun socket =>
        if socket.connected ∨ socket.closed then none
        else
          let opened := client.onSocket index onconnect
          if socket.listening then some (opened.onConnect index socket.resolved)
          else some opened
  | .dropped index =>
      client.sockets[index]?.bind fun socket =>
        if socket.connected then some (client.onSocket index drop) else none
  | .connectError index =>
      client.sockets[index]?.bind fun socket =>
        if socket.connected ∨ socket.closed then none
        else if socket.listening then some (client.onSocket index settle)
        else some client
  | .timeout index =>
      client.sockets[index]?.bind fun socket =>
        if socket.resolved then none
        else some ((client.onSocket index settle).onCurrent ChatSocket.disconnect)
  | .reconnectFailed index =>
      client.sockets[index]?.bind fun socket =>
        if socket.connected ∨ socket.closed then none
        else if socket.listening then some client.onReconnectFailed
        else some client

def chatMachine : Machine ChatClient ChatEvent where
  step := chatStep

end SovAgent.Chat

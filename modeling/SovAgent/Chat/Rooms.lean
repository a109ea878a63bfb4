import SovAgent.Chat.Client

/-! # Room membership across reconnects

A client that has handled the `connect` event of its connection ought to have
joined, on that connection, every room in `joinedRooms`.
-/

namespace SovAgent.Chat

/-! ## Packets of a socket -/

namespace ChatSocket

/-- Once `connect` is handled, the rooms have been joined on the connection. -/
def Joined (rooms : List String) (socket : ChatSocket) : Prop :=
  socket.connected = true → socket.handled = true →
    ∀ jobId ∈ rooms, Packet.joinJob jobId ∈ socket.sent

variable {rooms : List String} {socket : ChatSocket}

theorem emit_connected (socket : ChatSocket) (packet : Packet) :
    (socket.emit packet).connected = socket.connected := by
  rw [emit]
  split <;> rfl

theorem emit_handled (socket : ChatSocket) (packet : Packet) :
    (socket.emit packet).handled = socket.handled := by
  rw [emit]
  split <;> rfl

theorem emit_sent (connected : socket.connected = true) (packet : Packet) :
    (socket.emit packet).sent = socket.sent ++ [packet] := by
  rw [emit, if_pos connected]

theorem Joined.emit (joined : socket.Joined rooms) (packet : Packet) :
    (socket.emit packet).Joined rooms := by
  intro connected handled jobId member
  rw [emit_connected] at connected
  rw [emit_handled] at handled
  rw [emit_sent connected]
  exact List.mem_append_left _ (joined connected handled jobId member)

theorem joined_disconnect (rooms : List String) (socket : ChatSocket) :
    socket.disconnect.Joined rooms := by
  intro connected
  cases connected

theorem joined_drop (rooms : List String) (socket : ChatSocket) : socket.drop.Joined rooms := by
  intro connected
  cases connected

theorem joinAll_connected (socket : ChatSocket) (rooms : List String) :
    (socket.joinAll rooms).connected = socket.connected := by
  induction rooms generalizing socket with
  | nil => rfl
  | cons jobId rooms induction => exact (induction _).trans (emit_connected _ _)

theorem joinAll_sent (connected : socket.connected = true) (rooms : List String) :
    (socket.joinAll rooms).sent = socket.sent ++ rooms.map .joinJob := by
  induction rooms generalizing socket with
  | nil => exact (List.append_nil _).symm
  | cons jobId rooms induction =>
      have stillConnected := (emit_connected socket (.joinJob jobId)).trans connected
      have later := induction stillConnected
      rw [emit_sent connected, List.append_assoc] at later
      exact later

theorem joined_joinAll (rooms : List String) (socket : ChatSocket) :
    (socket.joinAll rooms).Joined rooms := by
  intro connected _ jobId member
  rw [joinAll_connected] at connected
  rw [joinAll_sent connected]
  exact List.mem_append_right _ (List.mem_map_of_mem member)

end ChatSocket

/-! ## The current socket -/

namespace ChatClient

variable {client : ChatClient} {index : Nat} {change : ChatSocket → ChatSocket}

theorem current?_onCurrent (client : ChatClient) (change : ChatSocket → ChatSocket) :
    (client.onCurrent change).current? = client.current?.map change := by
  cases found : client.socket with
  | none => simp [onCurrent, current?, found]
  | some index => simp [onCurrent, onSocket, current?, found]

theorem onCurrent_joinedRooms (client : ChatClient) (change : ChatSocket → ChatSocket) :
    (client.onCurrent change).joinedRooms = client.joinedRooms := by
  rw [onCurrent]
  split <;> rfl

theorem current?_onSocket_same (isCurrent : client.socket = some index) :
    (client.onSocket index change).current? = client.sockets[index]?.map change := by
  simp [onSocket, current?, isCurrent]

theorem current?_onSocket_other (other : client.socket ≠ some index) :
    (client.onSocket index change).current? = client.current? := by
  cases found : client.socket with
  | none => simp [onSocket, current?, found]
  | some position =>
      have apart : index ≠ position := by
        intro equal
        subst equal
        exact other found
      simp [onSocket, current?, found, List.getElem?_modify, apart]

/-! ## Joined rooms -/

/-- Connected, with `connect` handled, the client has joined its rooms. -/
def RoomsJoined (client : ChatClient) : Prop :=
  ∀ socket, client.current? = some socket → socket.Joined client.joinedRooms

theorem roomsJoined_of_no_socket (absent : client.socket = none) : client.RoomsJoined := by
  intro socket found
  rw [current?, absent] at found
  cases found

theorem RoomsJoined.onSocket (joined : client.RoomsJoined) (index : Nat)
    (keeps : ∀ socket, socket.Joined client.joinedRooms →
      (change socket).Joined client.joinedRooms) :
    (client.onSocket index change).RoomsJoined := by
  intro socket found
  by_cases isCurrent : client.socket = some index
  · rw [current?_onSocket_same isCurrent] at found
    rcases Option.map_eq_some_iff.mp found with ⟨before, beforeFound, rfl⟩
    apply keeps before
    apply joined before
    rw [current?, isCurrent]
    exact beforeFound
  · rw [current?_onSocket_other isCurrent] at found
    exact joined socket found

theorem RoomsJoined.onCurrent (joined : client.RoomsJoined)
    (keeps : ∀ socket, socket.Joined client.joinedRooms →
      (change socket).Joined client.joinedRooms) :
    (client.onCurrent change).RoomsJoined := by
  rw [ChatClient.onCurrent]
  split
  · exact joined
  · exact joined.onSocket _ keeps

theorem roomsJoined_onCurrent
    (establishes : ∀ socket, (change socket).Joined client.joinedRooms) :
    (client.onCurrent change).RoomsJoined := by
  intro socket found
  rw [current?_onCurrent] at found
  rcases Option.map_eq_some_iff.mp found with ⟨before, _, rfl⟩
  rw [onCurrent_joinedRooms]
  exact establishes before

theorem RoomsJoined.congr {other : ChatClient} (joined : client.RoomsJoined)
    (sockets : other.sockets = client.sockets) (socket : other.socket = client.socket)
    (rooms : other.joinedRooms = client.joinedRooms) : other.RoomsJoined := by
  intro found isCurrent
  rw [current?, sockets, socket] at isCurrent
  rw [rooms]
  exact joined found isCurrent

/-! ## Calls -/

theorem RoomsJoined.afterToken (joined : client.RoomsJoined) (granted : Bool) :
    (client.afterToken granted).RoomsJoined := by
  cases granted with
  | false => exact joined.congr rfl rfl rfl
  | true =>
      intro socket found connected
      have opened : socket = {} := by
        simpa [ChatClient.afterToken, current?] using found.symm
      rw [opened] at connected
      cases connected

theorem isConnected_eq (client : ChatClient) :
    client.isConnected = client.current?.any ChatSocket.connected := by
  rw [isConnected]
  cases client.current? <;> rfl

theorem RoomsJoined.joinJob (joined : client.RoomsJoined) (jobId : String) :
    (client.joinJob jobId).RoomsJoined := by
  have rooms : ∀ room,
      room ∈ (if jobId ∈ client.joinedRooms then client.joinedRooms
        else client.joinedRooms ++ [jobId]) → room ∈ client.joinedRooms ∨ room = jobId := by
    intro room member
    split at member
    · exact .inl member
    · exact (List.mem_append.mp member).imp_right List.mem_singleton.mp
  rw [ChatClient.joinJob]
  split
  · intro socket found
    rw [current?_onCurrent] at found
    rcases Option.map_eq_some_iff.mp found with ⟨before, beforeFound, rfl⟩
    intro connected handled room member
    rw [onCurrent_joinedRooms] at member
    rw [ChatSocket.emit_connected] at connected
    rw [ChatSocket.emit_handled] at handled
    rw [ChatSocket.emit_sent connected]
    rcases rooms room member with old | rfl
    · exact List.mem_append_left _ (joined before beforeFound connected handled room old)
    · exact List.mem_append_right _ (List.mem_singleton_self _)
  · rename_i offline
    intro socket found connected
    have online : client.isConnected = true := by
      have same : client.current? = some socket := found
      rw [isConnected_eq, same]
      exact connected
    exact absurd online offline

theorem RoomsJoined.leaveJob (joined : client.RoomsJoined) (jobId : String) :
    (client.leaveJob jobId).RoomsJoined := by
  let left := { client with joinedRooms := client.joinedRooms.filter (· ≠ jobId) }
  have fewer : left.RoomsJoined := by
    intro socket found connected handled room member
    exact joined socket found connected handled room (List.mem_filter.mp member).1
  rw [ChatClient.leaveJob]
  split
  · exact fewer.onCurrent fun socket before => before.emit _
  · exact fewer

theorem RoomsJoined.onConnect (joined : client.RoomsJoined) (index : Nat) (resolved : Bool) :
    (client.onConnect index resolved).RoomsJoined := by
  cases resolved with
  | true => exact joined.congr rfl rfl rfl
  | false => exact roomsJoined_onCurrent fun socket => socket.joined_joinAll client.joinedRooms

theorem RoomsJoined.onReconnectFailed (joined : client.RoomsJoined) :
    client.onReconnectFailed.RoomsJoined := by
  rw [ChatClient.onReconnectFailed]
  split <;> exact joined.congr rfl rfl rfl

end ChatClient

/-! ## Runs -/

/-- A `connect` event that the current socket handles either settles the promise
of `connect()`, or finds the joins of all rooms among the buffered packets. -/
def Rejoins (client : ChatClient) : ChatEvent → Prop
  | .connected index =>
      client.socket = some index → ∀ socket, client.sockets[index]? = some socket →
        socket.listening = true → socket.resolved = true →
          ∀ jobId ∈ client.joinedRooms, Packet.joinJob jobId ∈ socket.sendBuffer
  | _ => True

/-- A `connect` event after the promise is settled sends what was buffered, and no more. -/
theorem roomsJoined_onconnect_iff {client : ChatClient} {index : Nat} {socket : ChatSocket}
    (found : client.sockets[index]? = some socket) (isCurrent : client.socket = some index)
    (listening : socket.listening = true) :
    (client.onSocket index ChatSocket.onconnect).RoomsJoined ↔
      ∀ jobId ∈ client.joinedRooms, Packet.joinJob jobId ∈ socket.sendBuffer := by
  have opened : (client.onSocket index ChatSocket.onconnect).current? = some socket.onconnect := by
    rw [ChatClient.current?_onSocket_same isCurrent, found]
    rfl
  constructor
  · intro joined
    exact joined socket.onconnect opened rfl listening
  · intro buffered other otherFound
    rw [opened, Option.some.injEq] at otherFound
    rw [← otherFound]
    exact fun _ _ => buffered

theorem roomsJoined_connected_iff {client next : ChatClient} {index : Nat}
    (joined : client.RoomsJoined) (stepped : chatStep client (.connected index) = some next) :
    Rejoins client (.connected index) ↔ next.RoomsJoined := by
  rcases Option.bind_eq_some_iff.mp stepped with ⟨socket, found, opens⟩
  split at opens
  · cases opens
  · by_cases isCurrent : client.socket = some index
    · by_cases listening : socket.listening = true
      · rw [if_pos listening, Option.some.injEq] at opens
        subst opens
        cases settled : socket.resolved with
        | false =>
            apply iff_of_true
            · intro _ other otherFound _ otherSettled
              rw [found, Option.some.injEq] at otherFound
              rw [← otherFound, settled] at otherSettled
              cases otherSettled
            · exact ChatClient.roomsJoined_onCurrent fun socket => socket.joined_joinAll _
        | true =>
            have rejoined := roomsJoined_onconnect_iff found isCurrent listening
            constructor
            · intro rejoins
              have buffered := rejoins isCurrent socket found listening settled
              exact (rejoined.mpr buffered).congr rfl rfl rfl
            · intro after _ other otherFound _ _
              rw [found, Option.some.injEq] at otherFound
              rw [← otherFound]
              exact rejoined.mp (after.congr rfl rfl rfl)
      · rw [if_neg listening, Option.some.injEq] at opens
        subst opens
        apply iff_of_true
        · intro _ other otherFound otherListening
          rw [found, Option.some.injEq] at otherFound
          rw [otherFound] at listening
          exact absurd otherListening listening
        · intro other otherFound _ handled
          rw [ChatClient.current?_onSocket_same isCurrent, found] at otherFound
          rw [← Option.some.inj otherFound] at handled
          exact absurd handled listening
    · have opened : (client.onSocket index ChatSocket.onconnect).RoomsJoined := by
        intro other otherFound
        rw [ChatClient.current?_onSocket_other isCurrent] at otherFound
        exact joined other otherFound
      apply iff_of_true
      · exact fun now => absurd now isCurrent
      · split at opens
        · rw [← Option.some.inj opens]
          exact opened.onConnect index socket.resolved
        · rw [← Option.some.inj opens]
          exact opened

theorem roomsJoined_step {client next : ChatClient} {event : ChatEvent}
    (joined : client.RoomsJoined) (notConnected : ∀ index, event ≠ .connected index)
    (stepped : chatStep client event = some next) : next.RoomsJoined := by
  cases event with
  | connect =>
      rw [← Option.some.inj stepped]
      exact ChatClient.roomsJoined_of_no_socket rfl
  | token granted =>
      simp only [chatStep, Option.ite_none_right_eq_some, Option.some.injEq] at stepped
      rw [← stepped.2]
      exact joined.afterToken granted
  | wake =>
      simp only [chatStep, Option.ite_none_right_eq_some, Option.some.injEq] at stepped
      rw [← stepped.2]
      exact ChatClient.roomsJoined_of_no_socket rfl
  | joinJob jobId =>
      rw [← Option.some.inj stepped]
      exact joined.joinJob jobId
  | leaveJob jobId =>
      rw [← Option.some.inj stepped]
      exact joined.leaveJob jobId
  | disconnect =>
      rw [← Option.some.inj stepped]
      exact ChatClient.roomsJoined_of_no_socket rfl
  | connected index => exact absurd rfl (notConnected index)
  | dropped index =>
      rcases Option.bind_eq_some_iff.mp stepped with ⟨socket, _, drops⟩
      simp only [Option.ite_none_right_eq_some, Option.some.injEq] at drops
      rw [← drops.2]
      exact joined.onSocket index fun socket _ => socket.joined_drop _
  | connectError index =>
      rcases Option.bind_eq_some_iff.mp stepped with ⟨socket, _, fails⟩
      split at fails
      · cases fails
      · split at fails
        · rw [← Option.some.inj fails]
          exact joined.onSocket index fun socket before => before
        · rw [← Option.some.inj fails]
          exact joined
  | timeout index =>
      rcases Option.bind_eq_some_iff.mp stepped with ⟨socket, _, expires⟩
      split at expires
      · cases expires
      · rw [← Option.some.inj expires]
        exact ChatClient.roomsJoined_onCurrent fun socket => socket.joined_disconnect _
  | reconnectFailed index =>
      rcases Option.bind_eq_some_iff.mp stepped with ⟨socket, _, fails⟩
      split at fails
      · cases fails
      · split at fails
        · rw [← Option.some.inj fails]
          exact joined.onReconnectFailed
        · rw [← Option.some.inj fails]
          exact joined

theorem rejoins_iff_roomsJoined {client next : ChatClient} {event : ChatEvent}
    (joined : client.RoomsJoined) (stepped : chatStep client event = some next) :
    Rejoins client event ↔ next.RoomsJoined := by
  by_cases connection : ∃ index, event = .connected index
  · rcases connection with ⟨index, rfl⟩
    exact roomsJoined_connected_iff joined stepped
  · have notConnected : ∀ index, event ≠ .connected index :=
      fun index same => connection ⟨index, same⟩
    apply iff_of_true
    · cases event with
      | connected index => exact absurd rfl (notConnected index)
      | _ => trivial
    · exact roomsJoined_step joined notConnected stepped

/-- The rooms are joined in every state of a run exactly when every `connect`
event that follows the first rejoins them. -/
theorem rooms_survive_iff_rejoined {events : List ChatEvent} {final : ChatClient}
    (executed : chatMachine.run {} events = some final) :
    chatMachine.Runs Rejoins {} events final ↔
      chatMachine.Throughout ChatClient.RoomsJoined {} events := by
  have exact_ : ∀ client event next, True → client.RoomsJoined →
      chatMachine.step client event = some next → (Rejoins client event ↔ next.RoomsJoined) :=
    fun _ _ _ _ joined stepped => rejoins_iff_roomsJoined joined stepped
  apply Machine.runs_iff_throughout (fun _ _ _ _ _ => trivial) exact_ trivial _ executed
  exact ChatClient.roomsJoined_of_no_socket rfl

def oneConnection : List ChatEvent := [.joinJob "job", .connect, .token true, .connected 0]

def reconnection : List ChatEvent := oneConnection ++ [.dropped 0, .connected 0]

instance (client : ChatClient) (event : ChatEvent) : Decidable (Rejoins client event) :=
  match event with
  | .connected index =>
      inferInstanceAs (Decidable (client.socket = some index →
        ∀ socket ∈ client.sockets[index]?, socket.listening = true → socket.resolved = true →
          ∀ jobId ∈ client.joinedRooms, Packet.joinJob jobId ∈ socket.sendBuffer))
  | .connect | .token _ | .wake | .joinJob _ | .leaveJob _ | .disconnect | .dropped _
  | .connectError _ | .timeout _ | .reconnectFailed _ => isTrue trivial

def newSocket : List ChatEvent :=
  oneConnection ++
    [.dropped 0, .joinJob "late", .reconnectFailed 0, .wake, .token true, .connected 1]

theorem rooms_survive_new_socket :
    chatMachine.Throughout ChatClient.RoomsJoined {} newSocket ∧
      ∃ final socket, chatMachine.run {} newSocket = some final ∧
        final.current? = some socket ∧
          socket.sent = [Packet.joinJob "job", Packet.joinJob "late"] := by
  have runs : chatMachine.Runs Rejoins {} newSocket _ := Machine.runs_of_runAllowed rfl
  exact ⟨(rooms_survive_iff_rejoined runs.executes).mp runs, _, _, runs.executes, rfl, rfl⟩

/-- The transport comes back by itself, and the room is not joined again. -/
theorem reconnection_loses_rooms :
    ∃ final socket, chatMachine.run {} reconnection = some final ∧
      final.current? = some socket ∧ socket.connected = true ∧ socket.handled = true ∧
      "job" ∈ final.joinedRooms ∧ Packet.joinJob "job" ∉ socket.sent := by
  refine ⟨_, _, rfl, rfl, ?_⟩
  decide

end SovAgent.Chat

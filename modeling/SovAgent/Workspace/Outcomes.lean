import SovAgent.Workspace.Client

/-! # What a tool call is settled with

Calls share one map of pending requests, and results, timers and disconnections come in any
order. Each call is settled by the first event after it that is meant for it.
-/

namespace SovAgent.Workspace

def ClientEvent.sentId : ClientEvent → Option String
  | .sendToolCall _ id => some id
  | .openSocket | .connection _ | .mcpResult _ | .timeout _ | .disconnect => none

def ClientEvent.settlement (tool id : String) (index : Nat) :
    ClientEvent → Option (Except String Json)
  | .mcpResult data =>
      ((validateMcpResult data).filter (·.id = id)).map ValidatedResult.settlement
  | .timeout fired => if fired = index then some (.error s!"Tool call timeout: {tool}") else none
  | .disconnect => some (.error "Workspace disconnected")
  | .openSocket | .connection _ | .sendToolCall _ _ => none

/-! ## Ids -/

def WorkspaceClient.ids (client : WorkspaceClient) : List String := client.calls.map ToolCall.id

@[simp] theorem ids_settle (client : WorkspaceClient) (timer : Timer)
    (settlement : Except String Json) (index : Nat) :
    (client.settle timer settlement index).ids = client.ids := by
  have unchanged (call : ToolCall) : (call.settle timer settlement).id = call.id := rfl
  exact map_modify unchanged client.calls index

theorem ids_disconnect (client : WorkspaceClient) : client.disconnect.ids = client.ids := by
  have each (indices : List Nat) (client : WorkspaceClient) :
      (indices.foldl (fun client => client.settle .cleared (.error "Workspace disconnected"))
        client).ids = client.ids := by
    induction indices generalizing client with
    | nil => rfl
    | cons index rest induction => rw [List.foldl_cons, induction, ids_settle]
  exact each client.pendingCalls client

theorem ids_step {client next : WorkspaceClient} {event : ClientEvent}
    (stepped : clientMachine.step client event = some next) :
    next.ids = client.ids ++ event.sentId.toList := by
  cases event with
  | openSocket =>
      cases stepped
      exact (List.append_nil _).symm
  | connection connected =>
      cases stepped
      exact (List.append_nil _).symm
  | sendToolCall tool id =>
      cases stepped
      rw [WorkspaceClient.sendToolCall]
      split <;> simp [WorkspaceClient.ids, ClientEvent.sentId]
  | mcpResult data =>
      cases stepped
      rw [WorkspaceClient.onMcpResult]
      split
      · exact (List.append_nil _).symm
      · split
        · exact (List.append_nil _).symm
        · rw [ids_settle]
          exact (List.append_nil _).symm
  | timeout index =>
      simp only [clientMachine] at stepped
      split at stepped
      · cases stepped
      · split at stepped
        · cases stepped
          rw [WorkspaceClient.onTimeout, ids_settle]
          exact (List.append_nil _).symm
        · cases stepped
  | disconnect =>
      cases stepped
      exact (ids_disconnect client).trans (List.append_nil _).symm

theorem ids_run {start client : WorkspaceClient} {events : List ClientEvent}
    (executed : clientMachine.run start events = some client) :
    client.ids = start.ids ++ events.filterMap ClientEvent.sentId := by
  induction events generalizing start with
  | nil =>
      cases executed
      exact (List.append_nil _).symm
  | cons event events induction =>
      rcases Option.bind_eq_some_iff.mp executed with ⟨middle, stepped, rest⟩
      rw [induction rest, ids_step stepped, List.append_assoc]
      cases event <;> rfl

/-! ## Calls that are settled -/

theorem getElem?_settle_ne {client : WorkspaceClient} {timer : Timer}
    {settlement : Except String Json} {settled index : Nat} (other : settled ≠ index) :
    (client.settle timer settlement settled).calls[index]? = client.calls[index]? := by
  exact List.getElem?_modify_ne _ client.calls other

theorem Tracked.step_settled {client next : WorkspaceClient} (tracked : Tracked client)
    {event : ClientEvent} (stepped : clientMachine.step client event = some next) {index : Nat}
    {call : ToolCall} (found : client.calls[index]? = some call)
    (stopped : call.timer ≠ .running) : next.calls[index]? = some call := by
  have unpending : ∀ id, client.pendingRequests.get? id ≠ some index := by
    intro id entry
    rcases tracked.pending entry with ⟨other, otherFound, _, running⟩
    rw [found] at otherFound
    cases otherFound
    exact stopped running
  cases event with
  | openSocket =>
      cases stepped
      exact found
  | connection connected =>
      cases stepped
      exact found
  | sendToolCall tool id =>
      cases stepped
      rw [WorkspaceClient.sendToolCall]
      split <;> exact getElem?_concat_eq_some.mpr (.inl found)
  | mcpResult data =>
      cases stepped
      rw [WorkspaceClient.onMcpResult]
      split
      · exact found
      · split
        · exact found
        · rename_i settled entry
          rw [getElem?_settle_ne]
          · exact found
          · rintro rfl
            exact unpending _ entry
  | timeout fired =>
      simp only [clientMachine] at stepped
      split at stepped
      · cases stepped
      · rename_i other otherFound
        split at stepped
        · rename_i running
          cases stepped
          rw [WorkspaceClient.onTimeout, getElem?_settle_ne]
          · exact found
          · rintro rfl
            rw [found] at otherFound
            cases otherFound
            exact stopped running
        · cases stepped
  | disconnect =>
      cases stepped
      apply (foldl_settle tracked.pendingCalls_nodup client index call).mpr
      refine ⟨call, found, ?_⟩
      rw [if_neg]
      intro member
      rcases List.mem_map.mp member with ⟨entry, entryMember, rfl⟩
      exact unpending _ (Record.get?_eq_some_iff.mpr entryMember)

theorem Tracked.run_settled {start client : WorkspaceClient} (tracked : Tracked start)
    {events : List ClientEvent} (executed : clientMachine.run start events = some client)
    {index : Nat} {call : ToolCall} (found : start.calls[index]? = some call)
    (stopped : call.timer ≠ .running) : client.calls[index]? = some call := by
  induction events generalizing start with
  | nil =>
      cases executed
      exact found
  | cons event events induction =>
      rcases Option.bind_eq_some_iff.mp executed with ⟨middle, stepped, rest⟩
      exact induction (tracked.step stepped) rest (tracked.step_settled stepped found stopped)

theorem Tracked.of_run {client : WorkspaceClient} {events : List ClientEvent}
    (executed : clientMachine.run {} events = some client) : Tracked client := by
  have runs : clientMachine.Runs (fun _ _ => True) {} events client :=
    Machine.runs_of_run (fun _ _ _ => trivial) executed
  exact runs.preserves Tracked (fun _ _ _ _ tracked stepped => tracked.step stepped) .initial

/-! ## A call that waits -/

structure Waits (client : WorkspaceClient) (tool id : String) (index : Nat) : Prop where
  call : client.calls[index]? = some ⟨tool, id, .running, []⟩
  entry : client.pendingRequests.get? id = some index
  alone : ∀ {position : Nat}, client.ids[position]? = some id → position = index

def SettledWith (client : WorkspaceClient) (tool id : String) (index : Nat)
    (settlement : Except String Json) : Prop :=
  ∃ timer, timer ≠ Timer.running ∧ client.calls[index]? = some ⟨tool, id, timer, [settlement]⟩

theorem settled_here {client : WorkspaceClient} {tool id : String} {index : Nat}
    (call : client.calls[index]? = some ⟨tool, id, .running, []⟩) {timer : Timer}
    (stopped : timer ≠ .running) (settlement : Except String Json) :
    SettledWith (client.settle timer settlement index) tool id index settlement := by
  refine ⟨timer, stopped, getElem?_modify_eq_some.mpr ⟨_, call, ?_⟩⟩
  rw [if_pos rfl]
  rfl

theorem Waits.alone_step {client next : WorkspaceClient} {tool id : String} {index : Nat}
    (waits : Waits client tool id index) {event : ClientEvent} (fresh : event.sentId ≠ some id)
    (stepped : clientMachine.step client event = some next) {position : Nat}
    (found : next.ids[position]? = some id) : position = index := by
  rw [ids_step stepped] at found
  cases sent : event.sentId with
  | none =>
      rw [sent, Option.toList_none, List.append_nil] at found
      exact waits.alone found
  | some drawn =>
      rw [sent, Option.toList_some] at found
      rcases getElem?_concat_eq_some.mp found with before | ⟨_, same⟩
      · exact waits.alone before
      · exact absurd (sent.trans (congrArg some same.symm)) fresh

theorem Waits.settle_other {client : WorkspaceClient} {tool id : String} {index : Nat}
    (waits : Waits client tool id index) {other : ToolCall} {settled : Nat}
    (found : client.calls[settled]? = some other) (apart : other.id ≠ id) (timer : Timer)
    (settlement : Except String Json) :
    Waits ((client.forget other.id).settle timer settlement settled) tool id index where
  call := by
    rw [getElem?_settle_ne]
    · exact waits.call
    · rintro rfl
      rw [waits.call] at found
      cases found
      exact apart rfl
  entry := by
    have kept : (client.pendingRequests.filterKeys (· ≠ other.id)).get? id = some index := by
      rw [Record.get?_filterKeys, waits.entry]
      simp [apart.symm]
    exact kept
  alone := by
    rw [ids_settle]
    exact waits.alone

theorem Waits.onMcpResult {client : WorkspaceClient} {tool id : String} {index : Nat}
    (tracked : Tracked client) (waits : Waits client tool id index) (data : Json) :
    match (ClientEvent.mcpResult data).settlement tool id index with
    | some settlement => SettledWith (client.onMcpResult data) tool id index settlement
    | none => Waits (client.onMcpResult data) tool id index := by
  rw [WorkspaceClient.onMcpResult, ClientEvent.settlement]
  cases validateMcpResult data with
  | none => exact waits
  | some validated =>
      by_cases mine : validated.id = id
      · have chosen : (some validated).filter (·.id = id) = some validated :=
          Option.filter_some_pos (decide_eq_true mine)
        rw [chosen, Option.map_some]
        dsimp only
        rw [mine, waits.entry]
        exact settled_here waits.call (by decide) validated.settlement
      · have passed : (some validated).filter (·.id = id) = none :=
          Option.filter_some_neg (decide_eq_false mine)
        rw [passed, Option.map_none]
        dsimp only
        cases entry : client.pendingRequests.get? validated.id with
        | none => exact waits
        | some settled =>
            rcases tracked.pending entry with ⟨other, found, same, _⟩
            rw [← same] at mine ⊢
            exact waits.settle_other found mine .cleared validated.settlement

/-- The event that is meant for a waiting call settles it, and any other leaves it waiting. -/
theorem Waits.step {client next : WorkspaceClient} {tool id : String} {index : Nat}
    (tracked : Tracked client) (waits : Waits client tool id index) {event : ClientEvent}
    (fresh : event.sentId ≠ some id) (stepped : clientMachine.step client event = some next) :
    match event.settlement tool id index with
    | some settlement => SettledWith next tool id index settlement
    | none => Waits next tool id index := by
  cases event with
  | openSocket =>
      cases stepped
      exact ⟨waits.call, waits.entry, waits.alone⟩
  | connection connected =>
      cases stepped
      exact ⟨waits.call, waits.entry, waits.alone⟩
  | sendToolCall other drawn =>
      have apart : id ≠ drawn := fun same => fresh (congrArg some same.symm)
      refine ⟨?_, ?_, waits.alone_step fresh stepped⟩
      · cases stepped
        rw [WorkspaceClient.sendToolCall]
        split <;> exact getElem?_concat_eq_some.mpr (.inl waits.call)
      · cases stepped
        rw [WorkspaceClient.sendToolCall]
        split
        · exact waits.entry
        · rw [Record.get?_set, if_neg apart]
          exact waits.entry
  | mcpResult data =>
      cases stepped
      exact waits.onMcpResult tracked data
  | timeout fired =>
      simp only [clientMachine] at stepped
      split at stepped
      · cases stepped
      · rename_i other found
        split at stepped
        · cases stepped
          rw [ClientEvent.settlement, WorkspaceClient.onTimeout]
          by_cases mine : fired = index
          · subst mine
            rw [waits.call] at found
            cases found
            rw [if_pos rfl]
            exact settled_here waits.call (by decide) _
          · have apart : other.id ≠ id := by
              intro same
              apply mine
              apply waits.alone
              rw [WorkspaceClient.ids, List.getElem?_map, found, Option.map_some, same]
            rw [if_neg mine]
            exact waits.settle_other found apart .fired _
        · cases stepped
  | disconnect =>
      cases stepped
      refine ⟨.cleared, by decide, ?_⟩
      apply (foldl_settle tracked.pendingCalls_nodup client index _).mpr
      have member : index ∈ client.pendingCalls :=
        List.mem_map.mpr ⟨(id, index), Record.get?_eq_some_iff.mp waits.entry, rfl⟩
      refine ⟨_, waits.call, ?_⟩
      rw [if_pos member]
      rfl

theorem Waits.run {start client : WorkspaceClient} {tool id : String} {index : Nat}
    (tracked : Tracked start) (waits : Waits start tool id index) {events : List ClientEvent}
    (fresh : ∀ event ∈ events, event.sentId ≠ some id)
    (executed : clientMachine.run start events = some client) :
    ∃ call, client.calls[index]? = some call ∧ call.tool = tool ∧ call.id = id ∧
      call.settlements = (events.findSome? (ClientEvent.settlement tool id index)).toList := by
  induction events generalizing start with
  | nil =>
      cases executed
      exact ⟨_, waits.call, rfl, rfl, rfl⟩
  | cons event events induction =>
      rcases Option.bind_eq_some_iff.mp executed with ⟨middle, stepped, rest⟩
      rw [List.forall_mem_cons] at fresh
      have settles := waits.step tracked fresh.1 stepped
      rw [List.findSome?_cons]
      cases settlement : event.settlement tool id index with
      | none =>
          rw [settlement] at settles
          exact induction (tracked.step stepped) settles fresh.2 rest
      | some settlement' =>
          rw [settlement] at settles
          rcases settles with ⟨timer, stopped, found⟩
          exact ⟨_, (tracked.step stepped).run_settled rest found stopped, rfl, rfl, rfl⟩

/-! ## Any run -/

/-- Whatever other calls, results, timers and disconnections there are: a call that is sent on
a connection is settled with what the first event says that is meant for it, or waits until
there is one, and a call that is sent without a connection fails at once. -/
theorem toolCall_outcome {before after : List ClientEvent} {tool id : String}
    {client : WorkspaceClient} (fresh : ∀ event ∈ before ++ after, event.sentId ≠ some id)
    (executed : clientMachine.run {} (before ++ .sendToolCall tool id :: after) = some client) :
    ∃ earlier call, clientMachine.run {} before = some earlier ∧
      client.calls[earlier.calls.length]? = some call ∧ call.tool = tool ∧ call.id = id ∧
        call.settlements =
          if earlier.socket = true ∧ earlier.connected = true then
            (after.findSome? (ClientEvent.settlement tool id earlier.calls.length)).toList
          else [.error "Workspace not connected"] := by
  rw [Machine.run_append] at executed
  rcases Option.bind_eq_some_iff.mp executed with ⟨earlier, ran, executed⟩
  rcases Option.bind_eq_some_iff.mp executed with ⟨sent, stepped, executed⟩
  have tracked := (Tracked.of_run ran).step stepped
  have later : ∀ event ∈ after, event.sentId ≠ some id :=
    fun event member => fresh event (List.mem_append_right _ member)
  have alone : ∀ {position : Nat}, sent.ids[position]? = some id →
      position = earlier.calls.length := by
    intro position found
    rw [ids_step stepped] at found
    rcases getElem?_concat_eq_some.mp found with before | here
    · have listed := List.mem_of_getElem? before
      rw [ids_run ran] at listed
      rcases List.mem_filterMap.mp listed with ⟨event, member, drawn⟩
      exact absurd drawn (fresh event (List.mem_append_left _ member))
    · rw [here.1, WorkspaceClient.ids, List.length_map]
  cases stepped
  by_cases online : earlier.socket = true ∧ earlier.connected = true
  · have waits : Waits (earlier.sendToolCall tool id) tool id earlier.calls.length := by
      refine ⟨?_, ?_, alone⟩
      · simp [WorkspaceClient.sendToolCall, online.1, online.2]
      · simp [WorkspaceClient.sendToolCall, online.1, online.2]
    rcases waits.run tracked later executed with ⟨call, found, tool, id, settlements⟩
    refine ⟨earlier, call, ran, found, tool, id, ?_⟩
    rw [if_pos online]
    exact settlements
  · have failed : (earlier.sendToolCall tool id).calls[earlier.calls.length]? =
        some ⟨tool, id, .unset, [.error "Workspace not connected"]⟩ := by
      rw [WorkspaceClient.sendToolCall, if_pos (Decidable.not_and_iff_not_or_not.mp online)]
      simp
    have stopped : Timer.unset ≠ .running := by decide
    refine ⟨earlier, _, ran, tracked.run_settled executed failed stopped, rfl, rfl, ?_⟩
    rw [if_neg online]

private def crossing : List ClientEvent := [
  .sendToolCall "write_file" "second",
  .mcpResult (.object [("id", .string "second"), ("success", .bool false)]),
  .mcpResult (.object [("id", .string "first"), ("success", .bool true),
    ("result", .object [("content", .array [])])]),
  .disconnect]

theorem toolCall_outcome_crossing :
    ∃ client call,
      clientMachine.run {}
        ([.openSocket, .connection true] ++ .sendToolCall "read_file" "first" :: crossing) =
          some client ∧
      client.calls[0]? = some call ∧
      call.settlements = [.ok (.object [("content", .array [])])] := by
  have ran : (clientMachine.run {} ([.openSocket, .connection true] ++
      .sendToolCall "read_file" "first" :: crossing)).isSome = true := by rfl
  rcases Option.isSome_iff_exists.mp ran with ⟨client, executed⟩
  have fresh : ∀ event ∈ [ClientEvent.openSocket, .connection true] ++ crossing,
      event.sentId ≠ some "first" := by decide
  rcases toolCall_outcome fresh executed with ⟨earlier, call, before, found, _, _, settlements⟩
  cases before
  exact ⟨client, call, executed, found, settlements⟩

end SovAgent.Workspace

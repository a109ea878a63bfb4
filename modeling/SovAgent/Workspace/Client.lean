import SovAgent.Foundation.Checks
import SovAgent.Foundation.Execution
import SovAgent.Foundation.JsonText
import SovAgent.Foundation.ListUpdate
import SovAgent.Foundation.Text

/-! # WorkspaceClient

The tool calls that an agent sends to the workspace relay. A result, a timer and
`disconnect` compete for the entry of a call in `pendingRequests`.
-/

namespace SovAgent.Workspace

def assertSafePath (path : String) : Except String Unit := do
  require (path ≠ "") "Workspace path must be a non-empty string"
  require (¬startsWith path "/") s!"Workspace path must be relative, not absolute: \"{path}\""
  require (¬(path.toList.splitOnP (fun character => character ∈ ['\\', '/'])).contains ['.', '.'])
    s!"Workspace path must not contain \"..\" traversal: \"{path}\""

/-! ## Results of the relay -/

def maxResultSize : Nat := 10 * 1024 * 1024

/-- The value where the environment sets none. -/
def maxResultAggregate : Nat := 40 * 1024 * 1024

/-- The value where the environment sets none. -/
def maxResultItems : Nat := 1024

/-- The loop over `data.result.content`. -/
def validateItems : (aggregate : Nat) → List Json → Bool
  | _, [] => true
  | aggregate, item :: rest =>
      match item.get? "type", item.get? "text" with
      | some (.string _), some (.string text) =>
          if utf16Length text > maxResultSize then false
          else if aggregate + utf16Length text > maxResultAggregate then false
          else validateItems (aggregate + utf16Length text) rest
      | _, _ => false

/-- A result that is valid: its `result`, or its `error` if it has one. -/
structure ValidatedResult where
  id : String
  outcome : Except (Option String) Json

def validateMcpResult (data : Json) : Option ValidatedResult :=
  match data.get? "id", data.get? "success" with
  | some (.string id), some (.bool true) =>
      match data.get? "result" with
      | none => none
      | some result =>
          match result.get? "content" with
          | some (.array items) =>
              if items.length > maxResultItems then none
              else if validateItems 0 items then some ⟨id, .ok result⟩
              else none
          | _ => none
  | some (.string id), some (.bool false) =>
      match data.get? "error" with
      | none => some ⟨id, .error none⟩
      | some (.string error) => some ⟨id, .error (some error)⟩
      | some _ => none
  | _, _ => none

/-- What the promise of a call is settled with. -/
def ValidatedResult.settlement (validated : ValidatedResult) : Except String Json :=
  match validated.outcome with
  | .ok result => .ok result
  | .error error => .error ((error.filter (· ≠ "")).getD "Tool call failed")

/-! ## The client -/

inductive Timer where
  | unset
  | running
  | cleared
  | fired
deriving DecidableEq, Repr

structure ToolCall where
  tool : String
  id : String
  timer : Timer
  /-- What its `resolve` and `reject` have been called with. -/
  settlements : List (Except String Json) := []

def ToolCall.settle (timer : Timer) (settlement : Except String Json) (call : ToolCall) :
    ToolCall :=
  { call with timer, settlements := call.settlements ++ [settlement] }

structure WorkspaceClient where
  /-- Whether the field `socket` is set. -/
  socket : Bool := false
  connected : Bool := false
  /-- Calls by their ids, as positions in `calls`. -/
  pendingRequests : Record String Nat := .empty
  calls : List ToolCall := []

namespace WorkspaceClient

def settle (client : WorkspaceClient) (timer : Timer) (settlement : Except String Json)
    (index : Nat) : WorkspaceClient :=
  { client with calls := client.calls.modify index (ToolCall.settle timer settlement) }

def forget (client : WorkspaceClient) (id : String) : WorkspaceClient :=
  { client with pendingRequests := client.pendingRequests.filterKeys (· ≠ id) }

def sendToolCall (client : WorkspaceClient) (tool id : String) : WorkspaceClient :=
  if ¬client.socket ∨ ¬client.connected then
    { client with
      calls := client.calls ++ [⟨tool, id, .unset, [.error "Workspace not connected"]⟩] }
  else
    { client with
      pendingRequests := client.pendingRequests.set id client.calls.length
      calls := client.calls ++ [⟨tool, id, .running, []⟩] }

/-- The callback of a call's timer. -/
def onTimeout (client : WorkspaceClient) (index : Nat) (call : ToolCall) : WorkspaceClient :=
  (client.forget call.id).settle .fired (.error s!"Tool call timeout: {call.tool}") index

def onMcpResult (client : WorkspaceClient) (data : Json) : WorkspaceClient :=
  match validateMcpResult data with
  | none => client
  | some validated =>
      match client.pendingRequests.get? validated.id with
      | none => client
      | some index => (client.forget validated.id).settle .cleared validated.settlement index

def pendingCalls (client : WorkspaceClient) : List Nat :=
  client.pendingRequests.entries.map Prod.snd

def disconnect (client : WorkspaceClient) : WorkspaceClient :=
  { client.pendingCalls.foldl
      (fun client => client.settle .cleared (.error "Workspace disconnected")) client with
    pendingRequests := .empty
    socket := false
    connected := false }

end WorkspaceClient

inductive ClientEvent where
  | openSocket
  /-- The socket or the relay says whether there is a connection. -/
  | connection (connected : Bool)
  | sendToolCall (tool id : String)
  | mcpResult (data : Json)
  | timeout (index : Nat)
  | disconnect

/-- The timer of a call fires while it runs. -/
def clientMachine : Machine WorkspaceClient ClientEvent where
  step client
    | .openSocket => some { client with socket := true }
    | .connection connected => some { client with connected }
    | .sendToolCall tool id => some (client.sendToolCall tool id)
    | .mcpResult data => some (client.onMcpResult data)
    | .timeout index =>
        match client.calls[index]? with
        | none => none
        | some call => if call.timer = .running then some (client.onTimeout index call) else none
    | .disconnect => some client.disconnect

/-! ## Every promise settles once -/

/-- A promise settles at most once and, if not before, when its timer fires; then
no entry of `pendingRequests` is its own. -/
def SettlesOnce (client : WorkspaceClient) : Prop :=
  ∀ (index : Nat) (call : ToolCall), client.calls[index]? = some call →
    call.settlements.length ≤ 1 ∧
    (call.settlements = [] → call.timer = .running) ∧
    (call.timer = .fired → call.settlements ≠ []) ∧
    (call.settlements ≠ [] → ∀ id, client.pendingRequests.get? id ≠ some index)

/-- A call whose timer runs is not settled; any other is settled once. -/
def ToolCall.Accounted (call : ToolCall) : Prop :=
  if call.timer = .running then call.settlements = [] else call.settlements.length = 1

/-- Entries are of calls with their id that wait. -/
structure Tracked (client : WorkspaceClient) : Prop where
  accounted : ∀ {index : Nat} {call : ToolCall}, client.calls[index]? = some call →
    call.Accounted
  pending : ∀ {id : String} {index : Nat}, client.pendingRequests.get? id = some index →
    ∃ call, client.calls[index]? = some call ∧ call.id = id ∧ call.timer = .running

theorem ToolCall.accounted_settle {call : ToolCall} {timer : Timer}
    (waiting : call.settlements = []) (stopped : timer ≠ .running)
    (settlement : Except String Json) : (call.settle timer settlement).Accounted := by
  rw [Accounted, settle, if_neg stopped, waiting]
  rfl

namespace Tracked

variable {client : WorkspaceClient}

theorem initial : Tracked {} where
  accounted := by simp
  pending := by simp

theorem waiting (tracked : Tracked client) {index : Nat} {call : ToolCall}
    (found : client.calls[index]? = some call) (running : call.timer = .running) :
    call.settlements = [] := by
  have accounted := tracked.accounted found
  rwa [ToolCall.Accounted, if_pos running] at accounted

/-- The call of an id leaves `pendingRequests` and is settled. -/
theorem settle (tracked : Tracked client) {index : Nat} {call : ToolCall}
    (found : client.calls[index]? = some call) (running : call.timer = .running)
    {timer : Timer} (stopped : timer ≠ .running) (settlement : Except String Json) :
    Tracked ((client.forget call.id).settle timer settlement index) where
  accounted := by
    intro position entry entryFound
    rcases getElem?_modify_eq_some.mp entryFound with ⟨before, beforeFound, rfl⟩
    change client.calls[position]? = some before at beforeFound
    split
    · rename_i same
      subst same
      rw [found] at beforeFound
      cases beforeFound
      exact ToolCall.accounted_settle (tracked.waiting found running) stopped settlement
    · exact tracked.accounted beforeFound
  pending := by
    intro id position entry
    have kept : client.pendingRequests.get? id = some position ∧ id ≠ call.id := by
      simpa [WorkspaceClient.settle, WorkspaceClient.forget, and_comm] using entry
    rcases tracked.pending kept.1 with ⟨other, otherFound, rfl, otherRunning⟩
    refine ⟨other, getElem?_modify_eq_some.mpr ⟨other, otherFound, ?_⟩, rfl, otherRunning⟩
    rw [if_neg]
    intro same
    subst same
    rw [found] at otherFound
    cases otherFound
    exact kept.2 rfl

theorem sendToolCall (tracked : Tracked client) (tool id : String) :
    Tracked (client.sendToolCall tool id) := by
  rw [WorkspaceClient.sendToolCall]
  split
  · constructor
    · intro index call found
      rcases getElem?_concat_eq_some.mp found with old | ⟨_, rfl⟩
      · exact tracked.accounted old
      · exact rfl
    · intro other index entry
      rcases tracked.pending entry with ⟨call, found, same, running⟩
      exact ⟨call, getElem?_concat_eq_some.mpr (.inl found), same, running⟩
  · constructor
    · intro index call found
      rcases getElem?_concat_eq_some.mp found with old | ⟨_, rfl⟩
      · exact tracked.accounted old
      · exact rfl
    · intro other index entry
      rw [Record.get?_set] at entry
      split at entry
      · rename_i same
        cases entry
        exact ⟨_, getElem?_concat_eq_some.mpr (.inr ⟨rfl, rfl⟩), same.symm, rfl⟩
      · rcases tracked.pending entry with ⟨call, found, same, running⟩
        exact ⟨call, getElem?_concat_eq_some.mpr (.inl found), same, running⟩

theorem pendingCalls_nodup (tracked : Tracked client) : client.pendingCalls.Nodup := by
  apply List.Nodup.map_on _ (List.Nodup.of_map Prod.fst client.pendingRequests.distinct)
  intro first firstMember second secondMember same
  rcases tracked.pending (Record.get?_eq_some_iff.mpr firstMember)
    with ⟨call, found, firstId, _⟩
  rcases tracked.pending (Record.get?_eq_some_iff.mpr secondMember)
    with ⟨other, otherFound, secondId, _⟩
  rw [← same, found] at otherFound
  cases otherFound
  exact Prod.ext (firstId.symm.trans secondId) same

end Tracked

theorem foldl_settle {timer : Timer} {settlement : Except String Json} {indices : List Nat}
    (distinct : indices.Nodup) (client : WorkspaceClient) (index : Nat) (call : ToolCall) :
    (indices.foldl (fun client => client.settle timer settlement) client).calls[index]? =
        some call ↔
      ∃ before, client.calls[index]? = some before ∧
        call = if index ∈ indices then before.settle timer settlement else before := by
  induction indices generalizing client with
  | nil => simp
  | cons first rest induction =>
      rw [List.nodup_cons] at distinct
      rw [List.foldl_cons, induction distinct.2]
      simp only [WorkspaceClient.settle, getElem?_modify_eq_some, List.mem_cons]
      constructor
      · intro holds
        rcases holds with ⟨middle, ⟨before, found, rfl⟩, rfl⟩
        refine ⟨before, found, ?_⟩
        by_cases here : first = index
        · subst here
          rw [if_pos rfl, if_neg distinct.1, if_pos (.inl rfl)]
        · have other : index ≠ first := fun same => here same.symm
          simp only [here, other, if_false, false_or]
      · intro holds
        rcases holds with ⟨before, found, rfl⟩
        refine ⟨_, ⟨before, found, rfl⟩, ?_⟩
        by_cases here : first = index
        · subst here
          rw [if_pos (.inl rfl), if_neg distinct.1, if_pos rfl]
        · have other : index ≠ first := fun same => here same.symm
          simp only [here, other, if_false, false_or]

theorem Tracked.disconnect {client : WorkspaceClient} (tracked : Tracked client) :
    Tracked client.disconnect where
  accounted := by
    intro index call found
    rcases (foldl_settle tracked.pendingCalls_nodup client index call).mp found
      with ⟨before, beforeFound, rfl⟩
    split
    · rename_i member
      rcases List.mem_map.mp member with ⟨entry, entryMember, rfl⟩
      rcases tracked.pending (Record.get?_eq_some_iff.mpr entryMember)
        with ⟨pending, pendingFound, _, running⟩
      rw [beforeFound] at pendingFound
      cases pendingFound
      apply ToolCall.accounted_settle (tracked.waiting beforeFound running)
      decide
    · exact tracked.accounted beforeFound
  pending := by
    intro id index entry
    cases entry

theorem Tracked.step {client next : WorkspaceClient} {event : ClientEvent}
    (tracked : Tracked client) (stepped : clientMachine.step client event = some next) :
    Tracked next := by
  cases event with
  | openSocket =>
      cases stepped
      exact ⟨tracked.accounted, tracked.pending⟩
  | connection connected =>
      cases stepped
      exact ⟨tracked.accounted, tracked.pending⟩
  | sendToolCall tool id =>
      cases stepped
      exact tracked.sendToolCall tool id
  | mcpResult data =>
      cases stepped
      rw [WorkspaceClient.onMcpResult]
      split
      · exact tracked
      · rename_i validated _
        split
        · exact tracked
        · rename_i index entry
          rcases tracked.pending entry with ⟨call, found, same, running⟩
          rw [← same]
          exact tracked.settle found running (by decide) validated.settlement
  | timeout index =>
      simp only [clientMachine] at stepped
      split at stepped
      · cases stepped
      · rename_i call found
        split at stepped
        · rename_i running
          cases stepped
          exact tracked.settle found running (by decide) _
        · cases stepped
  | disconnect =>
      cases stepped
      exact tracked.disconnect

theorem Tracked.settlesOnce {client : WorkspaceClient} (tracked : Tracked client) :
    SettlesOnce client := by
  intro index call found
  have accounted := tracked.accounted found
  rw [ToolCall.Accounted] at accounted
  split at accounted
  · rename_i running
    refine ⟨by rw [accounted]; exact Nat.zero_le 1, fun _ => running, ?_, ?_⟩
    · intro fired
      rw [running] at fired
      cases fired
    · intro settled
      exact absurd accounted settled
  · rename_i stopped
    have settled : call.settlements ≠ [] := List.ne_nil_of_length_eq_add_one accounted
    refine ⟨accounted.le, fun empty => absurd empty settled, fun _ => settled, ?_⟩
    intro _ id entry
    rcases tracked.pending entry with ⟨other, otherFound, _, running⟩
    rw [found] at otherFound
    cases otherFound
    exact stopped running

theorem settlesOnce_of_run {events : List ClientEvent} {client : WorkspaceClient}
    (executed : clientMachine.run {} events = some client) : SettlesOnce client := by
  have runs : clientMachine.Runs (fun _ _ => True) {} events client :=
    Machine.runs_of_run (fun _ _ _ => trivial) executed
  have tracked : Tracked client :=
    runs.preserves Tracked (fun _ _ _ _ tracked stepped => tracked.step stepped) .initial
  exact tracked.settlesOnce

end SovAgent.Workspace

import SovAgent.Buyer.WorkspaceAccess
import SovAgent.Foundation.Execution

/-! # The transfer limit

The limit is checked when a call arrives. A write that waits for its approval is carried out
later, whatever other calls have transferred in the meantime.
-/

namespace SovAgent.Buyer

/-! ## A session -/

namespace BuyerWorkspace

def awaitsApproval (workspace : BuyerWorkspace) (call : McpCall) : Bool :=
  call.tool = "write_file" ∧ ¬workspace.config.autoApproveWrites ∧ workspace.config.onWrite

/-- What `handleMcpCall` does from the write gate on. -/
def proceed (workspace : BuyerWorkspace) (host : Host) (call : McpCall) : Handled :=
  match workspace.approval host call with
  | .error _ => ⟨workspace, [], none⟩
  | .ok false => ⟨workspace, [], some {
      id := call.id
      outcome := .error "Write rejected by buyer agent"
      metadata := { operation := "write", path := call.relPath, approved := some false } }⟩
  | .ok true =>
      let execution := workspace.executeTool host call
      match execution.outcome with
      | .ok (workspace, result) => ⟨workspace, execution.accesses, some result⟩
      | .error error => ⟨workspace, execution.accesses,
          some (blocked call.id call.tool call.relPath error error)⟩

end BuyerWorkspace

structure RelaySession where
  workspace : BuyerWorkspace
  waiting : List McpCall := []
  results : List McpResult := []

def RelaySession.record (session : RelaySession) (handled : Handled) : RelaySession :=
  { session with
    workspace := handled.workspace
    results := session.results ++ handled.result.toList }

inductive SessionEvent where
  | arrive (call : McpCall) (host : Host)
  /-- The gate answers a write that waits. -/
  | resume (index : Nat) (host : Host)

def sessionMachine : Machine RelaySession SessionEvent where
  step session
    | .arrive call host =>
        match session.workspace.refusal call with
        | some refused => some (session.record ⟨session.workspace, [], some refused⟩)
        | none =>
            if session.workspace.awaitsApproval call then
              some { session with waiting := session.waiting ++ [call] }
            else some (session.record (session.workspace.proceed host call))
    | .resume index host =>
        match session.waiting[index]? with
        | none => none
        | some call => some
            ({ session with waiting := session.waiting.eraseIdx index }.record
              (session.workspace.proceed host call))

theorem handleMcpCall_eq (workspace : BuyerWorkspace) (host : Host) (call : McpCall) :
    handleMcpCall workspace host call =
      match workspace.refusal call with
      | some refused => ⟨workspace, [], some refused⟩
      | none => workspace.proceed host call := by
  rw [handleMcpCall]
  cases workspace.refusal call <;> rfl

/-! ## The counters -/

def McpResult.transferred (result : McpResult) : Nat := result.metadata.sizeBytes.getD 0

def BuyerWorkspaceStats.count (stats : BuyerWorkspaceStats) (result : McpResult) :
    BuyerWorkspaceStats :=
  match result.outcome with
  | .error _ => stats
  | .ok _ => {
      reads := stats.reads + if result.metadata.operation = "read" then 1 else 0
      writes := stats.writes + if result.metadata.operation = "write" then 1 else 0
      listDirs := stats.listDirs + if result.metadata.operation = "list_dir" then 1 else 0
      totalBytes := stats.totalBytes + result.transferred }

structure Counted (workspace later : BuyerWorkspace) (result : McpResult) : Prop where
  bytes : later.sessionTransferBytes = workspace.sessionTransferBytes + result.transferred
  stats : later.stats = workspace.stats.count result
  limited : result.transferred ≤ maxFileSize

theorem counted_error {workspace : BuyerWorkspace} {result : McpResult} {error : String}
    (failed : result.outcome = .error error) (empty : result.metadata.sizeBytes = none) :
    Counted workspace workspace result := by
  have nothing : result.transferred = 0 := by rw [McpResult.transferred, empty]; rfl
  refine ⟨?_, ?_, ?_⟩
  · rw [nothing, Nat.add_zero]
  · rw [BuyerWorkspaceStats.count, failed]
  · rw [nothing]
    exact Nat.zero_le _

theorem counted_blocked (workspace : BuyerWorkspace) (id operation path error reason : String) :
    Counted workspace workspace (blocked id operation path error reason) :=
  counted_error rfl rfl

theorem refusal_counted {workspace : BuyerWorkspace} {call : McpCall} {result : McpResult}
    (refused : workspace.refusal call = some result) : Counted workspace workspace result := by
  simp only [BuyerWorkspace.refusal] at refused
  split_ifs at refused
  · cases refused
    apply counted_blocked
  · cases refused
    apply counted_blocked
  · cases refused
    apply counted_blocked

section Tools

variable {workspace later : BuyerWorkspace} {host : Host} {id path : String}
  {result : McpResult}

theorem execListDirectory_counted
    (done : (workspace.execListDirectory host id path).outcome = .ok (later, result)) :
    Counted workspace later result := by
  simp only [BuyerWorkspace.execListDirectory] at done
  split at done
  · cases done
    apply counted_blocked
  · split at done
    · cases done
      apply counted_blocked
    · simp only [bind_eq_ok] at done
      rcases done with ⟨entries, _, listed, _, made⟩
      cases made
      exact ⟨rfl, rfl, Nat.zero_le _⟩

theorem execReadFile_counted
    (done : (workspace.execReadFile host id path).outcome = .ok (later, result)) :
    Counted workspace later result := by
  simp only [BuyerWorkspace.execReadFile] at done
  split at done
  · cases done
    apply counted_blocked
  · split at done
    · cases done
      apply counted_blocked
    · split at done
      · cases done
        apply counted_blocked
      · rename_i small
        simp only [bind_eq_ok] at done
        rcases done with ⟨buffer, _, made⟩
        split at made
        · cases made
          apply counted_blocked
        · cases made
          exact ⟨rfl, rfl, Nat.le_of_not_lt small⟩

theorem execWriteFile_counted {content : Option String}
    (done : (workspace.execWriteFile host id path content).outcome = .ok (later, result)) :
    Counted workspace later result := by
  simp only [BuyerWorkspace.execWriteFile] at done
  split at done
  · cases done
    apply counted_blocked
  · split at done
    · cases done
    · split at done
      · cases done
        apply counted_blocked
      · rename_i small
        split at done
        · cases done
        · simp only [bind_eq_ok] at done
          rcases done with ⟨_, _, made⟩
          cases made
          exact ⟨rfl, rfl, Nat.le_of_not_lt small⟩

end Tools

theorem executeTool_counted {workspace later : BuyerWorkspace} {host : Host} {call : McpCall}
    {result : McpResult} (done : (workspace.executeTool host call).outcome = .ok (later, result)) :
    Counted workspace later result := by
  simp only [BuyerWorkspace.executeTool] at done
  split at done
  · exact execListDirectory_counted done
  · exact execReadFile_counted done
  · exact execWriteFile_counted done
  · cases done
    apply counted_blocked

theorem proceed_counted (workspace : BuyerWorkspace) (host : Host) (call : McpCall) :
    match (workspace.proceed host call).result with
    | none => (workspace.proceed host call).workspace = workspace
    | some result => Counted workspace (workspace.proceed host call).workspace result := by
  simp only [BuyerWorkspace.proceed]
  cases workspace.approval host call with
  | error error => rfl
  | ok approved =>
      cases approved with
      | false => exact counted_error rfl rfl
      | true =>
          dsimp only
          cases done : (workspace.executeTool host call).outcome with
          | error error => apply counted_blocked
          | ok made => exact executeTool_counted done

/-! ## Any session -/

structure RelaySession.Accounted (session : RelaySession) : Prop where
  bytes : session.workspace.sessionTransferBytes =
    (session.results.map McpResult.transferred).sum
  stats : session.workspace.stats = session.results.foldl BuyerWorkspaceStats.count {}

theorem RelaySession.Accounted.record {session : RelaySession} (accounted : session.Accounted)
    {handled : Handled}
    (counted : match handled.result with
      | none => handled.workspace = session.workspace
      | some result => Counted session.workspace handled.workspace result) :
    (session.record handled).Accounted := by
  rcases handled with ⟨later, accesses, result⟩
  cases result with
  | none =>
      cases counted
      refine ⟨?_, ?_⟩
      · rw [RelaySession.record, Option.toList_none, List.append_nil]
        exact accounted.bytes
      · rw [RelaySession.record, Option.toList_none, List.append_nil]
        exact accounted.stats
  | some result =>
      refine ⟨?_, ?_⟩
      · rw [RelaySession.record, Option.toList_some, List.map_append, List.sum_append,
          ← accounted.bytes]
        exact counted.bytes
      · rw [RelaySession.record, Option.toList_some, List.foldl_append, ← accounted.stats]
        exact counted.stats

theorem accounted_step {session next : RelaySession} {event : SessionEvent}
    (accounted : session.Accounted) (stepped : sessionMachine.step session event = some next) :
    next.Accounted := by
  cases event with
  | arrive call host =>
      simp only [sessionMachine] at stepped
      split at stepped
      · rename_i refused
        cases stepped
        exact accounted.record (refusal_counted refused)
      · split at stepped
        · cases stepped
          exact ⟨accounted.bytes, accounted.stats⟩
        · cases stepped
          exact accounted.record (proceed_counted session.workspace host call)
  | resume index host =>
      simp only [sessionMachine] at stepped
      split at stepped
      · cases stepped
      · rename_i call _
        cases stepped
        let others : RelaySession := { session with waiting := session.waiting.eraseIdx index }
        have kept : others.Accounted := ⟨accounted.bytes, accounted.stats⟩
        exact kept.record (proceed_counted session.workspace host call)

/-- Above the limit, what was transferred and what the waiting writes may still transfer is
at most one file for each call that was in flight. -/
def RelaySession.Limited (writes : Nat) (session : RelaySession) : Prop :=
  session.workspace.sessionTransferBytes ≤ maxSessionTransfer ∨
  session.workspace.sessionTransferBytes + session.waiting.length * maxFileSize ≤
    maxSessionTransfer + (writes + 1) * maxFileSize

theorem proceed_bytes (workspace : BuyerWorkspace) (host : Host) (call : McpCall) :
    (workspace.proceed host call).workspace.sessionTransferBytes ≤
      workspace.sessionTransferBytes + maxFileSize := by
  have counted := proceed_counted workspace host call
  split at counted
  · rw [counted]
    exact Nat.le_add_right _ _
  · rw [counted.bytes]
    exact Nat.add_le_add_left counted.limited _

theorem limited_step {writes : Nat} {session next : RelaySession} {event : SessionEvent}
    (few : session.waiting.length ≤ writes) (limited : session.Limited writes)
    (stepped : sessionMachine.step session event = some next) : next.Limited writes := by
  have files := Nat.mul_le_mul_right maxFileSize few
  cases event with
  | arrive call host =>
      simp only [sessionMachine] at stepped
      split at stepped
      · cases stepped
        exact limited
      · rename_i passed
        have within := (refusal_eq_none_iff.mp passed).2.2
        split at stepped
        · cases stepped
          exact .inl within
        · cases stepped
          -- the call itself is in flight, beside the writes that wait
          have grown := proceed_bytes session.workspace host call
          right
          rw [RelaySession.record, Nat.add_mul, Nat.one_mul]
          dsimp only
          omega
  | resume index host =>
      simp only [sessionMachine] at stepped
      split at stepped
      · cases stepped
      · rename_i call found
        cases stepped
        have grown := proceed_bytes session.workspace host call
        rcases List.getElem?_eq_some_iff.mp found with ⟨inside, _⟩
        have one : (session.waiting.eraseIdx index).length * maxFileSize + maxFileSize =
            session.waiting.length * maxFileSize := by
          rw [List.length_eraseIdx_of_lt inside, ← Nat.succ_mul]
          congr 1
          omega
        right
        rw [RelaySession.record]
        dsimp only
        rcases limited with within | above
        · rw [Nat.add_mul]
          omega
        · omega

/-- However calls, approvals and refusals are interleaved: the counters are those of the
results, and together the results transfer at most the limit and one file for each call in
flight, if no more than `writes` writes wait at a time. -/
theorem session_transfer {workspace : BuyerWorkspace} {writes : Nat}
    (unused : workspace.sessionTransferBytes = 0 ∧ workspace.stats = {})
    {events : List SessionEvent} {session : RelaySession}
    (runs : sessionMachine.Runs (fun session _ => session.waiting.length ≤ writes)
      { workspace } events session) :
    session.Accounted ∧
      (session.results.map McpResult.transferred).sum ≤
        maxSessionTransfer + (writes + 1) * maxFileSize := by
  have start : ({ workspace } : RelaySession).Accounted := ⟨unused.1, unused.2⟩
  have accounted := runs.preserves RelaySession.Accounted
    (fun _ _ _ _ accounted stepped => accounted_step accounted stepped) start
  have unspent : ({ workspace } : RelaySession).Limited writes := by
    left
    rw [unused.1]
    exact Nat.zero_le _
  have limited := runs.preserves (RelaySession.Limited writes)
    (fun _ _ _ few limited stepped => limited_step few limited stepped) unspent
  refine ⟨accounted, ?_⟩
  rw [← accounted.bytes]
  rcases limited with within | above <;> omega

private def askedProject : BuyerWorkspace where
  config := { projectDir := "/project", autoApproveWrites := false, onWrite := true }
  cwd := .topmost
  exclusions := []
  collected := ⟨.done, rfl⟩

/-- A file is read while a write waits for its approval. -/
private def overlapping : List SessionEvent := [
  .arrive ⟨"1", "write_file", some "notes.txt", some "hello"⟩ (openHost true),
  .arrive ⟨"2", "read_file", some "README.md", none⟩ (openHost false),
  .resume 0 (openHost true)]

theorem session_transfer_overlapping :
    ∃ session, sessionMachine.run { workspace := askedProject } overlapping = some session ∧
      session.Accounted ∧
      (session.results.map McpResult.transferred).sum ≤
        maxSessionTransfer + 2 * maxFileSize := by
  have ran : (sessionMachine.runAllowed (fun session _ => session.waiting.length ≤ 1)
      { workspace := askedProject } overlapping).isSome = true := by decide +kernel
  rcases Option.isSome_iff_exists.mp ran with ⟨session, executed⟩
  have runs := Machine.runs_of_runAllowed executed
  exact ⟨session, runs.executes, session_transfer ⟨rfl, rfl⟩ runs⟩

end SovAgent.Buyer

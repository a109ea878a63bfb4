import SovAgent.Buyer.WorkspaceAccess
import SovAgent.Workspace.Client

/-! # The events of a workspace

`handleMcpCall` on what the relay sends, where `params` is any value, with the
callbacks of the buyer. While the write gate is awaited the workspace may change
and the buyer may disconnect.
-/

namespace SovAgent.Buyer.Untyped

structure McpCall where
  id : String
  tool : String
  params : Option Json
deriving DecidableEq, Repr

def McpCall.relPath (call : McpCall) : Json :=
  ((call.params.bind (Json.get? "path")).filter Json.truthy).getD (.string ".")

def McpCall.content (call : McpCall) : Except String (Option Json) :=
  match call.params with
  | none => .error "Cannot read properties of undefined (reading 'content')"
  | some .null => .error "Cannot read properties of null (reading 'content')"
  | some params => .ok (params.get? "content")

/-- `isExcluded`, which looks for a method of a path that is no string. -/
def isExcluded (relPath : Json) (exclusions : List ExclusionEntry) : Except String Bool :=
  match relPath with
  | .string path => .ok (Buyer.isExcluded path exclusions)
  | _ => if exclusions = [] then .ok false else .error "relPath.startsWith is not a function"

/-- What a callback returned or threw. -/
structure Callback (Value : Type) where
  outcome : Except String Value
  /-- Whether the workspace has a socket afterwards. -/
  connected : Bool

/-- The files, the callbacks and the buffers during one call. A callback that is
not configured is one that does nothing. -/
structure Host extends Buyer.Host where
  onMcpCall : (tool : String) → (relPath : Json) → Callback Unit
  approve : (relPath : Json) → (content : Option Json) → Callback Bool
  /-- `Buffer.from(content, 'utf-8')` where `content` is no string. -/
  bufferFrom : Json → Except String (List Nat)
  /-- `writeFileSync(absPath, content, 'utf-8')` where `content` is no string. -/
  writeValue : AbsolutePath → Json → Except String Unit

inductive Answer where
  | typed (result : McpResult)
  /-- An error about a path that is no string. -/
  | untyped (id operation error : String) (path : Json) (approved : Option Bool)
      (blockReason : Option String)

def Answer.id : Answer → String
  | .typed result => result.id
  | .untyped id .. => id

def blocked (id operation : String) (path : Json) (error blockReason : String) : Answer :=
  match path with
  | .string text => .typed (Buyer.blocked id operation text error blockReason)
  | path => .untyped id operation error path none (some blockReason)

def rejected (id : String) (path : Json) : Answer :=
  match path with
  | .string path => .typed {
      id
      outcome := .error "Write rejected by buyer agent"
      metadata := { operation := "write", path, approved := some false } }
  | path => .untyped id "write" "Write rejected by buyer agent" path (some false) none

def sendResult (connected : Bool) (answer : Answer) : List Answer :=
  if connected then [answer] else []

/-! ## Handling -/

/-- `execWriteFile` of a content that is no string. -/
def execWriteValue (workspace : BuyerWorkspace) (host : Host) (callId relPath : String)
    (content : Json) : Except String McpResult :=
  match workspace.resolveSafe relPath with
  | none => .ok (Buyer.blocked callId "write" relPath
      "Path is outside the project directory" "path traversal")
  | some absPath => do
      let contentBuffer ← host.bufferFrom content
      let size := contentBuffer.length
      if size > maxFileSize then
        .ok (Buyer.blocked callId "write" relPath
          s!"Content too large: {size} bytes (max {maxFileSize})" "content too large")
      else do
        let parentDir := resolve absPath ".."
        (if host.exists parentDir then .ok () else host.mkdir parentDir : Except String Unit)
        host.writeValue absPath content
        let contentHash := s!"sha256:{host.sha256 contentBuffer}"
        .ok {
          id := callId
          outcome := .ok {
            text := s!"Written: {relPath} ({size} bytes)"
            path := relPath
            sizeBytes := some size
            contentHash := some contentHash }
          metadata := {
            operation := "write"
            path := relPath
            sizeBytes := some size
            contentHash := some contentHash
            approved := some true } }

/-- A tool on a path, which `resolveSafe` refuses unless it is a string. -/
def McpCall.onPath (call : McpCall) (operation : String)
    (exec : String → Except String McpResult) : Except String Answer :=
  match call.relPath with
  | .string path => (exec path).map .typed
  | path => .ok (blocked call.id operation path
      "Path is outside the project directory" "path traversal")

/-- The `try` block. -/
def executeTool (workspace : BuyerWorkspace) (host : Host) (call : McpCall) :
    Except String Answer :=
  match call.tool with
  | "list_directory" => call.onPath "list_dir" fun path =>
      (workspace.execListDirectory host.toHost call.id path).outcome.map Prod.snd
  | "read_file" => call.onPath "read" fun path =>
      (workspace.execReadFile host.toHost call.id path).outcome.map Prod.snd
  | "write_file" => do
      let content ← call.content
      call.onPath "write" fun path =>
        match content with
        | none => (workspace.execWriteFile host.toHost call.id path none).outcome.map Prod.snd
        | some (.string text) =>
            (workspace.execWriteFile host.toHost call.id path (some text)).outcome.map Prod.snd
        | some value => execWriteValue workspace host call.id path value
  | tool => .ok (blocked call.id tool call.relPath s!"Unknown tool: {tool}" "unknown tool")

/-- The `try` block and its `catch`. -/
def answerTool (workspace : BuyerWorkspace) (host : Host) (call : McpCall) : Answer :=
  match executeTool workspace host call with
  | .ok answer => answer
  | .error error => blocked call.id call.tool call.relPath error error

def isGated (workspace : BuyerWorkspace) (call : McpCall) : Bool :=
  call.tool = "write_file" ∧ ¬workspace.config.autoApproveWrites ∧ workspace.config.onWrite

section Handling

-- the list that the workspace holds, and the workspace before and after the write gate
variable (exclusions : List ExclusionEntry) (workspace later : BuyerWorkspace) (host : Host)

def handleMcpCall (call : McpCall) : List Answer :=
  let relPath := call.relPath
  let audit := host.onMcpCall call.tool relPath
  match audit.outcome with
  | .error _ => []
  | .ok _ =>
      if call.tool = "write_file" ∧ ¬workspace.config.permissions.write then
        sendResult audit.connected (blocked call.id "write" relPath
          "Write permission not granted" "write permission not granted")
      else
        match isExcluded relPath exclusions with
        | .error _ => []
        | .ok true => sendResult audit.connected (blocked call.id call.tool relPath
            "File is excluded from workspace" "excluded file")
        | .ok false =>
            if workspace.sessionTransferBytes > maxSessionTransfer then
              sendResult audit.connected (blocked call.id call.tool relPath
                "Session transfer limit exceeded (500MB)" "session transfer limit exceeded")
            else if isGated workspace call then
              match call.content with
              | .error _ => []
              | .ok content =>
                  let gate := host.approve relPath content
                  match gate.outcome with
                  | .error _ => []
                  | .ok false => sendResult gate.connected (rejected call.id relPath)
                  | .ok true => sendResult gate.connected (answerTool later host call)
            else sendResult audit.connected (answerTool workspace host call)

/-! ## Calls that are answered -/

def AnsweredOnce (call : McpCall) : Prop :=
  ∃ answer, handleMcpCall exclusions workspace later host call = [answer] ∧ answer.id = call.id

/-- The checks before the write gate let a write through to it. -/
def ReachesGate (call : McpCall) : Prop :=
  isGated workspace call = true ∧ workspace.config.permissions.write = true ∧
    isExcluded call.relPath exclusions = .ok false ∧
    workspace.sessionTransferBytes ≤ maxSessionTransfer

/-- No code outside of the `try` block throws, and the socket is not given up. -/
structure Answerable (call : McpCall) : Prop where
  /-- `onMcpCall` returns. -/
  audited : (host.onMcpCall call.tool call.relPath).outcome.isOk = true
  /-- The path is a string, or is not compared with an exclusion. -/
  comparable : call.relPath.isString = true ∨ exclusions = [] ∨
    (call.tool = "write_file" ∧ ¬workspace.config.permissions.write)
  /-- A write that is asked for has `params`, and `onWrite` returns. -/
  gated : ReachesGate exclusions workspace call → ∃ content, call.content = .ok content ∧
    (host.approve call.relPath content).outcome.isOk = true ∧
    (host.approve call.relPath content).connected = true
  connected : ¬ReachesGate exclusions workspace call →
    (host.onMcpCall call.tool call.relPath).connected = true

end Handling

/-! ## Ids -/

theorem blocked_id (id operation : String) (path : Json) (error blockReason : String) :
    (blocked id operation path error blockReason).id = id := by
  cases path
  all_goals rfl

theorem rejected_id (id : String) (path : Json) : (rejected id path).id = id := by
  cases path
  all_goals rfl

theorem execWriteValue_id {workspace : BuyerWorkspace} {host : Host} {id path : String}
    {content : Json} {result : McpResult}
    (done : execWriteValue workspace host id path content = .ok result) : result.id = id := by
  rw [execWriteValue] at done
  split at done
  · cases done
    rfl
  · simp only [bind_eq_ok] at done
    rcases done with ⟨contentBuffer, _, made⟩
    split at made
    · cases made
      rfl
    · simp only [seq_eq_ok] at made
      cases made.2.2
      rfl

theorem onPath_id {call : McpCall} {operation : String} {exec : String → Except String McpResult}
    {answer : Answer} (identified : ∀ path result, exec path = .ok result → result.id = call.id)
    (done : call.onPath operation exec = .ok answer) : answer.id = call.id := by
  rw [McpCall.onPath] at done
  split at done
  · rcases map_eq_ok.mp done with ⟨result, made, rfl⟩
    exact identified _ result made
  · cases done
    exact blocked_id _ _ _ _ _

theorem answerTool_id (workspace : BuyerWorkspace) (host : Host) (call : McpCall) :
    (answerTool workspace host call).id = call.id := by
  rw [answerTool]
  split
  · rename_i answer done
    rw [executeTool] at done
    split at done
    · apply onPath_id _ done
      intro path result made
      rcases map_eq_ok.mp made with ⟨⟨later, _⟩, listed, rfl⟩
      exact (execListDirectory_leaves listed).1
    · apply onPath_id _ done
      intro path result made
      rcases map_eq_ok.mp made with ⟨⟨later, _⟩, read, rfl⟩
      exact (execReadFile_leaves read).1
    · rcases bind_eq_ok.mp done with ⟨content, _, done⟩
      apply onPath_id _ done
      intro path result made
      split at made
      · rcases map_eq_ok.mp made with ⟨⟨later, _⟩, written, rfl⟩
        exact (execWriteFile_leaves written).1
      · rcases map_eq_ok.mp made with ⟨⟨later, _⟩, written, rfl⟩
        exact (execWriteFile_leaves written).1
      · exact execWriteValue_id made
    · cases done
      exact blocked_id _ _ _ _ _
  · exact blocked_id _ _ _ _ _

/-! ## Calls of the SDK -/

def textMember (name : String) : Option String → List (String × Json)
  | none => []
  | some text => [(name, .string text)]

/-- A call whose path and content are strings where they are given. -/
def McpCall.ofTyped (call : Buyer.McpCall) : McpCall where
  id := call.id
  tool := call.tool
  params := some (.object (textMember "path" call.path ++ textMember "content" call.content))

theorem relPath_ofTyped (call : Buyer.McpCall) :
    (McpCall.ofTyped call).relPath = .string call.relPath := by
  rcases call with ⟨id, tool, path, content⟩
  cases path with
  | none =>
      cases content
      all_goals rfl
  | some path =>
      by_cases empty : path = ""
      · subst empty
        rfl
      · simp [McpCall.relPath, McpCall.ofTyped, textMember, Json.get?, Json.truthy,
          Buyer.McpCall.relPath, Option.filter, empty]

theorem content_ofTyped (call : Buyer.McpCall) :
    (McpCall.ofTyped call).content = .ok (call.content.map .string) := by
  rcases call with ⟨id, tool, path, content⟩
  cases path
  all_goals
    cases content
    all_goals rfl

/-- The answer of a `try` block that ran a tool. -/
theorem answer_typed (outcome : Except String (BuyerWorkspace × McpResult))
    (call : Buyer.McpCall) :
    (match (outcome.map Prod.snd).map Answer.typed with
      | .ok answer => answer
      | .error error => blocked call.id call.tool (.string call.relPath) error error) =
      .typed (match outcome with
        | .ok done => done.2
        | .error error => Buyer.blocked call.id call.tool call.relPath error error) := by
  cases outcome
  all_goals rfl

theorem answerTool_ofTyped (workspace : BuyerWorkspace) (host : Host) (call : Buyer.McpCall) :
    answerTool workspace host (.ofTyped call) =
      .typed (match (workspace.executeTool host.toHost call).outcome with
        | .ok done => done.2
        | .error error => Buyer.blocked call.id call.tool call.relPath error error) := by
  have tool : (McpCall.ofTyped call).tool = call.tool := rfl
  have id : (McpCall.ofTyped call).id = call.id := rfl
  simp only [answerTool, executeTool, BuyerWorkspace.executeTool, McpCall.onPath, tool, id,
    relPath_ofTyped, content_ofTyped]
  by_cases list : call.tool = "list_directory"
  · have typed := answer_typed
      (workspace.execListDirectory host.toHost call.id call.relPath).outcome call
    rw [list] at typed ⊢
    exact typed
  by_cases read : call.tool = "read_file"
  · have typed := answer_typed
      (workspace.execReadFile host.toHost call.id call.relPath).outcome call
    rw [read] at typed ⊢
    exact typed
  by_cases write : call.tool = "write_file"
  · have typed := answer_typed
      (workspace.execWriteFile host.toHost call.id call.relPath call.content).outcome call
    rw [write] at typed ⊢
    cases given : call.content with
    | none =>
        rw [given] at typed
        exact typed
    | some text =>
        rw [given] at typed
        exact typed
  split
  · rename_i answer done
    split at done
    · exact absurd ‹_› list
    · exact absurd ‹_› read
    · exact absurd ‹_› write
    · cases done
      -- the other handler's match falls through as well
      simp only
      rfl
  · rename_i error done
    split at done
    · exact absurd ‹_› list
    · exact absurd ‹_› read
    · exact absurd ‹_› write
    · cases done

/-- On a call of the SDK the handler does what `Buyer.handleMcpCall` says. -/
theorem handleMcpCall_ofTyped (workspace : BuyerWorkspace) (host : Host) (call : Buyer.McpCall)
    (audited : host.onMcpCall call.tool (.string call.relPath) = ⟨.ok (), true⟩)
    (approves : host.approve (.string call.relPath) (call.content.map .string) =
      ⟨host.onWrite call.relPath call.content, true⟩) :
    handleMcpCall workspace.exclusions workspace workspace host (.ofTyped call) =
      ((Buyer.handleMcpCall workspace host.toHost call).result.map Answer.typed).toList := by
  have tool : (McpCall.ofTyped call).tool = call.tool := rfl
  have id : (McpCall.ofTyped call).id = call.id := rfl
  simp only [handleMcpCall, Buyer.handleMcpCall, relPath_ofTyped, content_ofTyped, tool, id,
    audited, approves, isExcluded, answerTool_ofTyped, BuyerWorkspace.refusal, isGated,
    BuyerWorkspace.approval]
  split
  · rfl
  cases Buyer.isExcluded call.relPath workspace.exclusions with
  | true => rfl
  | false =>
      dsimp only
      split
      · rfl
      by_cases gated : call.tool = "write_file" ∧ ¬workspace.config.autoApproveWrites = true ∧
          workspace.config.onWrite = true
      · rw [if_pos (decide_eq_true gated), if_pos gated]
        cases host.onWrite call.relPath call.content with
        | error error => rfl
        | ok approved =>
            cases approved with
            | false => rfl
            | true =>
                cases (workspace.executeTool host.toHost call).outcome
                all_goals rfl
      · rw [decide_eq_false gated, if_neg gated]
        cases (workspace.executeTool host.toHost call).outcome
        all_goals rfl

/-! ## When a call is answered -/

theorem sendResult_once {connected : Bool} {answer : Answer} {id : String}
    (identified : answer.id = id) :
    (∃ only, sendResult connected answer = [only] ∧ only.id = id) ↔ connected = true := by
  constructor
  · intro answered
    rcases answered with ⟨only, sent, _⟩
    cases connected with
    | true => rfl
    | false => cases sent
  · intro isConnected
    rw [isConnected]
    exact ⟨answer, rfl, identified⟩

theorem unanswered {id : String} : ¬∃ only : Answer, [] = [only] ∧ only.id = id := by
  intro answered
  rcases answered with ⟨only, none, _⟩
  cases none

theorem isExcluded_ok {relPath : Json} {exclusions : List ExclusionEntry} {excluded : Bool}
    (compared : isExcluded relPath exclusions = .ok excluded) :
    relPath.isString = true ∨ exclusions = [] := by
  rw [isExcluded.eq_def] at compared
  split at compared
  · exact .inl rfl
  · split at compared
    · rename_i none
      exact .inr none
    · cases compared

theorem isExcluded_error {relPath : Json} {exclusions : List ExclusionEntry} {error : String}
    (thrown : isExcluded relPath exclusions = .error error) :
    relPath.isString ≠ true ∧ exclusions ≠ [] := by
  rw [isExcluded.eq_def] at thrown
  split at thrown
  · cases thrown
  · split at thrown
    · cases thrown
    · rename_i other some
      refine ⟨?_, some⟩
      intro isString
      cases relPath with
      | string path => exact other path rfl
      | _ => cases isString

section Handling

variable {exclusions : List ExclusionEntry} {workspace : BuyerWorkspace} {host : Host}
  {call : McpCall}

theorem answerable_iff_connected
    (audited : (host.onMcpCall call.tool call.relPath).outcome.isOk = true)
    (comparable : call.relPath.isString = true ∨ exclusions = [] ∨
      (call.tool = "write_file" ∧ ¬workspace.config.permissions.write))
    (outside : ¬ReachesGate exclusions workspace call) :
    (host.onMcpCall call.tool call.relPath).connected = true ↔
      Answerable exclusions workspace host call := by
  constructor
  · intro connected
    exact ⟨audited, comparable, fun reaches => absurd reaches outside, fun _ => connected⟩
  · intro answerable
    exact answerable.connected outside

/-- At the write gate what counts is the callback's. -/
theorem answerable_iff_approved
    (audited : (host.onMcpCall call.tool call.relPath).outcome.isOk = true)
    (comparable : call.relPath.isString = true ∨ exclusions = [] ∨
      (call.tool = "write_file" ∧ ¬workspace.config.permissions.write))
    (reaches : ReachesGate exclusions workspace call) {content : Option Json}
    (given : call.content = .ok content) {approved : Bool}
    (asked : (host.approve call.relPath content).outcome = .ok approved) :
    (host.approve call.relPath content).connected = true ↔
      Answerable exclusions workspace host call := by
  constructor
  · intro connected
    refine ⟨audited, comparable, fun _ => ⟨content, given, ?_, connected⟩,
      fun outside => absurd reaches outside⟩
    rw [asked]
    rfl
  · intro answerable
    rcases answerable.gated reaches with ⟨other, otherGiven, _, connected⟩
    rw [given] at otherGiven
    cases otherGiven
    exact connected

end Handling

theorem answeredOnce_iff (exclusions : List ExclusionEntry) (workspace later : BuyerWorkspace)
    (host : Host) (call : McpCall) :
    AnsweredOnce exclusions workspace later host call ↔
      Answerable exclusions workspace host call := by
  rw [AnsweredOnce]
  simp only [handleMcpCall]
  split
  · rename_i error thrown
    constructor
    · intro answered
      exact absurd answered unanswered
    · intro answerable
      have audited := answerable.audited
      rw [thrown] at audited
      cases audited
  rename_i returned
  have audited : (host.onMcpCall call.tool call.relPath).outcome.isOk = true := by
    rw [returned]
    rfl
  split
  · rename_i denied
    rw [sendResult_once (blocked_id _ _ _ _ _)]
    apply answerable_iff_connected audited (.inr (.inr denied))
    intro reaches
    exact denied.2 reaches.2.1
  rename_i granted
  split
  · rename_i error thrown
    constructor
    · intro answered
      exact absurd answered unanswered
    · intro answerable
      rcases isExcluded_error thrown with ⟨notString, some⟩
      rcases answerable.comparable with isString | none | denied
      · exact absurd isString notString
      · exact absurd none some
      · exact absurd denied granted
  · rename_i compared
    rw [sendResult_once (blocked_id _ _ _ _ _)]
    apply answerable_iff_connected audited ((isExcluded_ok compared).imp_right .inl)
    intro reaches
    have included := reaches.2.2.1
    rw [compared] at included
    cases included
  rename_i compared
  have comparable : call.relPath.isString = true ∨ exclusions = [] ∨
      (call.tool = "write_file" ∧ ¬workspace.config.permissions.write) :=
    (isExcluded_ok compared).imp_right .inl
  split
  · rename_i large
    rw [sendResult_once (blocked_id _ _ _ _ _)]
    apply answerable_iff_connected audited comparable
    intro reaches
    exact absurd reaches.2.2.2 (Nat.not_le_of_lt large)
  rename_i small
  split
  · rename_i gated
    have isWrite : call.tool = "write_file" := (of_decide_eq_true gated).1
    have reaches : ReachesGate exclusions workspace call := by
      refine ⟨gated, ?_, compared, Nat.le_of_not_lt small⟩
      exact Decidable.not_not.mp fun denied => granted ⟨isWrite, denied⟩
    split
    · rename_i error thrown
      constructor
      · intro answered
        exact absurd answered unanswered
      · intro answerable
        rcases answerable.gated reaches with ⟨content, given, _⟩
        rw [thrown] at given
        cases given
    · rename_i content given
      split
      · rename_i error thrown
        constructor
        · intro answered
          exact absurd answered unanswered
        · intro answerable
          rcases answerable.gated reaches with ⟨other, otherGiven, asked, _⟩
          rw [given] at otherGiven
          cases otherGiven
          rw [thrown] at asked
          cases asked
      · rename_i asked
        rw [sendResult_once (rejected_id _ _)]
        exact answerable_iff_approved audited comparable reaches given asked
      · rename_i asked
        rw [sendResult_once (answerTool_id _ _ _)]
        exact answerable_iff_approved audited comparable reaches given asked
  · rename_i ungated
    rw [sendResult_once (answerTool_id _ _ _)]
    apply answerable_iff_connected audited comparable
    intro reaches
    exact ungated reaches.1

/-- On the buyer's side a call is answered exactly once if and only if it is
answerable; on the agent's side every promise settles once, whatever happens. -/
theorem tool_calls_answered_iff (exclusions : List ExclusionEntry)
    (workspace later : BuyerWorkspace) (host : Host) (call : McpCall) :
    (AnsweredOnce exclusions workspace later host call ∧
      ∀ events client, Workspace.clientMachine.run {} events = some client →
        Workspace.SettlesOnce client) ↔
      Answerable exclusions workspace host call := by
  rw [answeredOnce_iff]
  constructor
  · intro holds
    exact holds.1
  · intro answerable
    exact ⟨answerable, fun events client executed => Workspace.settlesOnce_of_run executed⟩

def quietHost : Host where
  toHost := openHost false
  onMcpCall _ _ := ⟨.ok (), true⟩
  approve _ _ := ⟨.ok true, true⟩
  bufferFrom _ := .ok []
  writeValue _ _ := .ok ()

/-- A path that is a number is compared with the excluded `.env`. -/
theorem number_path_unanswered :
    ¬AnsweredOnce (servedProject ⟨true, true⟩).exclusions (servedProject ⟨true, true⟩)
      (servedProject ⟨true, true⟩) quietHost
      ⟨"ws-0a1b", "read_file", some (.object [("path", .number 5)])⟩ := by
  intro answered
  rcases answered with ⟨answer, none, _⟩
  cases none

end SovAgent.Buyer.Untyped

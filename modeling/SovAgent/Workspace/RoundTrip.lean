import SovAgent.Buyer.WorkspaceAccess
import SovAgent.Foundation.Utf8
import SovAgent.Workspace.Client

/-! # Writing a file and reading it back

`writeFile` and `readFile` of the agent against the workspace of the buyer, over a
relay that delivers what it is given.
-/

namespace SovAgent.Workspace

open Buyer

/-! ## What the buyer emits -/

def optional (name : String) (convert : α → Json) : Option α → List (String × Json)
  | none => []
  | some value => [(name, convert value)]

def natural (value : Nat) : Json := .number (Decimal.ofInt value)

def toolResultJson (result : ToolResult) : Json :=
  .object [
    ("content", .array [.object [("type", .string "text"), ("text", .string result.text)]]),
    ("_meta", .object (
      optional "entryCount" natural result.entryCount ++
      optional "sizeBytes" natural result.sizeBytes ++
      optional "contentHash" .string result.contentHash ++ [("path", .string result.path)]))]

def metadataJson (metadata : OperationMetadata) : Json :=
  .object (
    [("operation", .string metadata.operation), ("path", .string metadata.path)] ++
    optional "sizeBytes" natural metadata.sizeBytes ++
    optional "contentHash" .string metadata.contentHash ++
    [("sovguardScore", natural metadata.sovguardScore)] ++
    optional "approved" .bool metadata.approved ++
    optional "blocked" .bool metadata.blocked ++
    optional "blockReason" .string metadata.blockReason)

def resultJson (result : McpResult) : Json :=
  match result.outcome with
  | .ok value => .object [
      ("id", .string result.id), ("success", .bool true), ("result", toolResultJson value),
      ("metadata", metadataJson result.metadata)]
  | .error error => .object [
      ("id", .string result.id), ("success", .bool false), ("error", .string error),
      ("metadata", metadataJson result.metadata)]

/-! ## The calls of the agent -/

/-- What the promise of a tool call is settled with: a result that is missing or
not valid leaves it to its timer. -/
def settlementOf (tool : String) (result : Option McpResult) : Except String Json :=
  match result.bind fun result => validateMcpResult (resultJson result) with
  | none => .error s!"Tool call timeout: {tool}"
  | some validated => validated.settlement

/-- A settled call of the agent, with the workspace it leaves and what it reached. -/
structure Exchange where
  workspace : BuyerWorkspace
  accesses : List FileAccess
  outcome : Except String Json

def firstText (result : Json) : Option Json :=
  match result.get? "content" with
  | some (.array (first :: _)) => first.get? "text"
  | _ => none

/-- `readFile` and `writeFile`, which take the text of the result if it is truthy. -/
def callForText (workspace : BuyerWorkspace) (host : Host) (call : McpCall)
    (method path : String) : Exchange :=
  match assertSafePath path with
  | .error error => ⟨workspace, [], .error error⟩
  | .ok _ =>
      let handled := handleMcpCall workspace host call
      ⟨handled.workspace, handled.accesses, do
        let result ← settlementOf call.tool handled.result
        match (firstText result).filter Json.truthy with
        | none => .error s!"{method}: unexpected MCP result format for path \"{path}\""
        | some text => .ok text⟩

section Calls

variable (workspace : BuyerWorkspace) (host : Host) (id path : String)

def readFile : Exchange :=
  callForText workspace host ⟨id, "read_file", some path, none⟩ "readFile" path

def writeFile (content : String) : Exchange :=
  callForText workspace host ⟨id, "write_file", some path, some content⟩ "writeFile" path

end Calls

def serve (workspace : BuyerWorkspace) (calls : List (Host × McpCall)) : BuyerWorkspace :=
  calls.foldl (fun workspace entry => (handleMcpCall workspace entry.1 entry.2).workspace) workspace

theorem serve_same (workspace : BuyerWorkspace) (calls : List (Host × McpCall)) :
    SameProject workspace (serve workspace calls) := by
  induction calls generalizing workspace with
  | nil => exact .refl workspace
  | cons entry rest induction =>
      exact (handleMcpCall_leaves workspace entry.1 entry.2).trans (induction _)

/-! ## Results on their way to the agent -/

theorem validate_resultJson_ok {result : McpResult} {value : ToolResult}
    (success : result.outcome = .ok value) (short : utf16Length value.text ≤ maxResultSize) :
    validateMcpResult (resultJson result) = some ⟨result.id, .ok (toolResultJson value)⟩ := by
  have aggregate : utf16Length value.text ≤ maxResultAggregate := short.trans (by decide)
  have items : maxResultItems ≠ 0 := by decide
  rw [resultJson, success]
  simp [validateMcpResult, Json.get?, Record.lookup_cons, toolResultJson, validateItems, short,
    aggregate, items]

theorem validate_resultJson_error {result : McpResult} {error : String}
    (failure : result.outcome = .error error) :
    validateMcpResult (resultJson result) = some ⟨result.id, .error (some error)⟩ := by
  rw [resultJson, failure]
  simp [validateMcpResult, Json.get?, Record.lookup_cons]

theorem firstText_toolResultJson (value : ToolResult) :
    firstText (toolResultJson value) = some (.string value.text) := by
  simp [firstText, toolResultJson, Json.get?, Record.lookup_cons]

theorem settlementOf_eq_ok {tool : String} {result : Option McpResult} {json : Json}
    (settled : settlementOf tool result = .ok json) :
    ∃ only value, result = some only ∧ only.outcome = .ok value := by
  cases result with
  | none => cases settled
  | some only =>
      cases outcome : only.outcome with
      | ok value => exact ⟨only, value, rfl, outcome⟩
      | error error =>
          rw [settlementOf, Option.bind_some, validate_resultJson_error outcome] at settled
          cases settled

theorem settlementOf_ok {tool : String} {result : McpResult} {value : ToolResult}
    (success : result.outcome = .ok value) (short : utf16Length value.text ≤ maxResultSize) :
    settlementOf tool (some result) = .ok (toolResultJson value) := by
  rw [settlementOf, Option.bind_some, validate_resultJson_ok success short]
  rfl

/-! ## The calls of the agent that resolve -/

section Calls

variable {workspace : BuyerWorkspace} {host : Host} {call : McpCall} {method path : String}

theorem callForText_safe (safe : assertSafePath path = .ok ()) :
    callForText workspace host call method path =
      ⟨(handleMcpCall workspace host call).workspace, (handleMcpCall workspace host call).accesses,
        do
          let result ← settlementOf call.tool (handleMcpCall workspace host call).result
          match (firstText result).filter Json.truthy with
          | none => .error s!"{method}: unexpected MCP result format for path \"{path}\""
          | some text => .ok text⟩ := by
  rw [callForText, safe]

theorem callForText_eq_ok {text : Json}
    (resolved : (callForText workspace host call method path).outcome = .ok text) :
    assertSafePath path = .ok () ∧ ∃ result value,
      (handleMcpCall workspace host call).result = some result ∧ result.outcome = .ok value := by
  cases safe : assertSafePath path with
  | error error =>
      rw [callForText, safe] at resolved
      cases resolved
  | ok done =>
      refine ⟨rfl, ?_⟩
      rw [callForText_safe safe] at resolved
      rcases bind_eq_ok.mp resolved with ⟨json, settled, _⟩
      exact settlementOf_eq_ok settled

theorem callForText_eq_text {result : McpResult} {value : ToolResult} {content : String}
    (safe : assertSafePath path = .ok ())
    (handled : (handleMcpCall workspace host call).result = some result)
    (success : result.outcome = .ok value) (short : utf16Length value.text ≤ maxResultSize) :
    (callForText workspace host call method path).outcome = .ok (.string content) ↔
      value.text = content ∧ content ≠ "" := by
  rw [callForText_safe safe]
  simp only [handled, settlementOf_ok success short]
  change (match (firstText (toolResultJson value)).filter Json.truthy with
    | none => _
    | some text => Except.ok text) = Except.ok (Json.string content) ↔ _
  rw [firstText_toolResultJson]
  by_cases empty : value.text = ""
  · simp [Option.filter, Json.truthy, empty, eq_comm]
  · simp only [Option.filter, Json.truthy, empty, ne_eq, not_false_eq_true, decide_true, if_true,
      Except.ok.injEq, Json.string.injEq]
    constructor
    · intro same
      exact ⟨same, same ▸ empty⟩
    · intro holds
      exact holds.1

end Calls

theorem assertSafePath_nonempty {path : String} (safe : assertSafePath path = .ok ()) :
    path ≠ "" := by
  simp only [assertSafePath, seq_eq_ok, require_eq_ok] at safe
  exact safe.1

theorem relPath_some {id tool path : String} {content : Option String} (nonempty : path ≠ "") :
    McpCall.relPath ⟨id, tool, some path, content⟩ = path := by
  simp [McpCall.relPath, Option.filter, nonempty]

/-! ## The file in between -/

structure ReadsBack (host : Host) (path : AbsolutePath) (content : String) : Prop where
  stat : host.stat path = .ok ⟨false, true, byteLength content⟩
  readFile : host.readFile path = .ok (utf8Bytes content)

theorem refusal_error {workspace : BuyerWorkspace} {call : McpCall} {result : McpResult}
    (refused : workspace.refusal call = some result) : ∃ error, result.outcome = .error error := by
  simp only [BuyerWorkspace.refusal] at refused
  split at refused
  · cases refused
    exact ⟨_, rfl⟩
  split at refused
  · cases refused
    exact ⟨_, rfl⟩
  split at refused
  · cases refused
    exact ⟨_, rfl⟩
  · cases refused

theorem executed_of_success {workspace : BuyerWorkspace} {host : Host} {call : McpCall}
    {result : McpResult} {value : ToolResult}
    (handled : (handleMcpCall workspace host call).result = some result)
    (success : result.outcome = .ok value) :
    workspace.refusal call = none ∧ workspace.approval host call = .ok true ∧
      ∃ later, (workspace.executeTool host call).outcome = .ok (later, result) := by
  simp only [handleMcpCall] at handled
  split at handled
  · rename_i refused
    cases handled
    rcases refusal_error refused with ⟨error, failure⟩
    rw [failure] at success
    cases success
  rename_i admitted
  split at handled
  · cases handled
  · cases handled
    cases success
  rename_i approved
  refine ⟨admitted, approved, ?_⟩
  split at handled
  · rename_i later _ done
    cases handled
    exact ⟨later, done⟩
  · cases handled
    cases success

theorem written_of_success {workspace : BuyerWorkspace} {host : Host} {id path content : String}
    {result : McpResult} {value : ToolResult} (nonempty : path ≠ "")
    (handled : (handleMcpCall workspace host
      ⟨id, "write_file", some path, some content⟩).result = some result)
    (success : result.outcome = .ok value) :
    isExcluded path workspace.exclusions = false ∧ ∃ absPath,
      workspace.resolveSafe path = some absPath ∧ byteLength content ≤ maxFileSize ∧
      .writeFile absPath content ∈ (handleMcpCall workspace host
        ⟨id, "write_file", some path, some content⟩).accesses := by
  rcases executed_of_success handled success with ⟨admitted, approved, later, done⟩
  have checks := refusal_eq_none_iff.mp admitted
  rw [accesses_of_approved admitted approved]
  rw [relPath_some nonempty] at checks
  refine ⟨checks.2.1, ?_⟩
  have tool : workspace.executeTool host ⟨id, "write_file", some path, some content⟩ =
      workspace.execWriteFile host id path (some content) := by
    simp only [BuyerWorkspace.executeTool, relPath_some nonempty]
  rw [tool] at done ⊢
  simp only [BuyerWorkspace.execWriteFile] at done ⊢
  split at done
  · cases done
    cases success
  rename_i absPath resolves
  split at done
  · cases done
    cases success
  rename_i small
  split at done
  · cases done
  rename_i made
  refine ⟨absPath, resolves, Nat.le_of_not_lt small, ?_⟩
  rw [if_neg small]
  exact List.mem_append_right _ (List.mem_singleton_self _)

theorem execReadFile_of_readsBack {workspace : BuyerWorkspace} {host : Host}
    {path content : String} {absPath : AbsolutePath}
    (resolves : workspace.resolveSafe path = some absPath)
    (small : byteLength content ≤ maxFileSize) (textual : isBinary (utf8Bytes content) = false)
    (file : ReadsBack host absPath content) (id : String) :
    ∃ later result value, (workspace.execReadFile host id path).outcome = .ok (later, result) ∧
      result.outcome = .ok value ∧ value.text = content := by
  have isFile : (host.stat absPath).toOption.filter (·.isFile) =
      some ⟨false, true, byteLength content⟩ := by
    rw [file.stat]
    rfl
  simp only [BuyerWorkspace.execReadFile, resolves, isFile, if_neg (Nat.not_lt_of_le small),
    file.readFile]
  change ∃ later result value, (if isBinary (utf8Bytes content) = true then _ else _) =
    Except.ok (later, result) ∧ _
  rw [textual]
  exact ⟨_, _, _, rfl, rfl, decodeUtf8_utf8Bytes content⟩

theorem handled_of_readsBack {workspace : BuyerWorkspace} {host : Host} {path content : String}
    {absPath : AbsolutePath} (nonempty : path ≠ "")
    (included : isExcluded path workspace.exclusions = false)
    (resolves : workspace.resolveSafe path = some absPath)
    (small : byteLength content ≤ maxFileSize) (textual : isBinary (utf8Bytes content) = false)
    (file : ReadsBack host absPath content) (id : String) :
    ∃ result, (handleMcpCall workspace host ⟨id, "read_file", some path, none⟩).result =
        some result ∧
      if workspace.sessionTransferBytes ≤ maxSessionTransfer then
        ∃ value, result.outcome = .ok value ∧ value.text = content
      else ∃ error, result.outcome = .error error := by
  have path_eq := @relPath_some id "read_file" path none nonempty
  have notWrite : "read_file" ≠ "write_file" := by decide
  split
  · rename_i within
    have admitted : workspace.refusal ⟨id, "read_file", some path, none⟩ = none := by
      apply refusal_eq_none_iff.mpr
      rw [path_eq]
      exact ⟨fun write => absurd write notWrite, included, within⟩
    have approved : workspace.approval host ⟨id, "read_file", some path, none⟩ = .ok true := by
      apply if_neg
      intro write
      exact absurd write.1 notWrite
    have tool : workspace.executeTool host ⟨id, "read_file", some path, none⟩ =
        workspace.execReadFile host id path := by
      simp only [BuyerWorkspace.executeTool, path_eq]
    rcases execReadFile_of_readsBack resolves small textual file id
      with ⟨later, result, value, done, success, text⟩
    refine ⟨result, ?_, value, success, text⟩
    simp only [handleMcpCall, admitted, approved, tool, done]
  · rename_i beyond
    cases refused : workspace.refusal ⟨id, "read_file", some path, none⟩ with
    | none => exact absurd (refusal_eq_none_iff.mp refused).2.2 beyond
    | some result =>
        refine ⟨result, ?_, refusal_error refused⟩
        rw [handleMcpCall, refused]

/-! ## The round trip -/

/-- A written text that is read back, after any calls that leave the file alone, is
read as it was written exactly when it is not empty and the session is within its
transfer limit. -/
theorem readFile_written_iff {workspace : BuyerWorkspace} {host later : Host}
    {writeId readId path content : String} {between : List (Host × McpCall)} {answer : Json}
    (textual : isBinary (utf8Bytes content) = false)
    (resolved : (writeFile workspace host writeId path content).outcome = .ok answer)
    (kept : ∀ absPath,
      .writeFile absPath content ∈ (writeFile workspace host writeId path content).accesses →
        ReadsBack later absPath content) :
    let reading := serve (writeFile workspace host writeId path content).workspace between
    (readFile reading later readId path).outcome = .ok (.string content) ↔
      content ≠ "" ∧ reading.sessionTransferBytes ≤ maxSessionTransfer := by
  intro reading
  rcases callForText_eq_ok resolved with ⟨safe, result, value, handled, success⟩
  have nonempty := assertSafePath_nonempty safe
  rcases written_of_success nonempty handled success
    with ⟨included, absPath, resolves, small, written⟩
  have file : ReadsBack later absPath content := by
    apply kept
    rw [writeFile, callForText_safe safe]
    exact written
  have same : SameProject workspace reading := by
    apply SameProject.trans _ (serve_same _ between)
    rw [writeFile, callForText_safe safe]
    exact handleMcpCall_leaves _ _ _
  rw [← same.exclusions] at included
  rw [← same.resolveSafe path] at resolves
  rcases handled_of_readsBack nonempty included resolves small textual file readId
    with ⟨read, readHandled, outcome⟩
  split at outcome
  · rename_i within
    rcases outcome with ⟨text, readSuccess, rfl⟩
    have limits : maxFileSize = maxResultSize := rfl
    have short : utf16Length text.text ≤ maxResultSize := by
      rw [← limits]
      exact (utf16Length_le text.text).trans small
    rw [readFile, callForText_eq_text safe readHandled readSuccess short]
    constructor
    · intro holds
      exact ⟨holds.2, within⟩
    · intro holds
      exact ⟨rfl, holds.1⟩
  · rename_i beyond
    rcases outcome with ⟨error, failure⟩
    constructor
    · intro holds
      rcases callForText_eq_ok holds with ⟨_, other, value, otherHandled, otherSuccess⟩
      rw [readHandled] at otherHandled
      cases otherHandled
      rw [failure] at otherSuccess
      cases otherSuccess
    · intro holds
      exact absurd holds.2 beyond

def fileHost (content : String) : Host :=
  { openHost false with
    stat := fun _ => .ok ⟨false, true, byteLength content⟩
    readFile := fun _ => .ok (utf8Bytes content) }

theorem fileHost_readsBack (content : String) (path : AbsolutePath) :
    ReadsBack (fileHost content) path content := ⟨rfl, rfl⟩

theorem hello_read_back :
    let project := servedProject ⟨true, true⟩
    let written := writeFile project (openHost true) "ws-1" "notes.txt" "hello"
    (readFile (serve written.workspace []) (fileHost "hello") "ws-2" "notes.txt").outcome =
        .ok (.string "hello") ↔
      "hello" ≠ "" ∧ (serve written.workspace []).sessionTransferBytes ≤ maxSessionTransfer := by
  apply @readFile_written_iff _ _ _ _ _ _ _ _ (.string "Written: notes.txt (5 bytes)")
  · decide +kernel
  · decide +kernel
  · exact fun absPath _ => fileHost_readsBack "hello" absPath

/-- An empty file that was written cannot be read. -/
theorem empty_file_unreadable :
    let project := servedProject ⟨true, true⟩
    let written := writeFile project (openHost true) "ws-1" "notes.txt" ""
    written.outcome = .ok (.string "Written: notes.txt (0 bytes)") ∧
      (readFile written.workspace (fileHost "") "ws-2" "notes.txt").outcome =
        .error "readFile: unexpected MCP result format for path \"notes.txt\"" := by
  constructor
  · decide +kernel
  · decide +kernel

end SovAgent.Workspace

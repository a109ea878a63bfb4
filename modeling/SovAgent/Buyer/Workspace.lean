import SovAgent.Foundation.JsonText
import SovAgent.Foundation.Path

/-! # BuyerWorkspace

The tool calls of the remote agent, served from a project directory. While a
write waits for its approval nothing of its own is read or written, and other
calls change only the counters. The time in the statistics is left out.
-/

namespace SovAgent.Buyer

def maxFileSize : Nat := 10 * 1024 * 1024

def maxDirEntries : Nat := 10000

def maxSessionTransfer : Nat := 500 * 1024 * 1024

def autoExcludePatterns : List String :=
  [".env", ".env.*", ".ssh/", ".gnupg/", "*.pem", "*.key", "*.p12", "credentials.json",
    "secrets.*", "node_modules/", ".git/", ".DS_Store", "Thumbs.db"]

structure ExclusionEntry where
  path : String
  reason : String
deriving DecidableEq, Repr

/-! ## The pre-scan -/

/-- `text.slice(0, -1)`. -/
def withoutLast (text : String) : String := String.ofList text.toList.dropLast

/-- `relPath.split('/').pop() || ''`. -/
def entryName (relPath : String) : String :=
  String.ofList ((Segment.split relPath).getLastD [])

def matchesPattern (name : String) (isDir : Bool) (pattern : String) : Bool :=
  (endsWith pattern "/" && isDir && name == withoutLast pattern) ||
  (startsWith pattern "*." && endsWith name (String.ofList (pattern.toList.drop 1))) ||
  name == pattern ||
  (endsWith pattern "*" && startsWith name (withoutLast pattern))

def shouldExclude (relPath : String) (isDir : Bool) : Bool :=
  autoExcludePatterns.any (matchesPattern (entryName relPath) isDir)

example : shouldExclude "config/.env.local" false = true := by decide
example : shouldExclude "src/.git" false = false := by decide

def getExcludeReason (relPath : String) : String :=
  let name := entryName relPath
  if startsWith name ".env" then "environment variables"
  else if name = ".ssh" ∨ name = ".gnupg" then "cryptographic keys"
  else if endsWith name ".pem" ∨ endsWith name ".key" ∨ endsWith name ".p12" then
    "certificates/keys"
  else if name = "credentials.json" ∨ startsWith name "secrets" then "credentials"
  else if name = "node_modules" then "too large"
  else if name = ".git" then "version control"
  else if name = ".DS_Store" ∨ name = "Thumbs.db" then "OS metadata"
  else "auto-excluded"

abbrev EntryName := { name : Segment // name.Proper }

/-- The entries of a directory and of those below it, in the order in which
they are read. A directory that cannot be read is as good as empty. -/
inductive Directory where
  | done
  | directory (name : EntryName) (inside rest : Directory)
  | file (name : EntryName) (rest : Directory)
  | other (name : EntryName) (rest : Directory)

structure Scan where
  files : List AbsolutePath
  exclusions : List ExclusionEntry

def walkDir (rootDir : AbsolutePath) : (currentDir : AbsolutePath) → Directory → Scan
  | _, .done => ⟨[], []⟩
  | currentDir, .directory name inside rest =>
      let fullPath := currentDir.child name.val name.property
      let relPath := relative rootDir fullPath
      let later := walkDir rootDir currentDir rest
      if shouldExclude relPath true then
        { later with exclusions := ⟨relPath ++ "/", getExcludeReason relPath⟩ :: later.exclusions }
      else
        let within := walkDir rootDir fullPath inside
        ⟨within.files ++ later.files, within.exclusions ++ later.exclusions⟩
  | currentDir, .file name rest =>
      let fullPath := currentDir.child name.val name.property
      let relPath := relative rootDir fullPath
      let later := walkDir rootDir currentDir rest
      if shouldExclude relPath false then
        { later with exclusions := ⟨relPath, getExcludeReason relPath⟩ :: later.exclusions }
      else { later with files := fullPath :: later.files }
  | currentDir, .other name rest =>
      let relPath := relative rootDir (currentDir.child name.val name.property)
      let later := walkDir rootDir currentDir rest
      if shouldExclude relPath false then
        { later with exclusions := ⟨relPath, getExcludeReason relPath⟩ :: later.exclusions }
      else later

def withoutSlash (path : String) : String :=
  if endsWith path "/" then withoutLast path else path

def isExcluded (relPath : String) (exclusions : List ExclusionEntry) : Bool :=
  exclusions.any fun exclusion =>
    let exPath := withoutSlash exclusion.path
    relPath == exPath || startsWith relPath (exPath ++ "/")

/-! ## The workspace -/

structure Permissions where
  read : Bool
  write : Bool
deriving DecidableEq, Repr

structure BuyerWorkspaceConfig where
  projectDir : String
  permissions : Permissions := ⟨true, true⟩
  autoApproveWrites : Bool := true
  /-- Whether the gate `onWrite` is given. -/
  onWrite : Bool := false
deriving DecidableEq, Repr

structure BuyerWorkspaceStats where
  reads : Nat := 0
  writes : Nat := 0
  listDirs : Nat := 0
  totalBytes : Nat := 0
deriving DecidableEq, Repr

/-- A connected workspace, in a process whose directory is `cwd`. Its exclusions
are those of a pre-scan. -/
structure BuyerWorkspace where
  config : BuyerWorkspaceConfig
  cwd : AbsolutePath
  exclusions : List ExclusionEntry
  collected : ∃ directory, exclusions =
    (walkDir (resolve cwd config.projectDir) (resolve cwd config.projectDir) directory).exclusions
  sessionTransferBytes : Nat := 0
  stats : BuyerWorkspaceStats := {}

namespace BuyerWorkspace

def root (workspace : BuyerWorkspace) : AbsolutePath :=
  resolve workspace.cwd workspace.config.projectDir

def resolveSafe (workspace : BuyerWorkspace) (relPath : String) : Option AbsolutePath :=
  if relPath = "" then none
  else if ['.', '.'] ∈ relPath.toList.splitOnP (fun character => character ∈ ['\\', '/']) then none
  else
    let root := workspace.root
    let absPath := resolve root relPath
    if ¬startsWith absPath.text (root.text ++ "/") ∧ absPath.text ≠ root.text then none
    else some absPath

end BuyerWorkspace

/-! ## Calls and results -/

structure McpCall where
  id : String
  tool : String
  path : Option String
  content : Option String
deriving DecidableEq, Repr

def McpCall.relPath (call : McpCall) : String := (call.path.filter (· ≠ "")).getD "."

structure OperationMetadata where
  operation : String
  path : String
  sizeBytes : Option Nat := none
  contentHash : Option String := none
  sovguardScore : Nat := 0
  approved : Option Bool := none
  blocked : Option Bool := none
  blockReason : Option String := none
deriving DecidableEq, Repr

/-- The text of a result and the members of its `_meta`. -/
structure ToolResult where
  text : String
  path : String
  entryCount : Option Nat := none
  sizeBytes : Option Nat := none
  contentHash : Option String := none
deriving DecidableEq, Repr

structure McpResult where
  id : String
  /-- The result of a success, else the error. -/
  outcome : Except String ToolResult
  metadata : OperationMetadata

def blocked (id operation path error blockReason : String) : McpResult where
  id
  outcome := .error error
  metadata := { operation, path, blocked := some true, blockReason := some blockReason }

structure FileStat where
  isDirectory : Bool
  isFile : Bool
  size : Nat
deriving DecidableEq, Repr

structure DirectoryEntry where
  name : EntryName
  isDirectory : Bool
  isFile : Bool

/-- What the files, the write gate and the hash answer during one call. -/
structure Host where
  stat : AbsolutePath → Except String FileStat
  readdir : AbsolutePath → Except String (List DirectoryEntry)
  readFile : AbsolutePath → Except String (List Nat)
  mkdir : AbsolutePath → Except String Unit
  writeFile : AbsolutePath → Except String Unit
  onWrite : String → Option String → Except String Bool
  sha256 : List Nat → String

/-- A call into the file system that reaches contents, a listing or a change. -/
inductive FileAccess where
  | readdir (path : AbsolutePath)
  | readFile (path : AbsolutePath)
  | mkdir (path : AbsolutePath)
  | writeFile (path : AbsolutePath) (content : String)
deriving DecidableEq

/-- What a tool did, and the counters and the result it ends with unless it throws. -/
structure Execution where
  accesses : List FileAccess
  outcome : Except String (BuyerWorkspace × McpResult)

/-! ## The tools -/

/-- The error of `Buffer.from(undefined)`. -/
def undefinedBuffer : String :=
  "The first argument must be of type string or an instance of Buffer, ArrayBuffer, " ++
    "or Array or an Array-like Object. Received undefined"

def isBinary (buffer : List Nat) : Bool := 0 ∈ buffer.take 8192

def Host.exists (host : Host) (path : AbsolutePath) : Bool := (host.stat path).isOk

structure ListedEntry where
  name : String
  type : String
  size : Option Nat
deriving DecidableEq, Repr

def Host.listed (host : Host) (absPath : AbsolutePath) (entry : DirectoryEntry) :
    Except String ListedEntry := do
  let size ← if entry.isFile then do
      let stat ← host.stat (absPath.child entry.name.val entry.name.property)
      .ok (some stat.size)
    else .ok none
  .ok {
    name := String.ofList entry.name.val
    type := if entry.isDirectory then "directory" else "file"
    size }

/-- An entry as `JSON.stringify(result, null, 2)` writes it. -/
def ListedEntry.write (entry : ListedEntry) : List Char :=
  "  \x7b\n    \"name\": ".toList ++ Json.quote entry.name ++
    ",\n    \"type\": ".toList ++ Json.quote entry.type ++
    (match entry.size with
      | some size => ",\n    \"size\": ".toList ++ (toString size).toList
      | none => []) ++ "\n  \x7d".toList

def listingText (entries : List ListedEntry) : String :=
  if entries = [] then "[]"
  else String.ofList
    ("[\n".toList ++ ",\n".toList.intercalate (entries.map ListedEntry.write) ++ "\n]".toList)

namespace BuyerWorkspace

variable (workspace : BuyerWorkspace) (host : Host)

def execListDirectory (callId relPath : String) : Execution :=
  match workspace.resolveSafe relPath with
  | none => ⟨[], .ok (workspace, blocked callId "list_dir" relPath
      "Path is outside the project directory" "path traversal")⟩
  | some absPath =>
      if ¬(host.stat absPath).toOption.any (·.isDirectory) then
        ⟨[], .ok (workspace, blocked callId "list_dir" relPath
          s!"Not a directory: {relPath}" "not a directory")⟩
      else ⟨[.readdir absPath], do
        let entries ← host.readdir absPath
        let result ← (entries.take maxDirEntries).mapM (host.listed absPath)
        .ok ({ workspace with
            stats := { workspace.stats with listDirs := workspace.stats.listDirs + 1 } },
          { id := callId
            outcome := .ok {
              text := listingText result
              path := relPath
              entryCount := some result.length }
            metadata := { operation := "list_dir", path := relPath } })⟩

def execReadFile (callId relPath : String) : Execution :=
  match workspace.resolveSafe relPath with
  | none => ⟨[], .ok (workspace, blocked callId "read" relPath
      "Path is outside the project directory" "path traversal")⟩
  | some absPath =>
      match (host.stat absPath).toOption.filter (·.isFile) with
      | none => ⟨[], .ok (workspace, blocked callId "read" relPath
          s!"File not found: {relPath}" "file not found")⟩
      | some stat =>
          if stat.size > maxFileSize then
            ⟨[], .ok (workspace, blocked callId "read" relPath
              s!"File too large: {stat.size} bytes (max {maxFileSize})" "file too large")⟩
          else ⟨[.readFile absPath], do
            let buffer ← host.readFile absPath
            if isBinary buffer then
              .ok (workspace, blocked callId "read" relPath
                "Binary files are not supported" "binary file")
            else
              let contentHash := s!"sha256:{host.sha256 buffer}"
              .ok ({ workspace with
                  stats := { workspace.stats with
                    reads := workspace.stats.reads + 1
                    totalBytes := workspace.stats.totalBytes + stat.size }
                  sessionTransferBytes := workspace.sessionTransferBytes + stat.size },
                { id := callId
                  outcome := .ok {
                    text := decodeUtf8 buffer
                    path := relPath
                    sizeBytes := some stat.size
                    contentHash := some contentHash }
                  metadata := {
                    operation := "read"
                    path := relPath
                    sizeBytes := some stat.size
                    contentHash := some contentHash } })⟩

def execWriteFile (callId relPath : String) (content : Option String) : Execution :=
  match workspace.resolveSafe relPath with
  | none => ⟨[], .ok (workspace, blocked callId "write" relPath
      "Path is outside the project directory" "path traversal")⟩
  | some absPath =>
      match content with
      | none => ⟨[], .error undefinedBuffer⟩
      | some content =>
          let size := byteLength content
          if size > maxFileSize then
            ⟨[], .ok (workspace, blocked callId "write" relPath
              s!"Content too large: {size} bytes (max {maxFileSize})" "content too large")⟩
          else
            let parentDir := resolve absPath ".."
            let made := if host.exists parentDir then [] else [FileAccess.mkdir parentDir]
            match (if host.exists parentDir then .ok () else host.mkdir parentDir) with
            | .error error => ⟨made, .error error⟩
            | .ok _ => ⟨made ++ [.writeFile absPath content], do
                host.writeFile absPath
                let contentHash := s!"sha256:{host.sha256 (content.toUTF8.toList.map UInt8.toNat)}"
                .ok ({ workspace with
                    stats := { workspace.stats with
                      writes := workspace.stats.writes + 1
                      totalBytes := workspace.stats.totalBytes + size }
                    sessionTransferBytes := workspace.sessionTransferBytes + size },
                  { id := callId
                    outcome := .ok {
                      text := s!"Written: {relPath} ({size} bytes)"
                      path := relPath
                      sizeBytes := some size
                      contentHash := some contentHash }
                    metadata := {
                      operation := "write"
                      path := relPath
                      sizeBytes := some size
                      contentHash := some contentHash
                      approved := some true } })⟩

/-- The checks of a call in their order, up to the write gate. -/
def refusal (call : McpCall) : Option McpResult :=
  let relPath := call.relPath
  if call.tool = "write_file" ∧ ¬workspace.config.permissions.write then
    some (blocked call.id "write" relPath
      "Write permission not granted" "write permission not granted")
  else if isExcluded relPath workspace.exclusions then
    some (blocked call.id call.tool relPath "File is excluded from workspace" "excluded file")
  else if workspace.sessionTransferBytes > maxSessionTransfer then
    some (blocked call.id call.tool relPath
      "Session transfer limit exceeded (500MB)" "session transfer limit exceeded")
  else none

/-- Whether the buyer approves; only writes are asked for. -/
def approval (call : McpCall) : Except String Bool :=
  if call.tool = "write_file" ∧ ¬workspace.config.autoApproveWrites ∧ workspace.config.onWrite then
    host.onWrite call.relPath call.content
  else .ok true

def executeTool (call : McpCall) : Execution :=
  let relPath := call.relPath
  match call.tool with
  | "list_directory" => workspace.execListDirectory host call.id relPath
  | "read_file" => workspace.execReadFile host call.id relPath
  | "write_file" => workspace.execWriteFile host call.id relPath call.content
  | tool => ⟨[], .ok (workspace, blocked call.id tool relPath
      s!"Unknown tool: {tool}" "unknown tool")⟩

end BuyerWorkspace

/-- A handled call. There is no result when the write gate throws. -/
structure Handled where
  workspace : BuyerWorkspace
  accesses : List FileAccess
  result : Option McpResult

def handleMcpCall (workspace : BuyerWorkspace) (host : Host) (call : McpCall) : Handled :=
  match workspace.refusal call with
  | some refused => ⟨workspace, [], some refused⟩
  | none =>
      match workspace.approval host call with
      | .error _ => ⟨workspace, [], none⟩
      | .ok false => ⟨workspace, [], some {
          id := call.id
          outcome := .error "Write rejected by buyer agent"
          metadata := { operation := "write", path := call.relPath, approved := some false } }⟩
      | .ok true =>
          let execution := workspace.executeTool host call
          match execution.outcome with
          | .ok (workspace, result) => ⟨workspace, execution.accesses, some result⟩
          | .error error => ⟨workspace, execution.accesses,
              some (blocked call.id call.tool call.relPath error error)⟩

end SovAgent.Buyer

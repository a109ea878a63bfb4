import SovAgent.Buyer.Workspace
import SovAgent.Foundation.Checks

/-! # Access control of the workspace

The exclusion test is made on the path as it was received, containment on the
resolved path, and nothing asks for the permission to read.
-/

namespace SovAgent.Buyer

/-! ## The exclusions of a pre-scan -/

/-- How a pre-scan writes an entry: relative to the root and in normal form, a
directory with a slash at the end. -/
structure Collected (exclusion : ExclusionEntry) (segments : List Segment) : Prop where
  nonempty : segments ≠ []
  proper : ∀ segment ∈ segments, segment.Proper
  spelled : exclusion.path.toList = Segment.join segments ∨
    exclusion.path.toList = Segment.join segments ++ ['/']

/-- The entry for a name directly below `currentDir`. -/
theorem collected_child {rootDir currentDir : AbsolutePath} (below : rootDir ≤ currentDir)
    (name : EntryName) {path : String} (reason : String)
    (spelled : path = relative rootDir (currentDir.child name.val name.property) ∨
      path = relative rootDir (currentDir.child name.val name.property) ++ "/") :
    ∃ segments, Collected ⟨path, reason⟩ segments := by
  have inside := AbsolutePath.le_child below name.val name.property
  rcases relative_of_le inside with ⟨segments, child, text⟩
  refine ⟨segments, ?_, ?_, ?_⟩
  · intro empty
    rcases below with ⟨others, equal⟩
    have lengths := congrArg List.length child
    have outer := congrArg List.length equal
    rw [empty] at lengths
    simp only [AbsolutePath.child, List.length_append, List.length_nil,
      List.length_singleton] at lengths outer
    omega
  · intro segment member
    apply (currentDir.child name.val name.property).proper
    rw [child]
    exact List.mem_append_right _ member
  · rw [← text]
    rcases spelled with rfl | rfl
    · exact Or.inl rfl
    · exact Or.inr String.toList_append

theorem walkDir_collected {rootDir currentDir : AbsolutePath} (below : rootDir ≤ currentDir)
    (directory : Directory) {exclusion : ExclusionEntry}
    (member : exclusion ∈ (walkDir rootDir currentDir directory).exclusions) :
    ∃ segments, Collected exclusion segments := by
  induction directory generalizing currentDir with
  | done => cases member
  | directory name inside rest inner later =>
      simp only [walkDir] at member
      split at member
      · rcases List.mem_cons.mp member with rfl | other
        · exact collected_child below name _ (Or.inr rfl)
        · exact later below other
      · rcases List.mem_append.mp member with within | other
        · exact inner (AbsolutePath.le_child below _ name.property) within
        · exact later below other
  | file name rest later | other name rest later =>
      simp only [walkDir] at member
      split at member
      · rcases List.mem_cons.mp member with rfl | other
        · exact collected_child below name _ (Or.inl rfl)
        · exact later below other
      · exact later below member

theorem withoutSlash_collected {exclusion : ExclusionEntry} {segments : List Segment}
    (collected : Collected exclusion segments) :
    (withoutSlash exclusion.path).toList = Segment.join segments := by
  rcases collected.spelled with plain | closed
  · rw [withoutSlash, if_neg, plain]
    rw [endsWith, List.isSuffixOf_iff_suffix, plain]
    intro slashed
    rcases slashed with ⟨front, equal⟩
    exact Segment.join_ne_concat_slash collected.proper front equal.symm
  · have slashed : endsWith exclusion.path "/" = true := by
      rw [endsWith, List.isSuffixOf_iff_suffix, closed]
      exact List.suffix_append _ _
    rw [withoutSlash, if_pos slashed, withoutLast, String.toList_ofList, closed,
      List.dropLast_concat]

/-! ## What is asked for -/

/-- The path is an excluded entry or below one. -/
def Covered (workspace : BuyerWorkspace) (path : AbsolutePath) : Prop :=
  ∃ exclusion ∈ workspace.exclusions, resolve workspace.root exclusion.path ≤ path

theorem isExcluded_relative_iff {workspace : BuyerWorkspace} {path : AbsolutePath}
    (below : workspace.root ≤ path) :
    isExcluded (relative workspace.root path) workspace.exclusions = true ↔
      Covered workspace path := by
  rcases relative_of_le below with ⟨segments, equal, text⟩
  have proper : ∀ segment ∈ segments, segment.Proper := by
    intro segment member
    apply path.proper
    rw [equal]
    exact List.mem_append_right _ member
  rw [isExcluded, List.any_eq_true]
  have one : ∀ exclusion ∈ workspace.exclusions,
      ((relative workspace.root path == withoutSlash exclusion.path) ||
        startsWith (relative workspace.root path) (withoutSlash exclusion.path ++ "/")) = true ↔
        resolve workspace.root exclusion.path ≤ path := by
    intro exclusion member
    rcases workspace.collected with ⟨directory, exclusions⟩
    rw [exclusions] at member
    rcases walkDir_collected (List.prefix_refl _) directory member with ⟨entry, collected⟩
    have resolved := resolve_join workspace.root collected.nonempty collected.proper
      collected.spelled
    change _ ↔ (resolve workspace.root exclusion.path).segments <+: path.segments
    rw [resolved, equal, List.prefix_append_right_inj,
      ← Segment.join_prefix_iff collected.nonempty collected.proper proper,
      Bool.or_eq_true, beq_iff_eq, ← String.toList_inj, text, withoutSlash_collected collected,
      startsWith, List.isPrefixOf_iff_prefix, text, String.toList_append,
      withoutSlash_collected collected]
    rfl
  constructor
  · intro tested
    rcases tested with ⟨exclusion, member, excluded⟩
    exact ⟨exclusion, member, (one exclusion member).mp excluded⟩
  · intro covered
    rcases covered with ⟨exclusion, member, above⟩
    exact ⟨exclusion, member, (one exclusion member).mpr above⟩

/-- Access as the permissions, the root and the exclusions have it. The
directories above a written file are made where they are missing. -/
def Permitted (workspace : BuyerWorkspace) : FileAccess → Prop
  | .readdir path | .readFile path =>
      workspace.config.permissions.read ∧ workspace.root ≤ path ∧ ¬Covered workspace path
  | .writeFile path _ =>
      workspace.config.permissions.write ∧ workspace.root ≤ path ∧ ¬Covered workspace path
  | .mkdir _ => True

theorem resolveSafe_eq_some {workspace : BuyerWorkspace} {relPath : String}
    {path : AbsolutePath} (safe : workspace.resolveSafe relPath = some path) :
    path = resolve workspace.root relPath ∧ workspace.root ≤ path := by
  rw [BuyerWorkspace.resolveSafe] at safe
  split at safe
  · cases safe
  · split at safe
    · cases safe
    · simp only at safe
      split at safe
      · cases safe
      · rename_i inside
        rw [Option.some.injEq] at safe
        rw [← safe]
        refine ⟨rfl, AbsolutePath.le_of_startsWith ?_⟩
        by_cases starts : startsWith (resolve workspace.root relPath).text
            (workspace.root.text ++ "/") = true
        · exact Or.inl starts
        · exact Or.inr (Decidable.not_not.mp fun other => inside ⟨starts, other⟩)

/-! ## What a call reaches -/

inductive Reaches (call : McpCall) (path : AbsolutePath) : FileAccess → Prop
  | list : call.tool = "list_directory" → Reaches call path (.readdir path)
  | read : call.tool = "read_file" → Reaches call path (.readFile path)
  | write {content} : call.tool = "write_file" → call.content = some content →
      byteLength content ≤ maxFileSize → Reaches call path (.writeFile path content)
  | above {parent} : Reaches call path (.mkdir parent)

theorem executeTool_reaches {workspace : BuyerWorkspace} {host : Host} {call : McpCall}
    {access : FileAccess} (member : access ∈ (workspace.executeTool host call).accesses) :
    ∃ path, workspace.resolveSafe call.relPath = some path ∧ Reaches call path access := by
  simp only [BuyerWorkspace.executeTool] at member
  split at member
  · rename_i tool
    simp only [BuyerWorkspace.execListDirectory] at member
    split at member
    · cases member
    · rename_i path safe
      split at member
      · cases member
      · rw [List.mem_singleton.mp member]
        exact ⟨path, safe, .list tool⟩
  · rename_i tool
    simp only [BuyerWorkspace.execReadFile] at member
    split at member
    · cases member
    · rename_i path safe
      split at member
      · cases member
      · split at member
        · cases member
        · rw [List.mem_singleton.mp member]
          exact ⟨path, safe, .read tool⟩
  · rename_i tool
    simp only [BuyerWorkspace.execWriteFile] at member
    split at member
    · cases member
    · rename_i path safe
      refine ⟨path, safe, ?_⟩
      split at member
      · cases member
      · rename_i content given
        split at member
        · cases member
        · rename_i small
          split at member
          · split at member
            · cases member
            · rw [List.mem_singleton.mp member]
              exact .above
          · rcases List.mem_append.mp member with made | written
            · split at made
              · cases made
              · rw [List.mem_singleton.mp made]
                exact .above
            · rw [List.mem_singleton.mp written]
              exact .write tool given (Nat.le_of_not_lt small)
  · cases member

theorem refusal_eq_none_iff {workspace : BuyerWorkspace} {call : McpCall} :
    workspace.refusal call = none ↔
      (call.tool = "write_file" → workspace.config.permissions.write) ∧
        isExcluded call.relPath workspace.exclusions = false ∧
        workspace.sessionTransferBytes ≤ maxSessionTransfer := by
  simp only [BuyerWorkspace.refusal]
  split
  · rename_i denied
    constructor
    · intro impossible
      cases impossible
    · intro granted
      exact absurd (granted.1 denied.1) denied.2
  · rename_i granted
    split
    · rename_i excluded
      rw [excluded]
      constructor
      · intro impossible
        cases impossible
      · intro other
        cases other.2.1
    · rename_i included
      split
      · rename_i large
        constructor
        · intro impossible
          cases impossible
        · intro small
          exact absurd small.2.2 (Nat.not_le_of_lt large)
      · rename_i small
        refine ⟨fun _ => ⟨?_, ?_, Nat.le_of_not_lt small⟩, fun _ => rfl⟩
        · intro write
          exact Decidable.not_not.mp fun denied => granted ⟨write, denied⟩
        · exact Bool.eq_false_iff.mpr included

theorem executed_of_mem {workspace : BuyerWorkspace} {host : Host} {call : McpCall}
    {access : FileAccess} (member : access ∈ (handleMcpCall workspace host call).accesses) :
    workspace.refusal call = none ∧ access ∈ (workspace.executeTool host call).accesses := by
  simp only [handleMcpCall] at member
  split at member
  · cases member
  · rename_i admitted
    refine ⟨admitted, ?_⟩
    split at member
    · cases member
    · cases member
    · split at member
      · exact member
      · exact member

theorem accesses_of_approved {workspace : BuyerWorkspace} {host : Host} {call : McpCall}
    (admitted : workspace.refusal call = none)
    (approved : workspace.approval host call = .ok true) :
    (handleMcpCall workspace host call).accesses =
      (workspace.executeTool host call).accesses := by
  simp only [handleMcpCall, admitted, approved]
  split
  · rfl
  · rfl

/-! ## What a call leaves -/

/-- Only the counters differ. -/
structure SameProject (workspace later : BuyerWorkspace) : Prop where
  config : later.config = workspace.config
  cwd : later.cwd = workspace.cwd
  exclusions : later.exclusions = workspace.exclusions

theorem SameProject.refl (workspace : BuyerWorkspace) : SameProject workspace workspace :=
  ⟨rfl, rfl, rfl⟩

theorem SameProject.trans {first second third : BuyerWorkspace}
    (earlier : SameProject first second) (later : SameProject second third) :
    SameProject first third :=
  ⟨later.config.trans earlier.config, later.cwd.trans earlier.cwd,
    later.exclusions.trans earlier.exclusions⟩

theorem SameProject.resolveSafe {workspace later : BuyerWorkspace}
    (same : SameProject workspace later) (relPath : String) :
    later.resolveSafe relPath = workspace.resolveSafe relPath := by
  have root : later.root = workspace.root := by
    rw [BuyerWorkspace.root, BuyerWorkspace.root, same.config, same.cwd]
  rw [BuyerWorkspace.resolveSafe, BuyerWorkspace.resolveSafe, root]

section Tools

variable {workspace later : BuyerWorkspace} {host : Host} {id path : String}
  {result : McpResult}

theorem execListDirectory_leaves
    (done : (workspace.execListDirectory host id path).outcome = .ok (later, result)) :
    result.id = id ∧ SameProject workspace later := by
  simp only [BuyerWorkspace.execListDirectory] at done
  split at done
  · cases done
    exact ⟨rfl, .refl workspace⟩
  · split at done
    · cases done
      exact ⟨rfl, .refl workspace⟩
    · simp only [bind_eq_ok] at done
      rcases done with ⟨entries, _, listed, _, made⟩
      cases made
      exact ⟨rfl, rfl, rfl, rfl⟩

theorem execReadFile_leaves
    (done : (workspace.execReadFile host id path).outcome = .ok (later, result)) :
    result.id = id ∧ SameProject workspace later := by
  simp only [BuyerWorkspace.execReadFile] at done
  split at done
  · cases done
    exact ⟨rfl, .refl workspace⟩
  · split at done
    · cases done
      exact ⟨rfl, .refl workspace⟩
    · split at done
      · cases done
        exact ⟨rfl, .refl workspace⟩
      · simp only [bind_eq_ok] at done
        rcases done with ⟨buffer, _, made⟩
        split at made
        · cases made
          exact ⟨rfl, .refl workspace⟩
        · cases made
          exact ⟨rfl, rfl, rfl, rfl⟩

theorem execWriteFile_leaves {content : Option String}
    (done : (workspace.execWriteFile host id path content).outcome = .ok (later, result)) :
    result.id = id ∧ SameProject workspace later := by
  simp only [BuyerWorkspace.execWriteFile] at done
  split at done
  · cases done
    exact ⟨rfl, .refl workspace⟩
  · split at done
    · cases done
    · split at done
      · cases done
        exact ⟨rfl, .refl workspace⟩
      · split at done
        · cases done
        · simp only [bind_eq_ok] at done
          rcases done with ⟨_, _, made⟩
          cases made
          exact ⟨rfl, rfl, rfl, rfl⟩

end Tools

theorem executeTool_leaves {workspace later : BuyerWorkspace} {host : Host} {call : McpCall}
    {result : McpResult} (done : (workspace.executeTool host call).outcome = .ok (later, result)) :
    result.id = call.id ∧ SameProject workspace later := by
  simp only [BuyerWorkspace.executeTool] at done
  split at done
  · exact execListDirectory_leaves done
  · exact execReadFile_leaves done
  · exact execWriteFile_leaves done
  · cases done
    exact ⟨rfl, .refl workspace⟩

theorem handleMcpCall_leaves (workspace : BuyerWorkspace) (host : Host) (call : McpCall) :
    SameProject workspace (handleMcpCall workspace host call).workspace := by
  simp only [handleMcpCall]
  split
  · exact .refl workspace
  · split
    · exact .refl workspace
    · exact .refl workspace
    · split
      · rename_i later result done
        exact (executeTool_leaves done).2
      · exact .refl workspace

/-! ## When a call stays within its rights -/

structure Passes (workspace : BuyerWorkspace) (call : McpCall) : Prop where
  known : call.tool ∈ ["list_directory", "read_file", "write_file"]
  written : call.tool = "write_file" → workspace.config.permissions.write ∧
    ∃ content, call.content = some content ∧ byteLength content ≤ maxFileSize
  within : workspace.sessionTransferBytes ≤ maxSessionTransfer
  unexcluded : isExcluded call.relPath workspace.exclusions = false
  inside : (workspace.resolveSafe call.relPath).isSome

/-- The permission to read, for the calls that read, and an exclusion test that
comes out as it would on the path in normal form. -/
structure Rightful (workspace : BuyerWorkspace) (call : McpCall) : Prop where
  readable : call.tool ≠ "write_file" → workspace.config.permissions.read
  normal : isExcluded (relative workspace.root (resolve workspace.root call.relPath))
    workspace.exclusions = isExcluded call.relPath workspace.exclusions

def openHost (isDirectory : Bool) : Host where
  stat _ := .ok ⟨isDirectory, !isDirectory, 0⟩
  readdir _ := .ok []
  readFile _ := .ok []
  mkdir _ := .ok ()
  writeFile _ := .ok ()
  onWrite _ _ := .ok true
  sha256 _ := ""

theorem Passes.reaches {workspace : BuyerWorkspace} {call : McpCall}
    (passes : Passes workspace call) {path : AbsolutePath}
    (safe : workspace.resolveSafe call.relPath = some path) :
    ∃ host, ∃ access ∈ (handleMcpCall workspace host call).accesses,
      (call.tool ≠ "write_file" ∧ (access = .readdir path ∨ access = .readFile path)) ∨
        ∃ content, call.tool = "write_file" ∧ access = .writeFile path content := by
  have admitted := refusal_eq_none_iff.mpr
    ⟨fun write => (passes.written write).1, passes.unexcluded, passes.within⟩
  have approved : ∀ isDirectory, workspace.approval (openHost isDirectory) call = .ok true := by
    intro isDirectory
    simp only [BuyerWorkspace.approval, openHost, ite_self]
  have known := passes.known
  simp only [List.mem_cons, List.not_mem_nil, or_false] at known
  rcases known with list | read | write
  · refine ⟨openHost true, .readdir path, ?_, Or.inl ⟨by rw [list]; decide, Or.inl rfl⟩⟩
    rw [accesses_of_approved admitted (approved _), BuyerWorkspace.executeTool, list]
    change _ ∈ (workspace.execListDirectory _ _ _).accesses
    simp only [BuyerWorkspace.execListDirectory, safe]
    exact List.mem_singleton_self _
  · refine ⟨openHost false, .readFile path, ?_, Or.inl ⟨by rw [read]; decide, Or.inr rfl⟩⟩
    rw [accesses_of_approved admitted (approved _), BuyerWorkspace.executeTool, read]
    change _ ∈ (workspace.execReadFile _ _ _).accesses
    simp only [BuyerWorkspace.execReadFile, safe]
    exact List.mem_singleton_self _
  · rcases (passes.written write).2 with ⟨content, given, small⟩
    refine ⟨openHost true, .writeFile path content, ?_, Or.inr ⟨content, write, rfl⟩⟩
    rw [accesses_of_approved admitted (approved _), BuyerWorkspace.executeTool, write]
    change _ ∈ (workspace.execWriteFile _ _ _ _).accesses
    simp only [BuyerWorkspace.execWriteFile, safe, given, if_neg (Nat.not_lt_of_le small)]
    exact List.mem_singleton_self _

/-- Whatever the files are and the buyer answers, a call reads, lists and writes
as it may exactly when it is rightful or does not come through the other checks. -/
theorem handleMcpCall_permitted_iff (workspace : BuyerWorkspace) (call : McpCall) :
    (∀ host, ∀ access ∈ (handleMcpCall workspace host call).accesses,
      Permitted workspace access) ↔
      (Passes workspace call → Rightful workspace call) := by
  constructor
  · intro permitted passes
    rcases Option.isSome_iff_exists.mp passes.inside with ⟨path, safe⟩
    rcases resolveSafe_eq_some safe with ⟨resolved, below⟩
    rcases passes.reaches safe with ⟨host, access, member, kind⟩
    have allowed := permitted host access member
    have normal : ¬Covered workspace path →
        isExcluded (relative workspace.root (resolve workspace.root call.relPath))
          workspace.exclusions = isExcluded call.relPath workspace.exclusions := by
      intro uncovered
      rw [passes.unexcluded, ← resolved, Bool.eq_false_iff]
      intro excluded
      exact uncovered ((isExcluded_relative_iff below).mp excluded)
    rcases kind with ⟨_, rfl | rfl⟩ | ⟨content, write, rfl⟩
    · exact ⟨fun _ => allowed.1, normal allowed.2.2⟩
    · exact ⟨fun _ => allowed.1, normal allowed.2.2⟩
    · exact ⟨fun other => absurd write other, normal allowed.2.2⟩
  · intro rightful host access member
    rcases executed_of_mem member with ⟨admitted, executed⟩
    rcases executeTool_reaches executed with ⟨path, safe, reaches⟩
    rcases refusal_eq_none_iff.mp admitted with ⟨granted, unexcluded, within⟩
    rcases resolveSafe_eq_some safe with ⟨resolved, below⟩
    have inside : (workspace.resolveSafe call.relPath).isSome := by
      rw [safe]
      rfl
    have uncovered : Rightful workspace call → ¬Covered workspace path := by
      intro right covered
      have excluded := (isExcluded_relative_iff below).mpr covered
      rw [resolved, right.normal, unexcluded] at excluded
      cases excluded
    cases reaches with
    | list tool =>
        have notWrite : call.tool ≠ "write_file" := by
          rw [tool]
          decide
        have right := rightful
          ⟨by rw [tool]; decide, fun write => absurd write notWrite, within, unexcluded, inside⟩
        exact ⟨right.readable notWrite, below, uncovered right⟩
    | read tool =>
        have notWrite : call.tool ≠ "write_file" := by
          rw [tool]
          decide
        have right := rightful
          ⟨by rw [tool]; decide, fun write => absurd write notWrite, within, unexcluded, inside⟩
        exact ⟨right.readable notWrite, below, uncovered right⟩
    | write tool given small =>
        have right := rightful ⟨by rw [tool]; decide,
          fun write => ⟨granted write, _, given, small⟩, within, unexcluded, inside⟩
        exact ⟨granted tool, below, uncovered right⟩
    | above => trivial

/-! A project with a secret, asked for under a spelling of its own, and a project
that is not to be read at all. -/

def projectFiles : Directory :=
  .file ⟨".env".toList, by decide⟩ (.file ⟨"README.md".toList, by decide⟩ .done)

theorem projectFiles_scanned : [⟨".env", "environment variables"⟩] =
    (walkDir (resolve .topmost "/project") (resolve .topmost "/project")
      projectFiles).exclusions := by
  decide +kernel

def servedProject (permissions : Permissions) : BuyerWorkspace where
  config := { projectDir := "/project", permissions }
  cwd := .topmost
  exclusions := [⟨".env", "environment variables"⟩]
  collected := ⟨projectFiles, projectFiles_scanned⟩

def readCall (path : String) : McpCall := ⟨"1", "read_file", some path, none⟩

def secretFile : AbsolutePath := ⟨["project".toList, ".env".toList], by decide⟩

def readmeFile : AbsolutePath := ⟨["project".toList, "README.md".toList], by decide⟩

theorem excluded_and_unpermitted_reads :
    (.readFile secretFile ∈
        (handleMcpCall (servedProject ⟨true, true⟩) (openHost false)
          (readCall "./.env")).accesses ∧
      ¬Permitted (servedProject ⟨true, true⟩) (.readFile secretFile)) ∧
    .readFile readmeFile ∈
        (handleMcpCall (servedProject ⟨false, true⟩) (openHost false)
          (readCall "README.md")).accesses ∧
      ¬Permitted (servedProject ⟨false, true⟩) (.readFile readmeFile) := by
  refine ⟨⟨by decide +kernel, ?_⟩, by decide +kernel, ?_⟩
  · intro permitted
    exact permitted.2.2 ⟨⟨".env", "environment variables"⟩, by decide, by decide +kernel⟩
  · intro permitted
    cases permitted.1

end SovAgent.Buyer

import SovAgent.Foundation.Text
import Mathlib.Data.List.Basic

/-! # Lexical paths

Absolute paths in normal form, as `resolve` and `relative` of the POSIX path
module return them.
-/

namespace SovAgent

abbrev Segment := List Char

structure Segment.Proper (segment : Segment) : Prop where
  nonempty : segment ≠ []
  notHere : segment ≠ ['.']
  notUp : segment ≠ ['.', '.']
  noSlash : '/' ∉ segment

instance (segment : Segment) : Decidable segment.Proper :=
  decidable_of_iff (segment ≠ [] ∧ segment ≠ ['.'] ∧ segment ≠ ['.', '.'] ∧ '/' ∉ segment)
    ⟨fun holds => ⟨holds.1, holds.2.1, holds.2.2.1, holds.2.2.2⟩,
      fun proper => ⟨proper.nonempty, proper.notHere, proper.notUp, proper.noSlash⟩⟩

def Segment.split (path : String) : List Segment := path.toList.splitOn '/'

def Segment.join (segments : List Segment) : List Char := ['/'].intercalate segments

/-- An absolute path in normal form. -/
structure AbsolutePath where
  segments : List Segment
  proper : ∀ segment ∈ segments, segment.Proper
deriving DecidableEq

namespace AbsolutePath

def text (path : AbsolutePath) : String := String.ofList ('/' :: Segment.join path.segments)

def topmost : AbsolutePath := ⟨[], fun _ member => nomatch member⟩

def child (path : AbsolutePath) (name : Segment) (proper : name.Proper) : AbsolutePath where
  segments := path.segments ++ [name]
  proper segment member := by
    rcases List.mem_append.mp member with earlier | last
    · exact path.proper segment earlier
    · rw [List.mem_singleton.mp last]
      exact proper

def parent (path : AbsolutePath) : AbsolutePath :=
  ⟨path.segments.dropLast, fun segment member =>
    path.proper segment (List.mem_of_mem_dropLast member)⟩

/-- Follow one segment of a split path. An empty one and a dot stay. -/
def follow (path : AbsolutePath) (segment : Segment) : AbsolutePath :=
  if proper : segment.Proper then path.child segment proper
  else if segment = ['.', '.'] then path.parent
  else path

/-- `path ≤ other` when `other` is `path` or below it. -/
instance : LE AbsolutePath := ⟨fun path other => path.segments <+: other.segments⟩

instance (path other : AbsolutePath) : Decidable (path ≤ other) :=
  inferInstanceAs (Decidable (path.segments <+: other.segments))

end AbsolutePath

def isAbsolute (path : String) : Bool := startsWith path "/"

def resolve (base : AbsolutePath) (path : String) : AbsolutePath :=
  (Segment.split path).foldl AbsolutePath.follow (if isAbsolute path then .topmost else base)

def relativeSegments : List Segment → List Segment → List Segment
  | here :: source, there :: target =>
      if here = there then relativeSegments source target
      else (here :: source).map (fun _ => ['.', '.']) ++ there :: target
  | source, target => source.map (fun _ => ['.', '.']) ++ target

def relative (source target : AbsolutePath) : String :=
  String.ofList (Segment.join (relativeSegments source.segments target.segments))

/-! ## Splitting and joining -/

namespace Segment

theorem split_join {segments : List Segment} (some : segments ≠ [])
    (proper : ∀ segment ∈ segments, segment.Proper) :
    (join segments).splitOn '/' = segments :=
  List.splitOn_intercalate '/' (fun segment member => (proper segment member).noSlash) some

theorem join_ne_nil {segments : List Segment} (some : segments ≠ [])
    (proper : ∀ segment ∈ segments, segment.Proper) : join segments ≠ [] := by
  intro empty
  have whole := split_join some proper
  rw [empty, List.splitOn_nil] at whole
  exact (proper [] (whole ▸ List.mem_singleton_self _)).nonempty rfl

theorem join_cons (segment : Segment) {rest : List Segment} (more : rest ≠ []) :
    join (segment :: rest) = segment ++ '/' :: join rest := by
  rw [join, List.intercalate_cons_of_ne_nil more, List.append_assoc]
  rfl

theorem join_append {first second : List Segment} (some : first ≠ []) (more : second ≠ []) :
    join (first ++ second) = join first ++ '/' :: join second := by
  induction first with
  | nil => exact absurd rfl some
  | cons segment rest induction =>
      cases rest with
      | nil =>
          rw [List.singleton_append, join_cons segment more]
          exact congrArg (· ++ _) List.intercalate_singleton.symm
      | cons next rest =>
          have both : next :: rest ++ second ≠ [] := List.cons_ne_nil _ _
          rw [List.cons_append, join_cons segment both, induction (List.cons_ne_nil _ _),
            join_cons segment (List.cons_ne_nil _ _), List.append_assoc, List.cons_append]

/-- On joined segments, what `startsWith` tests with a slash at the end is a
prefix of segments. -/
theorem join_prefix_iff {first second : List Segment} (some : first ≠ [])
    (proper : ∀ segment ∈ first, segment.Proper) (proper' : ∀ segment ∈ second, segment.Proper) :
    join second = join first ∨ (join first ++ ['/']) <+: join second ↔ first <+: second := by
  constructor
  · intro tested
    rcases tested with same | ⟨rest, equal⟩
    · have whole := split_join some proper
      by_cases empty : second = []
      · rw [empty] at same
        exact absurd same.symm (join_ne_nil some proper)
      · rw [← same, split_join empty proper'] at whole
        rw [whole]
    · have more : second ≠ [] := by
        intro empty
        rw [empty] at equal
        exact absurd (List.append_eq_nil_iff.mp equal).1
          (List.append_ne_nil_of_right_ne_nil _ (List.cons_ne_nil _ _))
      have parts := split_join more proper'
      rw [← equal, List.append_assoc, List.singleton_append, List.splitOn_append_cons_self,
        split_join some proper] at parts
      exact ⟨_, parts⟩
  · intro below
    rcases below with ⟨rest, rfl⟩
    by_cases here : rest = []
    · rw [here, List.append_nil]
      exact Or.inl rfl
    · right
      rw [join_append some here]
      exact ⟨join rest, by rw [List.append_assoc]; rfl⟩

theorem join_ne_of_split_empty {segments : List Segment}
    (proper : ∀ segment ∈ segments, segment.Proper) {front back : List Char}
    (empty : [] ∈ front.splitOn '/' ++ back.splitOn '/') :
    join segments ≠ front ++ '/' :: back := by
  intro equal
  have some : segments ≠ [] := by
    intro none
    rw [none] at equal
    exact absurd equal.symm (List.append_ne_nil_of_right_ne_nil _ (List.cons_ne_nil _ _))
  have parts := split_join some proper
  rw [equal, List.splitOn_append_cons_self] at parts
  exact (proper [] (parts ▸ empty)).nonempty rfl

theorem join_ne_slash_cons {segments : List Segment}
    (proper : ∀ segment ∈ segments, segment.Proper) (tail : List Char) :
    join segments ≠ '/' :: tail := by
  rw [← List.nil_append ('/' :: tail)]
  exact join_ne_of_split_empty proper List.mem_cons_self

theorem join_ne_concat_slash {segments : List Segment}
    (proper : ∀ segment ∈ segments, segment.Proper) (front : List Char) :
    join segments ≠ front ++ ['/'] :=
  join_ne_of_split_empty proper (List.mem_append_right _ List.mem_cons_self)

end Segment

/-! ## Resolving -/

namespace AbsolutePath

theorem foldl_follow (path : AbsolutePath) {segments : List Segment}
    (proper : ∀ segment ∈ segments, segment.Proper) :
    (segments.foldl follow path).segments = path.segments ++ segments := by
  induction segments generalizing path with
  | nil => exact (List.append_nil _).symm
  | cons segment rest induction =>
      have first := proper segment List.mem_cons_self
      rw [List.foldl_cons, induction _ fun other member =>
        proper other (List.mem_cons_of_mem _ member), follow, dif_pos first]
      exact List.append_assoc _ [segment] rest

theorem le_child {path other : AbsolutePath} (below : path ≤ other) (name : Segment)
    (proper : name.Proper) : path ≤ other.child name proper := by
  rcases below with ⟨segments, equal⟩
  refine ⟨segments ++ [name], ?_⟩
  rw [← List.append_assoc, equal]
  rfl

theorem le_of_startsWith {path other : AbsolutePath}
    (tested : startsWith other.text (path.text ++ "/") ∨ other.text = path.text) :
    path ≤ other := by
  by_cases top : path.segments = []
  · refine ⟨other.segments, ?_⟩
    rw [top, List.nil_append]
  · apply (Segment.join_prefix_iff top path.proper other.proper).mp
    rcases tested with starts | same
    · right
      rcases startsWith_iff.mp starts with ⟨rest, equal⟩
      have characters := congrArg String.toList equal
      simp only [text, String.toList_append, String.toList_ofList] at characters
      exact ⟨rest.toList, (List.cons.inj characters).2.symm⟩
    · left
      have characters := congrArg String.toList same
      simp only [text, String.toList_ofList] at characters
      exact (List.cons.inj characters).2

end AbsolutePath

theorem resolve_join (base : AbsolutePath) {path : String} {segments : List Segment}
    (some : segments ≠ []) (proper : ∀ segment ∈ segments, segment.Proper)
    (spelled : path.toList = Segment.join segments ∨ path.toList = Segment.join segments ++ ['/']) :
    (resolve base path).segments = base.segments ++ segments := by
  have onward : isAbsolute path = false := by
    rw [isAbsolute, Bool.eq_false_iff]
    intro slash
    rcases startsWith_iff.mp slash with ⟨rest, equal⟩
    rw [equal, String.toList_append] at spelled
    rcases spelled with plain | closed
    · exact Segment.join_ne_slash_cons proper _ plain.symm
    · cases joined : Segment.join segments with
      | nil => exact Segment.join_ne_nil some proper joined
      | cons first tail =>
          rw [joined, List.cons_append] at closed
          have slashed : first = '/' := (List.cons.inj closed).1.symm
          rw [slashed] at joined
          exact Segment.join_ne_slash_cons proper _ joined
  rw [resolve, onward, if_neg Bool.false_ne_true, Segment.split]
  rcases spelled with plain | closed
  · rw [plain, Segment.split_join some proper]
    exact base.foldl_follow proper
  · rw [closed, List.splitOn_append_cons_self, Segment.split_join some proper, List.splitOn_nil,
      List.foldl_append]
    exact base.foldl_follow proper

theorem relativeSegments_append (source target : List Segment) :
    relativeSegments source (source ++ target) = target := by
  induction source with
  | nil => rfl
  | cons segment rest induction =>
      rw [List.cons_append, relativeSegments, if_pos rfl]
      exact induction

theorem relative_of_le {source target : AbsolutePath} (below : source ≤ target) :
    ∃ segments, target.segments = source.segments ++ segments ∧
      (relative source target).toList = Segment.join segments := by
  rcases below with ⟨segments, equal⟩
  refine ⟨segments, equal.symm, ?_⟩
  rw [relative, String.toList_ofList, ← equal, relativeSegments_append]

end SovAgent

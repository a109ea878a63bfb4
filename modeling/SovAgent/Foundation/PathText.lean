import SovAgent.Foundation.Path
import Mathlib.Data.List.TakeWhile

/-! # Paths as texts

`basename`, `normalize` and `join` of the POSIX path module, and where their paths lead.
-/

namespace SovAgent

def basename (path : String) : String :=
  String.ofList ((path.toList.reverse.dropWhile (· = '/')).takeWhile (· ≠ '/')).reverse

example : basename "../reports/may.txt//" = "may.txt" := by decide

def normalizeSegment (absolute : Bool) (before : List Segment) (segment : Segment) :
    List Segment :=
  if segment = [] ∨ segment = ['.'] then before
  else if segment = ['.', '.'] then
    match before with
    | [] => if absolute then [] else [['.', '.']]
    | last :: rest =>
        if last = ['.', '.'] then if absolute then before else segment :: before else rest
  else segment :: before

def normalizeSegments (absolute : Bool) (segments : List Segment) : List Segment :=
  (segments.foldl (normalizeSegment absolute) []).reverse

def normalizePath (path : String) : String :=
  let normal := Segment.join (normalizeSegments (isAbsolute path) (Segment.split path))
  if path = "" then "."
  else String.ofList
    ((if isAbsolute path then ['/'] else []) ++
      (if normal = [] then if isAbsolute path then [] else ['.'] else normal) ++
      (if endsWith path "/" ∧ (isAbsolute path → normal ≠ []) then ['/'] else []))

def joinPath (first second : String) : String :=
  normalizePath (String.intercalate "/" ([first, second].filter (· ≠ "")))

example : joinPath "downloads/./old/.." "may.txt" = "downloads/may.txt" := by decide
example : normalizePath "/../a//b/" = "/a/b/" := by decide

/-! ## Base names -/

theorem basename_noSlash (path : String) : '/' ∉ (basename path).toList := by
  rw [basename, String.toList_ofList, List.mem_reverse]
  intro member
  have other := List.mem_takeWhile_imp member
  simp at other

/-! ## Following segments -/

namespace AbsolutePath

theorem eq_of_segments {path other : AbsolutePath} (equal : path.segments = other.segments) :
    path = other := by
  cases path
  cases other
  cases equal
  rfl

theorem follow_stay (path : AbsolutePath) {segment : Segment}
    (stay : segment = [] ∨ segment = ['.']) : path.follow segment = path := by
  rcases stay with rfl | rfl <;> rfl

theorem follow_up (path : AbsolutePath) : path.follow ['.', '.'] = path.parent := rfl

theorem follow_proper (path : AbsolutePath) {segment : Segment} (proper : segment.Proper) :
    path.follow segment = path.child segment proper := dif_pos proper

theorem parent_child (path : AbsolutePath) {segment : Segment} (proper : segment.Proper) :
    (path.child segment proper).parent = path :=
  eq_of_segments List.dropLast_concat

end AbsolutePath

def Segment.Kept (absolute : Bool) (segment : Segment) : Prop :=
  segment.Proper ∨ absolute = false ∧ segment = ['.', '.']

theorem Segment.Kept.noSlash {absolute : Bool} {segment : Segment}
    (kept : segment.Kept absolute) : '/' ∉ segment := by
  rcases kept with proper | ⟨_, rfl⟩
  · exact proper.noSlash
  · decide

theorem Segment.Kept.nonempty {absolute : Bool} {segment : Segment}
    (kept : segment.Kept absolute) : segment ≠ [] := by
  rcases kept with proper | ⟨_, rfl⟩
  · exact proper.nonempty
  · decide

/-- The segments that were taken in lead to where all segments lead. -/
structure LeadsTo (absolute : Bool) (base : AbsolutePath) (before : List Segment)
    (place : AbsolutePath) : Prop where
  kept : ∀ segment ∈ before, segment.Kept absolute
  place : before.reverse.foldl AbsolutePath.follow base = place

theorem LeadsTo.push {absolute : Bool} {base place : AbsolutePath} {before : List Segment}
    (leads : LeadsTo absolute base before place) {segment : Segment}
    (kept : segment.Kept absolute) :
    LeadsTo absolute base (segment :: before) (place.follow segment) where
  kept := List.forall_mem_cons.mpr ⟨kept, leads.kept⟩
  place := by rw [List.reverse_cons, List.foldl_append, leads.place]; rfl

theorem LeadsTo.take {absolute : Bool} {base place : AbsolutePath}
    {before : List Segment} (top : absolute = true → base = .topmost)
    (leads : LeadsTo absolute base before place) {segment : Segment} (noSlash : '/' ∉ segment) :
    LeadsTo absolute base (normalizeSegment absolute before segment) (place.follow segment) := by
  rw [normalizeSegment.eq_def]
  by_cases stay : segment = [] ∨ segment = ['.']
  · rw [if_pos stay, place.follow_stay stay]
    exact leads
  · rw [if_neg stay]
    rw [not_or] at stay
    by_cases up : segment = ['.', '.']
    · subst up
      rw [if_pos rfl]
      cases before with
      | nil =>
          cases absolute with
          | false => exact leads.push (.inr ⟨rfl, rfl⟩)
          | true =>
              cases top rfl
              cases leads.place
              exact leads
      | cons last rest =>
          have inner := (List.forall_mem_cons.mp leads.kept).2
          rcases (List.forall_mem_cons.mp leads.kept).1 with proper | ⟨rfl, rfl⟩
          · -- a name and the two dots after it cancel out
            have place := leads.place
            rw [List.reverse_cons, List.foldl_append, List.foldl_cons, List.foldl_nil,
              AbsolutePath.follow_proper _ proper] at place
            dsimp only
            rw [if_neg proper.notUp, AbsolutePath.follow_up, ← place,
              AbsolutePath.parent_child]
            exact ⟨inner, rfl⟩
          · exact leads.push (.inr ⟨rfl, rfl⟩)
    · rw [if_neg up]
      exact leads.push (.inl ⟨stay.1, stay.2, up, noSlash⟩)

theorem noSlash_of_mem_splitOn {text segment : List Char} (member : segment ∈ text.splitOn '/') :
    '/' ∉ segment := by
  induction text generalizing segment with
  | nil =>
      rw [List.splitOn_nil, List.mem_singleton] at member
      rw [member]
      exact List.not_mem_nil
  | cons character rest induction =>
      rw [List.splitOn_cons_eq_if_modifyHead] at member
      split at member
      · rcases List.mem_cons.mp member with rfl | later
        · exact List.not_mem_nil
        · exact induction later
      · rename_i other
        cases parts : rest.splitOn '/' with
        | nil => exact absurd parts (List.splitOn_ne_nil _ _)
        | cons first others =>
            rw [parts, List.modifyHead_cons] at member
            rcases List.mem_cons.mp member with rfl | later
            · intro slash
              rcases List.mem_cons.mp slash with same | inside
              · exact other (beq_iff_eq.mpr same.symm)
              · exact induction (parts ▸ List.mem_cons_self) inside
            · exact induction (parts ▸ List.mem_cons_of_mem _ later)

theorem normalizeSegments_leadsTo {absolute : Bool} {base : AbsolutePath}
    (top : absolute = true → base = .topmost) {segments : List Segment}
    (noSlash : ∀ segment ∈ segments, '/' ∉ segment) :
    (∀ segment ∈ normalizeSegments absolute segments, segment.Kept absolute) ∧
    (normalizeSegments absolute segments).foldl AbsolutePath.follow base =
      segments.foldl AbsolutePath.follow base := by
  have all : ∀ (segments : List Segment) (before : List Segment) (place : AbsolutePath),
      (∀ segment ∈ segments, '/' ∉ segment) → LeadsTo absolute base before place →
      LeadsTo absolute base (segments.foldl (normalizeSegment absolute) before)
        (segments.foldl AbsolutePath.follow place) := by
    intro segments
    induction segments with
    | nil => exact fun _ _ _ leads => leads
    | cons segment rest induction =>
        intro before place noSlash leads
        rw [List.forall_mem_cons] at noSlash
        exact induction _ _ noSlash.2 (leads.take top noSlash.1)
  have start : LeadsTo absolute base [] base := ⟨List.forall_mem_nil _, rfl⟩
  have leads := all segments [] base noSlash start
  exact ⟨fun segment member => leads.kept segment (List.mem_reverse.mp member), leads.place⟩

/-! ## Resolving -/

theorem resolve_segments (base : AbsolutePath) {segments : List Segment} (some : segments ≠ [])
    (named : ∀ segment ∈ segments, segment ≠ []) (noSlash : ∀ segment ∈ segments, '/' ∉ segment)
    (absolute closed : Bool) :
    resolve base (String.ofList ((if absolute then ['/'] else []) ++ Segment.join segments ++
        (if closed then ['/'] else []))) =
      segments.foldl AbsolutePath.follow (if absolute then .topmost else base) := by
  have parts : (Segment.join segments).splitOn '/' = segments :=
    List.splitOn_intercalate '/' noSlash some
  have ending : ∀ place : AbsolutePath,
      ((Segment.join segments ++ if closed then ['/'] else []).splitOn '/').foldl
        AbsolutePath.follow place = segments.foldl AbsolutePath.follow place := by
    intro place
    cases closed with
    | false => rw [if_neg Bool.false_ne_true, List.append_nil, parts]
    | true =>
        rw [if_pos rfl, List.splitOn_append_cons_self, parts, List.foldl_append]
        exact AbsolutePath.follow_stay _ (.inl rfl)
  rw [resolve, Segment.split, isAbsolute, startsWith, List.append_assoc]
  simp only [String.toList_ofList]
  cases absolute with
  | true =>
      have leading := List.splitOn_append_cons_self (a := '/') []
        (Segment.join segments ++ if closed then ['/'] else [])
      rw [List.nil_append] at leading
      rw [if_pos rfl, List.singleton_append, leading, List.foldl_append, ending]
      rfl
  | false =>
      rw [if_neg Bool.false_ne_true, List.nil_append, ending]
      cases segments with
      | nil => exact absurd rfl some
      | cons first rest =>
          cases first with
          | nil => exact absurd rfl (named [] List.mem_cons_self)
          | cons character tail =>
              have other : '/' ≠ character :=
                fun same => noSlash _ List.mem_cons_self (same ▸ List.mem_cons_self)
              have starts : ∃ others, Segment.join ((character :: tail) :: rest) =
                  character :: others := by
                cases rest with
                | nil => exact ⟨tail, List.intercalate_singleton⟩
                | cons next rest => exact ⟨_, Segment.join_cons _ (List.cons_ne_nil _ _)⟩
              rcases starts with ⟨others, equal⟩
              rw [equal, if_neg, if_neg Bool.false_ne_true]
              intro starts
              exact other (List.cons_prefix_cons.mp (List.isPrefixOf_iff_prefix.mp starts)).1

theorem join_eq_nil_iff {segments : List Segment} (named : ∀ segment ∈ segments, segment ≠ []) :
    Segment.join segments = [] ↔ segments = [] := by
  cases segments with
  | nil => exact ⟨fun _ => rfl, fun _ => rfl⟩
  | cons first rest =>
      have nonempty := named first List.mem_cons_self
      refine ⟨fun empty => ?_, fun none => absurd none (List.cons_ne_nil _ _)⟩
      cases rest with
      | nil => exact absurd (List.intercalate_singleton.symm.trans empty) nonempty
      | cons next rest =>
          rw [Segment.join_cons _ (List.cons_ne_nil _ _)] at empty
          exact absurd (List.append_eq_nil_iff.mp empty).1 nonempty

theorem resolve_normalizePath (base : AbsolutePath) (path : String) :
    resolve base (normalizePath path) = resolve base path := by
  have top : isAbsolute path = true →
      (if isAbsolute path then AbsolutePath.topmost else base) = .topmost :=
    fun absolute => if_pos absolute
  have inside : ∀ segment ∈ Segment.split path, '/' ∉ segment :=
    fun _ member => noSlash_of_mem_splitOn member
  rcases normalizeSegments_leadsTo top inside with ⟨kept, place⟩
  have named := fun segment member => (kept segment member).nonempty
  have noSlash := fun segment member => (kept segment member).noSlash
  by_cases empty : path = ""
  · rw [normalizePath, if_pos empty, empty]
    exact AbsolutePath.follow_stay base (.inr rfl)
  rw [resolve.eq_def base path, ← place]
  by_cases none : normalizeSegments (isAbsolute path) (Segment.split path) = []
  · rw [normalizePath, if_neg empty, none]
    cases isAbsolute path <;> cases endsWith path "/" <;> rfl
  · have normal : Segment.join (normalizeSegments (isAbsolute path) (Segment.split path)) ≠ [] :=
      fun joined => none ((join_eq_nil_iff named).mp joined)
    have shape := resolve_segments base none named noSlash (isAbsolute path) (endsWith path "/")
    rw [← shape, normalizePath, if_neg empty]
    simp [normal]

theorem isAbsolute_append {path : String} (nonempty : path ≠ "") (rest : String) :
    isAbsolute (path ++ rest) = isAbsolute path := by
  rw [isAbsolute, isAbsolute, startsWith, startsWith, String.toList_append]
  cases characters : path.toList with
  | nil => exact absurd (String.toList_inj.mp characters) nonempty
  | cons character others => rfl

theorem resolve_joinPath (base : AbsolutePath) {directory name : String}
    (nonempty : directory ≠ "") (proper : Segment.Proper name.toList) :
    resolve base (joinPath directory name) =
      (resolve base directory).child name.toList proper := by
  have named : name ≠ "" := fun empty => proper.nonempty (empty ▸ rfl)
  have both : [directory, name].filter (· ≠ "") = [directory, name] := by simp [nonempty, named]
  have text : String.intercalate "/" [directory, name] = directory ++ ("/" ++ name) :=
    String.append_assoc
  have parts : (directory ++ ("/" ++ name)).toList.splitOn '/' =
      directory.toList.splitOn '/' ++ [name.toList] := by
    rw [String.toList_append, String.toList_append]
    exact (List.splitOn_append_cons_self _ _).trans
      (congrArg _ (List.splitOn_eq_singleton proper.noSlash))
  rw [joinPath, both, text, resolve_normalizePath, resolve, isAbsolute_append nonempty,
    Segment.split, parts, List.foldl_append]
  exact AbsolutePath.follow_proper _ proper

theorem resolve_text (base path : AbsolutePath) : resolve base path.text = path := by
  apply AbsolutePath.eq_of_segments
  by_cases top : path.segments = []
  · rw [AbsolutePath.text, top]
    rfl
  · have parts := resolve_segments base top (fun segment member =>
      (path.proper segment member).nonempty) (fun segment member =>
      (path.proper segment member).noSlash) true false
    rw [if_pos rfl, if_neg Bool.false_ne_true, List.append_nil, if_pos rfl] at parts
    exact (congrArg AbsolutePath.segments parts).trans
      (AbsolutePath.foldl_follow .topmost path.proper)

end SovAgent

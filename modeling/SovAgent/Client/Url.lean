import SovAgent.Client.IdentityKeys
import SovAgent.Foundation.PercentText

/-! # The address of a request

`fetch` parses an address before it sends anything: it removes dot segments, escapes
characters and cuts the query off. What is left is read by the platform.
-/

namespace SovAgent.Client

/-! ## The URL parser -/

structure UrlTarget where
  path : List (List Char)
  query : List Char
deriving DecidableEq

def percentTriple (byte : Nat) : List Char :=
  ['%', hexDigitUpper (byte / 16), hexDigitUpper (byte % 16)]

theorem hexValue_hexDigitUpper :
    ∀ value < 16, Json.hexValue (hexDigitUpper value) = some value := by
  decide

def utf8PercentEncode (inSet : Char → Bool) (character : Char) : List Char :=
  if inSet character then (characterBytes character).flatMap percentTriple else [character]

def isControl (character : Char) : Bool := character.toNat < 0x20 || 0x7E < character.toNat

def inPathSet (character : Char) : Bool :=
  isControl character ||
    character ∈ [' ', '"', '#', '<', '>', '?', '^', '\x60', '\x7b', '\x7d']

def inQuerySet (character : Char) : Bool :=
  isControl character || character ∈ [' ', '"', '#', '<', '>', '\'']

def singleDots : List (List Char) := [".", "%2e", "%2E"].map String.toList

def doubleDots : List (List Char) := do
  let first ← singleDots
  let second ← singleDots
  [first ++ second]

def addSegment (path : List (List Char)) (slash : Bool) (segment : List Char) :
    List (List Char) :=
  if doubleDots.contains segment then if slash then path.dropLast else path.dropLast ++ [[]]
  else if singleDots.contains segment then if slash then path else path ++ [[]]
  else path ++ [segment]

/-- The query state, of an `http` or `https` address. -/
def queryState (text : List Char) : List Char :=
  (text.takeWhile (· ≠ '#')).flatMap (utf8PercentEncode inQuerySet)

/-- The path state, of an `http` or `https` address. -/
def pathState (path : List (List Char)) (segment : List Char) : List Char → UrlTarget
  | [] => ⟨addSegment path false segment, []⟩
  | character :: rest =>
      if character = '/' ∨ character = '\\' then
        pathState (addSegment path true segment) [] rest
      else if character = '?' then ⟨addSegment path false segment, queryState rest⟩
      else if character = '#' then ⟨addSegment path false segment, []⟩
      else pathState path (segment ++ utf8PercentEncode inPathSet character) rest

/-- Controls and spaces at the end of an address are cut off, tabs and line ends removed. -/
def cleanAddress (text : List Char) : List Char :=
  (text.reverse.dropWhile (·.toNat ≤ 0x20)).reverse.filter (· ∉ ['\t', '\n', '\r'])

/-- What `fetch` asks a host for at `path`, which starts with a slash. -/
def fetchTarget (path : String) : UrlTarget := pathState [] [] ((cleanAddress path.toList).drop 1)

def UrlTarget.segments (target : UrlTarget) : List String := target.path.map percentDecode

def UrlTarget.pairs (target : UrlTarget) : List (String × String) := readForm target.query

example : (fetchTarget "/v1/a b/../c%2Fd?q=x+y#z").segments = ["v1", "c/d"] := by decide

/-! ## Segments -/

def isPathCharacter (character : Char) : Bool :=
  !inPathSet character && character ≠ '/' && character ≠ '\\'

def addSegments (path : List (List Char)) : List (List Char) → List (List Char)
  | [] => path
  | [last] => addSegment path false last
  | segment :: next :: rest => addSegments (addSegment path true segment) (next :: rest)

def pathText (segments : List (List Char)) : List Char := segments.flatMap ('/' :: ·)

def queryText : Option (List Char) → List Char
  | none => []
  | some query => '?' :: query

theorem visible_of_isPathCharacter {character : Char}
    (plain : isPathCharacter character = true) : 0x20 < character.toNat := by
  simp only [isPathCharacter, inPathSet, isControl, Bool.and_eq_true, Bool.not_eq_true',
    Bool.or_eq_false_iff, decide_eq_false_iff_not] at plain
  have noSpace : character.toNat ≠ 0x20 := by
    intro space
    have same : character = ' ' := by rw [← Char.ofNat_toNat character, space]
    rw [same] at plain
    exact absurd plain.1.1.2 (by decide)
  omega

theorem pathState_run {run : List Char}
    (plain : ∀ character ∈ run, isPathCharacter character = true) (path : List (List Char))
    (segment rest : List Char) :
    pathState path segment (run ++ rest) = pathState path (segment ++ run) rest := by
  induction run generalizing segment with
  | nil => rw [List.nil_append, List.append_nil]
  | cons character run induction =>
      rw [List.forall_mem_cons] at plain
      have stands := plain.1
      simp only [isPathCharacter, Bool.and_eq_true, Bool.not_eq_true', decide_eq_true_eq] at stands
      have noQuery : character ≠ '?' := by
        rintro rfl
        exact absurd stands.1.1 (by decide)
      have noFragment : character ≠ '#' := by
        rintro rfl
        exact absurd stands.1.1 (by decide)
      rw [List.cons_append, pathState,
        if_neg fun slash => slash.elim stands.1.2 stands.2, if_neg noQuery, if_neg noFragment,
        utf8PercentEncode, stands.1.1, if_neg Bool.false_ne_true, induction plain.2,
        List.append_assoc, List.singleton_append]

theorem pathState_segments {segments : List (List Char)} (some : segments ≠ [])
    (plain : ∀ segment ∈ segments, ∀ character ∈ segment, isPathCharacter character = true)
    (path : List (List Char)) (query : Option (List Char)) :
    pathState path [] ((pathText segments).drop 1 ++ queryText query) =
      ⟨addSegments path segments, (query.map queryState).getD []⟩ := by
  induction segments generalizing path with
  | nil => exact absurd rfl some
  | cons segment rest induction =>
      rw [List.forall_mem_cons] at plain
      have text : (pathText (segment :: rest)).drop 1 = segment ++ pathText rest := rfl
      rw [text, List.append_assoc, pathState_run plain.1, List.nil_append]
      cases rest with
      | nil =>
          cases query with
          | none => rfl
          | some query => rfl
      | cons next rest =>
          have slash : pathText (next :: rest) = '/' :: (pathText (next :: rest)).drop 1 := rfl
          rw [slash, List.cons_append, pathState, if_pos (.inl rfl),
            induction (List.cons_ne_nil _ _) plain.2]
          rfl

def IsDots (segment : List Char) : Prop := segment ∈ singleDots ∨ segment ∈ doubleDots

theorem percentDecode_of_single {segment : List Char} (dots : segment ∈ singleDots) :
    percentDecode segment = "." := by
  revert segment
  decide

theorem percentDecode_of_double {segment : List Char} (dots : segment ∈ doubleDots) :
    percentDecode segment = ".." := by
  revert segment
  decide

theorem addSegment_plain {segment : List Char} (plain : ¬ IsDots segment)
    (path : List (List Char)) (slash : Bool) :
    addSegment path slash segment = path ++ [segment] := by
  rw [addSegment, if_neg fun double => plain (.inr (List.contains_iff_mem.mp double)),
    if_neg fun single => plain (.inl (List.contains_iff_mem.mp single))]

theorem addSegments_plain {segments : List (List Char)}
    (plain : ∀ segment ∈ segments, ¬ IsDots segment) (path : List (List Char)) :
    addSegments path segments = path ++ segments := by
  induction segments generalizing path with
  | nil => rw [addSegments, List.append_nil]
  | cons segment rest induction =>
      rw [List.forall_mem_cons] at plain
      cases rest with
      | nil => exact addSegment_plain plain.1 path false
      | cons next rest =>
          rw [addSegments, induction plain.2, addSegment_plain plain.1, List.append_assoc,
            List.singleton_append]

theorem mem_addSegment {path : List (List Char)} {slash : Bool} {segment member : List Char}
    (listed : member ∈ addSegment path slash segment) :
    member ∈ path ∨ member = [] ∨ (member = segment ∧ ¬ IsDots segment) := by
  have shorter : ∀ {member}, member ∈ path.dropLast → member ∈ path := List.mem_of_mem_dropLast
  rw [addSegment] at listed
  split at listed
  · split at listed
    · exact .inl (shorter listed)
    · rw [List.mem_append, List.mem_singleton] at listed
      exact listed.imp shorter .inl
  · rename_i noDouble
    split at listed
    · split at listed
      · exact .inl listed
      · rw [List.mem_append, List.mem_singleton] at listed
        exact listed.imp_right .inl
    · rename_i noSingle
      rw [List.mem_append, List.mem_singleton] at listed
      refine listed.imp_right fun same => .inr ⟨same, ?_⟩
      rintro (single | double)
      · exact noSingle (List.contains_iff_mem.mpr single)
      · exact noDouble (List.contains_iff_mem.mpr double)

theorem mem_addSegments {path segments : List (List Char)} {member : List Char}
    (listed : member ∈ addSegments path segments) :
    member ∈ path ∨ member = [] ∨ (member ∈ segments ∧ ¬ IsDots member) := by
  induction segments generalizing path with
  | nil => exact .inl listed
  | cons segment rest induction =>
      have once : ∀ {slash}, member ∈ addSegment path slash segment →
          member ∈ path ∨ member = [] ∨ (member ∈ segment :: rest ∧ ¬ IsDots member) := by
        intro slash added
        refine (mem_addSegment added).imp_right (.imp_right ?_)
        rintro ⟨rfl, plain⟩
        exact ⟨List.mem_cons_self, plain⟩
      cases rest with
      | nil => exact once listed
      | cons next rest =>
          rcases induction listed with before | empty | later
          · exact once before
          · exact .inr (.inl empty)
          · exact .inr (.inr ⟨List.mem_cons_of_mem _ later.1, later.2⟩)

/-! ## Whole addresses -/

theorem cleanAddress_append {front : List Char}
    (visible : ∀ character ∈ front, 0x20 < character.toNat) (text : List Char) :
    cleanAddress (front ++ text) = front ++ cleanAddress text := by
  have stays : front.reverse.dropWhile (·.toNat ≤ 0x20) = front.reverse := by
    cases reversed : front.reverse with
    | nil => rfl
    | cons last earlier =>
        have shown := visible last (List.mem_reverse.mp (reversed ▸ List.mem_cons_self))
        rw [List.dropWhile_cons_of_neg]
        exact fun blank => Nat.not_le_of_lt shown (of_decide_eq_true blank)
  have kept : front.filter (· ∉ ['\t', '\n', '\r']) = front := by
    apply List.filter_eq_self.mpr
    intro character member
    have shown := visible character member
    apply decide_eq_true
    intro blank
    simp only [List.mem_cons, List.not_mem_nil, or_false] at blank
    rcases blank with rfl | rfl | rfl <;> exact absurd shown (by decide)
  rw [cleanAddress, cleanAddress, List.reverse_append, List.dropWhile_append, stays]
  split
  · rename_i blank
    rw [List.isEmpty_iff.mp blank, List.reverse_reverse, kept]
    exact (List.append_nil _).symm
  · rw [List.reverse_append, List.reverse_reverse, List.filter_append, kept]

theorem cleanAddress_visible {text : List Char}
    (visible : ∀ character ∈ text, 0x20 < character.toNat) : cleanAddress text = text := by
  have clean := cleanAddress_append visible []
  rw [List.append_nil] at clean
  exact clean.trans (List.append_nil _)

theorem cleanAddress_sublist (text : List Char) : (cleanAddress text).Sublist text := by
  have stripped := (List.dropWhile_sublist (fun character : Char => character.toNat ≤ 0x20)
    (l := text.reverse)).reverse
  rw [List.reverse_reverse] at stripped
  exact List.filter_sublist.trans stripped

theorem fetchTarget_eq {segments : List (List Char)} (some : segments ≠ [])
    (plain : ∀ segment ∈ segments, ∀ character ∈ segment, isPathCharacter character = true)
    (query : Option (List Char))
    (visible : ∀ character ∈ queryText query, 0x20 < character.toNat) :
    fetchTarget (String.ofList (pathText segments ++ queryText query)) =
      ⟨addSegments [] segments, (query.map queryState).getD []⟩ := by
  have shown : ∀ character ∈ pathText segments ++ queryText query, 0x20 < character.toNat := by
    intro character member
    rcases List.mem_append.mp member with path | query
    · rcases List.mem_flatMap.mp path with ⟨segment, listed, inside⟩
      rcases List.mem_cons.mp inside with rfl | written
      · decide
      · exact visible_of_isPathCharacter (plain segment listed character written)
    · exact visible character query
  rw [fetchTarget, String.toList_ofList, cleanAddress_visible shown,
    ← pathState_segments some plain]
  cases segments with
  | nil => exact absurd rfl some
  | cons segment rest => rfl

end SovAgent.Client

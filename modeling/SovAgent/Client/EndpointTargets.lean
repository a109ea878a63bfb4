import SovAgent.Client.Endpoints
import SovAgent.Client.RawSegment
import Mathlib.Data.List.TakeWhile

/-! # What the platform reads -/

namespace SovAgent.Client

/-! ## Encoders -/

/-- The encoder of `encodeURIComponent`. -/
def componentEncoder : PercentEncoder where
  kept byte := byte < 0x80 && isUnescaped (.ofNat byte)
  digit := hexDigitUpper
  value_digit := hexValue_hexDigitUpper
  kept_ascii := by
    intro byte kept
    exact of_decide_eq_true (Bool.and_eq_true_iff.mp kept).1
  percent := by decide

/-- Its text in a query, where an apostrophe is escaped too. -/
def quotedEncoder : PercentEncoder where
  kept byte := byte ≠ 0x27 && componentEncoder.kept byte
  digit := hexDigitUpper
  value_digit := hexValue_hexDigitUpper
  kept_ascii := by
    intro byte kept
    exact componentEncoder.kept_ascii byte (Bool.and_eq_true_iff.mp kept).2
  percent := by decide

/-! ### Letters, digits and signs -/

theorem alphanum_range {character : Char} (letter : character.isAlphanum = true) :
    0x30 ≤ character.toNat ∧ character.toNat ≤ 0x7A := by
  have parts : ((decide (character.val ≥ 'A'.val ∧ character.val ≤ 'Z'.val) ||
      (decide (character.val ≥ 'a'.val) && decide (character.val ≤ 'z'.val))) ||
      (decide (character.val ≥ '0'.val) && decide (character.val ≤ '9'.val))) = true := letter
  simp only [Bool.or_eq_true, Bool.and_eq_true, decide_eq_true_eq, ge_iff_le,
    UInt32.le_iff_toNat_le] at parts
  rw [show character.val.toNat = character.toNat from rfl] at parts
  have upper : 'A'.val.toNat = 0x41 ∧ 'Z'.val.toNat = 0x5A := by decide
  have lower : 'a'.val.toNat = 0x61 ∧ 'z'.val.toNat = 0x7A := by decide
  have digit : '0'.val.toNat = 0x30 ∧ '9'.val.toNat = 0x39 := by decide
  omega

theorem alphanum_notMem {character : Char} (letter : character.isAlphanum = true)
    {signs : List Char} (others : signs.all (!·.isAlphanum) = true) : character ∉ signs := by
  intro member
  have other := List.all_eq_true.mp others character member
  rw [letter] at other
  cases other

theorem alphanum_plain {character : Char} (letter : character.isAlphanum = true) :
    isPathCharacter character = true ∧ inQuerySet character = false := by
  have range := alphanum_range letter
  have control : isControl character = false := by
    rw [isControl, Bool.or_eq_false_iff, decide_eq_false_iff_not, decide_eq_false_iff_not]
    omega
  have path : inPathSet character = false := by
    rw [inPathSet, control, Bool.false_or, decide_eq_false (alphanum_notMem letter (by decide))]
  have slashes : character ∉ ['/', '\\'] := alphanum_notMem letter (by decide)
  rw [List.mem_cons, List.mem_singleton, not_or] at slashes
  constructor
  · simp [isPathCharacter, path, slashes]
  · rw [inQuerySet, control, Bool.false_or, decide_eq_false (alphanum_notMem letter (by decide))]

theorem of_alphanum_or_sign (property : Char → Prop) [DecidablePred property]
    {signs : List Char} (checked : signs.all (property ·) = true)
    (letters : ∀ character : Char, character.isAlphanum = true → property character)
    {character : Char} (either : (character.isAlphanum || decide (character ∈ signs)) = true) :
    property character := by
  rw [Bool.or_eq_true, decide_eq_true_eq] at either
  rcases either with letter | sign
  · exact letters character letter
  · exact of_decide_eq_true (List.all_eq_true.mp checked character sign)

theorem alphanum_or_sign_ascii {signs : List Char}
    (checked : signs.all (·.toNat < 0x80) = true) {character : Char}
    (either : (character.isAlphanum || decide (character ∈ signs)) = true) :
    character.toNat < 0x80 := by
  apply of_alphanum_or_sign (·.toNat < 0x80) checked _ either
  intro character letter
  have range := alphanum_range letter
  omega

theorem of_kept {encoder : PercentEncoder} {signs : List Char}
    (kept_eq : ∀ {character : Char}, character.toNat < 0x80 →
      encoder.kept character.toNat = (character.isAlphanum || decide (character ∈ signs)))
    (property : Char → Prop) [DecidablePred property] (checked : signs.all (property ·) = true)
    (letters : ∀ character : Char, character.isAlphanum = true → property character)
    {byte : Nat} (kept : encoder.kept byte = true) : property (.ofNat byte) := by
  have ascii := encoder.kept_ascii byte kept
  have number := toNat_ascii ascii
  rw [← number] at ascii kept
  rw [kept_eq ascii] at kept
  exact of_alphanum_or_sign property checked letters kept

def componentSigns : List Char := "-_.!~*'()".toList

theorem component_kept_eq {character : Char} (ascii : character.toNat < 0x80) :
    componentEncoder.kept character.toNat =
      (character.isAlphanum || decide (character ∈ componentSigns)) := by
  have octet : (UInt8.ofNat character.toNat).toNat = character.toNat := by
    rw [UInt8.toNat_ofNat']
    omega
  have kept : componentEncoder.kept character.toNat =
      (decide (character.toNat < 0x80) && isUnescaped (.ofNat character.toNat)) := rfl
  rw [kept, decide_eq_true ascii, Bool.true_and, isUnescaped, octet, Char.ofNat_toNat]
  rfl

def searchSigns : List Char := ['*', '-', '.', '_', ' ']

theorem search_kept_eq {character : Char} (ascii : character.toNat < 0x80) :
    searchEncoder.kept character.toNat =
      (character.isAlphanum || decide (character ∈ searchSigns)) := by
  have kept : searchEncoder.kept character.toNat = (decide (character.toNat < 0x80) &&
      ((Char.ofNat character.toNat).isAlphanum ||
        decide (Char.ofNat character.toNat ∈ searchSigns))) := rfl
  rw [kept, decide_eq_true ascii, Bool.true_and, Char.ofNat_toNat]

/-! ### The text of a component -/

theorem isUnescaped_ascii {octet : UInt8} (unescaped : isUnescaped octet = true) :
    octet.toNat < 0x80 := by
  have valid : octet.toNat.isValidChar := .inl (by have small := octet.toNat_lt; omega)
  have number : (Char.ofNat octet.toNat).toNat = octet.toNat := by
    rw [Char.ofNat, dif_pos valid]
    rfl
  have small : (Char.ofNat octet.toNat).toNat < 0x80 :=
    alphanum_or_sign_ascii (by decide) unescaped
  rwa [number] at small

theorem encodeByte_eq (octet : UInt8) :
    encodeByte octet = componentEncoder.encodeByte octet.toNat := by
  have kept : componentEncoder.kept octet.toNat =
      (decide (octet.toNat < 0x80) && isUnescaped (.ofNat octet.toNat)) := rfl
  rw [UInt8.ofNat_toNat] at kept
  rw [encodeByte, PercentEncoder.encodeByte, kept]
  cases unescaped : isUnescaped octet with
  | false =>
      rw [Bool.and_false]
      rfl
  | true =>
      rw [decide_eq_true (isUnescaped_ascii unescaped), Bool.and_self]
      rfl

theorem encodeURIComponent_eq (text : String) :
    encodeURIComponent text = String.ofList (componentEncoder.encode text) := by
  rw [encodeURIComponent, PercentEncoder.encode, utf8Bytes, List.flatMap_map]
  congr 1
  exact List.flatMap_congr fun octet _ => encodeByte_eq octet

theorem isPathCharacter_encode (text : String) :
    ∀ character ∈ componentEncoder.encode text, isPathCharacter character = true := by
  apply componentEncoder.forall_encode (isPathCharacter · = true)
  · decide
  · decide
  · intro byte kept
    exact of_kept component_kept_eq (isPathCharacter · = true) (by decide)
      (fun _ letter => (alphanum_plain letter).1) kept

/-! ## Segments -/

theorem isWord_iff {text : String} : isWord text = true ↔
    text ≠ "" ∧ ∀ character ∈ text.toList, isWordCharacter character = true := by
  rw [isWord, Bool.and_eq_true, List.all_eq_true]
  simp

theorem word_alphanum_or_dash {character : Char} (word : isWordCharacter character = true) :
    (character.isAlphanum || decide (character ∈ ['-'])) = true := by
  rw [isWordCharacter, Bool.or_eq_true, Bool.or_eq_true] at word
  change (((character.isUpper || character.isLower) || character.isDigit) || _) = true
  rcases word with (lower | digit) | dash
  · rw [lower, Bool.or_true, Bool.true_or, Bool.true_or]
  · rw [digit, Bool.or_true, Bool.true_or]
  · rw [of_decide_eq_true dash]
    decide

theorem isWordCharacter_ascii {character : Char} (word : isWordCharacter character = true) :
    character.toNat < 0x80 :=
  alphanum_or_sign_ascii (by decide) (word_alphanum_or_dash word)

theorem component_kept_word {character : Char} (word : isWordCharacter character = true) :
    componentEncoder.kept character.toNat = true := by
  rw [component_kept_eq (isWordCharacter_ascii word)]
  apply of_alphanum_or_sign (fun character =>
    (character.isAlphanum || decide (character ∈ componentSigns)) = true) _ _
    (word_alphanum_or_dash word)
  · decide
  · intro character letter
    rw [letter, Bool.true_or]

theorem encode_word {encoder : PercentEncoder} {text : String} (word : isWord text = true)
    (kept : ∀ character, isWordCharacter character = true →
      encoder.kept character.toNat = true) :
    encoder.encode text = text.toList := by
  have all : ∀ character ∈ text.toList, encoder.kept character.toNat = true :=
    fun character member => kept character ((isWord_iff.mp word).2 character member)
  have written := encoder.encode_of_kept all
  rwa [String.ofList_toList] at written

theorem spelled_eq {piece : Piece} (encoded : piece.raw? = none) :
    piece.spelled = String.ofList (componentEncoder.encode piece.text) := by
  cases piece with
  | word text plain =>
      rw [Piece.text, encode_word plain fun _ => component_kept_word, String.ofList_toList]
      rfl
  | id text => exact encodeURIComponent_eq text
  | raw text => cases encoded

theorem isDots_encode_iff {text : String} :
    IsDots (componentEncoder.encode text) ↔ text = "." ∨ text = ".." := by
  constructor
  · intro dots
    rw [← componentEncoder.percentDecode_encode text]
    exact dots.imp percentDecode_of_single percentDecode_of_double
  · rintro (rfl | rfl)
    · exact .inl (by decide +kernel)
    · exact .inr (by decide +kernel)

theorem segments_iff (texts : List String) (query : List Char) :
    (UrlTarget.mk (addSegments [] (texts.map componentEncoder.encode)) query).segments = texts ↔
      ∀ text ∈ texts, text ≠ "." ∧ text ≠ ".." := by
  rw [UrlTarget.segments]
  constructor
  · intro same text member
    rw [← not_or]
    intro dots
    rw [← same] at member
    rcases List.mem_map.mp member with ⟨segment, listed, rfl⟩
    rcases mem_addSegments listed with none | empty | plain
    · exact absurd none List.not_mem_nil
    · rw [empty] at dots
      exact absurd dots (by decide)
    · rcases List.mem_map.mp plain.1 with ⟨text, _, rfl⟩
      rw [componentEncoder.percentDecode_encode] at dots
      exact plain.2 (isDots_encode_iff.mpr dots)
  · intro plain
    rw [addSegments_plain, List.nil_append, List.map_map]
    · apply List.map_id''
      exact fun text => componentEncoder.percentDecode_encode text
    · intro segment member
      rcases List.mem_map.mp member with ⟨text, listed, rfl⟩
      rw [isDots_encode_iff, not_or]
      exact plain text listed

/-! ## Queries -/

theorem takeWhile_noFragment {text : List Char} (plain : '#' ∉ text) :
    text.takeWhile (· ≠ '#') = text := by
  apply List.takeWhile_eq_self_iff.mpr
  intro character member
  apply decide_eq_true
  rintro rfl
  exact plain member

theorem flatMap_plain {text : List Char}
    (plain : ∀ character ∈ text, inQuerySet character = false) :
    text.flatMap (utf8PercentEncode inQuerySet) = text := by
  induction text with
  | nil => rfl
  | cons character rest induction =>
      rw [List.forall_mem_cons] at plain
      rw [List.flatMap_cons, utf8PercentEncode, plain.1, if_neg Bool.false_ne_true,
        induction plain.2, List.singleton_append]

theorem queryState_plain {text : List Char}
    (plain : ∀ character ∈ text, inQuerySet character = false) : queryState text = text := by
  rw [queryState, takeWhile_noFragment, flatMap_plain plain]
  intro member
  exact absurd (plain _ member) (by decide)

theorem visible_of_inQuerySet {character : Char} (plain : inQuerySet character = false) :
    0x20 < character.toNat := by
  rw [inQuerySet, isControl, Bool.or_eq_false_iff, Bool.or_eq_false_iff,
    decide_eq_false_iff_not] at plain
  have noSpace : character.toNat ≠ 0x20 := by
    intro space
    have same : character = ' ' := by rw [← Char.ofNat_toNat character, space]
    rw [same] at plain
    exact absurd plain.2 (by decide)
  omega

/-! ### Search parameters -/

theorem formText_plain (text : String) :
    ∀ character ∈ searchEncoder.formText text, inQuerySet character = false := by
  have each : ∀ character ∈ searchEncoder.encode text,
      inQuerySet (spaceToPlus character) = false := by
    apply searchEncoder.forall_encode fun character => inQuerySet (spaceToPlus character) = false
    · decide
    · decide
    · intro byte kept
      apply of_kept search_kept_eq (fun character => inQuerySet (spaceToPlus character) = false)
        (by decide) _ kept
      intro character letter
      have noSpace : character ∉ [' '] := alphanum_notMem letter (by decide)
      rw [spaceToPlus, if_neg fun same => noSpace (List.mem_singleton.mpr same)]
      exact (alphanum_plain letter).2
  intro character member
  rcases List.mem_map.mp member with ⟨written, listed, rfl⟩
  exact each written listed

theorem writeForm_plain (pairs : List (String × String)) :
    ∀ character ∈ searchEncoder.writeForm pairs, inQuerySet character = false := by
  have piece (pair : String × String) :
      ∀ character ∈ searchEncoder.formPair pair, inQuerySet character = false := by
    intro character member
    rcases List.mem_append.mp member with name | value
    · exact formText_plain pair.1 character name
    · rcases List.mem_cons.mp value with rfl | value
      · decide
      · exact formText_plain pair.2 character value
  rw [FormEncoder.writeForm]
  induction pairs with
  | nil => exact fun _ none => absurd none List.not_mem_nil
  | cons pair rest induction =>
      cases rest with
      | nil =>
          rw [List.map_singleton, List.intercalate_singleton]
          exact piece pair
      | cons next rest =>
          intro character member
          rw [List.map_cons, List.map_cons, List.intercalate_cons_cons, List.mem_append,
            List.mem_append, List.mem_singleton] at member
          rcases member with (first | rfl) | later
          · exact piece pair character first
          · decide
          · exact induction character later

/-! ### One parameter -/

theorem name_plain {name : String} (word : isWord name = true) :
    ∀ character ∈ name.toList, inQuerySet character = false ∧ character ≠ '=' ∧
      character ≠ '&' := by
  intro character member
  apply of_alphanum_or_sign (fun character => inQuerySet character = false ∧ character ≠ '=' ∧
    character ≠ '&') _ _ (word_alphanum_or_dash ((isWord_iff.mp word).2 character member))
  · decide
  · intro character letter
    have signs : character ∉ ['=', '&'] := alphanum_notMem letter (by decide)
    rw [List.mem_cons, List.mem_singleton, not_or] at signs
    exact ⟨(alphanum_plain letter).2, signs⟩

theorem formDecode_word {name : String} (word : isWord name = true) :
    formDecode name.toList = name := by
  have written : componentEncoder.encode name = name.toList :=
    encode_word word fun _ => component_kept_word
  rw [← written]
  exact componentEncoder.formDecode_encode (by decide) name

theorem readForm_single {name : String} (word : isWord name = true) {value : List Char}
    (free : '&' ∉ value) :
    readForm (name.toList ++ '=' :: value) = [(name, formDecode value)] := by
  have whole : readForm (['&'].intercalate [name.toList ++ '=' :: value]) =
      [readPair (name.toList ++ '=' :: value)] := by
    apply readForm_intercalate
    · intro piece member
      rw [List.mem_singleton.mp member]
      intro listed
      rcases List.mem_append.mp listed with before | after
      · exact (name_plain word _ before).2.2 rfl
      · rcases List.mem_cons.mp after with equal | later
        · cases equal
        · exact free later
    · intro piece member
      rw [List.mem_singleton.mp member]
      simp
  rw [List.intercalate_singleton] at whole
  rw [whole, readPair_append fun equals => (name_plain word _ equals).2.1 rfl,
    formDecode_word word]

theorem component_kept_plain {byte : Nat} (kept : componentEncoder.kept byte = true)
    (other : byte ≠ 0x27) : inQuerySet (.ofNat byte) = false := by
  have plain : Char.ofNat byte ≠ '\'' → inQuerySet (.ofNat byte) = false :=
    of_kept component_kept_eq (fun character => character ≠ '\'' → inQuerySet character = false)
      (by decide) (fun _ letter _ => (alphanum_plain letter).2) kept
  apply plain
  intro apostrophe
  have number := congrArg Char.toNat apostrophe
  rw [toNat_ascii (componentEncoder.kept_ascii byte kept)] at number
  exact other number

theorem quoted_encodeByte {byte : Nat} (other : byte ≠ 0x27) :
    quotedEncoder.encodeByte byte = componentEncoder.encodeByte byte := by
  have kept : quotedEncoder.kept byte =
      (decide (byte ≠ 0x27) && componentEncoder.kept byte) := rfl
  rw [decide_eq_true other, Bool.true_and] at kept
  rw [PercentEncoder.encodeByte, kept]
  rfl

theorem quoted_eq (text : String) :
    (componentEncoder.encode text).flatMap (utf8PercentEncode inQuerySet) =
      quotedEncoder.encode text := by
  have each {byte : Nat} (small : byte < 256) :
      (componentEncoder.encodeByte byte).flatMap (utf8PercentEncode inQuerySet) =
        quotedEncoder.encodeByte byte := by
    by_cases quote : byte = 0x27
    · rw [quote]
      decide
    · rw [quoted_encodeByte quote]
      apply flatMap_plain
      exact componentEncoder.forall_encodeByte (inQuerySet · = false) (by decide) (by decide)
        small fun kept => component_kept_plain kept quote
  rw [PercentEncoder.encode, PercentEncoder.encode, List.flatMap_assoc]
  apply List.flatMap_congr
  intro byte member
  rcases List.mem_map.mp member with ⟨octet, _, rfl⟩
  exact each octet.toNat_lt

/-- The text of a number keeps its characters in a query, where a plus sign is a space. -/
theorem number_characters (value : Number) : ∀ character ∈ value.toString.toList,
    inQuerySet character = false ∧ character ≠ '&' ∧
      searchEncoder.kept (plusToSpace character).toNat = true := by
  have checked {text : List Char} (all : text.all (fun character =>
      inQuerySet character = false ∧ character ≠ '&' ∧
        searchEncoder.kept (plusToSpace character).toNat = true) = true) :=
    fun character member => of_decide_eq_true (List.all_eq_true.mp all character member)
  cases value with
  | infinity negative => exact checked (by cases negative <;> decide)
  | nan => exact checked (by decide)
  | finite value =>
      intro character member
      have numeric := Decimal.numeric_toString value character member
      have signed : (character.isAlphanum || decide (character ∈ ['-', '+', '.', 'e'])) = true := by
        rw [Decimal.isNumberCharacter, Bool.or_eq_true] at numeric
        rcases numeric with digit | sign
        · rw [Char.isAlphanum, digit, Bool.or_true, Bool.true_or]
        · rw [sign, Bool.or_true]
      apply of_alphanum_or_sign (fun character => inQuerySet character = false ∧
        character ≠ '&' ∧ searchEncoder.kept (plusToSpace character).toNat = true) _ _ signed
      · decide
      · intro character letter
        have signs : character ∉ ['&', '+'] := alphanum_notMem letter (by decide)
        rw [List.mem_cons, List.mem_singleton, not_or] at signs
        have range := alphanum_range letter
        refine ⟨(alphanum_plain letter).2, signs.1, ?_⟩
        rw [plusToSpace, if_neg signs.2, search_kept_eq (by omega), letter, Bool.true_or]

theorem formDecode_number (value : Number) :
    formDecode value.toString.toList = value.toString ↔ '+' ∉ value.toString.toList := by
  have spaced : searchEncoder.encode (String.ofList (value.toString.toList.map plusToSpace)) =
      value.toString.toList.map plusToSpace := by
    apply searchEncoder.encode_of_kept
    intro character member
    rcases List.mem_map.mp member with ⟨digit, listed, rfl⟩
    exact (number_characters value digit listed).2.2
  rw [formDecode, ← spaced, searchEncoder.percentDecode_encode]
  constructor
  · intro same plus
    have space : ' ' ∈ value.toString.toList := by
      rw [← same, String.toList_ofList]
      exact List.mem_map.mpr ⟨'+', plus, rfl⟩
    exact absurd (number_characters value ' ' space).1 (by decide)
  · intro absent
    rw [map_plusToSpace absent, String.ofList_toList]

/-! ### Any query -/

/-- A query of one bare number is legible if the number has no plus sign. -/
def Query.Legible : Query → Prop
  | .number _ value _ => '+' ∉ value.toString.toList
  | .search _ | .component _ _ _ => True

structure ReadsQuery (query : Query) (written : Option (List Char)) : Prop where
  text : query.text.toList = queryText written
  visible : ∀ character ∈ queryText written, 0x20 < character.toNat
  pairs : readForm ((written.map queryState).getD []) = query.pairs ↔ query.Legible

theorem query_reads (query : Query) : ∃ written, ReadsQuery query written := by
  cases query with
  | search pairs =>
      cases pairs with
      | nil =>
          exact ⟨none, rfl, fun _ member => absurd member List.not_mem_nil,
            iff_of_true rfl trivial⟩
      | cons pair rest =>
          refine ⟨some (searchEncoder.writeForm (pair :: rest)), ?_, ?_, ?_⟩
          · rw [Query.text, String.toList_append]
            · simp [queryText]
            · exact fun none => absurd none (List.cons_ne_nil _ _)
          · rw [queryText, List.forall_mem_cons]
            refine ⟨by decide, fun character member => ?_⟩
            exact visible_of_inQuerySet (writeForm_plain _ character member)
          · rw [Option.map_some, Option.getD_some, queryState_plain (writeForm_plain _),
              searchEncoder.readForm_writeForm]
            exact iff_of_true rfl trivial
  | component name value plain =>
      refine ⟨some (name.toList ++ '=' :: componentEncoder.encode value), ?_, ?_, ?_⟩
      · rw [Query.text, encodeURIComponent_eq]
        simp [queryText, toString_text]
      · rw [queryText, List.forall_mem_cons]
        refine ⟨by decide, fun character member => ?_⟩
        rcases List.mem_append.mp member with before | after
        · exact visible_of_inQuerySet (name_plain plain character before).1
        · rcases List.mem_cons.mp after with rfl | inside
          · decide
          · exact visible_of_isPathCharacter (isPathCharacter_encode value character inside)
      · have whole : queryState (name.toList ++ '=' :: componentEncoder.encode value) =
            name.toList ++ '=' :: quotedEncoder.encode value := by
          have start : ∀ character ∈ name.toList ++ ['='], inQuerySet character = false := by
            intro character member
            rcases List.mem_append.mp member with before | equal
            · exact (name_plain plain character before).1
            · rw [List.mem_singleton.mp equal]
              decide
          have noFragment : '#' ∉ name.toList ++ ['='] ++ componentEncoder.encode value := by
            intro member
            rcases List.mem_append.mp member with before | after
            · exact absurd (start _ before) (by decide)
            · exact absurd (isPathCharacter_encode value _ after) (by decide)
          rw [queryState, List.append_cons, takeWhile_noFragment noFragment, List.flatMap_append,
            flatMap_plain start, quoted_eq, List.append_assoc, List.singleton_append]
        have free : '&' ∉ quotedEncoder.encode value :=
          quotedEncoder.not_mem_encode (by decide : Json.hexValue '&' = none) (by decide)
            (by decide) value
        rw [Option.map_some, Option.getD_some, whole, readForm_single plain free,
          quotedEncoder.formDecode_encode (by decide)]
        exact iff_of_true rfl trivial
  | number name value plain =>
      have inside : ∀ character ∈ name.toList ++ '=' :: value.toString.toList,
          inQuerySet character = false := by
        intro character member
        rcases List.mem_append.mp member with before | after
        · exact (name_plain plain character before).1
        · rcases List.mem_cons.mp after with rfl | digit
          · decide
          · exact (number_characters value character digit).1
      refine ⟨some (name.toList ++ '=' :: value.toString.toList), ?_, ?_, ?_⟩
      · rw [Query.text, show toString value = value.toString from rfl]
        simp [queryText, toString_text]
      · rw [queryText, List.forall_mem_cons]
        exact ⟨by decide, fun character member => visible_of_inQuerySet (inside character member)⟩
      · have free : '&' ∉ value.toString.toList := by
          intro member
          exact (number_characters value '&' member).2.1 rfl
        rw [Option.map_some, Option.getD_some, queryState_plain inside,
          readForm_single plain free, Query.pairs, Query.Legible, List.singleton_inj,
          Prod.mk.injEq, formDecode_number]
        exact and_iff_right rfl

/-! ## Any call -/

/-- The caller's texts and numbers that an address can carry. -/
structure Endpoint.Legible (endpoint : Endpoint) : Prop where
  ids : ∀ id ∈ endpoint.ids, id ≠ "." ∧ id ≠ ".."
  raws : ∀ text ∈ endpoint.raws, StandsRaw text
  query : endpoint.query.Legible

/-- What a call puts into its address is what the platform reads there, segment by segment and
parameter by parameter. -/
def ReadsBack (endpoint : Endpoint) : Prop :=
  (fetchTarget endpoint.path).segments = endpoint.pieces.map Piece.text ∧
    (fetchTarget endpoint.path).pairs = endpoint.query.pairs

/-! ### Encoded texts -/

theorem path_eq {endpoint : Endpoint} (encoded : endpoint.raws = [])
    {written : Option (List Char)} (text : endpoint.query.text.toList = queryText written) :
    endpoint.path = String.ofList (pathText ((endpoint.pieces.map Piece.text).map
      componentEncoder.encode) ++ queryText written) := by
  have pieces : (String.join (endpoint.pieces.map fun piece => "/" ++ piece.spelled)).toList =
      pathText ((endpoint.pieces.map Piece.text).map componentEncoder.encode) := by
    rw [String.toList_join, List.flatMap_map, pathText, List.map_map, List.flatMap_map]
    apply List.flatMap_congr
    intro piece listed
    rw [spelled_eq (List.filterMap_eq_nil_iff.mp encoded piece listed)]
    simp
  rw [Endpoint.path, ← pieces, ← text, ← String.toList_append, String.ofList_toList]

theorem pieces_plain_iff {pieces : List Piece} (encoded : ∀ piece ∈ pieces, piece.raw? = none) :
    (∀ text ∈ pieces.map Piece.text, text ≠ "." ∧ text ≠ "..") ↔
      ∀ id ∈ pieces.filterMap Piece.id?, id ≠ "." ∧ id ≠ ".." := by
  induction pieces with
  | nil => rfl
  | cons piece rest induction =>
      rw [List.forall_mem_cons] at encoded
      rw [List.map_cons, List.forall_mem_cons, induction encoded.2]
      cases piece with
      | word text plain =>
          rw [List.filterMap_cons_none rfl]
          apply and_iff_right
          constructor
          · rintro rfl
            exact absurd plain (by decide)
          · rintro rfl
            exact absurd plain (by decide)
      | id text =>
          have first : (Piece.id text).id? = some text := rfl
          rw [List.filterMap_cons_some first, List.forall_mem_cons, Piece.text]
      | raw text => cases encoded.1

theorem readsBack_encoded_iff {endpoint : Endpoint} (encoded : endpoint.raws = []) :
    ReadsBack endpoint ↔ endpoint.Legible := by
  rcases query_reads endpoint.query with ⟨written, reads⟩
  have target : fetchTarget endpoint.path = ⟨addSegments []
      ((endpoint.pieces.map Piece.text).map componentEncoder.encode),
      (written.map queryState).getD []⟩ := by
    rw [path_eq encoded reads.text]
    have plain : ∀ segment ∈ (endpoint.pieces.map Piece.text).map componentEncoder.encode,
        ∀ character ∈ segment, isPathCharacter character = true := by
      intro segment member
      rcases List.mem_map.mp member with ⟨text, _, rfl⟩
      exact isPathCharacter_encode text
    exact fetchTarget_eq (List.cons_ne_nil _ _) plain written reads.visible
  rw [ReadsBack, target, segments_iff, pieces_plain_iff (List.filterMap_eq_nil_iff.mp encoded),
    UrlTarget.pairs, reads.pairs]
  constructor
  · rintro ⟨ids, query⟩
    exact ⟨ids, fun text listed => absurd (encoded ▸ listed) List.not_mem_nil, query⟩
  · intro legible
    exact ⟨legible.ids, legible.query⟩

/-! ### The call that does not encode -/

theorem readsBack_workspace_iff (jobId : String) :
    ReadsBack (ClientCall.getWorkspaceStatus jobId).endpoint ↔ StandsRaw jobId := by
  have text : (ClientCall.getWorkspaceStatus jobId).endpoint.path.toList =
      "/v1/jailbox/".toList ++ jobId.toList := by
    simp [ClientCall.endpoint, address, Endpoint.path, Endpoint.pieces, Piece.spelled, Query.text]
  have target : fetchTarget (ClientCall.getWorkspaceStatus jobId).endpoint.path =
      pathState ["v1".toList, "jailbox".toList] [] (cleanAddress jobId.toList) := by
    have shown : "/v1/jailbox/".toList.all (0x20 < ·.toNat) = true := by decide
    rw [fetchTarget, text, cleanAddress_append fun character listed =>
      of_decide_eq_true (List.all_eq_true.mp shown character listed)]
    rfl
  have standing : ∀ segment ∈ ["v1".toList, "jailbox".toList],
      StandsRaw (percentDecode segment) := by
    simp only [List.forall_mem_cons]
    refine ⟨?_, ?_, List.forall_mem_nil _⟩
    · rw [show percentDecode "v1".toList = "v1" by decide]
      exact ⟨by decide, by simp [segmentEnds], by decide, by decide⟩
    · rw [show percentDecode "jailbox".toList = "jailbox" by decide]
      exact ⟨by decide, by simp [segmentEnds], by decide, by decide⟩
  rw [ReadsBack, target]
  exact pathState_raw_iff standing

theorem raws_empty_or (call : ClientCall) :
    call.endpoint.raws = [] ∨ ∃ jobId, call = .getWorkspaceStatus jobId := by
  cases call with
  | getWorkspaceStatus jobId => exact .inr ⟨jobId, rfl⟩
  | getIdentityHistory identity heightStart heightEnd =>
      left
      rw [ClientCall.endpoint]
      cases whenFilled identity <;> rfl
  | _ => exact .inl rfl

/-- A call is read back exactly when no encoded text is a dot segment, no bare number has a plus
sign, and the text that is not encoded stands for itself. -/
theorem fetchTarget_reads_iff (call : ClientCall) :
    ReadsBack call.endpoint ↔ call.endpoint.Legible := by
  rcases raws_empty_or call with encoded | ⟨jobId, rfl⟩
  · exact readsBack_encoded_iff encoded
  · rw [readsBack_workspace_iff]
    constructor
    · intro stands
      refine ⟨fun id none => absurd none List.not_mem_nil, ?_, trivial⟩
      intro text listed
      rw [List.mem_singleton.mp listed]
      exact stands
    · intro legible
      exact legible.raws jobId List.mem_cons_self

/-- A text that is not read back: the cancellation of a job `..` is sent elsewhere. -/
example : (fetchTarget (ClientCall.cancelJob "..").endpoint.path).segments = ["v1", "cancel"] := by
  decide +kernel

/-- A text that nobody has encoded: the status of a workspace is asked of another address. -/
example : (fetchTarget (ClientCall.getWorkspaceStatus "../me?x").endpoint.path).segments =
    ["v1", "me"] := by
  decide +kernel

end SovAgent.Client

import SovAgent.Client.Url

/-! # A segment that nobody has encoded

A text that is put into an address as it is. It is read back unless the parser strips, cuts,
splits or removes some of it, or the platform takes a part of it for an escape: each of these
makes it shorter.
-/

namespace SovAgent.Client

/-! ## Characters in a path -/

def encodeSegment (text : List Char) : List Char := text.flatMap (utf8PercentEncode inPathSet)

theorem hexDigit_plain {digit : Char} {value : Nat} (read : Json.hexValue digit = some value) :
    utf8PercentEncode inPathSet digit = [digit] := by
  have range : 0x30 ≤ digit.toNat ∧ digit.toNat ≤ 0x39 ∨ 0x41 ≤ digit.toNat ∧ digit.toNat ≤ 0x46 ∨
      0x61 ≤ digit.toNat ∧ digit.toNat ≤ 0x66 := by
    rw [Json.hexValue] at read
    split at read
    · rename_i isDigit
      simp only [Char.isDigit, Bool.and_eq_true, decide_eq_true_eq, ge_iff_le,
        UInt32.le_iff_toNat_le] at isDigit
      exact .inl isDigit
    split at read
    · rename_i lower
      exact .inr (.inr lower)
    split at read
    · rename_i upper
      exact .inr (.inl upper)
    · cases read
  have plain : inPathSet digit = false := by
    have others : digit ∉ [' ', '"', '#', '<', '>', '?', '^', '\x60', '\x7b', '\x7d'] := by
      simp only [List.mem_cons, List.not_mem_nil, or_false, not_or]
      refine ⟨?_, ?_, ?_, ?_, ?_, ?_, ?_, ?_, ?_, ?_⟩ <;>
        (rintro rfl; exact absurd range (by decide))
    rw [inPathSet, isControl, decide_eq_false others, Bool.or_false, Bool.or_eq_false_iff,
      decide_eq_false_iff_not, decide_eq_false_iff_not]
    omega
  rw [utf8PercentEncode, plain, if_neg Bool.false_ne_true]

theorem characterBytes_cons (character : Char) :
    ∃ byte more, characterBytes character = byte :: more := by
  rw [characterBytes_eq, pointBytes]
  split
  · exact ⟨_, _, rfl⟩
  split
  · exact ⟨_, _, rfl⟩
  split
  · exact ⟨_, _, rfl⟩
  · exact ⟨_, _, rfl⟩

/-- Encoding makes no hexadecimal digit at the start of a character. -/
theorem utf8PercentEncode_head {character : Char} (noDigit : Json.hexValue character = none) :
    ∃ first more, utf8PercentEncode inPathSet character = first :: more ∧
      Json.hexValue first = none := by
  rw [utf8PercentEncode]
  split
  · rcases characterBytes_cons character with ⟨byte, more, bytes⟩
    rw [bytes]
    exact ⟨'%', _, rfl, rfl⟩
  · exact ⟨character, [], rfl, noDigit⟩

theorem hexPair_first {high : Char} (noDigit : Json.hexValue high = none) (rest : List Char) :
    hexPair (high :: rest) = none := by
  cases rest with
  | nil => rfl
  | cons low rest =>
      rw [hexPair, noDigit]
      rfl

theorem hexPair_second {low : Char} (noDigit : Json.hexValue low = none) (high : Char)
    (rest : List Char) : hexPair (high :: low :: rest) = none := by
  rw [hexPair, noDigit]
  cases Json.hexValue high <;> rfl

theorem hexPair_encodeSegment (text : List Char) : hexPair (encodeSegment text) =
    (hexPair text).map fun (byte, rest) => (byte, encodeSegment rest) := by
  match text with
  | [] => rfl
  | high :: rest =>
      rw [encodeSegment, List.flatMap_cons]
      cases highValue : Json.hexValue high with
      | none =>
          rcases utf8PercentEncode_head highValue with ⟨first, more, written, noDigit⟩
          rw [written, List.cons_append, hexPair_first noDigit, hexPair_first highValue]
          rfl
      | some sixteens =>
          rw [hexDigit_plain highValue]
          match rest with
          | [] => rfl
          | low :: rest =>
              rw [List.flatMap_cons]
              cases lowValue : Json.hexValue low with
              | none =>
                  rcases utf8PercentEncode_head lowValue with ⟨first, more, written, noDigit⟩
                  rw [written, List.singleton_append, List.cons_append, hexPair_second noDigit,
                    hexPair_second lowValue]
                  rfl
              | some ones =>
                  rw [hexDigit_plain lowValue, List.singleton_append, List.singleton_append,
                    hexPair, hexPair, highValue, lowValue]
                  rfl

theorem percentBytes_triples (bytes : List Nat) (small : ∀ byte ∈ bytes, byte < 256)
    (rest : List Char) :
    percentBytes (bytes.flatMap percentTriple ++ rest) = bytes ++ percentBytes rest := by
  induction bytes with
  | nil => rfl
  | cons byte bytes induction =>
      rw [List.forall_mem_cons] at small
      have high := hexValue_hexDigitUpper (byte / 16) (by omega)
      have low := hexValue_hexDigitUpper (byte % 16) (by omega)
      rw [List.flatMap_cons, percentTriple]
      simp only [List.cons_append, List.nil_append, percentBytes, high, low, induction small.2]
      congr 1
      omega

theorem percentBytes_encodeSegment (text : List Char) :
    percentBytes (encodeSegment text) = percentBytes text := by
  have percent (rest : List Char) : encodeSegment ('%' :: rest) = '%' :: encodeSegment rest := rfl
  fun_induction percentBytes text with
  | case1 high low rest sixteens ones highValue lowValue induction =>
      rw [percent, percentBytes_percent, hexPair_encodeSegment, hexPair, highValue, lowValue]
      exact congrArg _ induction
  | case2 high low rest noPair induction =>
      have none : hexPair (high :: low :: rest) = none := by
        cases highValue : Json.hexValue high with
        | none => exact hexPair_first highValue _
        | some sixteens =>
            cases lowValue : Json.hexValue low with
            | none => exact hexPair_second lowValue _ _
            | some ones => exact (noPair _ _ highValue lowValue).elim
      rw [percent, percentBytes_percent, hexPair_encodeSegment, none]
      exact congrArg _ induction
  | case3 character rest apart induction =>
      by_cases mark : character = '%'
      · have none : hexPair rest = none := by
          rcases rest with _ | ⟨high, _ | ⟨low, rest⟩⟩
          · rfl
          · rfl
          · exact (apart high low rest mark rfl).elim
        rw [mark, percent, percentBytes_percent, hexPair_encodeSegment, none]
        exact congrArg _ induction
      · rw [encodeSegment, List.flatMap_cons, utf8PercentEncode]
        split
        · rw [percentBytes_triples]
          · exact congrArg _ induction
          · intro byte member
            rcases List.mem_map.mp member with ⟨octet, _, rfl⟩
            exact octet.toNat_lt
        · rw [List.singleton_append, percentBytes_cons mark]
          exact congrArg _ induction
  | case4 => rfl

theorem length_percentDecode_encodeSegment (text : List Char) :
    (percentDecode (encodeSegment text)).toList.length + escapeCount text ≤ text.length := by
  have read := length_decodeUtf8From_le Utf8State.continuing_start text
  rw [percentDecode, percentBytes_encodeSegment, decodeUtf8, String.toList_ofList]
  exact read

theorem percentDecode_encodeSegment {text : List Char} (none : escapeCount text = 0) :
    percentDecode (encodeSegment text) = String.ofList text := by
  have read := decodeUtf8_utf8Bytes (String.ofList text)
  rwa [utf8Bytes_eq, String.toList_ofList, ← percentBytes_of_escapeCount none,
    ← percentBytes_encodeSegment] at read

/-! ## Through the parser -/

def segmentEnds : List Char := ['/', '\\', '?', '#']

theorem pathState_unended {text : List Char} (whole : ∀ character ∈ text, character ∉ segmentEnds)
    (path : List (List Char)) (segment : List Char) :
    pathState path segment text = ⟨addSegment path false (segment ++ encodeSegment text), []⟩ := by
  induction text generalizing segment with
  | nil => rw [pathState, encodeSegment, List.flatMap_nil, List.append_nil]
  | cons character rest induction =>
      rw [List.forall_mem_cons] at whole
      have stays := whole.1
      simp only [segmentEnds, List.mem_cons, List.not_mem_nil, or_false, not_or] at stays
      rw [pathState, if_neg fun slash => slash.elim stays.1 stays.2.1, if_neg stays.2.2.1,
        if_neg stays.2.2.2, induction whole.2, encodeSegment, encodeSegment, List.flatMap_cons,
        List.append_assoc]

/-- A segment of an address holds a part of the text, and the whole of it only where nothing in
the text ends a segment. -/
theorem mem_pathState {path : List (List Char)} {segment text member : List Char}
    (listed : member ∈ (pathState path segment text).path) :
    member ∈ path ∨ member = [] ∨
      (∃ piece : List Char, piece.length < text.length ∧
        (member = segment ++ encodeSegment piece ∨ member = encodeSegment piece)) ∨
      (∀ character ∈ text, character ∉ segmentEnds) ∧ member = segment ++ encodeSegment text ∧
        ¬IsDots member := by
  induction text generalizing path segment with
  | nil =>
      refine (mem_addSegment listed).imp_right (.imp_right ?_)
      rintro ⟨rfl, plain⟩
      exact .inr ⟨fun _ none => absurd none List.not_mem_nil, (List.append_nil _).symm, plain⟩
  | cons character rest induction =>
      have ended : ∀ {slash}, member ∈ addSegment path slash segment →
          member ∈ path ∨ member = [] ∨ ∃ piece : List Char, piece.length < rest.length + 1 ∧
            (member = segment ++ encodeSegment piece ∨ member = encodeSegment piece) := by
        intro slash added
        refine (mem_addSegment added).imp_right (.imp_right ?_)
        rintro ⟨rfl, _⟩
        exact ⟨[], Nat.succ_pos _, .inl (List.append_nil _).symm⟩
      rw [pathState] at listed
      split at listed
      · rcases induction listed with before | empty | ⟨piece, shorter, inside⟩ | whole
        · exact (ended before).imp_right (.imp_right .inl)
        · exact .inr (.inl empty)
        · exact .inr (.inr (.inl ⟨piece, shorter.trans (Nat.lt_succ_self _),
            .inr (inside.elim id id)⟩))
        · exact .inr (.inr (.inl ⟨rest, Nat.lt_succ_self _, .inr whole.2.1⟩))
      split at listed
      · exact (ended listed).imp_right (.imp_right .inl)
      split at listed
      · exact (ended listed).imp_right (.imp_right .inl)
      · rename_i noSlash noQuery noFragment
        have written (rest : List Char) : segment ++ utf8PercentEncode inPathSet character ++
            encodeSegment rest = segment ++ encodeSegment (character :: rest) := by
          rw [encodeSegment, encodeSegment, List.flatMap_cons, List.append_assoc]
        rcases induction listed with before | empty | ⟨piece, shorter, inside | inside⟩ | whole
        · exact .inl before
        · exact .inr (.inl empty)
        · exact .inr (.inr (.inl ⟨character :: piece, Nat.succ_lt_succ shorter,
            .inl (inside.trans (written piece))⟩))
        · exact .inr (.inr (.inl ⟨piece, shorter.trans (Nat.lt_succ_self _), .inr inside⟩))
        · refine .inr (.inr (.inr ⟨?_, whole.2.1.trans (written rest), whole.2.2⟩))
          rw [List.forall_mem_cons]
          refine ⟨?_, whole.1⟩
          simp only [segmentEnds, List.mem_cons, List.not_mem_nil, or_false]
          tauto

/-! ## Read back -/

/-- A text that is read back although nobody has encoded it. -/
structure StandsRaw (text : String) : Prop where
  /-- No blank at the end, and no tab or line end. -/
  clean : cleanAddress text.toList = text.toList
  whole : ∀ character ∈ text.toList, character ∉ segmentEnds
  plain : text ≠ "." ∧ text ≠ ".."
  unescaped : escapeCount text.toList = 0

theorem standsRaw_empty : StandsRaw "" where
  clean := rfl
  whole := fun _ none => absurd none List.not_mem_nil
  plain := by decide
  unescaped := rfl

theorem pathState_raw_iff {front : List (List Char)} {text : String}
    (standing : ∀ segment ∈ front, StandsRaw (percentDecode segment)) :
    ((pathState front [] (cleanAddress text.toList)).segments =
        front.map percentDecode ++ [text] ∧
      (pathState front [] (cleanAddress text.toList)).pairs = []) ↔ StandsRaw text := by
  constructor
  · rintro ⟨segments, _⟩
    have listed : text ∈ (pathState front [] (cleanAddress text.toList)).segments := by
      rw [segments]
      exact List.mem_append_right _ List.mem_cons_self
    rcases List.mem_map.mp listed with ⟨member, inside, read⟩
    have shorter := (cleanAddress_sublist text.toList).length_le
    have short {piece : List Char} (same : member = encodeSegment piece) :
        text.toList.length + escapeCount piece ≤ piece.length := by
      rw [← read, same]
      exact length_percentDecode_encodeSegment piece
    rcases mem_pathState inside with before | empty | ⟨piece, less, either⟩ | ⟨whole, same, plain⟩
    · rw [← read]
      exact standing member before
    · rw [← read, empty]
      exact standsRaw_empty
    · have least := short (either.elim id id)
      omega
    · have least := short same
      have clean := (cleanAddress_sublist text.toList).eq_of_length (by omega)
      rw [clean] at whole same least
      refine ⟨clean, whole, ⟨?_, ?_⟩, by omega⟩
      · rintro rfl
        exact plain (.inl (same ▸ by decide))
      · rintro rfl
        exact plain (.inr (same ▸ by decide))
  · intro stands
    have read : percentDecode (encodeSegment text.toList) = text := by
      rw [percentDecode_encodeSegment stands.unescaped, String.ofList_toList]
    have plain : ¬IsDots (encodeSegment text.toList) := by
      intro dots
      have decoded := dots.imp percentDecode_of_single percentDecode_of_double
      rw [read] at decoded
      exact decoded.elim stands.plain.1 stands.plain.2
    rw [stands.clean, pathState_unended stands.whole, List.nil_append, addSegment_plain plain,
      UrlTarget.segments, List.map_append, List.map_singleton, read]
    exact ⟨rfl, rfl⟩

end SovAgent.Client

import SovAgent.Foundation.Utf8

/-! # Percent-encoded text

Bytes that are not kept as characters are written as `%XX`. Texts and forms are read back as
they were.
-/

namespace SovAgent

/-! ## Reading -/

def percentBytes : List Char → List Nat
  | '%' :: high :: low :: rest =>
      match Json.hexValue high, Json.hexValue low with
      | some sixteens, some ones => (sixteens * 16 + ones) :: percentBytes rest
      | _, _ => 0x25 :: percentBytes (high :: low :: rest)
  | character :: rest => characterBytes character ++ percentBytes rest
  | [] => []

def percentDecode (text : List Char) : String := decodeUtf8 (percentBytes text)

theorem percentBytes_cons {character : Char} (apart : character ≠ '%') (rest : List Char) :
    percentBytes (character :: rest) = characterBytes character ++ percentBytes rest := by
  rw [percentBytes]
  rintro _ _ _ rfl
  exact absurd rfl apart

theorem toNat_ascii {byte : Nat} (ascii : byte < 0x80) : (Char.ofNat byte).toNat = byte := by
  have valid : byte.isValidChar := .inl (by omega)
  rw [Char.ofNat, dif_pos valid]
  rfl

theorem characterBytes_ascii {byte : Nat} (ascii : byte < 0x80) :
    characterBytes (Char.ofNat byte) = [byte] := by
  rw [characterBytes_eq, toNat_ascii ascii, pointBytes, if_pos (Nat.le_of_lt_succ ascii)]

/-! ### Texts with broken escapes -/

def hexPair : List Char → Option (Nat × List Char)
  | high :: low :: rest => do
      let sixteens ← Json.hexValue high
      let ones ← Json.hexValue low
      some (sixteens * 16 + ones, rest)
  | _ => none

theorem percentBytes_percent (rest : List Char) :
    percentBytes ('%' :: rest) =
      match hexPair rest with
      | some (byte, rest) => byte :: percentBytes rest
      | none => 0x25 :: percentBytes rest := by
  match rest with
  | [] => rfl
  | [_] => rfl
  | high :: low :: rest =>
      rw [percentBytes, hexPair]
      cases Json.hexValue high with
      | none => rfl
      | some sixteens => cases Json.hexValue low <;> rfl

def escapeCount : List Char → Nat
  | '%' :: high :: low :: rest =>
      match Json.hexValue high, Json.hexValue low with
      | some _, some _ => escapeCount rest + 1
      | _, _ => escapeCount (high :: low :: rest)
  | _ :: rest => escapeCount rest
  | [] => 0

theorem escapeCount_noPair {high low : Char}
    (noPair : ∀ sixteens ones, Json.hexValue high = some sixteens →
      Json.hexValue low = some ones → False) (rest : List Char) :
    escapeCount ('%' :: high :: low :: rest) = escapeCount (high :: low :: rest) := by
  rw [escapeCount]
  split
  · rename_i highValue lowValue
    exact (noPair _ _ highValue lowValue).elim
  · rfl

theorem percentBytes_of_escapeCount {text : List Char} (none : escapeCount text = 0) :
    percentBytes text = text.flatMap characterBytes := by
  fun_induction percentBytes text with
  | case1 high low rest sixteens ones highValue lowValue induction =>
      rw [escapeCount, highValue, lowValue] at none
      cases none
  | case2 high low rest noPair induction =>
      rw [escapeCount_noPair noPair] at none
      rw [induction none, List.flatMap_cons]
      rfl
  | case3 character rest apart induction =>
      rw [escapeCount] at none
      · rw [induction none, List.flatMap_cons]
      · exact apart
  | case4 => rfl

theorem length_decodeUtf8From_le {state : Utf8State} (continuing : state.Continuing)
    (text : List Char) :
    (decodeUtf8From state (percentBytes text)).length + escapeCount text ≤
      text.length + state.pending := by
  fun_induction percentBytes text generalizing state with
  | case1 high low rest sixteens ones highValue lowValue induction =>
      have step := state.next_spec (sixteens * 16 + ones)
      have later := induction step.1
      rw [decodeUtf8From_cons, escapeCount, highValue, lowValue, List.length_append]
      simp only [List.length_cons]
      omega
  | case2 high low rest noPair induction =>
      have step := state.next_spec 0x25
      have later := induction step.1
      rw [decodeUtf8From_cons, escapeCount_noPair noPair, List.length_append, List.length_cons]
      omega
  | case3 character rest apart induction =>
      have later := induction Utf8State.continuing_start
      rw [length_decodeUtf8From_character continuing, escapeCount, List.length_cons]
      · have none : Utf8State.start.pending = 0 := rfl
        omega
      · exact apart
  | case4 =>
      rw [decodeUtf8From, escapeCount, Utf8State.pending]
      split <;> simp

/-! ## Writing -/

structure PercentEncoder where
  kept : Nat → Bool
  digit : Nat → Char
  value_digit : ∀ value < 16, Json.hexValue (digit value) = some value
  kept_ascii : ∀ byte, kept byte = true → byte < 0x80
  percent : kept 0x25 = false

namespace PercentEncoder

variable (encoder : PercentEncoder)

def encodeByte (byte : Nat) : List Char :=
  if encoder.kept byte then [Char.ofNat byte]
  else ['%', encoder.digit (byte / 16), encoder.digit (byte % 16)]

def encode (text : String) : List Char := (utf8Bytes text).flatMap encoder.encodeByte

theorem percentBytes_encodeByte {byte : Nat} (small : byte < 256) (rest : List Char) :
    percentBytes (encoder.encodeByte byte ++ rest) = byte :: percentBytes rest := by
  rw [encodeByte]
  cases kept : encoder.kept byte with
  | true =>
      have ascii := encoder.kept_ascii byte kept
      have apart : Char.ofNat byte ≠ '%' := by
        intro same
        have bytes := characterBytes_ascii ascii
        rw [same, show characterBytes '%' = [0x25] from rfl, List.singleton_inj] at bytes
        rw [← bytes, encoder.percent] at kept
        cases kept
      rw [if_pos rfl, List.singleton_append, percentBytes_cons apart, characterBytes_ascii ascii]
      rfl
  | false =>
      have high := encoder.value_digit (byte / 16) (by omega)
      have low := encoder.value_digit (byte % 16) (by omega)
      rw [if_neg Bool.false_ne_true]
      simp only [List.cons_append, List.nil_append, percentBytes, high, low]
      congr 1
      omega

theorem percentBytes_encode (text : String) (rest : List Char) :
    percentBytes (encoder.encode text ++ rest) = utf8Bytes text ++ percentBytes rest := by
  have all (bytes : List Nat) (small : ∀ byte ∈ bytes, byte < 256) :
      percentBytes (bytes.flatMap encoder.encodeByte ++ rest) = bytes ++ percentBytes rest := by
    induction bytes with
    | nil => rfl
    | cons byte bytes induction =>
        rw [List.forall_mem_cons] at small
        rw [List.flatMap_cons, List.append_assoc, percentBytes_encodeByte _ small.1,
          induction small.2, List.cons_append]
  apply all
  intro byte member
  rcases List.mem_map.mp member with ⟨octet, _, rfl⟩
  exact octet.toNat_lt

theorem percentDecode_encode (text : String) : percentDecode (encoder.encode text) = text := by
  have bytes := encoder.percentBytes_encode text []
  rw [List.append_nil, percentBytes, List.append_nil] at bytes
  rw [percentDecode, bytes, decodeUtf8_utf8Bytes]

theorem forall_encodeByte (property : Char → Prop) (percent : property '%')
    (digits : ∀ value < 16, property (encoder.digit value)) {byte : Nat} (small : byte < 256)
    (kept : encoder.kept byte = true → property (Char.ofNat byte)) :
    ∀ character ∈ encoder.encodeByte byte, property character := by
  intro character written
  rw [encodeByte] at written
  cases stays : encoder.kept byte with
  | true =>
      rw [stays, if_pos rfl, List.mem_singleton] at written
      exact written ▸ kept stays
  | false =>
      rw [stays, if_neg Bool.false_ne_true] at written
      simp only [List.mem_cons, List.not_mem_nil, or_false] at written
      rcases written with rfl | rfl | rfl
      · exact percent
      · exact digits _ (by omega)
      · exact digits _ (by omega)

theorem forall_encode (property : Char → Prop) (percent : property '%')
    (digits : ∀ value < 16, property (encoder.digit value))
    (kept : ∀ byte, encoder.kept byte = true → property (Char.ofNat byte)) (text : String) :
    ∀ character ∈ encoder.encode text, property character := by
  intro character member
  rcases List.mem_flatMap.mp member with ⟨byte, listed, written⟩
  rcases List.mem_map.mp listed with ⟨octet, _, rfl⟩
  exact encoder.forall_encodeByte property percent digits octet.toNat_lt (kept _) character written

theorem encode_of_kept {text : List Char}
    (kept : ∀ character ∈ text, encoder.kept character.toNat = true) :
    encoder.encode (String.ofList text) = text := by
  rw [encode, utf8Bytes_eq, String.toList_ofList]
  induction text with
  | nil => rfl
  | cons character rest induction =>
      rw [List.forall_mem_cons] at kept
      have ascii := encoder.kept_ascii _ kept.1
      have bytes := characterBytes_ascii ascii
      rw [Char.ofNat_toNat] at bytes
      rw [List.flatMap_cons, List.flatMap_append, induction kept.2, bytes,
        List.flatMap_singleton, encodeByte, kept.1, if_pos rfl, Char.ofNat_toNat]
      rfl

theorem not_mem_encode {character : Char} (noDigit : Json.hexValue character = none)
    (mark : '%' ≠ character) (free : encoder.kept character.toNat = false) (text : String) :
    character ∉ encoder.encode text := by
  have avoided : ∀ other ∈ encoder.encode text, other ≠ character := by
    apply encoder.forall_encode (· ≠ character) mark
    · rintro value small rfl
      rw [encoder.value_digit value small] at noDigit
      cases noDigit
    · rintro byte kept rfl
      rw [toNat_ascii (encoder.kept_ascii byte kept), kept] at free
      cases free
  intro member
  exact avoided character member rfl

end PercentEncoder

/-! ## Forms -/

def plusToSpace (character : Char) : Char := if character = '+' then ' ' else character

def spaceToPlus (character : Char) : Char := if character = ' ' then '+' else character

def formDecode (text : List Char) : String := percentDecode (text.map plusToSpace)

def readPair (piece : List Char) : String × String :=
  (formDecode (piece.takeWhile (· ≠ '=')), formDecode ((piece.dropWhile (· ≠ '=')).drop 1))

/-- The pairs of a form (`application/x-www-form-urlencoded`). -/
def readForm (query : List Char) : List (String × String) :=
  ((query.splitOn '&').filter (· ≠ [])).map readPair

theorem plusToSpace_spaceToPlus {character : Char} (apart : character ≠ '+') :
    plusToSpace (spaceToPlus character) = character := by
  rw [spaceToPlus]
  by_cases space : character = ' '
  · rw [if_pos space, space]
    rfl
  · rw [if_neg space, plusToSpace, if_neg apart]

theorem map_plusToSpace {text : List Char} (absent : '+' ∉ text) :
    text.map plusToSpace = text := by
  apply (List.map_congr_left _).trans (List.map_id _)
  intro character member
  rw [plusToSpace, if_neg]
  · rfl
  · rintro rfl
    exact absent member

theorem PercentEncoder.formDecode_encode (encoder : PercentEncoder)
    (plus : encoder.kept 0x2B = false) (text : String) :
    formDecode (encoder.encode text) = text := by
  have noPlus : '+' ∉ encoder.encode text :=
    encoder.not_mem_encode (by decide : Json.hexValue '+' = none) (by decide) plus text
  rw [formDecode, map_plusToSpace noPlus, percentDecode_encode]

theorem readPair_append {name value : List Char} (free : '=' ∉ name) :
    readPair (name ++ '=' :: value) = (formDecode name, formDecode value) := by
  have inside : ∀ character ∈ name, decide (character ≠ '=') = true := by
    intro character member
    apply decide_eq_true
    rintro rfl
    exact free member
  rw [readPair, List.takeWhile_append_of_pos inside, List.dropWhile_append_of_pos inside]
  simp

theorem readForm_intercalate {pieces : List (List Char)}
    (free : ∀ piece ∈ pieces, '&' ∉ piece) (filled : ∀ piece ∈ pieces, piece ≠ []) :
    readForm (['&'].intercalate pieces) = pieces.map readPair := by
  rw [readForm]
  cases pieces with
  | nil => rfl
  | cons piece rest =>
      have kept : (piece :: rest).filter (· ≠ []) = piece :: rest := by
        apply List.filter_eq_self.mpr
        intro listed member
        exact decide_eq_true (filled listed member)
      rw [List.splitOn_intercalate '&' free (List.cons_ne_nil _ _), kept]

/-- An encoder for forms keeps a space, to be written as `+`, and none of the separators. -/
structure FormEncoder extends PercentEncoder where
  plus : kept 0x2B = false
  ampersand : kept 0x26 = false
  equals : kept 0x3D = false

namespace FormEncoder

variable (encoder : FormEncoder)

def formText (text : String) : List Char := (encoder.encode text).map spaceToPlus

def formPair (pair : String × String) : List Char :=
  encoder.formText pair.1 ++ '=' :: encoder.formText pair.2

/-- `URLSearchParams.prototype.toString`. -/
def writeForm (pairs : List (String × String)) : List Char :=
  ['&'].intercalate (pairs.map encoder.formPair)

theorem formDecode_formText (text : String) : formDecode (encoder.formText text) = text := by
  have noPlus : '+' ∉ encoder.encode text :=
    encoder.not_mem_encode (by decide : Json.hexValue '+' = none) (by decide) encoder.plus text
  have same : (encoder.formText text).map plusToSpace = encoder.encode text := by
    rw [formText, List.map_map]
    apply (List.map_congr_left _).trans (List.map_id _)
    intro character member
    apply plusToSpace_spaceToPlus
    rintro rfl
    exact noPlus member
  rw [formDecode, same, encoder.percentDecode_encode]

theorem not_mem_formText {character : Char} (noDigit : Json.hexValue character = none)
    (mark : '%' ≠ character) (plus : '+' ≠ character)
    (free : encoder.kept character.toNat = false) (text : String) :
    character ∉ encoder.formText text := by
  intro member
  rcases List.mem_map.mp member with ⟨written, listed, same⟩
  rw [spaceToPlus] at same
  by_cases space : written = ' '
  · rw [if_pos space] at same
    exact plus same
  · rw [if_neg space] at same
    rw [same] at listed
    exact encoder.not_mem_encode noDigit mark free text listed

theorem readForm_writeForm (pairs : List (String × String)) :
    readForm (encoder.writeForm pairs) = pairs := by
  have noEquals := encoder.not_mem_formText (by decide : Json.hexValue '=' = none) (by decide)
    (by decide) encoder.equals
  have noAmpersand := encoder.not_mem_formText (by decide : Json.hexValue '&' = none) (by decide)
    (by decide) encoder.ampersand
  rw [writeForm, readForm_intercalate, List.map_map]
  · apply List.map_id''
    intro pair
    rw [Function.comp_apply, formPair, readPair_append (noEquals pair.1), formDecode_formText,
      formDecode_formText]
  · intro piece member
    rcases List.mem_map.mp member with ⟨pair, _, rfl⟩
    intro listed
    rcases List.mem_append.mp listed with before | after
    · exact noAmpersand pair.1 before
    · rcases List.mem_cons.mp after with equal | later
      · cases equal
      · exact noAmpersand pair.2 later
  · intro piece member
    rcases List.mem_map.mp member with ⟨pair, _, rfl⟩
    simp [formPair]

end FormEncoder

end SovAgent

import SovAgent.Foundation.JsonText
import SovAgent.Foundation.Text

/-! # Text in UTF-8

A text is read back from its bytes, which are at least as many as its code units.
-/

namespace SovAgent

def utf8Bytes (text : String) : List Nat := text.toUTF8.data.toList.map UInt8.toNat

def characterBytes (character : Char) : List Nat :=
  (String.utf8EncodeChar character).map UInt8.toNat

theorem utf8Bytes_eq (text : String) : utf8Bytes text = text.toList.flatMap characterBytes := by
  have bytes : text.toUTF8.data.toList = text.toList.flatMap String.utf8EncodeChar := by
    rw [String.toUTF8_eq_toByteArray, ← String.utf8Encode_toList, List.utf8Encode,
      List.toList_data_toByteArray]
  rw [utf8Bytes, bytes, List.map_flatMap]
  rfl

theorem length_utf8Bytes (text : String) : (utf8Bytes text).length = byteLength text := by
  rw [utf8Bytes, List.length_map]
  rfl

/-! ## Reading a character -/

section Steps

variable {needed lower upper bits byte : Nat} (rest : List Nat)

theorem decodeUtf8From_cons (state : Utf8State) :
    decodeUtf8From state (byte :: rest) =
      (state.next byte).1 ++ decodeUtf8From (state.next byte).2 rest :=
  rfl

theorem decodeUtf8From_last (above : lower ≤ byte) (below : byte ≤ upper) :
    decodeUtf8From ⟨1, lower, upper, bits⟩ (byte :: rest) =
      Char.ofNat (bits * 0x40 + (byte - 0x80)) :: decodeUtf8From .start rest := by
  simp [decodeUtf8From_cons, Utf8State.next, above, below]

theorem decodeUtf8From_more (above : lower ≤ byte) (below : byte ≤ upper) :
    decodeUtf8From ⟨needed + 2, lower, upper, bits⟩ (byte :: rest) =
      decodeUtf8From ⟨needed + 1, 0x80, 0xBF, bits * 0x40 + (byte - 0x80)⟩ rest := by
  simp [decodeUtf8From_cons, Utf8State.next, above, below]

theorem decodeUtf8From_one (small : byte < 0x80) :
    decodeUtf8From .start (byte :: rest) = Char.ofNat byte :: decodeUtf8From .start rest := by
  simp [decodeUtf8From_cons, Utf8State.next, Utf8State.start, Utf8State.lead, small]

theorem decodeUtf8From_two (above : 0xC2 ≤ byte) (below : byte ≤ 0xDF) :
    decodeUtf8From .start (byte :: rest) =
      decodeUtf8From ⟨1, 0x80, 0xBF, byte - 0xC0⟩ rest := by
  have large : ¬byte < 0x80 := by omega
  simp [decodeUtf8From_cons, Utf8State.next, Utf8State.start, Utf8State.lead, large, above, below]

theorem decodeUtf8From_three (above : 0xE0 ≤ byte) (below : byte ≤ 0xEF) :
    decodeUtf8From .start (byte :: rest) =
      decodeUtf8From ⟨2, if byte = 0xE0 then 0xA0 else 0x80,
        if byte = 0xED then 0x9F else 0xBF, byte - 0xE0⟩ rest := by
  have large : ¬byte < 0x80 := by omega
  have notTwo : ¬byte ≤ 0xDF := by omega
  simp [decodeUtf8From_cons, Utf8State.next, Utf8State.start, Utf8State.lead, large, notTwo, above,
    below]

theorem decodeUtf8From_four (above : 0xF0 ≤ byte) (below : byte ≤ 0xF4) :
    decodeUtf8From .start (byte :: rest) =
      decodeUtf8From ⟨3, if byte = 0xF0 then 0x90 else 0x80,
        if byte = 0xF4 then 0x8F else 0xBF, byte - 0xF0⟩ rest := by
  have large : ¬byte < 0x80 := by omega
  have notTwo : ¬byte ≤ 0xDF := by omega
  have notThree : ¬byte ≤ 0xEF := by omega
  simp [decodeUtf8From_cons, Utf8State.next, Utf8State.start, Utf8State.lead, large, notTwo,
    notThree, above, below]

end Steps

def pointBytes (point : Nat) : List Nat :=
  if point ≤ 0x7F then [point]
  else if point ≤ 0x7FF then [point / 0x40 + 0xC0, point % 0x40 + 0x80]
  else if point ≤ 0xFFFF then
    [point / 0x1000 + 0xE0, point / 0x40 % 0x40 + 0x80, point % 0x40 + 0x80]
  else
    [point / 0x40000 + 0xF0, point / 0x1000 % 0x40 + 0x80, point / 0x40 % 0x40 + 0x80,
      point % 0x40 + 0x80]

theorem characterBytes_eq (character : Char) :
    characterBytes character = pointBytes character.toNat := by
  have valid : character.val.toNat < 0xD800 ∨
      0xDFFF < character.val.toNat ∧ character.val.toNat < 0x110000 := character.valid
  rw [characterBytes, String.utf8EncodeChar.eq_def, pointBytes, Char.toNat]
  dsimp only
  split
  · simp only [List.map_cons, List.map_nil, UInt8.toNat_ofNat', List.cons.injEq, and_true]
    omega
  · split
    · simp only [List.map_cons, List.map_nil, UInt8.toNat_ofNat', List.cons.injEq, and_true]
      omega
    · split
      · simp only [List.map_cons, List.map_nil, UInt8.toNat_ofNat', List.cons.injEq, and_true]
        omega
      · simp only [List.map_cons, List.map_nil, UInt8.toNat_ofNat', List.cons.injEq, and_true]
        omega

theorem decodeUtf8From_point {point : Nat}
    (valid : point < 0xD800 ∨ 0xDFFF < point ∧ point < 0x110000) (rest : List Nat) :
    decodeUtf8From .start (pointBytes point ++ rest) =
      Char.ofNat point :: decodeUtf8From .start rest := by
  rw [pointBytes]
  split
  · exact decodeUtf8From_one rest (by omega)
  split
  · simp only [List.cons_append, List.nil_append]
    rw [decodeUtf8From_two _ (by omega) (by omega),
      decodeUtf8From_last _ (by omega) (by omega)]
    have whole : (point / 0x40 + 0xC0 - 0xC0) * 0x40 + (point % 0x40 + 0x80 - 0x80) = point := by
      omega
    rw [whole]
  split
  · simp only [List.cons_append, List.nil_append]
    rw [decodeUtf8From_three _ (by omega) (by omega),
      decodeUtf8From_more _ (by split <;> omega) (by split <;> omega),
      decodeUtf8From_last _ (by omega) (by omega)]
    have whole : ((point / 0x1000 + 0xE0 - 0xE0) * 0x40 + (point / 0x40 % 0x40 + 0x80 - 0x80)) *
        0x40 + (point % 0x40 + 0x80 - 0x80) = point := by
      omega
    rw [whole]
  · simp only [List.cons_append, List.nil_append]
    rw [decodeUtf8From_four _ (by omega) (by omega),
      decodeUtf8From_more _ (by split <;> omega) (by split <;> omega),
      decodeUtf8From_more _ (by omega) (by omega),
      decodeUtf8From_last _ (by omega) (by omega)]
    have whole : (((point / 0x40000 + 0xF0 - 0xF0) * 0x40 +
        (point / 0x1000 % 0x40 + 0x80 - 0x80)) * 0x40 + (point / 0x40 % 0x40 + 0x80 - 0x80)) *
        0x40 + (point % 0x40 + 0x80 - 0x80) = point := by
      omega
    rw [whole]

theorem decodeUtf8From_character (character : Char) (rest : List Nat) :
    decodeUtf8From .start (characterBytes character ++ rest) =
      character :: decodeUtf8From .start rest := by
  have read := decodeUtf8From_point character.valid rest
  rw [characterBytes_eq]
  exact read.trans (by rw [← Char.toNat, Char.ofNat_toNat])

theorem decodeUtf8_utf8Bytes (text : String) : decodeUtf8 (utf8Bytes text) = text := by
  have read : ∀ characters : List Char,
      decodeUtf8From .start (characters.flatMap characterBytes) = characters := by
    intro characters
    induction characters with
    | nil => rfl
    | cons head tail induction =>
        rw [List.flatMap_cons, decodeUtf8From_character, induction]
  rw [decodeUtf8, utf8Bytes_eq, read, String.ofList_toList]

/-! ## Lengths -/

theorem utf16Units_le (character : Char) :
    utf16Units character ≤ (characterBytes character).length := by
  rw [characterBytes_eq, utf16Units, pointBytes]
  split
  · split
    · exact Nat.le_refl 1
    split
    · exact Nat.le_add_left 1 1
    split
    · exact Nat.le_add_left 1 2
    · exact Nat.le_add_left 1 3
  · rename_i large
    rw [if_neg (by omega), if_neg (by omega), if_neg (by omega)]
    exact Nat.le_add_left 2 2

theorem utf16Length_le (text : String) : utf16Length text ≤ byteLength text := by
  rw [← length_utf8Bytes, utf8Bytes_eq, utf16Length]
  induction text.toList with
  | nil => exact Nat.le_refl 0
  | cons head tail induction =>
      rw [List.map_cons, List.sum_cons, List.flatMap_cons, List.length_append]
      exact Nat.add_le_add (utf16Units_le head) induction

/-! ### What is read of a broken text -/

namespace Utf8State

def Continuing (state : Utf8State) : Prop :=
  state.needed = 0 ∨ 0x80 ≤ state.lower ∧ state.upper ≤ 0xBF

def pending (state : Utf8State) : Nat := if state.needed = 0 then 0 else 1

theorem continuing_start : start.Continuing := .inl rfl

theorem lead_spec (byte : Nat) :
    (lead byte).2.Continuing ∧ (lead byte).1.length + (lead byte).2.pending = 1 := by
  rw [lead]
  split
  · exact ⟨continuing_start, rfl⟩
  split
  · exact ⟨.inr ⟨le_rfl, le_rfl⟩, rfl⟩
  split
  · refine ⟨.inr ⟨?_, ?_⟩, rfl⟩ <;> dsimp only <;> split <;> omega
  split
  · refine ⟨.inr ⟨?_, ?_⟩, rfl⟩ <;> dsimp only <;> split <;> omega
  · exact ⟨continuing_start, rfl⟩

theorem next_spec (state : Utf8State) (byte : Nat) :
    (state.next byte).2.Continuing ∧
      (state.next byte).1.length + (state.next byte).2.pending ≤ state.pending + 1 := by
  have first := lead_spec byte
  rw [next]
  split
  · exact ⟨first.1, first.2.le.trans (Nat.le_add_left 1 _)⟩
  rename_i continues
  have one : state.pending = 1 := if_neg continues
  split
  · dsimp only
    split
    · exact ⟨continuing_start, by simp [pending, start]⟩
    · refine ⟨.inr ⟨le_rfl, le_rfl⟩, ?_⟩
      rw [one, pending, List.length_nil]
      split <;> omega
  · refine ⟨first.1, ?_⟩
    dsimp only
    rw [List.length_cons]
    omega

end Utf8State

theorem length_decodeUtf8From_character {state : Utf8State} (continuing : state.Continuing)
    (character : Char) (rest : List Nat) :
    (decodeUtf8From state (characterBytes character ++ rest)).length =
      state.pending + 1 + (decodeUtf8From .start rest).length := by
  have read := decodeUtf8From_character character rest
  have begins : ∃ byte more, characterBytes character = byte :: more ∧
      (byte < 0x80 ∨ 0xBF < byte) := by
    rw [characterBytes_eq, pointBytes]
    split
    · exact ⟨_, _, rfl, by omega⟩
    split
    · exact ⟨_, _, rfl, by omega⟩
    split
    · exact ⟨_, _, rfl, by omega⟩
    · exact ⟨_, _, rfl, by omega⟩
  rcases begins with ⟨byte, more, bytes, leads⟩
  rw [bytes, List.cons_append, decodeUtf8From_cons] at read ⊢
  have first : Utf8State.start.next byte = Utf8State.lead byte := rfl
  rw [first] at read
  by_cases fresh : state.needed = 0
  · rw [Utf8State.next, if_pos fresh, read, Utf8State.pending, if_pos fresh, List.length_cons]
    omega
  · have range := continuing.resolve_left fresh
    have broken : ¬(state.lower ≤ byte ∧ byte ≤ state.upper) := by omega
    rw [Utf8State.next, if_neg fresh, if_neg broken, Utf8State.pending, if_neg fresh]
    dsimp only
    rw [List.cons_append, read, List.length_cons, List.length_cons]
    omega

end SovAgent

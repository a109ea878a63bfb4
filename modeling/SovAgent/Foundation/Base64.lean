import Mathlib.Data.List.Basic

/-! # Base64

The `base64` encoding of a buffer. Decoding takes the URL-safe alphabet as well
and passes over all other characters.
-/

namespace SovAgent

abbrev Bytes := List UInt8

namespace Base64

def alphabet : List Char :=
  "ABCDEFGHIJKLMNOPQRSTUVWXYZabcdefghijklmnopqrstuvwxyz0123456789+/".toList

def sextet (value : Nat) : Char := alphabet.getD value '='

def sextetValue (character : Char) : Option Nat :=
  if character = '-' then some 62
  else if character = '_' then some 63
  else if character ∈ alphabet then some (alphabet.idxOf character)
  else none

def encodeGroups : Bytes → List Char
  | [] => []
  | [first] => [sextet (first.toNat / 4), sextet (first.toNat % 4 * 16), '=', '=']
  | [first, second] =>
      [sextet (first.toNat / 4), sextet (first.toNat % 4 * 16 + second.toNat / 16),
        sextet (second.toNat % 16 * 4), '=']
  | first :: second :: third :: rest =>
      sextet (first.toNat / 4) :: sextet (first.toNat % 4 * 16 + second.toNat / 16) ::
        sextet (second.toNat % 16 * 4 + third.toNat / 64) :: sextet (third.toNat % 64) ::
        encodeGroups rest

def decodeSextets : List Nat → Bytes
  | first :: second :: third :: fourth :: rest =>
      .ofNat (first * 4 + second / 16) :: .ofNat (second % 16 * 16 + third / 4) ::
        .ofNat (third % 4 * 64 + fourth) :: decodeSextets rest
  | [first, second, third] =>
      [.ofNat (first * 4 + second / 16), .ofNat (second % 16 * 16 + third / 4)]
  | [first, second] => [.ofNat (first * 4 + second / 16)]
  | [_] | [] => []

/-- `buffer.toString('base64')`. -/
def encode (bytes : Bytes) : String := String.ofList (encodeGroups bytes)

/-- `Buffer.from(text, 'base64')`. -/
def decode (text : String) : Bytes := decodeSextets (text.toList.filterMap sextetValue)

example : encode [0x66, 0x6f, 0x6f, 0x62] = "Zm9vYg==" := by decide

/-! ## Round trip -/

theorem sextetValue_sextet : ∀ value < 64, sextetValue (sextet value) = some value := by
  decide +kernel

theorem sextetValue_padding : sextetValue '=' = none := by decide

theorem ofNat_eq {value : Nat} {byte : UInt8} (equal : value = byte.toNat) :
    UInt8.ofNat value = byte := by
  rw [equal, UInt8.ofNat_toNat]

theorem decodeSextets_encodeGroups (bytes : Bytes) :
    decodeSextets ((encodeGroups bytes).filterMap sextetValue) = bytes := by
  induction bytes using encodeGroups.induct with
  | case1 => rfl
  | case2 first =>
      have bound := first.toNat_lt
      simp only [encodeGroups, List.filterMap_cons, sextetValue_padding, List.filterMap_nil,
        sextetValue_sextet (first.toNat / 4) (by omega),
        sextetValue_sextet (first.toNat % 4 * 16) (by omega), decodeSextets]
      rw [@ofNat_eq _ first (by omega)]
  | case3 first second =>
      have bound := first.toNat_lt
      have bound' := second.toNat_lt
      simp only [encodeGroups, List.filterMap_cons, sextetValue_padding, List.filterMap_nil,
        sextetValue_sextet (first.toNat / 4) (by omega),
        sextetValue_sextet (first.toNat % 4 * 16 + second.toNat / 16) (by omega),
        sextetValue_sextet (second.toNat % 16 * 4) (by omega), decodeSextets]
      rw [@ofNat_eq _ first (by omega), @ofNat_eq _ second (by omega)]
  | case4 first second third rest induction =>
      have bound := first.toNat_lt
      have bound' := second.toNat_lt
      have bound'' := third.toNat_lt
      simp only [encodeGroups, List.filterMap_cons,
        sextetValue_sextet (first.toNat / 4) (by omega),
        sextetValue_sextet (first.toNat % 4 * 16 + second.toNat / 16) (by omega),
        sextetValue_sextet (second.toNat % 16 * 4 + third.toNat / 64) (by omega),
        sextetValue_sextet (third.toNat % 64) (by omega), decodeSextets, induction]
      rw [@ofNat_eq _ first (by omega), @ofNat_eq _ second (by omega),
        @ofNat_eq _ third (by omega)]

theorem decode_encode (bytes : Bytes) : decode (encode bytes) = bytes := by
  rw [decode, encode, String.toList_ofList]
  exact decodeSextets_encodeGroups bytes

/-! ## The characters of an encoding -/

theorem sextet_mem : ∀ value < 64, sextet value ∈ alphabet := by decide +kernel

theorem mem_encodeGroups {bytes : Bytes} {character : Char}
    (member : character ∈ encodeGroups bytes) : character ∈ alphabet ∨ character = '=' := by
  induction bytes using encodeGroups.induct with
  | case1 => cases member
  | case2 first =>
      have bound := first.toNat_lt
      simp only [encodeGroups, List.mem_cons, List.not_mem_nil, or_false] at member
      rcases member with rfl | rfl | rfl | rfl
      · exact .inl (sextet_mem _ (by omega))
      · exact .inl (sextet_mem _ (by omega))
      · exact .inr rfl
      · exact .inr rfl
  | case3 first second =>
      have bound := first.toNat_lt
      have bound' := second.toNat_lt
      simp only [encodeGroups, List.mem_cons, List.not_mem_nil, or_false] at member
      rcases member with rfl | rfl | rfl | rfl
      · exact .inl (sextet_mem _ (by omega))
      · exact .inl (sextet_mem _ (by omega))
      · exact .inl (sextet_mem _ (by omega))
      · exact .inr rfl
  | case4 first second third rest induction =>
      have bound := first.toNat_lt
      have bound' := second.toNat_lt
      have bound'' := third.toNat_lt
      simp only [encodeGroups, List.mem_cons] at member
      rcases member with rfl | rfl | rfl | rfl | later
      · exact .inl (sextet_mem _ (by omega))
      · exact .inl (sextet_mem _ (by omega))
      · exact .inl (sextet_mem _ (by omega))
      · exact .inl (sextet_mem _ (by omega))
      · exact induction later

theorem not_mem_encode {character : Char} (outside : character ∉ alphabet)
    (padding : character ≠ '=') (bytes : Bytes) : character ∉ (encode bytes).toList := by
  rw [encode, String.toList_ofList]
  exact fun member => (mem_encodeGroups member).elim outside padding

end Base64

end SovAgent

import SovAgent.Foundation.Json
import SovAgent.Foundation.Record

/-! # JSON text

`JSON.stringify`, `JSON.parse` and the `hex` and `utf8` encodings of a buffer.
-/

namespace SovAgent

/-! ## Writing -/

namespace Json

def hexDigit (value : Nat) : Char := "0123456789abcdef".toList.getD value '0'

def escapeCharacter (character : Char) : List Char :=
  if character = '"' then ['\\', '"']
  else if character = '\\' then ['\\', '\\']
  else if character.toNat = 0x08 then ['\\', 'b']
  else if character.toNat = 0x0C then ['\\', 'f']
  else if character = '\n' then ['\\', 'n']
  else if character = '\r' then ['\\', 'r']
  else if character = '\t' then ['\\', 't']
  else if character.toNat < 0x20 then
    ['\\', 'u', '0', '0', hexDigit (character.toNat / 16), hexDigit (character.toNat % 16)]
  else [character]

def quote (text : String) : List Char :=
  '"' :: text.toList.flatMap escapeCharacter ++ ['"']

mutual
def write : Json → List Char
  | .null => "null".toList
  | .bool true => "true".toList
  | .bool false => "false".toList
  | .number value => value.toString.toList
  | .string text => quote text
  | .array items => '[' :: writeItems items
  | .object members => '\x7b' :: writeMembers members

def writeItems : List Json → List Char
  | [] => [']']
  | [last] => write last ++ [']']
  | item :: rest => write item ++ ',' :: writeItems rest

def writeMembers : List (String × Json) → List Char
  | [] => ['\x7d']
  | [(key, last)] => quote key ++ ':' :: write last ++ ['\x7d']
  | (key, value) :: rest => quote key ++ ':' :: write value ++ ',' :: writeMembers rest
end

def stringify (value : Json) : String := String.ofList (write value)

/-! ## Reading -/

def skipSpace : List Char → List Char :=
  List.dropWhile fun character => character ∈ [' ', '\t', '\n', '\r']

def hexValue (digit : Char) : Option Nat :=
  if digit.isDigit then some (digit.toNat - '0'.toNat)
  else if 'a' ≤ digit ∧ digit ≤ 'f' then some (digit.toNat - 'a'.toNat + 10)
  else if 'A' ≤ digit ∧ digit ≤ 'F' then some (digit.toNat - 'A'.toNat + 10)
  else none

/-- The code unit that four hexadecimal digits name. -/
def readUnit : List Char → Option (Nat × List Char)
  | first :: second :: third :: fourth :: rest => do
      let high ← hexValue first
      let next ← hexValue second
      let third ← hexValue third
      let low ← hexValue fourth
      some (((high * 16 + next) * 16 + third) * 16 + low, rest)
  | _ => none

def isHighSurrogate (unit : Nat) : Bool := 0xD800 ≤ unit ∧ unit < 0xDC00
def isLowSurrogate (unit : Nat) : Bool := 0xDC00 ≤ unit ∧ unit < 0xE000

/-- A `\u` escape after its marker, with the second half of a surrogate pair. A
half on its own is read as the replacement character. -/
def readEscapedUnit (text : List Char) : Option (Char × List Char) := do
  let (unit, rest) ← readUnit text
  if isHighSurrogate unit then
    match rest with
    | '\\' :: 'u' :: tail =>
        let (low, afterLow) ← readUnit tail
        if isLowSurrogate low then
          some (Char.ofNat (0x10000 + (unit - 0xD800) * 0x400 + (low - 0xDC00)), afterLow)
        else some ('\ufffd', rest)
    | _ => some ('\ufffd', rest)
  else if isLowSurrogate unit then some ('\ufffd', rest)
  else some (Char.ofNat unit, rest)

def readEscape : List Char → Option (Char × List Char)
  | '"' :: rest => some ('"', rest)
  | '\\' :: rest => some ('\\', rest)
  | '/' :: rest => some ('/', rest)
  | 'b' :: rest => some (Char.ofNat 0x08, rest)
  | 'f' :: rest => some (Char.ofNat 0x0C, rest)
  | 'n' :: rest => some ('\n', rest)
  | 'r' :: rest => some ('\r', rest)
  | 't' :: rest => some ('\t', rest)
  | 'u' :: rest => readEscapedUnit rest
  | _ => none

def readString : (fuel : Nat) → List Char → Option (List Char × List Char)
  | 0, _ => none
  | _ + 1, [] => none
  | fuel + 1, character :: rest =>
      if character = '"' then some ([], rest)
      else if character = '\\' then do
        let (escaped, afterEscape) ← readEscape rest
        let (tail, final) ← readString fuel afterEscape
        some (escaped :: tail, final)
      else if character.toNat < 0x20 then none
      else do
        let (tail, final) ← readString fuel rest
        some (character :: tail, final)

def readExponent (text : List Char) : Option (Int × List Char) :=
  match text with
  | marker :: rest =>
      if marker = 'e' ∨ marker = 'E' then
        let (negative, digits) := Number.takeSign rest
        let value := digits.takeWhile Char.isDigit
        if value.isEmpty then none
        else
          let magnitude : Int := Number.digitsValue value
          some (if negative then -magnitude else magnitude, digits.dropWhile Char.isDigit)
      else some (0, text)
  | [] => some (0, [])

def readFraction (text : List Char) : Option (List Char × List Char) :=
  match text with
  | '.' :: rest =>
      let digits := rest.takeWhile Char.isDigit
      if digits.isEmpty then none else some (digits, rest.dropWhile Char.isDigit)
  | _ => some ([], text)

def readNumber (text : List Char) : Option (Json × List Char) := do
  let (negative, body) := match text with
    | '-' :: rest => (true, rest)
    | _ => (false, text)
  let whole := body.takeWhile Char.isDigit
  -- A leading zero stands alone.
  if whole.isEmpty ∨ whole.head? = some '0' ∧ whole.length ≠ 1 then none
  else
    let (fraction, afterFraction) ← readFraction (body.dropWhile Char.isDigit)
    let (exponent, rest) ← readExponent afterFraction
    let magnitude : Int := Number.digitsValue (whole ++ fraction)
    some (.number (Decimal.ofScientific (if negative then -magnitude else magnitude)
      (exponent - fraction.length)), rest)

def readName (name : String) (value : Json) (text : List Char) : Option (Json × List Char) :=
  if name.toList.isPrefixOf text then some (value, text.drop name.length) else none

mutual
def readValue : (fuel : Nat) → List Char → Option (Json × List Char)
  | 0, _ => none
  | fuel + 1, text =>
      match skipSpace text with
      | '"' :: rest => do
          let (characters, final) ← readString rest.length.succ rest
          some (.string (String.ofList characters), final)
      | '[' :: rest =>
          match skipSpace rest with
          | ']' :: final => some (.array [], final)
          | _ => do
              let (items, final) ← readItems fuel rest
              some (.array items, final)
      | '\x7b' :: rest =>
          match skipSpace rest with
          | '\x7d' :: final => some (.object [], final)
          | _ => do
              let (members, final) ← readMembers fuel [] rest
              some (.object members, final)
      | 'n' :: rest => readName "null" .null ('n' :: rest)
      | 't' :: rest => readName "true" (.bool true) ('t' :: rest)
      | 'f' :: rest => readName "false" (.bool false) ('f' :: rest)
      | other => readNumber other

def readItems : (fuel : Nat) → List Char → Option (List Json × List Char)
  | 0, _ => none
  | fuel + 1, text => do
      let (item, afterItem) ← readValue fuel text
      match skipSpace afterItem with
      | ',' :: rest =>
          let (items, final) ← readItems fuel rest
          some (item :: items, final)
      | ']' :: final => some ([item], final)
      | _ => none

/-- A key that occurs again keeps its place and takes the later value. -/
def readMembers : (fuel : Nat) → List (String × Json) → List Char →
    Option (List (String × Json) × List Char)
  | 0, _, _ => none
  | fuel + 1, members, text =>
      match skipSpace text with
      | '"' :: keyText => do
          let (key, afterKey) ← readString keyText.length.succ keyText
          match skipSpace afterKey with
          | ':' :: valueText =>
              let (value, afterValue) ← readValue fuel valueText
              let members := Record.setEntry (String.ofList key) value members
              match skipSpace afterValue with
              | ',' :: rest => readMembers fuel members rest
              | '\x7d' :: final => some (members, final)
              | _ => none
          | _ => none
      | _ => none
end

def parse (text : String) : Option Json := do
  let characters := text.toList
  let (value, rest) ← readValue (2 * characters.length + 2) characters
  if (skipSpace rest).isEmpty then some value else none

end Json

/-! ## Buffers -/

/-- A decoder in the middle of a character: how many bytes are still to come,
the bounds of the next one and the bits read so far. -/
structure Utf8State where
  needed : Nat
  lower : Nat
  upper : Nat
  bits : Nat

namespace Utf8State

def start : Utf8State := ⟨0, 0x80, 0xBF, 0⟩

def lead (byte : Nat) : List Char × Utf8State :=
  if byte < 0x80 then ([Char.ofNat byte], start)
  else if 0xC2 ≤ byte ∧ byte ≤ 0xDF then ([], ⟨1, 0x80, 0xBF, byte - 0xC0⟩)
  else if 0xE0 ≤ byte ∧ byte ≤ 0xEF then
    ([], ⟨2, if byte = 0xE0 then 0xA0 else 0x80, if byte = 0xED then 0x9F else 0xBF, byte - 0xE0⟩)
  else if 0xF0 ≤ byte ∧ byte ≤ 0xF4 then
    ([], ⟨3, if byte = 0xF0 then 0x90 else 0x80, if byte = 0xF4 then 0x8F else 0xBF, byte - 0xF0⟩)
  else (['\ufffd'], start)

def next (state : Utf8State) (byte : Nat) : List Char × Utf8State :=
  if state.needed = 0 then lead byte
  else if state.lower ≤ byte ∧ byte ≤ state.upper then
    let bits := state.bits * 0x40 + (byte - 0x80)
    if state.needed = 1 then ([Char.ofNat bits], start)
    else ([], ⟨state.needed - 1, 0x80, 0xBF, bits⟩)
  else
    -- The broken character is replaced and the byte starts a new one.
    let (characters, state) := lead byte
    ('\ufffd' :: characters, state)

end Utf8State

def decodeUtf8From (state : Utf8State) : List Nat → List Char
  | [] => if state.needed = 0 then [] else ['\ufffd']
  | byte :: rest =>
      let (characters, state) := state.next byte
      characters ++ decodeUtf8From state rest

/-- `buffer.toString('utf8')`. -/
def decodeUtf8 (bytes : List Nat) : String :=
  String.ofList (decodeUtf8From Utf8State.start bytes)

/-- `/^[0-9a-fA-F]+$/` on a text of even length. -/
def isHexText (text : String) : Bool :=
  text ≠ "" ∧ text.toList.all (fun digit => (Json.hexValue digit).isSome) ∧
    text.toList.length % 2 = 0

def hexBytes : List Char → List Nat
  | high :: low :: rest =>
      ((Json.hexValue high).getD 0 * 16 + (Json.hexValue low).getD 0) :: hexBytes rest
  | _ => []

/-- `Buffer.from(text, 'hex').toString('utf8')` of a text of hexadecimal digits. -/
def decodeHex (text : String) : String := decodeUtf8 (hexBytes text.toList)

def byteLength (text : String) : Nat := text.utf8ByteSize

example : Json.parse (decodeHex "7b2261223a5b312c2dc3a95d7d") = none := by decide +kernel
example : Json.parse (decodeHex "7b2261223a5b312c22c3a9225d7d") =
    some (.object [("a", .array [.number 1, .string "é"])]) := by decide +kernel

end SovAgent

import SovAgent.Foundation.Utf8

/-! # UTF-8 in pieces

A `TextDecoder` that is given a text in chunks keeps what is left of a character
for the next one. Where the chunks are cut does not matter.
-/

namespace SovAgent

/-! ## The stream -/

def streamUtf8 (state : Utf8State) : List Nat → List Char × Utf8State
  | [] => ([], state)
  | byte :: rest =>
      let first := state.next byte
      let later := streamUtf8 first.2 rest
      (first.1 ++ later.1, later.2)

def flushUtf8 (state : Utf8State) : List Char := if state.needed = 0 then [] else ['\ufffd']

theorem streamUtf8_append (state : Utf8State) (first second : List Nat) :
    streamUtf8 state (first ++ second) =
      ((streamUtf8 state first).1 ++ (streamUtf8 (streamUtf8 state first).2 second).1,
        (streamUtf8 (streamUtf8 state first).2 second).2) := by
  induction first generalizing state with
  | nil => rfl
  | cons byte first induction =>
      rw [List.cons_append, streamUtf8, induction]
      dsimp only [streamUtf8]
      rw [List.append_assoc]

theorem decodeUtf8From_eq_stream (state : Utf8State) (bytes : List Nat) :
    decodeUtf8From state bytes =
      (streamUtf8 state bytes).1 ++ flushUtf8 (streamUtf8 state bytes).2 := by
  induction bytes generalizing state with
  | nil => rfl
  | cons byte bytes induction =>
      rw [decodeUtf8From_cons, induction, streamUtf8, List.append_assoc]

/-! ## The decoder -/

/-- A `TextDecoder('utf-8')` between two chunks. -/
structure TextDecoder where
  utf8 : Utf8State := .start
  /-- A character has come out, so that a byte order mark is one like any other. -/
  started : Bool := false

def dropMark : List Char → List Char
  | '\ufeff' :: rest => rest
  | text => text

namespace TextDecoder

def emit (decoder : TextDecoder) (characters : List Char) : List Char :=
  if decoder.started then characters else dropMark characters

/-- `decoder.decode(chunk, { stream: true })`. -/
def decode (decoder : TextDecoder) (chunk : List Nat) : List Char × TextDecoder :=
  let decoded := streamUtf8 decoder.utf8 chunk
  (decoder.emit decoded.1, ⟨decoded.2, decoder.started || !decoded.1.isEmpty⟩)

def finish (decoder : TextDecoder) : List Char := decoder.emit (flushUtf8 decoder.utf8)

def decodeAll (decoder : TextDecoder) : List (List Nat) → List Char
  | [] => decoder.finish
  | chunk :: chunks =>
      let decoded := decoder.decode chunk
      decoded.1 ++ decodeAll decoded.2 chunks

theorem emit_append (decoder : TextDecoder) (first second : List Char) :
    decoder.emit (first ++ second) =
      decoder.emit first ++
        TextDecoder.emit ⟨decoder.utf8, decoder.started || !first.isEmpty⟩ second := by
  rcases decoder with ⟨utf8, started⟩
  cases started with
  | true => rfl
  | false =>
      cases first with
      | nil => rfl
      | cons head tail =>
          change dropMark (head :: (tail ++ second)) = dropMark (head :: tail) ++ second
          rw [dropMark.eq_def, dropMark.eq_def]
          split
          · rename_i rest same
            cases same
            rfl
          · rename_i other
            split
            · rename_i rest same
              cases same
              exact absurd rfl (other _)
            · rfl

/-- However it is cut, a text is decoded like the whole. -/
theorem decodeAll_eq (decoder : TextDecoder) (chunks : List (List Nat)) :
    decoder.decodeAll chunks = decoder.emit (decodeUtf8From decoder.utf8 chunks.flatten) := by
  induction chunks generalizing decoder with
  | nil => rfl
  | cons chunk chunks induction =>
      rw [decodeAll, induction, decodeUtf8From_eq_stream, decodeUtf8From_eq_stream,
        List.flatten_cons, streamUtf8_append]
      dsimp only
      rw [List.append_assoc, decoder.emit_append (streamUtf8 decoder.utf8 chunk).1]
      rfl

end TextDecoder

/-- `new TextDecoder('utf-8').decode(bytes)`. -/
def decodeText (bytes : List Nat) : List Char := dropMark (decodeUtf8From .start bytes)

theorem decodeAll_eq_decodeText (chunks : List (List Nat)) :
    TextDecoder.decodeAll {} chunks = decodeText chunks.flatten :=
  TextDecoder.decodeAll_eq {} chunks

end SovAgent

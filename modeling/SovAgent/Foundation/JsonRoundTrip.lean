import SovAgent.Foundation.NumberText

/-! # JSON.parse after JSON.stringify

A value whose objects have distinct keys, as every object has them, is read back
from the text that it is written as.
-/

namespace SovAgent

namespace Json

/-! ## Strings -/

theorem hexValue_hexDigit : ∀ digit < 16, hexValue (hexDigit digit) = some digit := by decide

theorem readEscape_control {character : Char} (control : character.toNat < 0x20)
    (tail : List Char) :
    readEscape ('u' :: '0' :: '0' :: hexDigit (character.toNat / 16) ::
      hexDigit (character.toNat % 16) :: tail) = some (character, tail) := by
  have zero : hexValue '0' = some 0 := by decide
  have unit : readUnit ('0' :: '0' :: hexDigit (character.toNat / 16) ::
      hexDigit (character.toNat % 16) :: tail) = some (character.toNat, tail) := by
    simp only [readUnit, zero, hexValue_hexDigit (character.toNat / 16) (by omega),
      hexValue_hexDigit (character.toNat % 16) (by omega), Option.bind_eq_bind,
      Option.bind_some, Option.some.injEq, Prod.mk.injEq, and_true]
    omega
  have notHigh : isHighSurrogate character.toNat = false := by
    rw [isHighSurrogate, decide_eq_false_iff_not]
    omega
  have notLow : isLowSurrogate character.toNat = false := by
    rw [isLowSurrogate, decide_eq_false_iff_not]
    omega
  change readEscapedUnit _ = _
  simp only [readEscapedUnit, unit, Option.bind_eq_bind, Option.bind_some, notHigh, notLow,
    Bool.false_eq_true, if_false, Char.ofNat_toNat]

theorem readString_escapeCharacter (fuel : Nat) (character : Char) (tail : List Char) :
    readString (fuel + 1) (escapeCharacter character ++ tail) =
      (readString fuel tail).map fun (characters, final) => (character :: characters, final) := by
  have bind_map : ∀ result : Option (List Char × List Char),
      (result.bind fun (characters, final) => some (character :: characters, final)) =
        result.map fun (characters, final) => (character :: characters, final) := by
    intro result
    cases result with
    | none => rfl
    | some read => rfl
  simp only [escapeCharacter]
  split
  · rename_i same
    subst same
    exact bind_map _
  · rename_i notQuote
    split
    · rename_i same
      subst same
      exact bind_map _
    · rename_i notBackslash
      split
      · rename_i code
        have same : character = Char.ofNat 0x08 := by rw [← code, Char.ofNat_toNat]
        subst same
        exact bind_map _
      · split
        · rename_i code
          have same : character = Char.ofNat 0x0C := by rw [← code, Char.ofNat_toNat]
          subst same
          exact bind_map _
        · split
          · rename_i same
            subst same
            exact bind_map _
          · split
            · rename_i same
              subst same
              exact bind_map _
            · split
              · rename_i same
                subst same
                exact bind_map _
              · split
                · rename_i control
                  change ((readEscape ('u' :: '0' :: '0' :: hexDigit _ :: hexDigit _ :: tail)).bind
                    _) = _
                  rw [readEscape_control control]
                  exact bind_map _
                · rename_i printed
                  rw [List.singleton_append, readString, if_neg notQuote, if_neg notBackslash,
                    if_neg printed]
                  exact bind_map _

theorem escapeCharacter_ne_nil (character : Char) : escapeCharacter character ≠ [] := by
  simp only [escapeCharacter]
  repeat' split
  all_goals exact List.cons_ne_nil _ _

theorem length_le_written (characters : List Char) :
    characters.length ≤ (characters.flatMap escapeCharacter).length := by
  induction characters with
  | nil => exact Nat.le_refl 0
  | cons character characters induction =>
      have some := List.length_pos_iff.mpr (escapeCharacter_ne_nil character)
      rw [List.flatMap_cons, List.length_append, List.length_cons]
      omega

theorem readString_written (characters rest : List Char) {fuel : Nat}
    (enough : characters.length < fuel) :
    readString fuel (characters.flatMap escapeCharacter ++ '"' :: rest) =
      some (characters, rest) := by
  induction characters generalizing fuel with
  | nil =>
      cases fuel with
      | zero => exact absurd enough (Nat.not_lt_zero _)
      | succ fuel => rfl
  | cons character characters induction =>
      cases fuel with
      | zero => exact absurd enough (Nat.not_lt_zero _)
      | succ fuel =>
          rw [List.flatMap_cons, List.append_assoc, readString_escapeCharacter,
            induction (Nat.lt_of_succ_lt_succ enough)]
          rfl

theorem readString_quote (text : String) (rest : List Char) :
    let quoted := text.toList.flatMap escapeCharacter ++ '"' :: rest
    readString quoted.length.succ quoted = some (text.toList, rest) := by
  apply readString_written
  have length := length_le_written text.toList
  rw [List.length_append]
  omega

theorem quote_append (text : String) (rest : List Char) :
    quote text ++ rest = '"' :: (text.toList.flatMap escapeCharacter ++ '"' :: rest) := by
  rw [quote, List.cons_append, List.cons_append, List.append_assoc]
  rfl

/-! ## The first character -/

def startsValue (character : Char) : Bool :=
  character ∈ ['"', '[', '\x7b', 'n', 't', 'f', '-'] || character.isDigit

theorem skipSpace_cons {character : Char} (starts : startsValue character = true)
    (tail : List Char) : skipSpace (character :: tail) = character :: tail := by
  rw [skipSpace, List.dropWhile_cons_of_neg]
  intro space
  simp only [decide_eq_true_eq, List.mem_cons, List.not_mem_nil, or_false] at space
  rcases space with rfl | rfl | rfl | rfl
  · exact absurd starts (by decide)
  · exact absurd starts (by decide)
  · exact absurd starts (by decide)
  · exact absurd starts (by decide)

theorem readNumber_head {text rest : List Char} {value : Json}
    (read : readNumber text = some (value, rest)) :
    ∃ first tail, text = first :: tail ∧ (first = '-' ∨ first.isDigit) := by
  cases text with
  | nil => cases read
  | cons first tail =>
      refine ⟨first, tail, rfl, ?_⟩
      by_cases minus : first = '-'
      · exact Or.inl minus
      · right
        simp only [readNumber] at read
        split at read
        · rename_i equal
          exact absurd (List.cons.inj equal).1 minus
        · split at read
          · cases read
          · rename_i filled
            by_cases digit : first.isDigit
            · exact digit
            · rw [List.takeWhile_cons_of_neg digit] at filled
              exact absurd (Or.inl rfl) filled

theorem write_head (value : Json) :
    ∃ first tail, write value = first :: tail ∧ startsValue first = true := by
  cases value with
  | null => exact ⟨'n', _, rfl, by decide⟩
  | bool value =>
      cases value with
      | true => exact ⟨'t', _, rfl, by decide⟩
      | false => exact ⟨'f', _, rfl, by decide⟩
  | number value =>
      have ended : Ended [] := fun _ member => nomatch member
      rcases readNumber_head (readNumber_toString value ended) with ⟨first, tail, equal, kind⟩
      rw [List.append_nil] at equal
      refine ⟨first, tail, by rw [write]; exact equal, ?_⟩
      rcases kind with rfl | digit
      · decide
      · rw [startsValue, digit, Bool.or_true]
  | string text => exact ⟨'"', _, by rw [write, quote]; rfl, by decide⟩
  | array items => exact ⟨'[', _, by rw [write], by decide⟩
  | object members => exact ⟨'\x7b', _, by rw [write], by decide⟩

/-! ## Values -/

mutual
def Distinct : Json → Prop
  | .array items => DistinctItems items
  | .object members => (members.map Prod.fst).Nodup ∧ DistinctMembers members
  | .null | .bool _ | .number _ | .string _ => True

def DistinctItems : List Json → Prop
  | [] => True
  | item :: rest => item.Distinct ∧ DistinctItems rest

def DistinctMembers : List (String × Json) → Prop
  | [] => True
  | (_, value) :: rest => value.Distinct ∧ DistinctMembers rest
end

theorem setEntry_fresh {key : String} {members : List (String × Json)}
    (fresh : key ∉ members.map Prod.fst) (value : Json) :
    Record.setEntry key value members = members ++ [(key, value)] := by
  induction members with
  | nil => rfl
  | cons head tail induction =>
      rw [List.map_cons, List.mem_cons, not_or] at fresh
      rw [Record.setEntry, if_neg (Ne.symm fresh.1), induction fresh.2]
      rfl

theorem skipSpace_write (value : Json) (rest : List Char) :
    skipSpace (write value ++ rest) = write value ++ rest := by
  rcases write_head value with ⟨first, tail, equal, starts⟩
  rw [equal]
  exact skipSpace_cons starts (tail ++ rest)

theorem readValue_number {fuel : Nat} (value : Decimal) {rest : List Char} (ended : Ended rest) :
    readValue (fuel + 1) (write (.number value) ++ rest) = some (.number value, rest) := by
  have read := readNumber_toString value ended
  rcases readNumber_head read with ⟨first, tail, equal, kind⟩
  have numeral : ∀ character ∈ ['"', '[', '\x7b', 'n', 't', 'f'], first ≠ character := by
    intro character member same
    subst same
    rcases kind with minus | digit
    · rw [minus] at member
      exact absurd member (by decide)
    · simp only [List.mem_cons, List.not_mem_nil, or_false] at member
      rcases member with rfl | rfl | rfl | rfl | rfl | rfl
      all_goals exact absurd digit (by decide)
  rw [equal] at read
  rw [readValue, skipSpace_write, write, equal]
  split
  · rename_i head
    exact absurd (List.cons.inj head).1 (numeral _ (by decide))
  · rename_i head
    exact absurd (List.cons.inj head).1 (numeral _ (by decide))
  · rename_i head
    exact absurd (List.cons.inj head).1 (numeral _ (by decide))
  · rename_i head
    exact absurd (List.cons.inj head).1 (numeral _ (by decide))
  · rename_i head
    exact absurd (List.cons.inj head).1 (numeral _ (by decide))
  · rename_i head
    exact absurd (List.cons.inj head).1 (numeral _ (by decide))
  · exact read

theorem readValue_string {fuel : Nat} (text : String) (rest : List Char) :
    readValue (fuel + 1) (write (.string text) ++ rest) = some (.string text, rest) := by
  have read := readString_quote text rest
  rw [readValue, skipSpace_write, write, quote_append]
  simp only [read, Option.bind_eq_bind, Option.bind_some, String.ofList_toList]

theorem writeItems_append (item : Json) (items : List Json) (rest : List Char) :
    ∃ after, Ended after ∧ writeItems (item :: items) ++ rest = write item ++ after ∧
      after = (match items with
        | [] => ']' :: rest
        | next :: more => ',' :: (writeItems (next :: more) ++ rest)) := by
  cases items with
  | nil =>
      refine ⟨']' :: rest, ?_, ?_, rfl⟩
      · intro character member
        cases member
        decide
      · rw [writeItems, List.append_assoc]
        rfl
  | cons next more =>
      refine ⟨',' :: (writeItems (next :: more) ++ rest), ?_, ?_, rfl⟩
      · intro character member
        cases member
        decide
      · rw [writeItems, List.append_assoc]
        · rfl
        · exact List.cons_ne_nil next more

theorem writeMembers_append (key : String) (value : Json) (members : List (String × Json))
    (rest : List Char) :
    ∃ after, Ended after ∧ writeMembers ((key, value) :: members) ++ rest =
      quote key ++ ':' :: (write value ++ after) ∧
      after = (match members with
        | [] => '\x7d' :: rest
        | next :: more => ',' :: (writeMembers (next :: more) ++ rest)) := by
  cases members with
  | nil =>
      refine ⟨'\x7d' :: rest, ?_, ?_, rfl⟩
      · intro character member
        cases member
        decide
      · rw [writeMembers, List.append_assoc, List.append_assoc]
        rfl
  | cons next more =>
      refine ⟨',' :: (writeMembers (next :: more) ++ rest), ?_, ?_, rfl⟩
      · intro character member
        cases member
        decide
      · rw [writeMembers]
        · simp only [List.append_assoc, List.cons_append]
        · exact List.cons_ne_nil next more

theorem length_writeItems (item : Json) (items : List Json) :
    (writeItems (item :: items)).length = (write item).length + 1 +
      (match items with
        | [] => 0
        | next :: more => (writeItems (next :: more)).length) := by
  rcases writeItems_append item items [] with ⟨after, _, equal, follows⟩
  rw [List.append_nil] at equal
  rw [equal, List.length_append, follows]
  cases items with
  | nil => rfl
  | cons next more =>
      simp only [List.append_nil, List.length_cons]
      omega

theorem length_writeMembers (key : String) (value : Json) (members : List (String × Json)) :
    (write value).length + 1 + (match members with
        | [] => 0
        | next :: more => (writeMembers (next :: more)).length) <
      (writeMembers ((key, value) :: members)).length := by
  rcases writeMembers_append key value members [] with ⟨after, _, equal, follows⟩
  rw [List.append_nil] at equal
  rw [equal, List.length_append, List.length_cons, List.length_append, follows]
  cases members with
  | nil =>
      simp only [List.length_cons, List.length_nil]
      omega
  | cons next more =>
      simp only [List.append_nil, List.length_cons]
      omega

mutual
theorem readValue_write : (value : Json) → value.Distinct → (fuel : Nat) → (rest : List Char) →
    2 * (write value).length ≤ fuel → Ended rest →
      readValue fuel (write value ++ rest) = some (value, rest)
  | value, _, 0, rest, enough, _ => by
      rcases write_head value with ⟨first, tail, equal, _⟩
      rw [equal] at enough
      cases enough
  | .null, _, fuel + 1, rest, _, _ => rfl
  | .bool true, _, fuel + 1, rest, _, _ => rfl
  | .bool false, _, fuel + 1, rest, _, _ => rfl
  | .number value, _, fuel + 1, rest, _, ended => readValue_number value ended
  | .string text, _, fuel + 1, rest, _, _ => readValue_string text rest
  | .array [], _, fuel + 1, rest, _, _ => rfl
  | .array (item :: items), distinct, fuel + 1, rest, enough, _ => by
      have room : 2 * (writeItems (item :: items)).length ≤ fuel := by
        rw [write, List.length_cons] at enough
        omega
      have read := readItems_write item items distinct fuel rest room
      rcases writeItems_append item items rest with ⟨after, _, equal, _⟩
      rcases write_head item with ⟨first, tail, head, starts⟩
      have opened : skipSpace (writeItems (item :: items) ++ rest) = first :: (tail ++ after) := by
        rw [equal, head]
        exact skipSpace_cons starts _
      rw [readValue, skipSpace_write, write, List.cons_append]
      simp only
      rw [opened]
      split
      · rename_i closing
        rw [(List.cons.inj closing).1] at starts
        exact absurd starts (by decide)
      · rw [read]
        rfl
  | .object [], _, fuel + 1, rest, _, _ => rfl
  | .object ((key, value) :: members), distinct, fuel + 1, rest, enough, _ => by
      have room : 2 * (writeMembers ((key, value) :: members)).length ≤ fuel := by
        rw [write, List.length_cons] at enough
        omega
      have read := readMembers_write key value members [] distinct.1 distinct.2 fuel rest room
      rcases writeMembers_append key value members rest with ⟨after, _, equal, _⟩
      have opened : skipSpace (writeMembers ((key, value) :: members) ++ rest) =
          '"' :: (key.toList.flatMap escapeCharacter ++ '"' :: ':' :: (write value ++ after)) := by
        rw [equal, quote_append]
        rfl
      rw [readValue, skipSpace_write, write, List.cons_append]
      simp only
      rw [opened]
      rw [read]
      rfl

theorem readItems_write : (item : Json) → (items : List Json) → DistinctItems (item :: items) →
    (fuel : Nat) → (rest : List Char) → 2 * (writeItems (item :: items)).length ≤ fuel →
      readItems fuel (writeItems (item :: items) ++ rest) = some (item :: items, rest)
  | item, items, _, 0, rest, enough => by
      have length := length_writeItems item items
      omega
  | item, items, distinct, fuel + 1, rest, enough => by
      rcases writeItems_append item items rest with ⟨after, ended, equal, follows⟩
      have length := length_writeItems item items
      have read := readValue_write item distinct.1 fuel after (by omega) ended
      rw [readItems, equal, read]
      subst follows
      cases items with
      | nil => rfl
      | cons next more =>
          have room : 2 * (writeItems (next :: more)).length ≤ fuel := by
            simp only at length
            omega
          have later := readItems_write next more distinct.2 fuel rest room
          simp only [Option.bind_eq_bind, Option.bind_some]
          change (readItems fuel (writeItems (next :: more) ++ rest)).bind _ = _
          rw [later]
          rfl

theorem readMembers_write : (key : String) → (value : Json) →
    (members : List (String × Json)) → (before : List (String × Json)) →
    ((before ++ (key, value) :: members).map Prod.fst).Nodup →
    DistinctMembers ((key, value) :: members) → (fuel : Nat) → (rest : List Char) →
    2 * (writeMembers ((key, value) :: members)).length ≤ fuel →
      readMembers fuel before (writeMembers ((key, value) :: members) ++ rest) =
        some (before ++ (key, value) :: members, rest)
  | key, value, members, before, _, _, 0, rest, enough => by
      have length := length_writeMembers key value members
      omega
  | key, value, members, before, fresh, distinct, fuel + 1, rest, enough => by
      rcases writeMembers_append key value members rest with ⟨after, ended, equal, follows⟩
      have length := length_writeMembers key value members
      have keyRead := readString_quote key (':' :: (write value ++ after))
      have read := readValue_write value distinct.1 fuel after (by omega) ended
      have new : key ∉ before.map Prod.fst := by
        rw [List.map_append, List.nodup_append] at fresh
        exact fun old => fresh.2.2 key old key List.mem_cons_self rfl
      rw [readMembers, equal, quote_append]
      simp only at keyRead
      change ((readString _ (key.toList.flatMap escapeCharacter ++
        '"' :: ':' :: (write value ++ after))).bind _) = _
      rw [keyRead]
      change ((readValue fuel (write value ++ after)).bind _) = _
      simp only [read, Option.bind_some, String.ofList_toList, setEntry_fresh new]
      subst follows
      cases members with
      | nil => rfl
      | cons next more =>
          rcases next with ⟨nextKey, nextValue⟩
          have room : 2 * (writeMembers ((nextKey, nextValue) :: more)).length ≤ fuel := by
            simp only at length
            omega
          have append : before ++ (key, value) :: (nextKey, nextValue) :: more =
              before ++ [(key, value)] ++ (nextKey, nextValue) :: more := by
            rw [List.append_assoc]
            rfl
          have later := readMembers_write nextKey nextValue more (before ++ [(key, value)])
            (append ▸ fresh) distinct.2 fuel rest room
          rw [append]
          exact later
end

theorem parse_stringify {value : Json} (distinct : value.Distinct) :
    parse (stringify value) = some value := by
  have ended : Ended [] := fun _ member => nomatch member
  have room : 2 * (write value).length ≤ 2 * (write value).length + 2 := Nat.le_add_right _ 2
  have read := readValue_write value distinct _ [] room ended
  rw [List.append_nil] at read
  simp only [parse, stringify, String.toList_ofList, read, Option.bind_eq_bind, Option.bind_some]
  rfl

/-! ## What is read has distinct keys -/

theorem readName_eq_some {name : String} {value result : Json} {text rest : List Char}
    (read : readName name value text = some (result, rest)) : result = value := by
  rw [readName] at read
  split at read
  · exact (congrArg Prod.fst (Option.some.inj read)).symm
  · cases read

theorem readNumber_eq_some {text rest : List Char} {result : Json}
    (read : readNumber text = some (result, rest)) : ∃ value, result = .number value := by
  simp only [readNumber, Option.bind_eq_bind] at read
  -- The sign does not change what follows it.
  split at read
  all_goals
    split at read
    · cases read
    · simp only [Option.bind_eq_some_iff, Option.some.injEq, Prod.mk.injEq] at read
      rcases read with ⟨_, _, _, _, equal, _⟩
      exact ⟨_, equal.symm⟩

theorem distinctMembers_setEntry {key : String} {value : Json} {members : List (String × Json)}
    (distinct : DistinctMembers members) (valueDistinct : value.Distinct) :
    DistinctMembers (Record.setEntry key value members) := by
  induction members with
  | nil => exact ⟨valueDistinct, trivial⟩
  | cons head tail induction =>
      rw [Record.setEntry]
      split
      · exact ⟨valueDistinct, distinct.2⟩
      · exact ⟨distinct.1, induction distinct.2⟩

theorem nodup_setEntry {key : String} {value : Json} {members : List (String × Json)}
    (distinct : (members.map Prod.fst).Nodup) :
    ((Record.setEntry key value members).map Prod.fst).Nodup := by
  rw [Record.keys_setEntry]
  split
  · exact distinct
  · rename_i fresh
    rw [← List.concat_eq_append]
    exact distinct.concat fresh

mutual
theorem readValue_distinct : (fuel : Nat) → (text : List Char) → {value : Json} →
    {rest : List Char} → readValue fuel text = some (value, rest) → value.Distinct
  | 0, _, _, _, read => by cases read
  | fuel + 1, text, value, rest, read => by
      rw [readValue] at read
      split at read
      · simp only [Option.bind_eq_bind, Option.bind_eq_some_iff, Option.some.injEq,
          Prod.mk.injEq] at read
        rcases read with ⟨_, _, rfl, _⟩
        trivial
      · split at read
        · cases read
          trivial
        · simp only [Option.bind_eq_bind, Option.bind_eq_some_iff, Option.some.injEq,
            Prod.mk.injEq] at read
          rcases read with ⟨items, itemsRead, rfl, _⟩
          exact readItems_distinct fuel _ itemsRead
      · split at read
        · cases read
          exact ⟨List.nodup_nil, trivial⟩
        · simp only [Option.bind_eq_bind, Option.bind_eq_some_iff, Option.some.injEq,
            Prod.mk.injEq] at read
          rcases read with ⟨members, membersRead, rfl, _⟩
          exact readMembers_distinct fuel [] _ ⟨List.nodup_nil, trivial⟩ membersRead
      · rw [readName_eq_some read]
        trivial
      · rw [readName_eq_some read]
        trivial
      · rw [readName_eq_some read]
        trivial
      · rcases readNumber_eq_some read with ⟨number, rfl⟩
        trivial

theorem readItems_distinct : (fuel : Nat) → (text : List Char) → {items : List Json} →
    {rest : List Char} → readItems fuel text = some (items, rest) → DistinctItems items
  | 0, _, _, _, read => by cases read
  | fuel + 1, text, items, rest, read => by
      simp only [readItems, Option.bind_eq_bind, Option.bind_eq_some_iff] at read
      rcases read with ⟨⟨item, afterItem⟩, itemRead, read⟩
      have first := readValue_distinct fuel text itemRead
      split at read
      · simp only [Option.bind_eq_some_iff, Option.some.injEq, Prod.mk.injEq] at read
        rcases read with ⟨more, moreRead, rfl, _⟩
        exact ⟨first, readItems_distinct fuel _ moreRead⟩
      · cases read
        exact ⟨first, trivial⟩
      · cases read

theorem readMembers_distinct : (fuel : Nat) → (before : List (String × Json)) →
    (text : List Char) → {members : List (String × Json)} → {rest : List Char} →
    (Json.object before).Distinct → readMembers fuel before text = some (members, rest) →
      (Json.object members).Distinct
  | 0, _, _, _, _, _, read => by cases read
  | fuel + 1, before, text, members, rest, distinct, read => by
      rw [readMembers] at read
      split at read
      · simp only [Option.bind_eq_bind, Option.bind_eq_some_iff] at read
        rcases read with ⟨⟨key, afterKey⟩, _, read⟩
        split at read
        · rename_i valueText _
          simp only [Option.bind_eq_some_iff] at read
          rcases read with ⟨⟨value, afterValue⟩, valueRead, read⟩
          have added : (Json.object (Record.setEntry (String.ofList key) value before)).Distinct :=
            ⟨nodup_setEntry distinct.1, distinctMembers_setEntry distinct.2
              (readValue_distinct fuel valueText valueRead)⟩
          split at read
          · exact readMembers_distinct fuel _ _ added read
          · cases read
            exact added
          · cases read
        · cases read
      · cases read
end

/-- What `JSON.parse` returns has every key once in each object. -/
theorem parse_distinct {text : String} {value : Json} (parsed : parse text = some value) :
    value.Distinct := by
  simp only [parse, Option.bind_eq_bind, Option.bind_eq_some_iff] at parsed
  rcases parsed with ⟨⟨read, rest⟩, readsValue, parsed⟩
  split at parsed
  · cases parsed
    exact readValue_distinct _ _ readsValue
  · cases parsed

end Json

end SovAgent

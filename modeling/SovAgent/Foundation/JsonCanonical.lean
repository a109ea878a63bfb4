import SovAgent.Foundation.JsonRoundTrip
import Mathlib.Data.List.Sort
import Mathlib.Data.List.Lex

/-! # Canonical member order

RFC 8785 writes the members of every object in the order of the UTF-16 code
units of their keys.
-/

namespace SovAgent

/-- The UTF-16 code units of a character. -/
def codeUnits (character : Char) : List Nat :=
  if character.toNat < 0x10000 then [character.toNat]
  else
    let offset := character.toNat - 0x10000
    [0xD800 + offset / 0x400, 0xDC00 + offset % 0x400]

namespace Json

def keyUnits (key : String) : List Nat := key.toList.flatMap codeUnits

def KeyOrder (left right : String × Json) : Prop := keyUnits left.1 ≤ keyUnits right.1

instance : DecidableRel KeyOrder := fun left right =>
  inferInstanceAs (Decidable (keyUnits left.1 ≤ keyUnits right.1))

instance : Std.Total KeyOrder where
  total left right := le_total (keyUnits left.1) (keyUnits right.1)

instance : IsTrans (String × Json) KeyOrder where
  trans _ _ _ := le_trans

mutual
def sorted : Json → Json
  | .null => .null
  | .bool value => .bool value
  | .number value => .number value
  | .string text => .string text
  | .array items => .array (sortedItems items)
  | .object members => .object ((sortedMembers members).insertionSort KeyOrder)

def sortedItems : List Json → List Json
  | [] => []
  | item :: rest => item.sorted :: sortedItems rest

def sortedMembers : List (String × Json) → List (String × Json)
  | [] => []
  | (key, value) :: rest => (key, value.sorted) :: sortedMembers rest
end

example : sorted (.object [("nonce", .object [("b", .null), ("a", .null)]), ("action", .null)]) =
    .object [("action", .null), ("nonce", .object [("a", .null), ("b", .null)])] := by
  decide +kernel

/-! ## Members -/

theorem sortedMembers_eq_map (members : List (String × Json)) :
    sortedMembers members = members.map fun member => (member.1, member.2.sorted) := by
  induction members with
  | nil => rfl
  | cons head tail induction => rw [sortedMembers, induction, List.map_cons]

theorem keys_sortedMembers (members : List (String × Json)) :
    (sortedMembers members).map Prod.fst = members.map Prod.fst := by
  rw [sortedMembers_eq_map, List.map_map]
  rfl

theorem lookup_sortedMembers (members : List (String × Json)) (key : String) :
    (sortedMembers members).lookup key = (members.lookup key).map sorted := by
  induction members with
  | nil => rfl
  | cons head tail induction =>
      rcases head with ⟨name, value⟩
      rw [sortedMembers, Record.lookup_cons, Record.lookup_cons, induction]
      split
      · rfl
      · rfl

theorem lookup_insertionSort {members : List (String × Json)}
    (distinct : (members.map Prod.fst).Nodup) (key : String) :
    (members.insertionSort KeyOrder).lookup key = members.lookup key := by
  have same := List.perm_insertionSort KeyOrder members
  have distinct' : ((members.insertionSort KeyOrder).map Prod.fst).Nodup :=
    (same.map Prod.fst).nodup_iff.mpr distinct
  apply Option.ext
  intro value
  rw [Record.lookup_eq_some_iff distinct', Record.lookup_eq_some_iff distinct, same.mem_iff]

def canonicalMembers (members : List (String × Json)) : List (String × Json) :=
  (sortedMembers members).insertionSort KeyOrder

theorem sorted_object (members : List (String × Json)) :
    sorted (.object members) = .object (canonicalMembers members) := by
  rw [sorted, canonicalMembers]

theorem keys_canonicalMembers (members : List (String × Json)) :
    ((canonicalMembers members).map Prod.fst).Perm (members.map Prod.fst) := by
  have same := (List.perm_insertionSort KeyOrder (sortedMembers members)).map Prod.fst
  rwa [keys_sortedMembers] at same

theorem lookup_canonicalMembers {members : List (String × Json)}
    (distinct : (members.map Prod.fst).Nodup) (key : String) :
    (canonicalMembers members).lookup key = (members.lookup key).map sorted := by
  rw [canonicalMembers, lookup_insertionSort, lookup_sortedMembers]
  rw [keys_sortedMembers]
  exact distinct

/-! ## Sorting twice -/

mutual
theorem sorted_sorted : (value : Json) → value.sorted.sorted = value.sorted
  | .null => rfl
  | .bool _ => rfl
  | .number _ => rfl
  | .string _ => rfl
  | .array items => by rw [sorted, sorted, sortedItems_sortedItems]
  | .object members => by
      have commutes : sortedMembers ((sortedMembers members).insertionSort KeyOrder) =
          (sortedMembers (sortedMembers members)).insertionSort KeyOrder := by
        rw [sortedMembers_eq_map, sortedMembers_eq_map (sortedMembers members)]
        exact List.map_insertionSort KeyOrder KeyOrder _ _ fun _ _ _ _ => Iff.rfl
      rw [sorted, sorted, commutes, sortedMembers_sortedMembers,
        (List.pairwise_insertionSort KeyOrder (sortedMembers members)).insertionSort_eq]

theorem sortedItems_sortedItems : (items : List Json) →
    sortedItems (sortedItems items) = sortedItems items
  | [] => rfl
  | item :: rest => by
      rw [sortedItems, sortedItems, sorted_sorted item, sortedItems_sortedItems rest]

theorem sortedMembers_sortedMembers : (members : List (String × Json)) →
    sortedMembers (sortedMembers members) = sortedMembers members
  | [] => rfl
  | (key, value) :: rest => by
      rw [sortedMembers, sortedMembers, sorted_sorted value, sortedMembers_sortedMembers rest]
end

/-! ## Distinct keys -/

theorem distinctMembers_iff {members : List (String × Json)} :
    DistinctMembers members ↔ ∀ member ∈ members, member.2.Distinct := by
  induction members with
  | nil => simp [DistinctMembers]
  | cons head tail induction =>
      rw [List.forall_mem_cons, ← induction]
      rfl

theorem distinct_get? {value member : Json} (distinct : value.Distinct) {key : String}
    (found : value.get? key = some member) : member.Distinct := by
  cases value with
  | object members =>
      have located := (Record.lookup_eq_some_iff distinct.1).mp found
      exact distinctMembers_iff.mp distinct.2 _ located
  | _ => cases found

theorem stringify_inj {left right : Json} (leftDistinct : left.Distinct)
    (rightDistinct : right.Distinct) (same : left.stringify = right.stringify) : left = right := by
  have read := parse_stringify leftDistinct
  rw [same, parse_stringify rightDistinct] at read
  exact (Option.some.inj read).symm

mutual
theorem distinct_sorted : (value : Json) → value.Distinct → value.sorted.Distinct
  | .null, distinct => distinct
  | .bool _, distinct => distinct
  | .number _, distinct => distinct
  | .string _, distinct => distinct
  | .array items, distinct => distinctItems_sortedItems items distinct
  | .object members, distinct => by
      have values := distinctMembers_sortedMembers members distinct.2
      refine ⟨(keys_canonicalMembers members).nodup_iff.mpr distinct.1, ?_⟩
      apply distinctMembers_iff.mpr
      intro member found
      exact distinctMembers_iff.mp values member ((List.mem_insertionSort KeyOrder).mp found)

theorem distinctItems_sortedItems : (items : List Json) → DistinctItems items →
    DistinctItems (sortedItems items)
  | [], distinct => distinct
  | item :: rest, distinct =>
      ⟨distinct_sorted item distinct.1, distinctItems_sortedItems rest distinct.2⟩

theorem distinctMembers_sortedMembers : (members : List (String × Json)) →
    DistinctMembers members → DistinctMembers (sortedMembers members)
  | [], distinct => distinct
  | (_, value) :: rest, distinct =>
      ⟨distinct_sorted value distinct.1, distinctMembers_sortedMembers rest distinct.2⟩
end

end Json

end SovAgent

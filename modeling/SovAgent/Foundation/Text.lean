import Mathlib.Algebra.Order.Ring.Nat
import Mathlib.Data.List.Infix

/-! # Characters, substring tests and slices -/

namespace SovAgent

def startsWith (text start : String) : Bool := start.toList.isPrefixOf text.toList

def endsWith (text ending : String) : Bool := ending.toList.isSuffixOf text.toList

def includes (text part : String) : Bool := part.toList <:+: text.toList

def isBase58 (character : Char) : Bool :=
  character ∈ "123456789ABCDEFGHJKLMNPQRSTUVWXYZabcdefghijkmnopqrstuvwxyz".toList

def isLowerHex (character : Char) : Bool :=
  character ∈ "0123456789abcdef".toList

def utf16Units (character : Char) : Nat := if character.toNat < 0x10000 then 1 else 2

/-- `text.length`. -/
def utf16Length (text : String) : Nat := (text.toList.map utf16Units).sum

def takeUnits : Nat → List Char → List Char
  | _, [] => []
  | units, character :: rest =>
      if utf16Units character ≤ units then
        character :: takeUnits (units - utf16Units character) rest
      else []

/-- `text.slice(0, units)`, except that a surrogate pair which the cut would
split is dropped. -/
def sliceStart (text : String) (units : Nat) : String :=
  String.ofList (takeUnits units text.toList)

example : sliceStart "0123456789abcdef0123" 16 = "0123456789abcdef" := by decide

theorem toString_text (text : String) : toString text = text := rfl

theorem startsWith_iff {text start : String} :
    startsWith text start = true ↔ ∃ rest, text = start ++ rest := by
  rw [startsWith, List.isPrefixOf_iff_prefix]
  constructor
  · intro holds
    rcases holds with ⟨rest, equal⟩
    refine ⟨String.ofList rest, String.toList_inj.mp ?_⟩
    rw [String.toList_append, String.toList_ofList, equal]
  · intro holds
    rcases holds with ⟨rest, rfl⟩
    rw [String.toList_append]
    exact List.prefix_append _ _

theorem startsWith_append {text start : String} (tail : String)
    (starts : startsWith text start = true) : startsWith (text ++ tail) start = true := by
  rcases startsWith_iff.mp starts with ⟨rest, rfl⟩
  exact startsWith_iff.mpr ⟨rest ++ tail, String.append_assoc⟩

theorem includes_iff {text part : String} :
    includes text part = true ↔ ∃ before after, text = before ++ part ++ after := by
  rw [includes, decide_eq_true_eq]
  constructor
  · intro holds
    rcases holds with ⟨before, after, equal⟩
    refine ⟨String.ofList before, String.ofList after, String.toList_inj.mp ?_⟩
    simp only [String.toList_append, String.toList_ofList, equal]
  · intro holds
    rcases holds with ⟨before, after, rfl⟩
    simp only [String.toList_append]
    exact List.infix_append _ _ _

theorem append_cons_inj {separator : α} {before before' after after' : List α}
    (equal : before ++ separator :: after = before' ++ separator :: after')
    (absent : separator ∉ after) (absent' : separator ∉ after') :
    before = before' ∧ after = after' := by
  rcases List.append_eq_append_iff.mp equal with ⟨gap, beforeEq, tail⟩ | ⟨gap, beforeEq, tail⟩
  · cases gap with
    | nil => simp_all
    | cons head gap =>
        rw [List.cons_append, List.cons.injEq] at tail
        exact absurd (tail.2 ▸ by simp) absent
  · cases gap with
    | nil => simp_all
    | cons head gap =>
        rw [List.cons_append, List.cons.injEq] at tail
        exact absurd (tail.2 ▸ by simp) absent'

theorem includes_trans {text middle part : String} (outer : includes text middle = true)
    (inner : includes middle part = true) : includes text part = true := by
  rw [includes, decide_eq_true_eq] at *
  exact inner.trans outer

end SovAgent

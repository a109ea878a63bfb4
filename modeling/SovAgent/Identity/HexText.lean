import SovAgent.Crypto.EnvelopeRoundTrip
import SovAgent.Onboarding.Decode

/-! # Hexadecimal text

`Buffer.from(text, 'hex')` reads pairs of digits and stops at the first that is none.
It reads back what `digest('hex')` writes, in either case of its letters.
-/

namespace SovAgent.Identity

open Onboarding

/-- `Buffer.from(text, 'hex')`. -/
def fromHex (text : String) : Bytes := (hexPrefix text.toList).map .ofNat

example : fromHex "0aFf1g00" = [0x0a, 0xff] := by decide

theorem hexPrefix_digits (bytes : Bytes) :
    hexPrefix (hex bytes).toList = bytes.map UInt8.toNat := by
  rw [hex, String.toList_ofList]
  induction bytes with
  | nil => rfl
  | cons byte rest induction =>
      rcases Crypto.byteDigits byte with ⟨high, low, _⟩
      have first := (Crypto.hexDigit_plain _ high).2.2
      have second := (Crypto.hexDigit_plain _ low).2.2
      rw [List.flatMap_cons, List.cons_append, List.cons_append, List.nil_append, hexPrefix, first,
        second]
      dsimp only
      rw [Nat.div_add_mod', induction, List.map_cons]

theorem fromHex_hex (bytes : Bytes) : fromHex (hex bytes) = bytes := by
  rw [fromHex, hexPrefix_digits, List.map_map]
  have back : UInt8.ofNat ∘ UInt8.toNat = id := funext fun byte => UInt8.ofNat_toNat
  rw [back, List.map_id]

end SovAgent.Identity

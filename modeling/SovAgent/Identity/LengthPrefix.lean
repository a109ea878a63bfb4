import SovAgent.Identity.VerusMessage

/-! # Length prefixes

The compact size in front of a byte string, as the message signer shifts it
together and as the witness verifier writes it into a buffer. Reading it back
takes off what was written, whatever follows.
-/

namespace SovAgent.Identity

/-! ## The encoders -/

/-- The byte that an array stores of a 32-bit integer. -/
def storedByte (value : BitVec 32) : UInt8 := .ofBitVec (value.setWidth 8)

/-- `varint` by its shifts: `n >> 8` keeps the sign of a 32-bit integer. -/
def varintByShifts (n : Nat) : Except String Bytes :=
  let bits := BitVec.ofNat 32 n
  if n < 0xfd then .ok [.ofNat n]
  else if n ≤ 0xffff then
    .ok [0xfd, storedByte (bits &&& 0xff), storedByte (bits.sshiftRight 8 &&& 0xff)]
  else if n ≤ 0xffffffff then
    .ok [0xfe, storedByte (bits &&& 0xff), storedByte (bits.sshiftRight 8 &&& 0xff),
      storedByte (bits.sshiftRight 16 &&& 0xff), storedByte (bits >>> 24 &&& 0xff)]
  else .error "message too long"

/-- A byte string after its length, as `magicHash` hashes it. -/
def prefixed (buf : Bytes) : Except String Bytes := do
  let length ← varint buf.length
  .ok (length ++ buf)

def writeUInt32LE (value : Nat) : Except String Bytes :=
  if value ≤ 0xffffffff then .ok (lowBytes 4 value) else .error "ERR_OUT_OF_RANGE"

def varSlice (buf : Bytes) : Except String Bytes :=
  let len := buf.length
  if len < 0xfd then .ok (.ofNat len :: buf)
  else if len ≤ 0xffff then .ok (0xfd :: lowBytes 2 len ++ buf)
  else do
    let head ← writeUInt32LE len
    .ok (0xfe :: head ++ buf)

example : varSlice [7, 8] = .ok [2, 7, 8] := by decide

/-! ## Agreement -/

theorem storedByte_toNat (value : BitVec 32) : (storedByte value).toNat = value.toNat % 256 := by
  rw [storedByte, UInt8.toNat_ofBitVec, BitVec.toNat_setWidth]

/-- Of a shifted number, the low byte has none of the bits that the sign fills in. -/
theorem storedByte_sshiftRight (bits : BitVec 32) {shift : Nat} (within : shift ≤ 24) :
    storedByte (bits.sshiftRight shift &&& 0xff) = storedByte (bits >>> shift) := by
  rw [storedByte, storedByte]
  congr 1
  apply BitVec.eq_of_getLsbD_eq
  intro index inside
  have inWidth : shift + index < 32 := by omega
  have mask : ∀ index < 8, (0xff : BitVec 32).getLsbD index = true := by decide
  have masked := mask index inside
  have low : ¬ 32 ≤ index := by omega
  simp only [BitVec.getLsbD_setWidth, BitVec.getLsbD_and, BitVec.getLsbD_sshiftRight,
    BitVec.getLsbD_ushiftRight, masked, inWidth, low, decide_false, Bool.not_false, Bool.true_and,
    Bool.and_true, if_true]

theorem storedByte_mask (bits : BitVec 32) : storedByte (bits &&& 0xff) = storedByte bits := by
  have shifted := storedByte_sshiftRight bits (Nat.zero_le 24)
  rwa [BitVec.sshiftRight_zero, BitVec.ushiftRight_zero] at shifted

theorem storedByte_shifted {n : Nat} (small : n < 2 ^ 32) (shift : Nat) :
    storedByte ((BitVec.ofNat 32 n) >>> shift) = .ofNat (n / 2 ^ shift % 256) := by
  apply UInt8.toNat_inj.mp
  rw [storedByte_toNat, BitVec.toNat_ushiftRight, BitVec.toNat_ofNat, Nat.mod_eq_of_lt small,
    Nat.shiftRight_eq_div_pow]
  exact (UInt8.toNat_ofNat_of_lt (Nat.mod_lt _ (by decide))).symm

theorem lowBytes_shifted {n : Nat} (small : n < 2 ^ 32) (count shift : Nat) :
    lowBytes (count + 1) (n / 2 ^ shift) =
      storedByte ((BitVec.ofNat 32 n) >>> shift) :: lowBytes count (n / 2 ^ (shift + 8)) := by
  rw [lowBytes, storedByte_shifted small, Nat.pow_add, ← Nat.div_div_eq_div_mul]

theorem lowBytes_succ {n : Nat} (small : n < 2 ^ 32) (count : Nat) :
    lowBytes (count + 1) n = storedByte (BitVec.ofNat 32 n) :: lowBytes count (n / 2 ^ 8) := by
  have lowest := lowBytes_shifted small count 0
  rwa [Nat.pow_zero, Nat.div_one, BitVec.ushiftRight_zero] at lowest

theorem varintByShifts_eq (n : Nat) : varintByShifts n = varint n := by
  by_cases small : n < 2 ^ 32
  · have second := storedByte_sshiftRight (BitVec.ofNat 32 n) (by decide : 8 ≤ 24)
    have third := storedByte_sshiftRight (BitVec.ofNat 32 n) (by decide : 16 ≤ 24)
    have highest := storedByte_mask ((BitVec.ofNat 32 n) >>> 24)
    have two : lowBytes 2 n = [storedByte (BitVec.ofNat 32 n &&& 0xff),
        storedByte ((BitVec.ofNat 32 n).sshiftRight 8 &&& 0xff)] := by
      rw [lowBytes_succ small 1, lowBytes_shifted small 0 8, storedByte_mask, second]
      rfl
    have four : lowBytes 4 n = [storedByte (BitVec.ofNat 32 n &&& 0xff),
        storedByte ((BitVec.ofNat 32 n).sshiftRight 8 &&& 0xff),
        storedByte ((BitVec.ofNat 32 n).sshiftRight 16 &&& 0xff),
        storedByte ((BitVec.ofNat 32 n) >>> 24 &&& 0xff)] := by
      rw [lowBytes_succ small 3, lowBytes_shifted small 2 8, lowBytes_shifted small 1 16,
        lowBytes_shifted small 0 24, storedByte_mask, second, third, highest]
      rfl
    rw [varintByShifts, varint, two, four]
  · have tall : ¬ n < 0xfd := by omega
    have taller : ¬ n ≤ 0xffff := by omega
    have tallest : ¬ n ≤ 0xffffffff := by omega
    rw [varintByShifts, varint, if_neg tall, if_neg taller, if_neg tallest, if_neg tall,
      if_neg taller, if_neg tallest]

theorem prefixed_eq_varSlice {buf : Bytes} (fits : buf.length < 2 ^ 32) :
    prefixed buf = varSlice buf := by
  have largest : buf.length ≤ 0xffffffff := by omega
  rw [prefixed, varSlice, varint, writeUInt32LE, if_pos largest, if_pos largest]
  split
  · rfl
  · split <;> rfl

theorem prefixed_isOk_iff {buf : Bytes} :
    (∃ bytes, prefixed buf = .ok bytes) ↔ buf.length < 2 ^ 32 := by
  constructor
  · intro written
    rcases written with ⟨bytes, written⟩
    rcases bind_eq_ok.mp written with ⟨length, measured, _⟩
    rw [varint] at measured
    split at measured
    · omega
    · split at measured
      · omega
      · split at measured
        · omega
        · cases measured
  · intro fits
    have largest : buf.length ≤ 0xffffffff := by omega
    rw [prefixed, varint, if_pos largest]
    split
    · exact ⟨_, rfl⟩
    · split <;> exact ⟨_, rfl⟩

theorem varSlice_eq_ok {buf bytes : Bytes} :
    varSlice buf = .ok bytes ↔ prefixed buf = .ok bytes := by
  by_cases fits : buf.length < 2 ^ 32
  · rw [prefixed_eq_varSlice fits]
  · have unprefixed : prefixed buf ≠ .ok bytes := fun written =>
      fits (prefixed_isOk_iff.mp ⟨bytes, written⟩)
    have tall : ¬ buf.length < 0xfd := by omega
    have taller : ¬ buf.length ≤ 0xffff := by omega
    have tallest : ¬ buf.length ≤ 0xffffffff := by omega
    refine iff_of_false ?_ unprefixed
    rw [varSlice, if_neg tall, if_neg taller, writeUInt32LE, if_neg tallest]
    intro written
    cases written

/-! ## Reading -/

def ofLowBytes : Bytes → Nat
  | [] => 0
  | byte :: rest => byte.toNat + 256 * ofLowBytes rest

def readLowBytes (count : Nat) (bytes : Bytes) : Option (Nat × Bytes) :=
  if count ≤ bytes.length then some (ofLowBytes (bytes.take count), bytes.drop count) else none

def readVarint : Bytes → Option (Nat × Bytes)
  | [] => none
  | first :: rest =>
      if first = 0xfd then readLowBytes 2 rest
      else if first = 0xfe then readLowBytes 4 rest
      else some (first.toNat, rest)

/-- The byte string that a prefix announces, and what stands after it. -/
def readVarSlice (bytes : Bytes) : Option (Bytes × Bytes) := do
  let (length, rest) ← readVarint bytes
  if length ≤ rest.length then some (rest.take length, rest.drop length) else none

theorem ofLowBytes_lowBytes (count n : Nat) : ofLowBytes (lowBytes count n) = n % 256 ^ count := by
  induction count generalizing n with
  | zero => simp [lowBytes, ofLowBytes, Nat.mod_one]
  | succ count induction =>
      have byte : (UInt8.ofNat (n % 256)).toNat = n % 256 :=
        UInt8.toNat_ofNat_of_lt (Nat.mod_lt _ (by decide))
      rw [lowBytes, ofLowBytes, induction, byte, Nat.pow_succ', Nat.mod_mul]

theorem length_lowBytes (count n : Nat) : (lowBytes count n).length = count := by
  induction count generalizing n with
  | zero => rfl
  | succ count induction => rw [lowBytes, List.length_cons, induction]

theorem readLowBytes_lowBytes {count n : Nat} (fits : n < 256 ^ count) (rest : Bytes) :
    readLowBytes count (lowBytes count n ++ rest) = some (n, rest) := by
  have long : count ≤ (lowBytes count n ++ rest).length := by
    rw [List.length_append, length_lowBytes]
    exact Nat.le_add_right count rest.length
  rw [readLowBytes, if_pos long, List.take_left' (length_lowBytes count n),
    List.drop_left' (length_lowBytes count n), ofLowBytes_lowBytes, Nat.mod_eq_of_lt fits]

theorem readVarint_varint {n : Nat} {bytes : Bytes} (written : varint n = .ok bytes)
    (rest : Bytes) : readVarint (bytes ++ rest) = some (n, rest) := by
  rw [varint] at written
  split at written
  · rename_i short
    cases written
    have value : (UInt8.ofNat n).toNat = n := UInt8.toNat_ofNat_of_lt (by change n < 256; omega)
    have unmarked : ∀ mark : UInt8, 253 ≤ mark.toNat → UInt8.ofNat n ≠ mark := by
      rintro mark large rfl
      omega
    change readVarint (.ofNat n :: rest) = _
    rw [readVarint, if_neg (unmarked 0xfd (by decide)), if_neg (unmarked 0xfe (by decide)), value]
  · split at written
    · rename_i middle
      cases written
      have fits : n < 256 ^ 2 := by omega
      exact readLowBytes_lowBytes fits rest
    · split at written
      · rename_i long
        cases written
        have fits : n < 256 ^ 4 := by omega
        exact readLowBytes_lowBytes fits rest
      · cases written

theorem readVarSlice_prefixed {buf bytes : Bytes} (written : prefixed buf = .ok bytes)
    (rest : Bytes) : readVarSlice (bytes ++ rest) = some (buf, rest) := by
  rcases bind_eq_ok.mp written with ⟨length, measured, same⟩
  cases same
  have read := readVarint_varint measured (buf ++ rest)
  rw [readVarSlice, List.append_assoc, read]
  simp

/-! ## Signed messages -/

theorem magicHash_eq_map (library : Primitives) (message : String) :
    magicHash library message = (prefixed (utf8 message)).map fun preimage =>
      library.sha256 (0x13 :: verusPrefixBytes ++ library.sha256 preimage) := by
  rw [magicHash, varint_verusPrefixBytes, prefixed]
  cases varint (utf8 message).length <;> rfl

/-- The encoders of length prefixes agree, and what they write is unambiguous. -/
structure LengthPrefixes : Prop where
  shifts : ∀ n, varintByShifts n = varint n
  agree : ∀ buf : Bytes, buf.length < 2 ^ 32 →
    ∃ bytes, prefixed buf = .ok bytes ∧ varSlice buf = .ok bytes
  prefixFree : ∀ left right leftBytes rightBytes leftTail rightTail,
    varSlice left = .ok leftBytes → varSlice right = .ok rightBytes →
      leftBytes ++ leftTail = rightBytes ++ rightTail → left = right ∧ leftTail = rightTail
  messages : ∀ first second preimage, prefixed (utf8 first) = .ok preimage →
    prefixed (utf8 second) = .ok preimage → utf8 first = utf8 second

theorem prefixed_append_inj {left right leftBytes rightBytes leftTail rightTail : Bytes}
    (leftWritten : prefixed left = .ok leftBytes) (rightWritten : prefixed right = .ok rightBytes)
    (same : leftBytes ++ leftTail = rightBytes ++ rightTail) :
    left = right ∧ leftTail = rightTail := by
  have read := readVarSlice_prefixed leftWritten leftTail
  rw [same, readVarSlice_prefixed rightWritten rightTail, Option.some.injEq, Prod.mk.injEq] at read
  exact ⟨read.1.symm, read.2.symm⟩

theorem lengthPrefixes : LengthPrefixes where
  shifts := varintByShifts_eq
  agree := by
    intro buf fits
    rcases prefixed_isOk_iff.mpr fits with ⟨bytes, written⟩
    exact ⟨bytes, written, varSlice_eq_ok.mpr written⟩
  prefixFree := by
    intro left right leftBytes rightBytes leftTail rightTail leftWritten rightWritten same
    exact prefixed_append_inj (varSlice_eq_ok.mp leftWritten) (varSlice_eq_ok.mp rightWritten) same
  messages := by
    intro first second preimage firstWritten secondWritten
    have same : preimage ++ [] = preimage ++ [] := rfl
    exact (prefixed_append_inj firstWritten secondWritten same).1

end SovAgent.Identity

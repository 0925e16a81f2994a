import Mathlib.Data.Nat.Bitwise
import Mathlib.Data.Int.Basic

/-!
# Bitwise arithmetic of JavaScript and of PostgreSQL

The bitwise operators of ECMAScript convert their operands to 32 bits and read
the result as a signed number, `Math.imul` multiplies the low 32 bits, and
`>>>` is the only one that answers an unsigned number.  A PostgreSQL `BIGINT`
has 64 bits: its bitwise operators act on the two's complement, and a product
outside the type is an error instead of a wrapped number.

On natural numbers below `2 ^ 32` both systems compute with the number itself,
so one round of a 32-bit hash written in either is the same residue.
-/

namespace WeatherNotify.Js

/-! ## ECMAScript, 32 bits -/

/-- `left ^ right`. -/
def bitXor (left right : Int) : Int :=
  (BitVec.ofInt 32 left ^^^ BitVec.ofInt 32 right).toInt

/-- `Math.imul(left, right)`. -/
def imul (left right : Int) : Int :=
  (BitVec.ofInt 32 left * BitVec.ofInt 32 right).toInt

/-- `value >>> count`. -/
def unsignedShiftRight (value : Int) (count : Nat) : Int :=
  (BitVec.ofInt 32 value >>> (count % 32)).toNat

/-- The UTF-16 code units of a character, as `charCodeAt` reads them. -/
def codeUnits (char : Char) : List Nat :=
  if char.toNat < 0x10000 then [char.toNat]
  else
    [0xD800 + (char.toNat - 0x10000) / 0x400,
      0xDC00 + (char.toNat - 0x10000) % 0x400]

theorem codeUnits_of_lt {char : Char} (small : char.toNat < 0x10000) :
    codeUnits char = [char.toNat] :=
  if_pos small

/-- An unsigned shift never answers a negative number, nor one beyond 32 bits. -/
theorem unsignedShiftRight_bounds (value : Int) (count : Nat) :
    0 ≤ unsignedShiftRight value count ∧
      unsignedShiftRight value count < 2 ^ 32 := by
  constructor
  · exact Int.natCast_nonneg _
  · have bound := (BitVec.ofInt 32 value >>> (count % 32)).isLt
    unfold unsignedShiftRight
    omega

theorem unsignedShiftRight_imul_bitXor (left right factor : Nat) :
    unsignedShiftRight (imul (bitXor left right) factor) 0 =
      ((left ^^^ right) * factor % 2 ^ 32 : Nat) := by
  have mixed : ((left ^^^ right : Nat) % 2 ^ 32) =
      (left % 2 ^ 32) ^^^ (right % 2 ^ 32) := Nat.xor_mod_two_pow
  simp only [unsignedShiftRight, imul, bitXor, BitVec.ofInt_toInt,
    BitVec.ofInt_natCast, Nat.zero_mod, BitVec.ushiftRight_zero,
    BitVec.toNat_mul, BitVec.toNat_xor, BitVec.toNat_ofNat, ← mixed]
  rw [← Nat.mul_mod]

end WeatherNotify.Js

namespace WeatherNotify.Sql

/-! ## PostgreSQL, 64 bits -/

/-- `left # right` on `BIGINT`. -/
def bigintXor (left right : Int) : Int :=
  (BitVec.ofInt 64 left ^^^ BitVec.ofInt 64 right).toInt

/-- `left & right` on `BIGINT`. -/
def bigintAnd (left right : Int) : Int :=
  (BitVec.ofInt 64 left &&& BitVec.ofInt 64 right).toInt

/-- `left * right` on `BIGINT`; `none` is the error `bigint out of range`. -/
def bigintMul (left right : Int) : Option Int :=
  if -2 ^ 63 ≤ left * right ∧ left * right ≤ 2 ^ 63 - 1 then
    some (left * right)
  else none

theorem toInt_ofNat_of_lt {value : Nat} (small : value < 2 ^ 63) :
    (BitVec.ofNat 64 value).toInt = value := by
  rw [BitVec.toInt_ofNat', Int.bmod_eq_of_le]
  · omega
  · omega

theorem bigintXor_natCast {left right : Nat}
    (leftSmall : left < 2 ^ 32) (rightSmall : right < 2 ^ 32) :
    bigintXor left right = (left ^^^ right : Nat) := by
  have small : left ^^^ right < 2 ^ 32 :=
    Nat.xor_lt_two_pow leftSmall rightSmall
  unfold bigintXor
  rw [BitVec.ofInt_natCast, BitVec.ofInt_natCast, ← BitVec.ofNat_xor]
  exact toInt_ofNat_of_lt (by omega)

theorem bigintAnd_mask (value : Nat) :
    bigintAnd value 4294967295 = (value % 2 ^ 32 : Nat) := by
  have masked : value &&& 4294967295 = value % 2 ^ 32 :=
    Nat.and_two_pow_sub_one_eq_mod value 32
  have bound : value % 2 ^ 32 < 2 ^ 32 := Nat.mod_lt _ (by decide)
  unfold bigintAnd
  rw [BitVec.ofInt_natCast, BitVec.ofInt_ofNat, ← BitVec.ofNat_and, masked]
  exact toInt_ofNat_of_lt (by omega)

end WeatherNotify.Sql

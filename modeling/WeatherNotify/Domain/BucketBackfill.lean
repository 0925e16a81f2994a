import WeatherNotify.Domain.Location

/-!
# The backfill of the stored bucket

The migration that adds the bucket column computes it in PL/pgSQL, on `BIGINT`
numbers and with a mask after every multiplication.  The two loops are
compared round by round: on a 32-bit hash and an ASCII character both compute
the same residue, so they stay in step over keys of any length and the
migration never meets a product outside its type.
-/

namespace WeatherNotify.Domain

open WeatherNotify.Js
open WeatherNotify.Sql

/-! ## The PL/pgSQL loop -/

/-- The product of one round, before the mask. -/
def fnv1aProduct (hash : Int) (char : Char) : Int :=
  bigintXor hash char.toNat * 16777619

/-- One round; `none` is the error that aborts the migration. -/
def fnv1aIteration (hash : Int) (char : Char) : Option Int :=
  (bigintMul (bigintXor hash char.toNat) 16777619).map fun product =>
    bigintAnd product 4294967295

/-- The hash after the first `count` characters of the key. -/
def fnv1aAfter (key : String) (count : Nat) : Option Int :=
  (key.toList.take count).foldlM fnv1aIteration 2166136261

def fnv1aLocation (key : String) : Option Int :=
  key.toList.foldlM fnv1aIteration 2166136261

/-- The bucket the migration writes for two snapped coordinates. -/
def backfilledBucket (latitude longitude : Int) : Option Int :=
  (fnv1aLocation (snappedKey latitude longitude)).map fun hash =>
    hash.tmod 1024

/-! ## One round -/

/-- Below 32 bits the exclusive or and the product are those of the naturals. -/
theorem fnv1aProduct_natCast {hash : Nat} (small : hash < 2 ^ 32)
    {char : Char} (ascii : char.toNat < 128) :
    fnv1aProduct hash char =
      ((hash ^^^ char.toNat) * 16777619 : Nat) := by
  unfold fnv1aProduct
  rw [bigintXor_natCast small (by omega)]
  push_cast
  rfl

theorem fnv1aProduct_bounds {hash : Nat} (small : hash < 2 ^ 32)
    {char : Char} (ascii : char.toNat < 128) :
    0 ≤ fnv1aProduct hash char ∧
      fnv1aProduct hash char ≤ 2 ^ 63 - 1 := by
  have mixed : hash ^^^ char.toNat < 2 ^ 32 :=
    Nat.xor_lt_two_pow small (by omega)
  rw [fnv1aProduct_natCast small ascii]
  omega

/-- On a 32-bit hash and an ASCII character the two rounds agree. -/
theorem fnv1aIteration_eq {hash : Int} (nonneg : 0 ≤ hash)
    (small : hash < 2 ^ 32) {char : Char} (ascii : char.toNat < 128) :
    fnv1aIteration hash char = some (hashIteration hash char.toNat) := by
  lift hash to Nat using nonneg
  have natSmall : hash < 2 ^ 32 := by omega
  have bounds := fnv1aProduct_bounds natSmall ascii
  have product := fnv1aProduct_natCast natSmall ascii
  unfold fnv1aProduct at bounds product
  unfold fnv1aIteration bigintMul hashIteration
  rw [if_pos ⟨by omega, bounds.2⟩, Option.map_some, product, bigintAnd_mask]
  exact congrArg some (unsignedShiftRight_imul_bitXor hash _ _).symm

/-! ## The whole loop -/

theorem foldlM_fnv1aIteration_eq {chars : List Char}
    (ascii : ∀ char ∈ chars, char.toNat < 128) {hash : Int}
    (bounds : 0 ≤ hash ∧ hash < 2 ^ 32) :
    chars.foldlM fnv1aIteration hash =
      some ((chars.map Char.toNat).foldl hashIteration hash) := by
  induction chars generalizing hash with
  | nil => rfl
  | cons char rest induction =>
      have first : char.toNat < 128 := ascii char List.mem_cons_self
      rw [List.foldlM_cons, fnv1aIteration_eq bounds.1 bounds.2 first]
      exact induction
        (fun other member => ascii other (List.mem_cons_of_mem _ member))
        (hashIteration_bounds hash char.toNat)

/-- The code units of an ASCII key are its characters. -/
theorem flatMap_codeUnits_of_ascii {chars : List Char}
    (ascii : ∀ char ∈ chars, char.toNat < 128) :
    chars.flatMap codeUnits = chars.map Char.toNat := by
  rw [List.map_eq_flatMap]
  apply List.flatMap_congr
  intro char member
  have small := ascii char member
  exact codeUnits_of_lt (by omega)

theorem fnv1aAfter_eq {key : String}
    (ascii : ∀ char ∈ key.toList, char.toNat < 128) (count : Nat) :
    fnv1aAfter key count = some (hashAfter key count) := by
  unfold fnv1aAfter hashAfter
  rw [flatMap_codeUnits_of_ascii ascii, ← List.map_take]
  apply foldlM_fnv1aIteration_eq
  · intro char member
    exact ascii char (List.mem_of_mem_take member)
  · decide

theorem fnv1aLocation_eq {key : String}
    (ascii : ∀ char ∈ key.toList, char.toNat < 128) :
    fnv1aLocation key = some (hashLocation key) := by
  unfold fnv1aLocation hashLocation
  rw [flatMap_codeUnits_of_ascii ascii]
  exact foldlM_fnv1aIteration_eq ascii (by decide)

/-! ## The keys of snapped coordinates -/

theorem toNat_lt_of_isDigit {char : Char} (digit : char.isDigit = true) :
    char.toNat < 128 := by
  simp only [Char.isDigit, ge_iff_le, Bool.and_eq_true,
    decide_eq_true_eq] at digit
  have upper : char.toNat ≤ 57 := digit.2
  omega

theorem snappedKey_ascii (latitude longitude : Int) :
    ∀ char ∈ (snappedKey latitude longitude).toList, char.toNat < 128 := by
  have printed : ∀ value : Int, ∀ char ∈ (toString value).toList,
      char.toNat < 128 := by
    intro value char member
    rcases mem_toString_int member with digit | rfl
    · exact toNat_lt_of_isDigit digit
    · decide
  intro char member
  simp only [snappedKey, String.toList_append, List.mem_append] at member
  rcases member with (inLatitude | separator) | inLongitude
  · exact printed latitude char inLatitude
  · rw [List.mem_singleton.mp separator]
    decide
  · exact printed longitude char inLongitude

theorem backfilledBucket_eq (latitude longitude : Int) :
    backfilledBucket latitude longitude =
      some ((hashLocation (snappedKey latitude longitude)).tmod 1024) := by
  unfold backfilledBucket
  rw [fnv1aLocation_eq (snappedKey_ascii latitude longitude)]
  rfl

/--
The two loops agree on every ASCII key, after every round; the hash stays a
32-bit natural number and no product leaves `BIGINT`, so the migration writes
the bucket the application would.
-/
theorem fnv1a_implementations_agree (key : String)
    (ascii : ∀ char ∈ key.toList, char.toNat < 128) :
    fnv1aLocation key = some (hashLocation key) ∧
      (∀ count, fnv1aAfter key count = some (hashAfter key count) ∧
        0 ≤ hashAfter key count ∧ hashAfter key count < 2 ^ 32) ∧
      (∀ count char, key.toList[count]? = some char →
        ∃ hash, fnv1aAfter key count = some hash ∧
          fnv1aProduct hash char ≤ 2 ^ 63 - 1) ∧
      ∀ (round : Rat → Rat) (latitude longitude : Rat),
        backfilledBucket (snap round latitude) (snap round longitude) =
          some (locationBucket round latitude longitude) := by
  refine ⟨fnv1aLocation_eq ascii, ?_, ?_, ?_⟩
  · intro count
    exact ⟨fnv1aAfter_eq ascii count, hashAfter_bounds key count⟩
  · intro count char found
    have bounds := hashAfter_bounds key count
    refine ⟨hashAfter key count, fnv1aAfter_eq ascii count, ?_⟩
    have asciiChar : char.toNat < 128 :=
      ascii char (List.mem_of_getElem? found)
    generalize hashAfter key count = hash at bounds
    rcases bounds with ⟨nonneg, small⟩
    lift hash to Nat using nonneg
    exact (fnv1aProduct_bounds (by omega) asciiChar).2
  · intro round latitude longitude
    exact backfilledBucket_eq _ _

/-- The key of Berlin, `52.52` by `13.405`. -/
theorem fnv1a_implementations_agree_berlin :
    fnv1aLocation "5252:1341" = some (hashLocation "5252:1341") ∧
      hashLocation "5252:1341" = 793198034 := by
  have ascii : "5252:1341".toList.all (fun char => char.toNat < 128) =
      true := by
    decide
  constructor
  · exact (fnv1a_implementations_agree "5252:1341" fun char member =>
      of_decide_eq_true (List.all_eq_true.mp ascii char member)).1
  · decide +kernel

end WeatherNotify.Domain

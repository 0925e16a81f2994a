import WeatherNotify.Js.Integers
import WeatherNotify.Js.Text

/-!
# Locations

A coordinate pair becomes a unit of work by snapping both coordinates to
hundredths.  The key built from the two integers is hashed into a fixed number
of buckets; the bucket is what a trigger row stores and what a watcher
instance selects on.

The arithmetic before the snapping is on doubles.  What follows never depends
on how it rounds, so the rounding of one operation is a parameter: `id` is
exact arithmetic, `Js.Number.nearest` is the machine's.
-/

namespace WeatherNotify.Js.Number

/-- The double nearest to a rational of the finite range. -/
def nearest (value : Rat) : Rat :=
  match ofMagnitude (value < 0) value.num.natAbs value.den with
  | .finite result => result
  | _ => value

end WeatherNotify.Js.Number

namespace WeatherNotify.Domain

open WeatherNotify.Js

section Rounding

variable (round : Rat → Rat)

/-- `Math.floor(value * 100 + 0.5)`, each operation rounded. -/
def snap (value : Rat) : Int :=
  ⌊round (round (value * 100) + 1 / 2)⌋

def locationBuckets : Nat := 1024

/-- The key of two snapped coordinates. -/
def snappedKey (latitude longitude : Int) : String :=
  toString latitude ++ ":" ++ toString longitude

/-- The key one upstream call covers. -/
def locationKey (latitude longitude : Rat) : String :=
  snappedKey (snap round latitude) (snap round longitude)

/-- One round of the loop: `hash ^= code`, then `Math.imul` and `>>> 0`. -/
def hashIteration (hash : Int) (code : Nat) : Int :=
  unsignedShiftRight (imul (bitXor hash code) 0x01000193) 0

/-- The hash after the first `count` code units of the key. -/
def hashAfter (key : String) (count : Nat) : Int :=
  ((key.toList.flatMap codeUnits).take count).foldl hashIteration 0x811c9dc5

/-- FNV-1a over the code units of the key. -/
def hashLocation (key : String) : Int :=
  (key.toList.flatMap codeUnits).foldl hashIteration 0x811c9dc5

/-- The stored bucket for a coordinate pair. -/
def locationBucket (latitude longitude : Rat) : Int :=
  (hashLocation (locationKey round latitude longitude)).tmod locationBuckets

end Rounding

/-- Which buckets an instance is responsible for. -/
def bucketsForShard (index count : Nat) : List Int :=
  ((List.range locationBuckets).filter fun bucket =>
    bucket % count = index).map Int.ofNat

/-! ## Hashes and buckets stay in range -/

theorem hashIteration_bounds (hash : Int) (code : Nat) :
    0 ≤ hashIteration hash code ∧ hashIteration hash code < 2 ^ 32 :=
  unsignedShiftRight_bounds _ _

/-- What the loop has computed so far is a 32-bit natural number. -/
theorem foldl_hashIteration_bounds (codes : List Nat) {hash : Int}
    (bounds : 0 ≤ hash ∧ hash < 2 ^ 32) :
    0 ≤ codes.foldl hashIteration hash ∧
      codes.foldl hashIteration hash < 2 ^ 32 := by
  induction codes generalizing hash with
  | nil => exact bounds
  | cons code rest induction =>
      exact induction (hashIteration_bounds hash code)

theorem hashAfter_bounds (key : String) (count : Nat) :
    0 ≤ hashAfter key count ∧ hashAfter key count < 2 ^ 32 := by
  apply foldl_hashIteration_bounds
  decide

theorem hashLocation_bounds (key : String) :
    0 ≤ hashLocation key ∧ hashLocation key < 2 ^ 32 := by
  apply foldl_hashIteration_bounds
  decide

theorem locationBucket_bounds (round : Rat → Rat) (latitude longitude : Rat) :
    0 ≤ locationBucket round latitude longitude ∧
      locationBucket round latitude longitude < locationBuckets := by
  have bounds := hashLocation_bounds (locationKey round latitude longitude)
  constructor
  · exact Int.tmod_nonneg _ bounds.1
  · exact Int.tmod_lt_of_pos _ (by decide)

theorem mem_bucketsForShard {index count : Nat} {bucket : Int} :
    bucket ∈ bucketsForShard index count ↔
      0 ≤ bucket ∧ bucket < locationBuckets ∧
        bucket.toNat % count = index := by
  simp only [bucketsForShard, List.mem_map, List.mem_filter, List.mem_range,
    decide_eq_true_eq]
  constructor
  · rintro ⟨value, ⟨small, residue⟩, rfl⟩
    exact ⟨Int.natCast_nonneg value, Int.ofNat_lt.mpr small, residue⟩
  · rintro ⟨nonneg, small, residue⟩
    refine ⟨bucket.toNat, ⟨?_, residue⟩, Int.toNat_of_nonneg nonneg⟩
    omega

/-! ## Keys name snapped coordinates -/

/-- A key names exactly one pair of snapped coordinates. -/
theorem snappedKey_eq_iff {latitude longitude latitude' longitude' : Int} :
    snappedKey latitude longitude = snappedKey latitude' longitude' ↔
      latitude = latitude' ∧ longitude = longitude' := by
  constructor
  · intro equal
    have letters := congrArg String.toList equal
    simp only [snappedKey, String.toList_append, List.append_assoc] at letters
    have parts := append_separator_inj (colon_not_mem_toString latitude)
      (colon_not_mem_toString latitude') letters
    exact ⟨toString_int_injective (String.toList_inj.mp parts.1),
      toString_int_injective (String.toList_inj.mp parts.2)⟩
  · rintro ⟨rfl, rfl⟩
    rfl

theorem locationKey_eq_iff (round : Rat → Rat)
    {latitude longitude latitude' longitude' : Rat} :
    locationKey round latitude longitude =
        locationKey round latitude' longitude' ↔
      snap round latitude = snap round latitude' ∧
        snap round longitude = snap round longitude' :=
  snappedKey_eq_iff

end WeatherNotify.Domain

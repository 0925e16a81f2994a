import WeatherNotify.Domain.Location

/-!
# Cache keys and location keys

The weather cache of the watcher and the forecast cache of the API are keyed
by the coordinates printed with `toFixed(2)`, the grouping of triggers by the
coordinates snapped with `floor(x * 100 + 0.5)`.  Both round to hundredths, but
`toFixed` rounds the magnitude and prints the sign, so the two part on negative
numbers: halfway between two hundredths, and next to zero.
-/

namespace WeatherNotify.Domain

open WeatherNotify.Js

/-- A coordinate pair as the request bodies admit it. -/
structure Coordinates where
  latitude : Rat
  longitude : Rat
  latitudeInRange : -90 ≤ latitude ∧ latitude ≤ 90
  longitudeInRange : -180 ≤ longitude ∧ longitude ≤ 180

/-- The key of the watcher's weather cache. -/
def cacheKey (place : Coordinates) : String :=
  "weather:" ++ toFixed 2 place.latitude ++ ":" ++ toFixed 2 place.longitude

/-- The key of the API's forecast cache. -/
def forecastKey (place : Coordinates) : String :=
  "forecast:" ++ toFixed 2 place.latitude ++ ":" ++ toFixed 2 place.longitude

/-- The key the watcher groups by, in exact arithmetic. -/
def groupKey (place : Coordinates) : String :=
  locationKey id place.latitude place.longitude

/-! ## Where the two roundings part -/

/-- A negative number halfway between two hundredths. -/
def IsNegativeTie (value : Rat) : Prop :=
  value < 0 ∧ ∃ hundredth : Int, value * 100 + 1 / 2 = hundredth

/-- Both numbers are nearest to one hundredth, ties upward. -/
def SameHundredth (left right : Rat) : Prop :=
  ∃ hundredth : Int,
    (hundredth ≤ left * 100 + 1 / 2 ∧ left * 100 + 1 / 2 < hundredth + 1) ∧
      hundredth ≤ right * 100 + 1 / 2 ∧ right * 100 + 1 / 2 < hundredth + 1

/--
The smaller number is a negative tie less than a hundredth below the other, or
the two lie on the two sides of zero, each nearer than half a hundredth.
-/
def SplitBelow (smaller larger : Rat) : Prop :=
  (IsNegativeTie smaller ∧ smaller < larger ∧ larger < smaller + 1 / 100) ∨
    (-(1 / 200) < smaller ∧ smaller < 0 ∧ 0 ≤ larger ∧ larger < 1 / 200)

/-- `toFixed` keeps apart two numbers that snap together. -/
def Splits (left right : Rat) : Prop :=
  SplitBelow left right ∨ SplitBelow right left

/-- A negative tie and a number less than a hundredth below it. -/
def MergedBelow (tie below : Rat) : Prop :=
  IsNegativeTie tie ∧ tie - 1 / 100 < below ∧ below < tie

/-- `toFixed` prints alike two numbers that snap apart. -/
def Merges (left right : Rat) : Prop :=
  MergedBelow left right ∨ MergedBelow right left

theorem snap_eq_iff {left right : Rat} :
    snap id left = snap id right ↔ SameHundredth left right := by
  unfold snap SameHundredth
  simp only [id_eq]
  constructor
  · intro equal
    refine ⟨⌊left * 100 + 1 / 2⌋, ⟨Int.floor_le _, Int.lt_floor_add_one _⟩, ?_⟩
    rw [equal]
    exact ⟨Int.floor_le _, Int.lt_floor_add_one _⟩
  · rintro ⟨hundredth, leftCell, rightCell⟩
    rw [Int.floor_eq_iff.mpr leftCell, Int.floor_eq_iff.mpr rightCell]

/-! ## Rounding up and rounding down -/

section Rounding

variable {left right : Rat}

/-- An integer and a number less than one below it. -/
def CeilsBelow (whole below : Rat) : Prop :=
  (∃ value : Int, whole = value) ∧ whole - 1 < below ∧ below < whole

/-- An integer and a number less than one above it. -/
def FloorsAbove (whole above : Rat) : Prop :=
  (∃ value : Int, whole = value) ∧ whole < above ∧ above < whole + 1

theorem ceil_eq_of_ceilsBelow (below : CeilsBelow left right) :
    ⌈left⌉ = ⌈right⌉ := by
  rcases below with ⟨⟨value, rfl⟩, lower, upper⟩
  rw [Int.ceil_intCast, eq_comm, Int.ceil_eq_iff]
  exact ⟨lower, upper.le⟩

theorem floor_add_one_of_not_integer (fraction : ¬ ∃ value : Int, left = value) :
    ⌈left⌉ = ⌊left⌋ + 1 := by
  rw [Int.ceil_eq_iff]
  have lower : (⌊left⌋ : Rat) < left := by
    refine lt_of_le_of_ne (Int.floor_le left) ?_
    exact fun equal => fraction ⟨⌊left⌋, equal.symm⟩
  have upper := Int.lt_floor_add_one left
  push_cast
  constructor <;> linarith

/-- The number above an integer that rounds down to it is that integer. -/
theorem eq_of_floor_eq_of_not_floorsAbove {value : Int}
    (floor : value = ⌊right⌋)
    (together : ¬ FloorsAbove (value : Rat) right) : right = value := by
  have lower := Int.floor_le right
  have upper := Int.lt_floor_add_one right
  rw [← floor] at lower upper
  rcases lower.lt_or_eq with above | equal
  · exact absurd ⟨⟨value, rfl⟩, above, upper⟩ together
  · exact equal.symm

/-- A fraction that rounds up to an integer lies less than one below it. -/
theorem ceilsBelow_of_ceil_eq {value : Int} (ceil : value = ⌈right⌉)
    (fraction : ¬ ∃ other : Int, right = other) :
    CeilsBelow (value : Rat) right := by
  have bounds := Int.ceil_eq_iff.mp ceil.symm
  refine ⟨⟨value, rfl⟩, bounds.1, lt_of_le_of_ne bounds.2 ?_⟩
  exact fun equal => fraction ⟨value, equal⟩

theorem not_floorsAbove_self (value : Rat) : ¬ FloorsAbove value value :=
  fun above => lt_irrefl value above.2.1

/-- Numbers round up alike when they round down alike, ties apart. -/
theorem ceil_eq_ceil_iff :
    ⌈left⌉ = ⌈right⌉ ↔
      (CeilsBelow left right ∨ CeilsBelow right left) ∨
        ⌊left⌋ = ⌊right⌋ ∧
          ¬ (FloorsAbove left right ∨ FloorsAbove right left) := by
  by_cases leftWhole : ∃ value : Int, left = value
  · rcases leftWhole with ⟨value, rfl⟩
    constructor
    · intro equal
      rw [Int.ceil_intCast] at equal
      by_cases rightWhole : ∃ other : Int, right = other
      · rcases rightWhole with ⟨other, rfl⟩
        rw [Int.ceil_intCast] at equal
        subst equal
        exact Or.inr ⟨rfl, fun above =>
          above.elim (not_floorsAbove_self _) (not_floorsAbove_self _)⟩
      · exact Or.inl (Or.inl (ceilsBelow_of_ceil_eq equal rightWhole))
    · rintro ((below | below) | ⟨floor, together⟩)
      · exact ceil_eq_of_ceilsBelow below
      · exact (ceil_eq_of_ceilsBelow below).symm
      · rw [Int.floor_intCast] at floor
        rw [eq_of_floor_eq_of_not_floorsAbove floor
          fun above => together (Or.inl above)]
  · by_cases rightWhole : ∃ other : Int, right = other
    · rcases rightWhole with ⟨other, rfl⟩
      constructor
      · intro equal
        rw [Int.ceil_intCast] at equal
        exact Or.inl (Or.inr (ceilsBelow_of_ceil_eq equal.symm leftWhole))
      · rintro ((below | below) | ⟨floor, together⟩)
        · exact absurd below.1 leftWhole
        · exact (ceil_eq_of_ceilsBelow below).symm
        · rw [Int.floor_intCast] at floor
          exact absurd ⟨other, eq_of_floor_eq_of_not_floorsAbove floor.symm
            fun above => together (Or.inr above)⟩ leftWhole
    · rw [floor_add_one_of_not_integer leftWhole,
        floor_add_one_of_not_integer rightWhole]
      constructor
      · intro equal
        refine Or.inr ⟨by omega, ?_⟩
        rintro (above | above)
        · exact leftWhole above.1
        · exact rightWhole above.1
      · rintro ((below | below) | ⟨equal, -⟩)
        · exact absurd below.1 leftWhole
        · exact absurd below.1 rightWhole
        · rw [equal]

end Rounding

/-! ## Equal texts -/

section Texts

variable {left right : Rat}

theorem fixedMagnitude_of_nonneg (nonneg : 0 ≤ left) :
    (fixedMagnitude 2 left : Int) = snap id left := by
  have floor : (0 : Int) ≤ ⌊left * 10 ^ 2 + 1 / 2⌋ := by
    apply Int.floor_nonneg.mpr
    linarith
  simp only [fixedMagnitude, if_neg (not_lt.mpr nonneg), snap, id_eq]
  rw [Int.toNat_of_nonneg floor]
  norm_num

/-- The printed magnitude of a negative number comes from rounding it up. -/
theorem fixedMagnitude_of_neg (negative : left < 0) :
    (fixedMagnitude 2 left : Int) = 1 - ⌈left * 100 + 1 / 2⌉ := by
  have reflected : -left * 10 ^ 2 + 1 / 2 = -(left * 100 + 1 / 2) + 1 := by
    ring
  have floor : ⌊-left * 10 ^ 2 + 1 / 2⌋ = 1 - ⌈left * 100 + 1 / 2⌉ := by
    rw [reflected, Int.floor_add_one, Int.floor_neg]
    ring
  have small : ⌈left * 100 + 1 / 2⌉ ≤ 1 := by
    apply Int.ceil_le.mpr
    push_cast
    linarith
  simp only [fixedMagnitude, if_pos negative]
  rw [floor, Int.toNat_of_nonneg (by omega)]

theorem ceilsBelow_iff_mergedBelow (negative : left < 0) :
    CeilsBelow (left * 100 + 1 / 2) (right * 100 + 1 / 2) ↔
      MergedBelow left right := by
  constructor
  · rintro ⟨whole, lower, upper⟩
    exact ⟨⟨negative, whole⟩, by linarith, by linarith⟩
  · rintro ⟨⟨-, whole⟩, lower, upper⟩
    exact ⟨whole, by linarith, by linarith⟩

theorem floorsAbove_iff_splitBelow (leftNegative : left < 0)
    (rightNegative : right < 0) :
    FloorsAbove (left * 100 + 1 / 2) (right * 100 + 1 / 2) ↔
      SplitBelow left right := by
  constructor
  · rintro ⟨whole, lower, upper⟩
    exact Or.inl ⟨⟨leftNegative, whole⟩, by linarith, by linarith⟩
  · rintro (⟨⟨-, whole⟩, lower, upper⟩ | ⟨-, -, nonneg, -⟩)
    · exact ⟨whole, by linarith, by linarith⟩
    · exact absurd nonneg (not_le.mpr rightNegative)

/-- On the two sides of zero, snapping together means being split. -/
theorem splitBelow_of_sameHundredth (negative : left < 0)
    (nonneg : 0 ≤ right) (same : SameHundredth left right) :
    SplitBelow left right := by
  rcases same with ⟨hundredth, ⟨lower, upper⟩, lower', upper'⟩
  have zero : hundredth = 0 := by
    have below : (hundredth : Rat) < 1 := by linarith
    have above : (-1 : Rat) < hundredth := by linarith
    have belowInt : hundredth < 1 := by exact_mod_cast below
    have aboveInt : -1 < hundredth := by exact_mod_cast above
    omega
  subst zero
  push_cast at lower upper lower' upper'
  by_cases tie : left * 100 + 1 / 2 = 0
  · refine Or.inl ⟨⟨negative, 0, by exact_mod_cast tie⟩, ?_, ?_⟩ <;> linarith
  · have inside : 0 < left * 100 + 1 / 2 :=
      lt_of_le_of_ne lower (Ne.symm tie)
    refine Or.inr ⟨?_, negative, nonneg, ?_⟩ <;> linarith

theorem not_merges_of_nonneg (nonneg : 0 ≤ right) : ¬ Merges left right := by
  rintro (⟨⟨negative, -⟩, -, below⟩ | ⟨⟨negative, -⟩, -⟩)
  · linarith
  · linarith

theorem not_splits_of_nonneg (leftNonneg : 0 ≤ left)
    (rightNonneg : 0 ≤ right) : ¬ Splits left right := by
  rintro ((⟨⟨negative, -⟩, -⟩ | ⟨-, negative, -⟩) |
    (⟨⟨negative, -⟩, -⟩ | ⟨-, negative, -⟩)) <;> linarith

theorem merges_comm : Merges left right ↔ Merges right left :=
  Or.comm

theorem splits_comm : Splits left right ↔ Splits right left :=
  Or.comm

theorem sameHundredth_comm :
    SameHundredth left right ↔ SameHundredth right left := by
  rw [← snap_eq_iff, ← snap_eq_iff, eq_comm]

/-- A negative and a nonnegative number never print alike. -/
theorem not_printed_alike (negative : left < 0) (nonneg : 0 ≤ right) :
    ¬ (Merges left right ∨
      SameHundredth left right ∧ ¬ Splits left right) := by
  rintro (merged | ⟨same, together⟩)
  · exact not_merges_of_nonneg nonneg merged
  · exact together
      (Or.inl (splitBelow_of_sameHundredth negative nonneg same))

/-- Two numbers print alike when they merge, or snap together unsplit. -/
theorem toFixed_two_eq_iff :
    toFixed 2 left = toFixed 2 right ↔
      Merges left right ∨ SameHundredth left right ∧ ¬ Splits left right := by
  rw [toFixed_eq_iff (by decide)]
  rcases lt_or_ge left 0 with leftSign | leftSign <;>
    rcases lt_or_ge right 0 with rightSign | rightSign
  · -- both round up
    rw [← snap_eq_iff, Splits, Merges, ← Int.natCast_inj,
      fixedMagnitude_of_neg leftSign, fixedMagnitude_of_neg rightSign,
      ← ceilsBelow_iff_mergedBelow leftSign,
      ← ceilsBelow_iff_mergedBelow rightSign,
      ← floorsAbove_iff_splitBelow leftSign rightSign,
      ← floorsAbove_iff_splitBelow rightSign leftSign]
    simp only [leftSign, rightSign, true_and, sub_right_inj, snap, id_eq]
    exact ceil_eq_ceil_iff
  · have apart := not_printed_alike leftSign rightSign
    simp only [leftSign, not_lt.mpr rightSign, apart, iff_false, not_true,
      false_and]
  · have apart := not_printed_alike rightSign leftSign
    rw [merges_comm, splits_comm, sameHundredth_comm]
    simp only [rightSign, not_lt.mpr leftSign, apart, iff_true, false_and]
  · have unsplit := not_splits_of_nonneg leftSign rightSign
    have unmerged : ¬ Merges left right := not_merges_of_nonneg rightSign
    rw [← snap_eq_iff, ← Int.natCast_inj, fixedMagnitude_of_nonneg leftSign,
      fixedMagnitude_of_nonneg rightSign]
    simp only [not_lt.mpr leftSign, not_lt.mpr rightSign, true_and, unsplit,
      unmerged, not_false_eq_true, and_true, false_or]

end Texts

/-! ## Equal keys -/

variable {here there : Coordinates}

theorem printedKey_eq_iff {name : String} :
    name ++ toFixed 2 here.latitude ++ ":" ++ toFixed 2 here.longitude =
        name ++ toFixed 2 there.latitude ++ ":" ++
          toFixed 2 there.longitude ↔
      toFixed 2 here.latitude = toFixed 2 there.latitude ∧
        toFixed 2 here.longitude = toFixed 2 there.longitude := by
  constructor
  · intro equal
    have letters := congrArg String.toList equal
    simp only [String.toList_append, List.append_assoc,
      List.append_cancel_left_eq] at letters
    have parts := append_separator_inj
      (colon_not_mem_toFixed (by decide) here.latitude)
      (colon_not_mem_toFixed (by decide) there.latitude) letters
    exact ⟨String.toList_inj.mp parts.1, String.toList_inj.mp parts.2⟩
  · rintro ⟨latitude, longitude⟩
    rw [latitude, longitude]

/--
No coordinate is split while the other snaps alike, and none is merged while
the other prints alike.
-/
def RoundAlike (here there : Coordinates) : Prop :=
  ¬ (Splits here.latitude there.latitude ∧
      SameHundredth here.longitude there.longitude) ∧
    ¬ (SameHundredth here.latitude there.latitude ∧
      Splits here.longitude there.longitude) ∧
    ¬ (Merges here.latitude there.latitude ∧
      (Merges here.longitude there.longitude ∨
        SameHundredth here.longitude there.longitude ∧
          ¬ Splits here.longitude there.longitude)) ∧
    ¬ ((Merges here.latitude there.latitude ∨
        SameHundredth here.latitude there.latitude ∧
          ¬ Splits here.latitude there.latitude) ∧
      Merges here.longitude there.longitude)

theorem sameHundredth_of_splitBelow {smaller larger : Rat}
    (split : SplitBelow smaller larger) : SameHundredth smaller larger := by
  rcases split with ⟨⟨-, hundredth, tie⟩, lower, upper⟩ |
    ⟨lower, negative, nonneg, upper⟩
  · refine ⟨hundredth, ⟨tie.ge, ?_⟩, ?_, ?_⟩ <;> linarith
  · refine ⟨0, ⟨?_, ?_⟩, ?_, ?_⟩ <;> push_cast <;> linarith

theorem sameHundredth_of_splits {left right : Rat}
    (split : Splits left right) : SameHundredth left right := by
  rcases split with below | below
  · exact sameHundredth_of_splitBelow below
  · exact sameHundredth_comm.mp (sameHundredth_of_splitBelow below)

theorem not_sameHundredth_of_mergedBelow {tie below : Rat}
    (merged : MergedBelow tie below) : ¬ SameHundredth tie below := by
  rcases merged with ⟨⟨-, hundredth, whole⟩, -, under⟩
  rintro ⟨other, ⟨lower, upper⟩, lower', -⟩
  rw [whole] at lower upper
  have same : other = hundredth := by
    have lowerInt : other ≤ hundredth := by exact_mod_cast lower
    have upperInt : hundredth < other + 1 := by exact_mod_cast upper
    omega
  rw [same, ← whole] at lower'
  linarith

theorem not_sameHundredth_of_merges {left right : Rat}
    (merged : Merges left right) : ¬ SameHundredth left right := by
  rcases merged with below | below
  · exact not_sameHundredth_of_mergedBelow below
  · exact fun same =>
      not_sameHundredth_of_mergedBelow below (sameHundredth_comm.mp same)

/--
For two places the caches and the grouping agree on whether they are one
location exactly when their coordinates round alike.
-/
theorem cache_keys_agree_iff (here there : Coordinates) :
    ((cacheKey here = cacheKey there ↔ groupKey here = groupKey there) ∧
        (forecastKey here = forecastKey there ↔
          groupKey here = groupKey there)) ↔
      RoundAlike here there := by
  have splitLatitude :=
    @sameHundredth_of_splits here.latitude there.latitude
  have splitLongitude :=
    @sameHundredth_of_splits here.longitude there.longitude
  have mergedLatitude :=
    @not_sameHundredth_of_merges here.latitude there.latitude
  have mergedLongitude :=
    @not_sameHundredth_of_merges here.longitude there.longitude
  unfold cacheKey forecastKey groupKey RoundAlike
  rw [printedKey_eq_iff, printedKey_eq_iff, locationKey_eq_iff, snap_eq_iff,
    snap_eq_iff, toFixed_two_eq_iff, toFixed_two_eq_iff, and_self]
  -- what is left is propositional in the three relations of each coordinate
  generalize Splits here.latitude there.latitude = splitLat at *
  generalize Splits here.longitude there.longitude = splitLon at *
  generalize Merges here.latitude there.latitude = mergedLat at *
  generalize Merges here.longitude there.longitude = mergedLon at *
  generalize SameHundredth here.latitude there.latitude = sameLat at *
  generalize SameHundredth here.longitude there.longitude = sameLon at *
  grind

/-- A place in London, a little west or east of the meridian. -/
def nearMeridian (west : Bool) : Coordinates where
  latitude := 103 / 2
  longitude := if west then -1 / 1024 else 1 / 1024
  latitudeInRange := by norm_num
  longitudeInRange := by cases west <;> norm_num

/-- The two places are polled as one location and cached as two. -/
theorem cache_keys_split_at_meridian :
    groupKey (nearMeridian true) = groupKey (nearMeridian false) ∧
      cacheKey (nearMeridian true) ≠ cacheKey (nearMeridian false) ∧
      forecastKey (nearMeridian true) ≠ forecastKey (nearMeridian false) := by
  refine ⟨?_, ?_, ?_⟩ <;> decide +kernel

end WeatherNotify.Domain

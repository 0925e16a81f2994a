import WeatherNotify.Domain.CacheKeys

/-!
# How far apart two places with one key are

Coordinates that print alike, or that snap alike in the arithmetic of doubles,
differ by about a hundredth of a degree at most.
-/

namespace WeatherNotify.Js.Number

/-! ## Rounding to a double -/

/-- The nearest natural number is at most half a unit away. -/
theorem abs_roundHalfEven_sub_le (numerator : Nat) {denominator : Nat}
    (positive : 0 < denominator) :
    |(roundHalfEven numerator denominator : Rat) -
      numerator / denominator| ≤ 1 / 2 := by
  have divided := Nat.div_add_mod numerator denominator
  have below := Nat.mod_lt numerator positive
  have nonzero : (denominator : Rat) ≠ 0 := by
    exact_mod_cast positive.ne'
  have whole : (numerator : Rat) / denominator =
      (numerator / denominator : Nat) +
        ((numerator % denominator : Nat) : Rat) / denominator := by
    field_simp
    exact_mod_cast (by linarith : numerator =
      denominator * (numerator / denominator) + numerator % denominator)
  have positiveRat : (0 : Rat) < denominator := by exact_mod_cast positive
  have nonneg : (0 : Rat) ≤ ((numerator % denominator : Nat) : Rat) /
      denominator := by positivity
  have lessThanOne : ((numerator % denominator : Nat) : Rat) / denominator <
      1 := by
    rw [div_lt_one positiveRat]
    exact_mod_cast below
  rw [whole, abs_le]
  unfold roundHalfEven
  simp only
  split
  case isTrue down =>
    have half : ((numerator % denominator : Nat) : Rat) / denominator ≤
        1 / 2 := by
      rw [div_le_div_iff₀ positiveRat (by norm_num)]
      exact_mod_cast (by omega : numerator % denominator * 2 ≤ 1 * denominator)
    constructor <;> linarith
  case isFalse notDown =>
    have half : 1 / 2 ≤ ((numerator % denominator : Nat) : Rat) /
        denominator := by
      rw [div_le_div_iff₀ (by norm_num) positiveRat]
      exact_mod_cast (by omega : 1 * denominator ≤ numerator % denominator * 2)
    split
    case isTrue up =>
      push_cast
      constructor <;> linarith
    case isFalse notUp =>
      have tie : ((numerator % denominator : Nat) : Rat) / denominator =
          1 / 2 := by
        rw [div_eq_div_iff nonzero (by norm_num)]
        exact_mod_cast
          (by omega : numerator % denominator * 2 = 1 * denominator)
      have parity : (((numerator / denominator) % 2 : Nat) : Rat) ≤ 1 := by
        exact_mod_cast (by omega : (numerator / denominator) % 2 ≤ 1)
      have parityNonneg : (0 : Rat) ≤
          (((numerator / denominator) % 2 : Nat) : Rat) := by positivity
      push_cast at *
      constructor <;> linarith

/-- Doubles of moderate size are this dense. -/
theorem lastBitExponent_le {numerator denominator : Nat}
    (moderate : numerator ≤ denominator * 2 ^ 15) :
    lastBitExponent numerator denominator ≤ -37 := by
  have logs : Nat.log 2 numerator ≤ Nat.log 2 denominator + 15 := by
    rcases Nat.eq_zero_or_pos numerator with rfl | positive
    · simp
    · have below : numerator < 2 ^ (Nat.log 2 denominator + 16) := by
        calc numerator ≤ denominator * 2 ^ 15 := moderate
          _ < 2 ^ (Nat.log 2 denominator + 1) * 2 ^ 15 :=
              Nat.mul_lt_mul_of_pos_right
                (Nat.lt_pow_succ_log_self (by decide) _) (by decide)
          _ = 2 ^ (Nat.log 2 denominator + 16) := by
              rw [← pow_add]
      have strict := Nat.log_lt_of_lt_pow positive.ne' below
      omega
  unfold lastBitExponent
  simp only
  split <;> omega

/-- Rounding to a double moves a moderate magnitude this little. -/
theorem exists_ofMagnitude (negative : Bool) {numerator denominator : Nat}
    (positive : 0 < denominator)
    (moderate : numerator ≤ denominator * 2 ^ 15) :
    ∃ magnitude : Rat,
      ofMagnitude negative numerator denominator =
        .finite (if negative then -magnitude else magnitude) ∧
      |magnitude - numerator / denominator| ≤ 1 / 2 ^ 38 := by
  have small := lastBitExponent_le moderate
  obtain ⟨places, exponent, many⟩ : ∃ places : Nat,
      (-(lastBitExponent numerator denominator)).toNat = places ∧
        37 ≤ places :=
    ⟨_, rfl, by omega⟩
  have scale : (0 : Rat) < 2 ^ places := by positivity
  have close : |(roundHalfEven (numerator * 2 ^ places) denominator : Rat) /
      2 ^ places - numerator / denominator| ≤ 1 / 2 ^ 38 := by
    have half := abs_roundHalfEven_sub_le (numerator * 2 ^ places) positive
    have factored :
        (roundHalfEven (numerator * 2 ^ places) denominator : Rat) /
          2 ^ places - numerator / denominator =
        (roundHalfEven (numerator * 2 ^ places) denominator -
          ((numerator * 2 ^ places : Nat) : Rat) / denominator) /
            2 ^ places := by
      push_cast
      field_simp
    rw [factored, abs_div, abs_of_pos scale, div_le_div_iff₀ scale
      (by positivity)]
    have dense : (2 : Rat) ^ 37 ≤ 2 ^ places :=
      pow_le_pow_right₀ (by norm_num) many
    linarith
  refine ⟨_, ?_, close⟩
  have finite : ¬ (((2 ^ 1024 : Nat) : Rat) ≤
      (roundHalfEven (numerator * 2 ^ places) denominator : Rat) /
        2 ^ places) := by
    have ratio : (numerator : Rat) / denominator ≤ 2 ^ 15 := by
      rw [div_le_iff₀ (by exact_mod_cast positive), mul_comm]
      exact_mod_cast moderate
    have upper := (abs_le.mp close).2
    have huge : (2 : Rat) ^ 16 ≤ ((2 ^ 1024 : Nat) : Rat) := by
      rw [Nat.cast_pow, Nat.cast_ofNat]
      exact pow_le_pow_right₀ (by norm_num) (by norm_num)
    intro beyond
    linarith [show (1 : Rat) / 2 ^ 38 < 1 by norm_num]
  have negativeExponent : ¬ 0 ≤ lastBitExponent numerator denominator := by
    omega
  unfold ofMagnitude
  simp only [if_neg negativeExponent, exponent, Nat.cast_pow, Nat.cast_ofNat]
  rw [Nat.cast_pow, Nat.cast_ofNat] at finite
  rw [if_neg finite]

theorem abs_nearest_sub_le {value : Rat} (moderate : |value| ≤ 2 ^ 15) :
    |nearest value - value| ≤ 1 / 2 ^ 38 := by
  have split : |value| = (value.num.natAbs : Rat) / value.den := by
    rw [Rat.abs_def, Rat.divInt_eq_div, Int.cast_natCast, Int.cast_natCast]
  have ratio : value.num.natAbs ≤ value.den * 2 ^ 15 := by
    rw [split, div_le_iff₀ (by exact_mod_cast value.den_pos), mul_comm]
      at moderate
    exact_mod_cast moderate
  obtain ⟨magnitude, rounded, close⟩ :=
    exists_ofMagnitude (value < 0) value.den_pos ratio
  rw [← split] at close
  unfold nearest
  rw [rounded]
  by_cases sign : value < 0
  · simp only [sign, decide_true, if_true]
    rw [abs_of_neg sign] at close
    rw [← abs_neg]
    have flipped : -(-magnitude - value) = magnitude - -value := by ring
    rw [flipped]
    exact close
  · simp only [sign, decide_false, Bool.false_eq_true, if_false]
    rw [abs_of_nonneg (not_lt.mp sign)] at close
    exact close

end WeatherNotify.Js.Number

namespace WeatherNotify.Domain

open WeatherNotify.Js
open WeatherNotify.Js.Number

/-! ## Printed alike -/

theorem abs_sub_lt_of_sameHundredth {left right : Rat}
    (same : SameHundredth left right) : |left - right| < 1 / 100 := by
  obtain ⟨hundredth, ⟨lower, upper⟩, lower', upper'⟩ := same
  rw [abs_lt]
  constructor <;> linarith

theorem abs_sub_lt_of_merges {left right : Rat} (merged : Merges left right) :
    |left - right| < 1 / 100 := by
  rw [abs_lt]
  rcases merged with ⟨-, lower, upper⟩ | ⟨-, lower, upper⟩ <;>
    constructor <;> linarith

theorem abs_sub_lt_of_toFixed {left right : Rat}
    (same : toFixed 2 left = toFixed 2 right) :
    |left - right| < 1 / 100 := by
  rcases toFixed_two_eq_iff.mp same with merged | ⟨snapped, -⟩
  · exact abs_sub_lt_of_merges merged
  · exact abs_sub_lt_of_sameHundredth snapped

/-! ## Snapped alike -/

/-- What the arithmetic before the snapping adds up to. -/
theorem abs_snapped_sub_le {value : Rat} (moderate : |value| ≤ 180) :
    |nearest (nearest (value * 100) + 1 / 2) - (value * 100 + 1 / 2)| ≤
      1 / 2 ^ 37 := by
  have bounds := abs_le.mp moderate
  have first : |nearest (value * 100) - value * 100| ≤ 1 / 2 ^ 38 := by
    apply abs_nearest_sub_le
    rw [abs_le]
    constructor <;> linarith
  have close := abs_le.mp first
  have tiny : (1 : Rat) / 2 ^ 38 ≤ 1 := by norm_num
  have second : |nearest (nearest (value * 100) + 1 / 2) -
      (nearest (value * 100) + 1 / 2)| ≤ 1 / 2 ^ 38 := by
    apply abs_nearest_sub_le
    rw [abs_le]
    constructor <;> linarith
  have last := abs_le.mp second
  have doubled : (1 : Rat) / 2 ^ 37 = 1 / 2 ^ 38 + 1 / 2 ^ 38 := by norm_num
  rw [abs_le, doubled]
  constructor <;> linarith

theorem abs_sub_lt_of_snap {left right : Rat} (moderate : |left| ≤ 180)
    (moderate' : |right| ≤ 180)
    (same : snap nearest left = snap nearest right) :
    |left - right| < 1 / 100 + 1 / 10 ^ 12 := by
  have leftClose := abs_le.mp (abs_snapped_sub_le moderate)
  have rightClose := abs_le.mp (abs_snapped_sub_le moderate')
  have cells := abs_lt.mp (Int.abs_sub_lt_one_of_floor_eq_floor same)
  have tiny : (1 : Rat) / 2 ^ 37 + 1 / 2 ^ 37 ≤ 100 * (1 / 10 ^ 12) := by
    norm_num
  rw [abs_lt]
  constructor <;> linarith

/-! ## Places -/

/-- Both coordinates differ by less. -/
def Coordinates.Within (here there : Coordinates) (distance : Rat) : Prop :=
  |here.latitude - there.latitude| < distance ∧
    |here.longitude - there.longitude| < distance

theorem within_of_locationKey {here there : Coordinates}
    (same : locationKey nearest here.latitude here.longitude =
      locationKey nearest there.latitude there.longitude) :
    here.Within there (1 / 100 + 1 / 10 ^ 12) := by
  have wide : ∀ place : Coordinates,
      |place.latitude| ≤ 180 ∧ |place.longitude| ≤ 180 := by
    intro place
    have latitude := place.latitudeInRange
    have longitude := place.longitudeInRange
    rw [abs_le, abs_le]
    refine ⟨⟨?_, ?_⟩, longitude⟩ <;> linarith
  obtain ⟨latitude, longitude⟩ := (locationKey_eq_iff nearest).mp same
  exact ⟨abs_sub_lt_of_snap (wide here).1 (wide there).1 latitude,
    abs_sub_lt_of_snap (wide here).2 (wide there).2 longitude⟩

theorem within_of_printed {here there : Coordinates}
    (latitude : toFixed 2 here.latitude = toFixed 2 there.latitude)
    (longitude : toFixed 2 here.longitude = toFixed 2 there.longitude) :
    here.Within there (1 / 100) :=
  ⟨abs_sub_lt_of_toFixed latitude, abs_sub_lt_of_toFixed longitude⟩

theorem Coordinates.Within.trans {here middle there : Coordinates}
    {first second : Rat} (near : here.Within middle first)
    (far : middle.Within there second) :
    here.Within there (first + second) := by
  obtain ⟨latitude, longitude⟩ := near
  obtain ⟨latitude', longitude'⟩ := far
  constructor
  · calc |here.latitude - there.latitude|
        ≤ |here.latitude - middle.latitude| +
            |middle.latitude - there.latitude| := abs_sub_le _ _ _
      _ < first + second := add_lt_add latitude latitude'
  · calc |here.longitude - there.longitude|
        ≤ |here.longitude - middle.longitude| +
            |middle.longitude - there.longitude| := abs_sub_le _ _ _
      _ < first + second := add_lt_add longitude longitude'

end WeatherNotify.Domain

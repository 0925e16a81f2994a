import WeatherNotify.Js.Number
import WeatherNotify.Js.Pattern
import Mathlib.Data.List.TakeWhile
import Mathlib.Data.Rat.Floor

/-!
# Texts of digits as numbers

A text that is nothing but decimal digits denotes a natural number, and so
does the double nearest to it: either it is exact or its last bit is worth a
power of two.  Only a text beyond the double range denotes something else, the
positive infinity.
-/

namespace WeatherNotify.Js

/-- `\d+`. -/
def digits : RegularExpression Char :=
  digitBelow 10 * (digitBelow 10).star

theorem digit_of_mem_digits {word : List Char}
    (accepted : word ∈ digits.matches') :
    word ≠ [] ∧ ∀ char ∈ word, ∃ digit < 10, char = Nat.digitChar digit := by
  rcases mem_digitBelow_mul.mp accepted with ⟨first, below, rest, repeated, rfl⟩
  rw [RegularExpression.matches'_star, Language.mem_kstar] at repeated
  rcases repeated with ⟨words, rfl, each⟩
  refine ⟨List.cons_ne_nil _ _, ?_⟩
  intro char member
  rcases List.mem_cons.mp member with rfl | later
  · exact ⟨first, below, rfl⟩
  · rcases List.mem_flatten.mp later with ⟨single, listed, inside⟩
    rcases mem_digitBelow.mp (each single listed) with ⟨digit, small, rfl⟩
    exact ⟨digit, small, List.mem_singleton.mp inside⟩

namespace Number

/-- The comparison `left < right`; nothing compares with `NaN`. -/
def lt : Number → Number → Bool
  | .finite left, .finite right => left < right
  | .finite _, .infinity negative => !negative
  | .infinity negative, .finite _ => negative
  | .infinity left, .infinity right => left && !right
  | _, _ => false

/-- The remainder `value % modulus` of a natural number. -/
def remainder (value : Nat) (modulus : Rat) : Rat :=
  value - modulus * ⌊value / modulus⌋

theorem remainder_natCast (value modulus : Nat) :
    remainder value modulus = (value % modulus : Nat) := by
  have quotient : ⌊(value : Rat) / modulus⌋ = ((value / modulus : Nat) : Int) :=
    Rat.floor_natCast_div_natCast value modulus
  have divided : ((modulus * (value / modulus) + value % modulus : Nat) : Rat) =
      value := congrArg Nat.cast (Nat.div_add_mod value modulus)
  unfold remainder
  rw [quotient, ← divided, Int.cast_natCast, Nat.cast_add, Nat.cast_mul,
    add_sub_cancel_left]

/-! ## Rounding a natural number -/

theorem roundHalfEven_one (numerator : Nat) :
    roundHalfEven numerator 1 = numerator := by
  simp [roundHalfEven, Nat.mod_one]

/-- The double nearest to a natural number is one, unless it is too large. -/
theorem ofMagnitude_natural (numerator : Nat) :
    ofMagnitude false numerator 1 = .infinity false ∨
      ∃ rounded : Nat, ofMagnitude false numerator 1 = .finite rounded := by
  unfold ofMagnitude
  by_cases coarse : 0 ≤ lastBitExponent numerator 1
  · simp only [coarse, if_true, Bool.false_eq_true, if_false]
    split
    · exact Or.inl rfl
    · exact Or.inr ⟨_, rfl⟩
  · have unchanged : (roundHalfEven (numerator *
        2 ^ (-lastBitExponent numerator 1).toNat) 1 : Rat) /
          (2 ^ (-lastBitExponent numerator 1).toNat : Nat) = numerator := by
      rw [roundHalfEven_one, Nat.cast_mul,
        mul_div_cancel_right₀ _ (by positivity)]
    simp only [coarse, Bool.false_eq_true, if_false, unchanged]
    split
    · exact Or.inl rfl
    · exact Or.inr ⟨numerator, rfl⟩

/-! ## Reading digits -/

variable {word : List Char}

theorem isSpace_digitChar {digit : Nat} (below : digit < 10) :
    isSpace (Nat.digitChar digit) = false := by
  revert digit
  decide

theorem plain_digitChar {digit : Nat} (below : digit < 10) :
    (Nat.digitChar digit == 'e' || Nat.digitChar digit == 'E') = false ∧
      Nat.digitChar digit ≠ '.' := by
  revert digit
  decide

theorem digitValue_digitChar_ten {digit : Nat} (below : digit < 10) :
    digitValue (Nat.digitChar digit) = some digit := by
  revert digit
  decide

theorem trimChars_of_not_space (solid : ∀ char ∈ word, isSpace char = false) :
    trimChars word = word := by
  have front : word.dropWhile isSpace = word := by
    rw [List.dropWhile_eq_self_iff]
    intro nonempty
    rw [solid _ (List.getElem_mem nonempty)]
    exact Bool.false_ne_true
  have back : word.reverse.dropWhile isSpace = word.reverse := by
    rw [List.dropWhile_eq_self_iff]
    intro nonempty
    rw [solid _ (List.mem_reverse.mp (List.getElem_mem nonempty))]
    exact Bool.false_ne_true
  unfold trimChars
  rw [front, back, List.reverse_reverse]

/-- Digits always add up to a value. -/
theorem exists_digitsInBase (nonempty : word ≠ [])
    (numeric : ∀ char ∈ word, ∃ digit < 10, char = Nat.digitChar digit) :
    ∃ value, digitsInBase 10 word = some value := by
  unfold digitsInBase
  rw [if_neg (by simpa using nonempty)]
  clear nonempty
  -- what the digits so far add up to varies along the word
  generalize 0 = start
  induction word generalizing start with
  | nil => exact ⟨start, rfl⟩
  | cons char rest induction =>
      rcases numeric char List.mem_cons_self with ⟨digit, below, rfl⟩
      rcases induction (fun other member =>
        numeric other (List.mem_cons_of_mem _ member))
        (start * 10 + digit) with ⟨value, read⟩
      refine ⟨value, ?_⟩
      rw [List.foldlM_cons, digitValue_digitChar_ten below]
      simpa [below] using read

theorem decimalLiteral_digits (nonempty : word ≠ [])
    (numeric : ∀ char ∈ word, ∃ digit < 10, char = Nat.digitChar digit) :
    decimalLiteral false word = .infinity false ∨
      ∃ value : Nat, decimalLiteral false word = .finite value := by
  have plain : ∀ char ∈ word,
      (char == 'e' || char == 'E') = false ∧ char ≠ '.' := by
    intro char member
    rcases numeric char member with ⟨digit, below, rfl⟩
    exact plain_digitChar below
  have significand : word.takeWhile (fun char =>
      !(char == 'e' || char == 'E')) = word :=
    List.takeWhile_eq_self_iff.mpr fun char member => by
      simp [(plain char member).1]
  have noExponent : word.dropWhile (fun char =>
      !(char == 'e' || char == 'E')) = [] :=
    List.dropWhile_eq_nil_iff.mpr fun char member => by
      simp [(plain char member).1]
  have whole : word.takeWhile (fun char => char != '.') = word :=
    List.takeWhile_eq_self_iff.mpr fun char member => by
      simp [(plain char member).2]
  have noFraction : word.dropWhile (fun char => char != '.') = [] :=
    List.dropWhile_eq_nil_iff.mpr fun char member => by
      simp [(plain char member).2]
  rcases exists_digitsInBase nonempty numeric with ⟨value, read⟩
  unfold decimalLiteral
  simp only [significand, noExponent, whole, noFraction, List.drop_nil,
    List.append_nil, read, List.length_nil, Nat.cast_zero, sub_zero,
    le_refl, if_true, Int.toNat_zero, pow_zero, mul_one]
  split
  · exact Or.inr ⟨0, by simp⟩
  · exact ofMagnitude_natural value

/-- What `Number` makes of a text that the pattern of digits accepts. -/
theorem ofString_digits {text : String}
    (accepted : acceptsWhole digits text = true) :
    ofString text = .infinity false ∨
      ∃ value : Nat, ofString text = .finite value := by
  rcases digit_of_mem_digits (acceptsWhole_iff.mp accepted) with
    ⟨nonempty, numeric⟩
  have solid : ∀ char ∈ text.toList, isSpace char = false := by
    intro char member
    rcases numeric char member with ⟨digit, below, rfl⟩
    exact isSpace_digitChar below
  have digitOnly : ∀ char ∈ text.toList, char.isDigit = true := by
    intro char member
    rcases numeric char member with ⟨digit, below, rfl⟩
    rw [Nat.isDigit_digitChar, decide_eq_true below]
  have literal : ofString text = decimalLiteral false text.toList := by
    have unsigned : ¬ text.toList = "Infinity".toList := by
      intro named
      have letter := digitOnly 'I' (by rw [named]; decide)
      exact absurd letter (by decide)
    have direct : signedLiteral false text.toList =
        decimalLiteral false text.toList := if_neg unsigned
    rw [← direct]
    unfold ofString
    rw [trimChars_of_not_space solid]
    split
    case h_1 shape => exact absurd shape nonempty
    case h_10 => rfl
    all_goals
      rename_i shape
      rw [shape] at digitOnly
      simp at digitOnly
  rw [literal]
  exact decimalLiteral_digits nonempty numeric

end Number

end WeatherNotify.Js

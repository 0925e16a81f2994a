import WeatherNotify.Js.Number
import Mathlib.Data.Rat.Floor
import Mathlib.Tactic.Linarith

/-!
# Numbers printed as text

An integer prints as its decimal digits after an optional minus sign, and
`toFixed` prints the sign of a negative number first and then the nearest
decimal of its magnitude, ties upward.  A text therefore names its number, or
for `toFixed` the sign and the rounded magnitude, and texts joined by a
separator that does not occur in them can be taken apart again.
-/

namespace WeatherNotify.Js

/-! ## Integers -/

theorem toList_toString_int (value : Int) :
    (toString value).toList =
      if 0 ≤ value then Nat.toDigits 10 value.toNat
      else '-' :: Nat.toDigits 10 (-value).toNat := by
  rw [Int.toString_eq_repr, Int.repr_eq_if]
  split
  · exact Nat.toList_repr
  · rw [String.toList_append, Nat.toList_repr]
    rfl

/-- The characters of a printed integer are digits and the minus sign. -/
theorem mem_toString_int {value : Int} {char : Char}
    (member : char ∈ (toString value).toList) :
    char.isDigit = true ∨ char = '-' := by
  have digit : ∀ magnitude : Nat, char ∈ Nat.toDigits 10 magnitude →
      char.isDigit = true :=
    fun _ => Nat.isDigit_of_mem_toDigits (by decide) (by decide)
  rw [toList_toString_int] at member
  split at member
  · exact Or.inl (digit _ member)
  · rcases List.mem_cons.mp member with minus | inDigits
    · exact Or.inr minus
    · exact Or.inl (digit _ inDigits)

theorem minus_not_mem_toDigits (magnitude : Nat) :
    '-' ∉ Nat.toDigits 10 magnitude := by
  intro member
  have digit : '-'.isDigit = true :=
    Nat.isDigit_of_mem_toDigits (by decide) (by decide) member
  exact absurd digit (by decide)

theorem toDigits_injective : Function.Injective (Nat.toDigits 10) := by
  intro left right equal
  have decoded :=
    congrArg (fun digitChars => Nat.ofDigitChars 10 digitChars 0) equal
  simpa only [Nat.ofDigitChars_ten_toDigits] using decoded

theorem toString_int_injective :
    Function.Injective (toString : Int → String) := by
  intro left right equal
  have letters := congrArg String.toList equal
  rw [toList_toString_int, toList_toString_int] at letters
  split at letters <;> split at letters
  case isTrue.isTrue leftSign rightSign =>
    have same := toDigits_injective letters
    omega
  case isTrue.isFalse =>
    exact absurd (letters ▸ List.mem_cons_self) (minus_not_mem_toDigits _)
  case isFalse.isTrue =>
    exact absurd (letters ▸ List.mem_cons_self) (minus_not_mem_toDigits _)
  case isFalse.isFalse leftSign rightSign =>
    have same := toDigits_injective (List.cons.inj letters).2
    omega

theorem colon_not_mem_toString (value : Int) :
    ':' ∉ (toString value).toList := by
  intro member
  rcases mem_toString_int member with digit | minus
  · exact absurd digit (by decide)
  · exact absurd minus (by decide)

/-- Texts joined by a separator that neither left part contains. -/
theorem append_separator_inj {separator : Char}
    {left right leftTail rightTail : List Char}
    (leftFree : separator ∉ left) (rightFree : separator ∉ right)
    (equal : left ++ separator :: leftTail = right ++ separator :: rightTail) :
    left = right ∧ leftTail = rightTail := by
  induction left generalizing right with
  | nil =>
      cases right with
      | nil => exact ⟨rfl, (List.cons.inj equal).2⟩
      | cons head tail =>
          have first := (List.cons.inj equal).1
          exact absurd (first ▸ List.mem_cons_self) rightFree
  | cons char rest induction =>
      cases right with
      | nil =>
          have first := (List.cons.inj equal).1
          exact absurd (first ▸ List.mem_cons_self) leftFree
      | cons head tail =>
          rcases List.cons.inj equal with ⟨sameHead, sameTail⟩
          have step := induction
            (fun member => leftFree (List.mem_cons_of_mem _ member))
            (fun member => rightFree (List.mem_cons_of_mem _ member))
            sameTail
          rw [sameHead, step.1]
          exact ⟨rfl, step.2⟩

/-! ## `toFixed` -/

/-- The magnitude of a number in units of the last printed digit. -/
def fixedMagnitude (fractionDigits : Nat) (value : Rat) : Nat :=
  let magnitude := if value < 0 then -value else value
  ⌊magnitude * 10 ^ fractionDigits + 1 / 2⌋.toNat

/-- The printed digits, padded so that one stands before the point. -/
def fixedDigits (fractionDigits scaled : Nat) : List Char :=
  (Nat.toDigits 10 scaled).leftpad (fractionDigits + 1) '0'

/-- `value.toFixed(fractionDigits)` for a magnitude below `10 ^ 21`. -/
def toFixed (fractionDigits : Nat) (value : Rat) : String :=
  let digits := fixedDigits fractionDigits (fixedMagnitude fractionDigits value)
  let sign := if value < 0 then ['-'] else []
  let whole := digits.take (digits.length - fractionDigits)
  let fraction := digits.drop (digits.length - fractionDigits)
  String.ofList (sign ++ whole ++
    if fractionDigits = 0 then [] else '.' :: fraction)

theorem isDigit_of_mem_fixedDigits {fractionDigits scaled : Nat} {char : Char}
    (member : char ∈ fixedDigits fractionDigits scaled) :
    char.isDigit = true := by
  rcases List.mem_append.mp member with padding | digit
  · rw [List.eq_of_mem_replicate padding]
    decide
  · exact Nat.isDigit_of_mem_toDigits (by decide) (by decide) digit

theorem fixedDigits_injective (fractionDigits : Nat) :
    Function.Injective (fixedDigits fractionDigits) := by
  intro left right equal
  have decoded :=
    congrArg (fun digitChars => Nat.ofDigitChars 10 digitChars 0) equal
  simpa only [fixedDigits, List.leftpad, Nat.ofDigitChars_append,
    Nat.ofDigitChars_replicate_zero, Nat.mul_zero,
    Nat.ofDigitChars_ten_toDigits] using decoded

/-- A printed number: its sign, then its digits cut at the decimal point. -/
theorem toList_toFixed {fractionDigits : Nat} (positive : fractionDigits ≠ 0)
    (value : Rat) :
    ∃ whole fraction,
      whole ++ fraction =
          fixedDigits fractionDigits (fixedMagnitude fractionDigits value) ∧
        (toFixed fractionDigits value).toList =
          (if value < 0 then ['-'] else []) ++ (whole ++ '.' :: fraction) := by
  have cut := List.take_append_drop
    ((fixedDigits fractionDigits
      (fixedMagnitude fractionDigits value)).length - fractionDigits)
    (fixedDigits fractionDigits (fixedMagnitude fractionDigits value))
  refine ⟨_, _, cut, ?_⟩
  simp only [toFixed, String.toList_ofList, List.append_assoc,
    if_neg positive]

theorem mem_cut_digits {fractionDigits scaled : Nat} {char : Char}
    {whole fraction : List Char}
    (digits : whole ++ fraction = fixedDigits fractionDigits scaled)
    (member : char ∈ whole ++ '.' :: fraction) :
    char.isDigit = true ∨ char = '.' := by
  have digit : char ∈ whole ++ fraction → char.isDigit = true := by
    rw [digits]
    exact isDigit_of_mem_fixedDigits
  rcases List.mem_append.mp member with inWhole | inRest
  · exact Or.inl (digit (List.mem_append_left _ inWhole))
  · rcases List.mem_cons.mp inRest with point | inFraction
    · exact Or.inr point
    · exact Or.inl (digit (List.mem_append_right _ inFraction))

theorem minus_mem_toFixed_iff {fractionDigits : Nat}
    (positive : fractionDigits ≠ 0) {value : Rat} :
    '-' ∈ (toFixed fractionDigits value).toList ↔ value < 0 := by
  rcases toList_toFixed positive value with ⟨whole, fraction, digits, printed⟩
  have unsigned : '-' ∉ whole ++ '.' :: fraction := by
    intro member
    rcases mem_cut_digits digits member with digit | point
    · exact absurd digit (by decide)
    · exact absurd point (by decide)
  rw [printed]
  split
  · simp_all
  · simp_all

theorem colon_not_mem_toFixed {fractionDigits : Nat}
    (positive : fractionDigits ≠ 0) (value : Rat) :
    ':' ∉ (toFixed fractionDigits value).toList := by
  rcases toList_toFixed positive value with ⟨whole, fraction, digits, printed⟩
  rw [printed]
  intro member
  rcases List.mem_append.mp member with sign | inDigits
  · split at sign
    · exact absurd (List.mem_singleton.mp sign) (by decide)
    · cases sign
  · rcases mem_cut_digits digits inDigits with digit | point
    · exact absurd digit (by decide)
    · exact absurd point (by decide)

/-- A text of `toFixed` names the sign and the rounded magnitude. -/
theorem toFixed_eq_iff {fractionDigits : Nat} (positive : fractionDigits ≠ 0)
    {left right : Rat} :
    toFixed fractionDigits left = toFixed fractionDigits right ↔
      (left < 0 ↔ right < 0) ∧
        fixedMagnitude fractionDigits left =
          fixedMagnitude fractionDigits right := by
  constructor
  · intro equal
    have sign : left < 0 ↔ right < 0 := by
      rw [← minus_mem_toFixed_iff positive, equal,
        minus_mem_toFixed_iff positive]
    refine ⟨sign, fixedDigits_injective fractionDigits ?_⟩
    rcases toList_toFixed positive left with
      ⟨whole, fraction, digits, printed⟩
    rcases toList_toFixed positive right with
      ⟨whole', fraction', digits', printed'⟩
    have letters := printed.symm.trans
      ((congrArg String.toList equal).trans printed')
    simp only [sign, List.append_cancel_left_eq] at letters
    have pointFree : ∀ scaled, '.' ∉ fixedDigits fractionDigits scaled := by
      intro scaled member
      exact absurd (isDigit_of_mem_fixedDigits member) (by decide)
    have parts := append_separator_inj
      (fun member => pointFree _ (digits ▸ List.mem_append_left _ member))
      (fun member => pointFree _ (digits' ▸ List.mem_append_left _ member))
      letters
    rw [← digits, ← digits', parts.1, parts.2]
  · rintro ⟨sign, magnitude⟩
    simp only [toFixed, sign, magnitude]

end WeatherNotify.Js

import Mathlib.Computability.RegularExpressions

/-!
# Regular expressions on texts

A pattern between `^` and `$`, without the multiline flag, accepts a text when
the whole of it is a word of the expression.  A class of digits from zero on is
named by how many digits it has, so `\d` is `digitBelow 10`; a word of such a
class is known by the value of its only digit.

A pattern that is one class of characters matches every such character of a
text, and a global replacement puts a text in the place of each.
-/

namespace WeatherNotify.Js

/-- `new RegExp("^" + pattern + "$").test(value)`. -/
def acceptsWhole (pattern : RegularExpression Char) (value : String) : Bool :=
  pattern.rmatch value.toList

/-- The class of the first `bound` decimal digits. -/
def digitBelow : Nat → RegularExpression Char
  | 0 => 0
  | bound + 1 => digitBelow bound + .char (Nat.digitChar bound)

/-- `value.replace(/[characters]/g, replacement)`. -/
def replaceEach (characters : List Char) (replacement : Char → String)
    (value : String) : String :=
  String.ofList (value.toList.flatMap fun char =>
    if char ∈ characters then (replacement char).toList else [char])

theorem acceptsWhole_iff {pattern : RegularExpression Char}
    {value : String} :
    acceptsWhole pattern value = true ↔ value.toList ∈ pattern.matches' :=
  pattern.rmatch_iff_matches' value.toList

theorem mem_digitBelow {bound : Nat} {word : List Char} :
    word ∈ (digitBelow bound).matches' ↔
      ∃ digit < bound, word = [Nat.digitChar digit] := by
  induction bound with
  | zero =>
      show word ∈ (0 : Language Char) ↔ _
      simp
  | succ bound induction =>
      show word ∈ (digitBelow bound).matches' + {[Nat.digitChar bound]} ↔ _
      rw [Language.mem_add, induction]
      constructor
      · rintro (⟨digit, below, rfl⟩ | last)
        · exact ⟨digit, Nat.lt_succ_of_lt below, rfl⟩
        · exact ⟨bound, Nat.lt_succ_self bound, last⟩
      · rintro ⟨digit, below, rfl⟩
        rcases Nat.lt_succ_iff_lt_or_eq.mp below with smaller | rfl
        · exact Or.inl ⟨digit, smaller, rfl⟩
        · exact Or.inr rfl

/-- A word of a product whose first factor is a class of digits. -/
theorem mem_digitBelow_mul {bound : Nat}
    {pattern : RegularExpression Char} {word : List Char} :
    word ∈ (digitBelow bound * pattern).matches' ↔
      ∃ digit < bound, ∃ rest ∈ pattern.matches',
        word = Nat.digitChar digit :: rest := by
  rw [RegularExpression.matches'_mul, Language.mem_mul]
  constructor
  · rintro ⟨first, firstMember, rest, restMember, rfl⟩
    rcases mem_digitBelow.mp firstMember with ⟨digit, below, rfl⟩
    exact ⟨digit, below, rest, restMember, rfl⟩
  · rintro ⟨digit, below, rest, restMember, rfl⟩
    exact ⟨[Nat.digitChar digit], mem_digitBelow.mpr ⟨digit, below, rfl⟩,
      rest, restMember, rfl⟩

/-- A word of a product whose first factor is one character. -/
theorem mem_char_mul {char : Char}
    {pattern : RegularExpression Char} {word : List Char} :
    word ∈ (RegularExpression.char char * pattern).matches' ↔
      ∃ rest ∈ pattern.matches', word = char :: rest := by
  rw [RegularExpression.matches'_mul, Language.mem_mul]
  constructor
  · rintro ⟨first, rfl, rest, restMember, rfl⟩
    exact ⟨rest, restMember, rfl⟩
  · rintro ⟨rest, restMember, rfl⟩
    exact ⟨[char], rfl, rest, restMember, rfl⟩

/-! ## Digits and their values -/

/-- The value `Number` reads off one digit. -/
def digitValue (char : Char) : Nat :=
  char.toNat - '0'.toNat

theorem digitValue_digitChar {digit : Nat} (below : digit < 10) :
    digitValue (Nat.digitChar digit) = digit := by
  show (Nat.digitChar digit).toNat - 48 = digit
  rw [Nat.toNat_digitChar_of_lt_ten below]
  omega

theorem digitValue_lt {char : Char} (digit : char.isDigit = true) :
    digitValue char < 10 := by
  have bounds : 48 ≤ char.toNat ∧ char.toNat ≤ 57 :=
    Char.isDigit_iff_toNat.mp digit
  show char.toNat - 48 < 10
  omega

/-- A digit is the character of its value. -/
theorem digitChar_digitValue {char : Char} (digit : char.isDigit = true) :
    Nat.digitChar (digitValue char) = char := by
  have bounds : 48 ≤ char.toNat ∧ char.toNat ≤ 57 :=
    Char.isDigit_iff_toNat.mp digit
  apply Char.toNat_inj.mp
  rw [Nat.toNat_digitChar_of_lt_ten (digitValue_lt digit)]
  show 48 + (char.toNat - 48) = char.toNat
  omega

end WeatherNotify.Js

import Mathlib.Algebra.Field.Rat
import Mathlib.Data.Nat.Log

/-!
# JavaScript numbers read from strings and printed

`Number(text)` of ECMAScript: surrounding white space is dropped, the empty
text is zero, and what is left must be a decimal literal, an unsigned
hexadecimal, octal or binary one, or a signed `Infinity`.  Everything else is
`NaN`.  The value of a literal is the exact rational it denotes, rounded to
the nearest double with ties to even, so that a literal beyond the double
range becomes an infinity and one below the smallest denormal becomes zero.

Printing takes the fewest digits that are read back as the same double.
-/

namespace WeatherNotify.Js

/-- A number value; zero is not split by sign, no reader here tells them apart. -/
inductive Number where
  | nan
  | infinity (negative : Bool)
  | finite (value : Rat)
  deriving DecidableEq

namespace Number

def isFinite : Number → Bool
  | .finite _ => true
  | _ => false

/-- The comparison `number > 0`. -/
def isPositive : Number → Bool
  | .finite value => 0 < value
  | .infinity negative => !negative
  | .nan => false

/-! ## Rounding to a double -/

/-- Nearest natural number to `numerator / denominator`, ties to even. -/
def roundHalfEven (numerator denominator : Nat) : Nat :=
  let quotient := numerator / denominator
  let twice := 2 * (numerator % denominator)
  if twice < denominator then quotient
  else if denominator < twice then quotient + 1
  else quotient + quotient % 2

/-- The exponent of the last mantissa bit of a positive double near the ratio. -/
def lastBitExponent (numerator denominator : Nat) : Int :=
  let guess : Int :=
    (Nat.log 2 numerator : Int) - (Nat.log 2 denominator : Int)
  -- the logarithms may overshoot the ratio by one binary place
  let tooLarge :=
    if 0 ≤ guess then decide (numerator < denominator * 2 ^ guess.toNat)
    else decide (numerator * 2 ^ (-guess).toNat < denominator)
  let leading := if tooLarge then guess - 1 else guess
  max (-1074) (leading - 52)

/-- The double nearest to the magnitude `numerator / denominator`. -/
def ofMagnitude (negative : Bool) (numerator denominator : Nat) : Number :=
  let exponent := lastBitExponent numerator denominator
  let mantissa :=
    if 0 ≤ exponent then
      roundHalfEven numerator (denominator * 2 ^ exponent.toNat)
    else roundHalfEven (numerator * 2 ^ (-exponent).toNat) denominator
  let magnitude : Rat :=
    if 0 ≤ exponent then (mantissa * 2 ^ exponent.toNat : Nat)
    else (mantissa : Rat) / (2 ^ (-exponent).toNat : Nat)
  if (2 ^ 1024 : Nat) ≤ magnitude then .infinity negative
  else .finite (if negative then -magnitude else magnitude)

/-! ## Literals -/

/-- White space and line terminators that `trim` and `Number` ignore. -/
def isSpace (char : Char) : Bool :=
  char.val ∈ [0x09, 0x0A, 0x0B, 0x0C, 0x0D, 0x20, 0xA0, 0x1680, 0x2028,
    0x2029, 0x202F, 0x205F, 0x3000, 0xFEFF] ||
  (0x2000 ≤ char.val && char.val ≤ 0x200A)

def trimChars (chars : List Char) : List Char :=
  ((chars.dropWhile isSpace).reverse.dropWhile isSpace).reverse

/-- The value of a digit in bases up to sixteen. -/
def digitValue (char : Char) : Option Nat :=
  if '0' ≤ char ∧ char ≤ '9' then some (char.toNat - '0'.toNat)
  else if 'a' ≤ char ∧ char ≤ 'f' then some (char.toNat - 'a'.toNat + 10)
  else if 'A' ≤ char ∧ char ≤ 'F' then some (char.toNat - 'A'.toNat + 10)
  else none

def digitsInBase (base : Nat) (chars : List Char) : Option Nat :=
  if chars.isEmpty then none
  else chars.foldlM (fun total char =>
    match digitValue char with
    | some digit =>
        if digit < base then some (total * base + digit) else none
    | none => none) 0

/-- The exponent part of a decimal literal, without its `e`. -/
def signedExponent : List Char → Option Int
  | '+' :: digits => (digitsInBase 10 digits).map Int.ofNat
  | '-' :: digits => (digitsInBase 10 digits).map fun value => -(value : Int)
  | digits => (digitsInBase 10 digits).map Int.ofNat

/-- An unsigned decimal literal `12`, `12.`, `12.5`, `.5`, each with an exponent. -/
def decimalLiteral (negative : Bool) (chars : List Char) : Number :=
  let isE := fun char : Char => char == 'e' || char == 'E'
  let significand := chars.takeWhile fun char => !isE char
  let whole := significand.takeWhile fun char => char != '.'
  let fraction := (significand.dropWhile fun char => char != '.').drop 1
  let exponent :=
    match chars.dropWhile fun char => !isE char with
    | [] => some 0
    | _ :: digits => signedExponent digits
  match digitsInBase 10 (whole ++ fraction), exponent with
  | some digits, some power =>
      let scale := power - (fraction.length : Int)
      if digits = 0 then .finite 0
      else if 0 ≤ scale then
        ofMagnitude negative (digits * 10 ^ scale.toNat) 1
      else ofMagnitude negative digits (10 ^ (-scale).toNat)
  | _, _ => .nan

def signedLiteral (negative : Bool) (chars : List Char) : Number :=
  if chars = "Infinity".toList then .infinity negative
  else decimalLiteral negative chars

def basedLiteral (base : Nat) (digits : List Char) : Number :=
  match digitsInBase base digits with
  | some 0 => .finite 0
  | some value => ofMagnitude false value 1
  | none => .nan

/-- `Number(text)`. -/
def ofString (text : String) : Number :=
  match trimChars text.toList with
  | [] => .finite 0
  | '0' :: 'x' :: digits | '0' :: 'X' :: digits => basedLiteral 16 digits
  | '0' :: 'o' :: digits | '0' :: 'O' :: digits => basedLiteral 8 digits
  | '0' :: 'b' :: digits | '0' :: 'B' :: digits => basedLiteral 2 digits
  | '+' :: literal => signedLiteral false literal
  | '-' :: literal => signedLiteral true literal
  | literal => signedLiteral false literal

/-! ## Printing -/

/-- `digits × 10 ^ exponent`. -/
def scientific (digits : Nat) (exponent : Int) : Rat :=
  if 0 ≤ exponent then (digits * 10 ^ exponent.toNat : Nat)
  else (digits : Rat) / (10 ^ (-exponent).toNat : Nat)

/-- The number of digits before the point; `0` for `0.1`, `-1` for `0.01`. -/
def pointPosition (value : Rat) : Int :=
  if 1 ≤ value then Nat.log 10 value.floor.toNat + 1
  else 1 - (Nat.clog 10 (1 / value).ceil.toNat : Int)

/-- The fewest digits that are read back as the value, the nearest first. -/
def shortestDigits (value : Rat) : Nat × Int :=
  let candidates := (List.range 17).flatMap fun (length : Nat) =>
    let exponent := pointPosition value - (length + 1 : Nat)
    let scaled := value / scientific 1 exponent
    [roundHalfEven scaled.num.toNat scaled.den, scaled.floor.toNat,
      scaled.ceil.toNat].map fun digits => (digits, exponent)
  let readsBack := fun (digits, exponent) =>
    let decimal := scientific digits exponent
    ofMagnitude false decimal.num.toNat decimal.den = .finite value
  (candidates.find? readsBack).getD (0, 0)

def zeros (count : Nat) : List Char :=
  List.replicate count '0'

/-- Digits with their point, or in exponent notation when it is far away. -/
def layout (digits : List Char) (point : Int) : List Char :=
  if digits.length ≤ point ∧ point ≤ 21 then
    digits ++ zeros (point.toNat - digits.length)
  else if 0 < point ∧ point ≤ 21 then
    digits.take point.toNat ++ '.' :: digits.drop point.toNat
  else if -6 < point ∧ point ≤ 0 then
    '0' :: '.' :: (zeros (-point).toNat ++ digits)
  else
    let fraction :=
      if digits.length = 1 then [] else '.' :: digits.drop 1
    digits.take 1 ++ fraction ++
      'e' :: (if point ≤ 0 then '-' else '+') ::
        Nat.toDigits 10 (point - 1).natAbs

def magnitudeText (value : Rat) : List Char :=
  let (digits, exponent) := shortestDigits value
  let text := Nat.toDigits 10 digits
  let significant := (text.reverse.dropWhile (· == '0')).reverse
  layout significant (exponent + text.length)

/-- `String(number)`. -/
def toText : Number → String
  | .nan => "NaN"
  | .infinity negative => if negative then "-Infinity" else "Infinity"
  | .finite value =>
      if value = 0 then "0"
      else if value < 0 then
        String.ofList ('-' :: magnitudeText (-value))
      else String.ofList (magnitudeText value)

end Number

end WeatherNotify.Js

import WeatherNotify.Auth.Sessions
import WeatherNotify.Js.Number

/-!
# Token lifetimes

`parseDurationMs` reads a JWT-style duration such as `15m` or `7d`.  Both
lifetimes are parsed when the service boots, so a malformed one never reaches
a request.

The product is exact here and a double in the source.  They differ from
`2 ^ 53` milliseconds on, where no `Date` is valid and no session row could be
written.
-/

namespace WeatherNotify.Auth

open WeatherNotify.Js

/-- The milliseconds of the unit letters `s`, `m`, `h` and `d`. -/
def unitMs : Char → Option Nat
  | 's' => some 1000
  | 'm' => some 60000
  | 'h' => some 3600000
  | 'd' => some 86400000
  | _ => none

/-- The value of a run of digits `\d+`. -/
def decimalDigits (chars : List Char) : Option Nat :=
  Number.digitsInBase 10 chars

def parseDurationMs (value : String) : Except String Nat :=
  let trimmed := Number.trimChars value.toList
  match decimalDigits trimmed.dropLast, trimmed.getLast?.bind unitMs with
  | some amount, some unit => .ok (amount * unit)
  | _, _ =>
      .error ("Invalid JWT duration \"" ++ value ++
        "\" — expected a value like \"15m\" or \"7d\"")

def defaultAccessTtl : String := "15m"

def defaultRefreshTtl : String := "7d"

/-- The lifetimes an `AuthService` is constructed with. -/
def loadConfig (accessTtl refreshTtl : Option String) :
    Except String Config := do
  let access ← parseDurationMs (accessTtl.getD defaultAccessTtl)
  let refresh ← parseDurationMs (refreshTtl.getD defaultRefreshTtl)
  return ⟨access, refresh⟩

example : loadConfig none none = .ok ⟨900000, 604800000⟩ := by rfl

end WeatherNotify.Auth

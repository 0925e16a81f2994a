import WeatherNotify.Js.Pattern
import WeatherNotify.Triggers.Repository

/-!
# The profile a user can save

The body of a profile update with the checks that run before it is stored.  A
property that is missing or `null` is not checked; the zone names are the ones
the runtime supports.
-/

namespace WeatherNotify.Users

open WeatherNotify.Js
open WeatherNotify.Triggers

structure UpdateProfileDto where
  quietHoursStart : Property String
  quietHoursEnd : Property String
  timezone : Property String
  deriving DecidableEq

/-- `/^([01]\d|2[0-3]):[0-5]\d$/`. -/
def HHMM : RegularExpression Char :=
  (digitBelow 2 * digitBelow 10 + .char '2' * digitBelow 4) *
    (.char ':' * (digitBelow 6 * digitBelow 10))

/-- The message of an optional property whose value is refused. -/
def refusals (accepts : String → Bool) (message : String) :
    Property String → List String
  | .given value => if accepts value then [] else [message]
  | .absent | .null => []

namespace UpdateProfileDto

def errors (timezones : List String) (dto : UpdateProfileDto) :
    List String :=
  refusals (acceptsWhole HHMM) "quietHoursStart must be HH:MM"
      dto.quietHoursStart ++
    refusals (acceptsWhole HHMM) "quietHoursEnd must be HH:MM"
      dto.quietHoursEnd ++
    refusals timezones.contains "timezone must be a valid IANA name"
      dto.timezone

end UpdateProfileDto

theorem refusals_given_eq_nil_iff {accepts : String → Bool}
    {message value : String} :
    refusals accepts message (.given value) = [] ↔
      accepts value = true := by
  show (if accepts value then [] else [message]) = [] ↔ _
  cases accepts value <;> simp

/-- A body that passes its checks carries bounds the pattern accepts. -/
theorem UpdateProfileDto.accepted_of_errors {timezones : List String}
    {dto : UpdateProfileDto} {start finish : String}
    (valid : dto.errors timezones = [])
    (startGiven : dto.quietHoursStart = .given start)
    (finishGiven : dto.quietHoursEnd = .given finish) :
    acceptsWhole HHMM start = true ∧ acceptsWhole HHMM finish = true := by
  rw [UpdateProfileDto.errors, startGiven, finishGiven] at valid
  rcases List.append_eq_nil_iff.mp valid with ⟨bounds, _⟩
  rcases List.append_eq_nil_iff.mp bounds with ⟨first, second⟩
  constructor
  · exact refusals_given_eq_nil_iff.mp first
  · exact refusals_given_eq_nil_iff.mp second

end WeatherNotify.Users

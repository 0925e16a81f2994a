import Mathlib.Data.String.Basic

/-!
# Quiet hours

A user's quiet window is two local `HH:MM` texts and a time zone.  Formatting
an instant in a zone is the platform's business, so it is a parameter: for a
zone the platform knows it answers the hour and the minute as printed, where
midnight may be printed as hour 24.
-/

namespace WeatherNotify.Domain

/-- `/^(\d{2}):(\d{2})$/` followed by the range check. -/
def parseHHMM (value : String) : Option Nat :=
  match value.toList with
  | [h₁, h₂, ':', m₁, m₂] =>
      if h₁.isDigit && h₂.isDigit && m₁.isDigit && m₂.isDigit then
        let hour := (h₁.toNat - '0'.toNat) * 10 + (h₂.toNat - '0'.toNat)
        let minute := (m₁.toNat - '0'.toNat) * 10 + (m₂.toNat - '0'.toNat)
        if 23 < hour || 59 < minute then none else some (hour * 60 + minute)
      else none
  | _ => none

/--
The hour and minute printed for an instant in a named zone; `none` for a zone
the platform rejects.
-/
abbrev Zones := String → Int → Option (Nat × Nat)

/-- The hour and minute of an instant in milliseconds, in UTC. -/
def utcParts (now : Int) : Nat × Nat :=
  ((now / 3600000 % 24).toNat, (now / 60000 % 60).toNat)

/-- A rejected zone falls back to UTC. -/
def formatParts (zones : Zones) (now : Int) (timeZone : String) :
    Nat × Nat :=
  (zones timeZone now).getD (utcParts now)

def localMinutes (zones : Zones) (now : Int) (timezone : Option String) :
    Nat :=
  let parts :=
    formatParts zones now ((timezone.filter (· ≠ "")).getD "UTC")
  parts.1 % 24 * 60 + parts.2

/-- Whether `now` falls inside the window; a malformed window never holds. -/
def isWithinQuietHours (zones : Zones) (now : Int)
    (start finish timezone : Option String) : Bool :=
  match start.bind parseHHMM, finish.bind parseHHMM with
  | some startMin, some endMin =>
      if startMin = endMin then false
      else
        let nowMin := localMinutes zones now timezone
        if startMin < endMin then
          decide (startMin ≤ nowMin) && decide (nowMin < endMin)
        else
          -- the window wraps past midnight
          decide (startMin ≤ nowMin) || decide (nowMin < endMin)
  | _, _ => false

end WeatherNotify.Domain

import WeatherNotify.Js.Number
import WeatherNotify.Js.Pattern
import WeatherNotify.Triggers.Repository

/-!
# The texts of an alert

Title and text are the same for every channel; only their framing differs.  An
e-mail puts both into markup, where the names a user chose must not read as
markup themselves.
-/

namespace WeatherNotify.Notifier

open WeatherNotify.Js
open WeatherNotify.Triggers

/-! ## The event -/

structure FiredCondition where
  metric : Metric
  operator : Operator
  threshold : Rat
  observedValue : Rat
  deriving DecidableEq

/-- The published event as far as the channels read it. -/
structure TriggerFiredEvent where
  eventId : String
  userId : String
  triggerName : String
  city : String
  conditions : List FiredCondition
  conditionLogic : ConditionLogic
  test : Option Bool
  deriving DecidableEq

/-! ## Its texts -/

def metricLabel : Metric → String
  | .temperature => "Temperature"
  | .apparentTemp => "Feels like"
  | .windSpeed => "Wind speed"
  | .precipitation => "Precipitation"
  | .humidity => "Humidity"
  | .severe => "Severe weather"

def operatorLabel : Operator → String
  | .gt => ">"
  | .gte => "≥"
  | .lt => "<"
  | .lte => "≤"
  | .eq => "="

def testPrefix (event : TriggerFiredEvent) : String :=
  if event.test = some true then "[TEST] " else ""

def describeCondition (condition : FiredCondition) : String :=
  let observed := (Number.finite condition.observedValue).toText
  if condition.metric = .severe then
    "severe weather (WMO " ++ observed ++ ")"
  else
    metricLabel condition.metric ++ " " ++ observed ++ " (" ++
      operatorLabel condition.operator ++ " " ++
      (Number.finite condition.threshold).toText ++ ")"

def alertTitle (event : TriggerFiredEvent) : String :=
  testPrefix event ++ "Weather alert: " ++ event.triggerName ++ " (" ++
    event.city ++ ")"

def alertText (event : TriggerFiredEvent) : String :=
  let joiner := if event.conditionLogic = .or then " or " else " and "
  testPrefix event ++ "In " ++ event.city ++ ": " ++
    joiner.intercalate (event.conditions.map describeCondition) ++ "."

/-! ## Its markup -/

def htmlEscape : List (Char × String) :=
  [('&', "&amp;"), ('<', "&lt;"), ('>', "&gt;"), ('"', "&quot;"),
    ('\'', "&#39;")]

/-- A character that is not in the table would become the text `undefined`. -/
def escapeHtml (value : String) : String :=
  replaceEach ['&', '<', '>', '"', '\'']
    (fun char => (htmlEscape.lookup char).getD "undefined") value

def alertHtml (event : TriggerFiredEvent) : String :=
  "<h2>" ++ escapeHtml (alertTitle event) ++ "</h2><p>" ++
    escapeHtml (alertText event) ++ "</p>"

end WeatherNotify.Notifier

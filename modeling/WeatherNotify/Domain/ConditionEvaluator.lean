import WeatherNotify.Notifier.Format

/-!
# Conditions against a weather snapshot

A condition compares one metric of a snapshot with its threshold, the severe
one apart, which only asks for the weather code.  The conditions of a trigger
are combined with its logic, and each comes back with its own verdict and the
value it was given for.

The rounding of a difference of two doubles is a parameter.
-/

namespace WeatherNotify.Domain

open WeatherNotify.Notifier
open WeatherNotify.Triggers

/-! ## One condition -/

structure WeatherSnapshot where
  temperature : Rat
  apparentTemp : Rat
  humidity : Rat
  windSpeed : Rat
  precipitation : Rat
  weatherCode : Rat
  deriving DecidableEq

structure ConditionResult where
  matched : Bool
  observedValue : Rat
  deriving DecidableEq

def severeWeatherCodes : List Rat :=
  [65, 67, 75, 82, 86, 95, 96, 99]

def isSevereWeatherCode (code : Rat) : Bool :=
  code ∈ severeWeatherCodes

def eqTolerance : Rat := 1 / 2

def metricValue (snapshot : WeatherSnapshot) : Metric → Rat
  | .temperature => snapshot.temperature
  | .apparentTemp => snapshot.apparentTemp
  | .windSpeed => snapshot.windSpeed
  | .precipitation => snapshot.precipitation
  | .humidity => snapshot.humidity
  | .severe => snapshot.weatherCode

section Rounding

variable (round : Rat → Rat)

def compare (value : Rat) (operator : Operator) (threshold : Rat) : Bool :=
  match operator with
  | .gt => threshold < value
  | .gte => threshold ≤ value
  | .lt => value < threshold
  | .lte => value ≤ threshold
  | .eq => |round (value - threshold)| ≤ eqTolerance

def evaluateCondition (snapshot : WeatherSnapshot) (metric : Metric)
    (operator : Operator) (threshold : Rat) : ConditionResult :=
  if metric = .severe then
    { matched := isSevereWeatherCode snapshot.weatherCode
      observedValue := snapshot.weatherCode }
  else
    let observedValue := metricValue snapshot metric
    { matched := compare round observedValue operator threshold
      observedValue := observedValue }

/-! ## Several conditions -/

/-- A condition with its own verdict; what else it carries is kept. -/
structure EvaluatedCondition (Condition : Type) where
  condition : Condition
  matched : Bool
  observedValue : Rat
  deriving DecidableEq

structure ConditionsResult (Condition : Type) where
  matched : Bool
  results : List (EvaluatedCondition Condition)
  deriving DecidableEq

variable {Condition : Type}

/-- `spec` is what a condition of the caller's own kind compares. -/
def enriched (spec : Condition → ConditionDto) (snapshot : WeatherSnapshot)
    (condition : Condition) : EvaluatedCondition Condition :=
  let result := evaluateCondition round snapshot (spec condition).metric
    (spec condition).operator (spec condition).threshold
  { condition := condition
    matched := result.matched
    observedValue := result.observedValue }

def evaluateConditions (spec : Condition → ConditionDto)
    (snapshot : WeatherSnapshot) (conditions : List Condition)
    (logic : ConditionLogic) : ConditionsResult Condition :=
  let results := conditions.map (enriched round spec snapshot)
  { matched :=
      if conditions.isEmpty then false
      else if logic = .or then results.any EvaluatedCondition.matched
      else results.all EvaluatedCondition.matched
    results := results }

/-! ## The verdict can be read off the observed value -/

/-- The verdict on a condition, given only the value it was observed at. -/
def verdict (spec : ConditionDto) (observedValue : Rat) : Bool :=
  if spec.metric = .severe then isSevereWeatherCode observedValue
  else compare round observedValue spec.operator spec.threshold

/-- What a fired condition compares. -/
def firedSpec (condition : FiredCondition) : ConditionDto where
  metric := condition.metric
  operator := condition.operator
  threshold := condition.threshold

/-- The conditions an event lists bear it out under its own logic. -/
def Justified (event : TriggerFiredEvent) : Prop :=
  event.conditions ≠ [] ∧
    match event.conditionLogic with
    | .and => ∀ condition ∈ event.conditions,
        verdict round (firedSpec condition) condition.observedValue = true
    | .or => ∃ condition ∈ event.conditions,
        verdict round (firedSpec condition) condition.observedValue = true

variable {round} {snapshot : WeatherSnapshot}
variable {spec : Condition → ConditionDto}

theorem evaluateCondition_eq (spec : ConditionDto) :
    evaluateCondition round snapshot spec.metric spec.operator
        spec.threshold =
      ⟨verdict round spec (metricValue snapshot spec.metric),
        metricValue snapshot spec.metric⟩ := by
  unfold evaluateCondition verdict
  split
  case isTrue severe =>
    rw [severe]
    rfl
  case isFalse => rfl

@[simp]
theorem enriched_condition (condition : Condition) :
    (enriched round spec snapshot condition).condition = condition :=
  rfl

@[simp]
theorem enriched_observedValue (condition : Condition) :
    (enriched round spec snapshot condition).observedValue =
      metricValue snapshot (spec condition).metric := by
  unfold enriched
  rw [evaluateCondition_eq]

@[simp]
theorem enriched_matched (condition : Condition) :
    (enriched round spec snapshot condition).matched =
      verdict round (spec condition)
        (metricValue snapshot (spec condition).metric) := by
  unfold enriched
  rw [evaluateCondition_eq]

/-- An empty list never matches; otherwise the logic decides. -/
theorem evaluateConditions_matched_iff {conditions : List Condition}
    {logic : ConditionLogic} :
    (evaluateConditions round spec snapshot conditions logic).matched =
        true ↔
      conditions ≠ [] ∧
        match logic with
        | .and => ∀ condition ∈ conditions, verdict round (spec condition)
            (metricValue snapshot (spec condition).metric) = true
        | .or => ∃ condition ∈ conditions, verdict round (spec condition)
            (metricValue snapshot (spec condition).metric) = true := by
  cases conditions with
  | nil => simp [evaluateConditions]
  | cons first rest => cases logic <;> simp [evaluateConditions]

end Rounding

end WeatherNotify.Domain

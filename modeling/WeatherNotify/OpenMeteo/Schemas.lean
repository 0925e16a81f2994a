import WeatherNotify.Domain.ConditionEvaluator
import WeatherNotify.Js.Schema

/-!
# What the upstream answers and what is made of it

Three responses are read: the current weather for the watcher, a forecast and
a list of cities for the API.  What is made of each is kept in the cache as a
text, so it is written down as a value here; what the services take a cached
value for is read back from it.
-/

namespace WeatherNotify.OpenMeteo

open WeatherNotify.Domain
open WeatherNotify.Js
open WeatherNotify.Js.Value

/-! ## The current weather -/

structure OpenMeteoCurrent where
  temperature2m : Rat
  apparentTemperature : Rat
  relativeHumidity2m : Rat
  windSpeed10m : Rat
  precipitation : Rat
  weatherCode : Rat
  deriving DecidableEq

def openMeteoCurrentSchema (data : Value) : Option OpenMeteoCurrent := do
  let fields ← object data
  return {
    temperature2m := ← required fields "temperature_2m" number
    apparentTemperature := ← required fields "apparent_temperature" number
    relativeHumidity2m := ← required fields "relative_humidity_2m" number
    windSpeed10m := ← required fields "wind_speed_10m" number
    precipitation := ← required fields "precipitation" number
    weatherCode := ← required fields "weather_code" number }

def openMeteoResponseSchema (data : Value) : Option OpenMeteoCurrent := do
  required (← object data) "current" openMeteoCurrentSchema

def toSnapshot (current : OpenMeteoCurrent) : WeatherSnapshot where
  temperature := current.temperature2m
  apparentTemp := current.apparentTemperature
  humidity := current.relativeHumidity2m
  windSpeed := current.windSpeed10m
  precipitation := current.precipitation
  weatherCode := current.weatherCode

def snapshotValue (snapshot : WeatherSnapshot) : Value :=
  .obj [("temperature", ofNumber snapshot.temperature),
    ("apparentTemp", ofNumber snapshot.apparentTemp),
    ("humidity", ofNumber snapshot.humidity),
    ("windSpeed", ofNumber snapshot.windSpeed),
    ("precipitation", ofNumber snapshot.precipitation),
    ("weatherCode", ofNumber snapshot.weatherCode)]

/-- The snapshot a cached value is taken for. -/
def readSnapshot (data : Value) : Option WeatherSnapshot := do
  let fields ← object data
  return {
    temperature := ← required fields "temperature" number
    apparentTemp := ← required fields "apparentTemp" number
    humidity := ← required fields "humidity" number
    windSpeed := ← required fields "windSpeed" number
    precipitation := ← required fields "precipitation" number
    weatherCode := ← required fields "weatherCode" number }

@[simp]
theorem readSnapshot_snapshotValue (snapshot : WeatherSnapshot) :
    readSnapshot (snapshotValue snapshot) = some snapshot :=
  rfl

/-! ## The forecast -/

structure ForecastCurrent extends OpenMeteoCurrent where
  time : String
  deriving DecidableEq

structure ForecastDaily where
  time : List String
  weatherCode : List Rat
  temperature2mMax : List Rat
  temperature2mMin : List Rat
  precipitationProbabilityMax : List (Option Rat)
  deriving DecidableEq

structure Forecast where
  current : ForecastCurrent
  daily : ForecastDaily
  deriving DecidableEq

def forecastCurrentSchema (data : Value) : Option ForecastCurrent := do
  let fields ← object data
  return {
    toOpenMeteoCurrent := ← openMeteoCurrentSchema data
    time := ← required fields "time" string }

def forecastDailySchema (data : Value) : Option ForecastDaily := do
  let fields ← object data
  return {
    time := ← required fields "time" (array string)
    weatherCode := ← required fields "weather_code" (array number)
    temperature2mMax := ← required fields "temperature_2m_max" (array number)
    temperature2mMin := ← required fields "temperature_2m_min" (array number)
    precipitationProbabilityMax := ← required fields
      "precipitation_probability_max" (array (nullable number)) }

def forecastSchema (data : Value) : Option Forecast := do
  let fields ← object data
  return {
    current := ← required fields "current" forecastCurrentSchema
    daily := ← required fields "daily" forecastDailySchema }

structure CurrentWeatherDto extends WeatherSnapshot where
  time : String
  deriving DecidableEq

/-- One day; what the upstream listed too few of is undefined. -/
structure DailyForecastDto where
  date : String
  weatherCode : Option Rat
  tempMax : Option Rat
  tempMin : Option Rat
  precipitationProbability : Option Rat
  deriving DecidableEq

structure ForecastResponseDto where
  current : CurrentWeatherDto
  daily : List DailyForecastDto
  deriving DecidableEq

def toReport (data : Forecast) : ForecastResponseDto where
  current :=
    { toWeatherSnapshot := toSnapshot data.current.toOpenMeteoCurrent
      time := data.current.time }
  daily := data.daily.time.mapIdx fun index date =>
    { date := date
      weatherCode := data.daily.weatherCode[index]?
      tempMax := data.daily.temperature2mMax[index]?
      tempMin := data.daily.temperature2mMin[index]?
      precipitationProbability :=
        data.daily.precipitationProbabilityMax[index]?.join }

def currentValue (current : CurrentWeatherDto) : Value :=
  .obj [("time", .str current.time),
    ("temperature", ofNumber current.temperature),
    ("apparentTemp", ofNumber current.apparentTemp),
    ("humidity", ofNumber current.humidity),
    ("windSpeed", ofNumber current.windSpeed),
    ("precipitation", ofNumber current.precipitation),
    ("weatherCode", ofNumber current.weatherCode)]

def dayValue (day : DailyForecastDto) : Value :=
  .obj (("date", .str day.date) ::
    (ofOptional "weatherCode" ofNumber day.weatherCode ++
      (ofOptional "tempMax" ofNumber day.tempMax ++
        (ofOptional "tempMin" ofNumber day.tempMin ++
          [("precipitationProbability",
            ofNullable ofNumber day.precipitationProbability)]))))

def reportValue (report : ForecastResponseDto) : Value :=
  .obj [("current", currentValue report.current),
    ("daily", .arr (report.daily.map dayValue))]

def readCurrent (data : Value) : Option CurrentWeatherDto := do
  let fields ← object data
  return {
    toWeatherSnapshot := ← readSnapshot data
    time := ← required fields "time" string }

def readDay (data : Value) : Option DailyForecastDto := do
  let fields ← object data
  return {
    date := ← required fields "date" string
    weatherCode := ← optional fields "weatherCode" number
    tempMax := ← optional fields "tempMax" number
    tempMin := ← optional fields "tempMin" number
    precipitationProbability := ← required fields "precipitationProbability"
      (nullable number) }

/-- The forecast a cached value is taken for. -/
def readReport (data : Value) : Option ForecastResponseDto := do
  let fields ← object data
  return {
    current := ← required fields "current" readCurrent
    daily := ← required fields "daily" (array readDay) }

@[simp]
theorem readCurrent_currentValue (current : CurrentWeatherDto) :
    readCurrent (currentValue current) = some current :=
  rfl

@[simp]
theorem readDay_dayValue (day : DailyForecastDto) :
    readDay (dayValue day) = some day := by
  obtain ⟨date, weatherCode, tempMax, tempMin, precipitationProbability⟩ := day
  cases weatherCode <;> cases tempMax <;> cases tempMin <;>
    cases precipitationProbability <;> rfl

@[simp]
theorem readReport_reportValue (report : ForecastResponseDto) :
    readReport (reportValue report) = some report := by
  have days := array_map readDay_dayValue report.daily
  have current := readCurrent_currentValue report.current
  simp only [readReport, reportValue, object_obj, required, member,
    List.find?_cons, decide_true, Option.map_some, Option.bind_some,
    Option.bind_eq_bind, current]
  simp [days]

/-! ## Cities -/

structure GeocodeResultDto where
  name : String
  country : Option String
  admin1 : Option String
  latitude : Rat
  longitude : Rat
  deriving DecidableEq

def geocodeResultSchema (data : Value) : Option GeocodeResultDto := do
  let fields ← object data
  return {
    name := ← required fields "name" string
    country := ← optional fields "country" string
    admin1 := ← optional fields "admin1" string
    latitude := ← required fields "latitude" number
    longitude := ← required fields "longitude" number }

/-- The results, none when the member is missing. -/
def geocodingResponseSchema (data : Value) :
    Option (List GeocodeResultDto) := do
  let results ← optional (← object data) "results" (array geocodeResultSchema)
  return results.getD []

def resultValue (result : GeocodeResultDto) : Value :=
  .obj [("name", .str result.name),
    ("country", ofNullable .str result.country),
    ("admin1", ofNullable .str result.admin1),
    ("latitude", ofNumber result.latitude),
    ("longitude", ofNumber result.longitude)]

def resultsValue (results : List GeocodeResultDto) : Value :=
  .arr (results.map resultValue)

def readResult (data : Value) : Option GeocodeResultDto := do
  let fields ← object data
  return {
    name := ← required fields "name" string
    country := ← required fields "country" (nullable string)
    admin1 := ← required fields "admin1" (nullable string)
    latitude := ← required fields "latitude" number
    longitude := ← required fields "longitude" number }

/-- The cities a cached value is taken for. -/
def readResults : Value → Option (List GeocodeResultDto) :=
  array readResult

@[simp]
theorem readResult_resultValue (result : GeocodeResultDto) :
    readResult (resultValue result) = some result := by
  obtain ⟨name, country, admin1, latitude, longitude⟩ := result
  cases country <;> cases admin1 <;> rfl

@[simp]
theorem readResults_resultsValue (results : List GeocodeResultDto) :
    readResults (resultsValue results) = some results :=
  array_map readResult_resultValue results

end WeatherNotify.OpenMeteo

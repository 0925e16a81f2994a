import WeatherNotify.Auth.LoginBudget
import WeatherNotify.Caching.ReadThrough
import WeatherNotify.Common.Throttler
import WeatherNotify.Domain.CacheKeys
import WeatherNotify.OpenMeteo.Schemas
import WeatherNotify.Triggers.TestSend
import WeatherNotify.Watcher.Sharding

/-!
# The three services behind the cache

The watcher's weather provider, the API's forecast and the API's city search
read through one store.  Their keys differ in the first two characters, from
each other and from everything else kept there, so a cached value can be taken
for what the service itself once wrote.
-/

namespace WeatherNotify.OpenMeteo

open WeatherNotify.Caching
open WeatherNotify.Domain
open WeatherNotify.Js
open WeatherNotify.Transition

/-- What the runtime computes and what the environment configures. -/
structure Services where
  toLowerCase : String → String
  sha256 : String → String
  /-- `WEATHER_CACHE_TTL_SEC`, when it is set. -/
  weatherCacheTtlSec : Option String

/-- A call of `getSnapshot`, of `get` or of `search`. -/
inductive Query where
  | snapshot (place : Coordinates)
  | forecast (place : Coordinates)
  | search (query : String)

namespace Services

variable (services : Services)

def defaultCacheTtlSec : Rat := 240

/-- How long the provider wants a snapshot to be kept, in seconds. -/
def ttl : Rat :=
  let configured :=
    match services.weatherCacheTtlSec with
    | some text => Number.ofString text
    | none => .nan
  match configured with
  | .finite seconds => if 0 < seconds then seconds else defaultCacheTtlSec
  | _ => defaultCacheTtlSec

/-- Case and surrounding space make no difference to a search. -/
def normalised (query : String) : String :=
  services.toLowerCase (String.ofList (Number.trimChars query.toList))

/-- The key of the API's city search. -/
def geocodeKey (query : String) : String :=
  "geocode:" ++ services.sha256 (services.normalised query)

def key : Query → String
  | .snapshot place => cacheKey place
  | .forecast place => forecastKey place
  | .search query => services.geocodeKey query

def ttlSec : Query → Rat
  | .snapshot _ => services.ttl
  | .forecast _ => 300
  | .search _ => 24 * 60 * 60

/-- What the store makes of `EX`: whole seconds whose milliseconds it can count. -/
def expiry (seconds : Rat) : Option Int :=
  if seconds.den = 1 ∧ seconds.num * 1000 < 2 ^ 63 then
    some (seconds.num * 1000)
  else none

/-- The number of retries of a request that failed. -/
def retries : Query → Nat
  | .snapshot _ => 1
  | .forecast _ | .search _ => 0

/-- What is made of the body of a response, as it is written down. -/
def interpret : Query → Value → Option Value
  | .snapshot _, data =>
      (openMeteoResponseSchema data).map fun current =>
        snapshotValue (toSnapshot current)
  | .forecast _, data =>
      (forecastSchema data).map fun forecast =>
        reportValue (toReport forecast)
  | .search _, data => (geocodingResponseSchema data).map resultsValue

/-- A broken search finds nothing; the other two reject. -/
def onFailure : Query → Option Value
  | .search _ => some (resultsValue [])
  | .snapshot _ | .forecast _ => none

def source : Source Query String Value Value where
  key := services.key
  lifetime query := expiry (services.ttlSec query)
  repeats := retries
  interpret := interpret
  usable := Value.truthy
  fallback := onFailure

end Services

variable {services : Services}

/-! ## Keys -/

/-- Two calls of one service that share an entry. -/
def SameEntry (services : Services) : Query → Query → Prop
  | .snapshot place, .snapshot other | .forecast place, .forecast other =>
      toFixed 2 place.latitude = toFixed 2 other.latitude ∧
        toFixed 2 place.longitude = toFixed 2 other.longitude
  | .search query, .search other =>
      services.sha256 (services.normalised query) =
        services.sha256 (services.normalised other)
  | _, _ => False

/-- The first two characters of a key. -/
def leading (key : String) : List Char :=
  key.toList.take 2

theorem leading_append {literal : String} (long : 2 ≤ literal.toList.length)
    (rest : String) : leading (literal ++ rest) = leading literal := by
  rw [leading, String.toList_append, List.take_append_of_le_length long,
    leading]

theorem leading_cacheKey (place : Coordinates) :
    leading (cacheKey place) = ['w', 'e'] := by
  rw [cacheKey, String.append_assoc, String.append_assoc,
    leading_append (by decide)]
  rfl

theorem leading_forecastKey (place : Coordinates) :
    leading (forecastKey place) = ['f', 'o'] := by
  rw [forecastKey, String.append_assoc, String.append_assoc,
    leading_append (by decide)]
  rfl

theorem leading_geocodeKey (query : String) :
    leading (services.geocodeKey query) = ['g', 'e'] :=
  leading_append (by decide) _

/-- A key that begins like none of the three is the key of no query. -/
theorem key_ne_of_leading {key : String}
    (elsewhere : leading key ∉ [['w', 'e'], ['f', 'o'], ['g', 'e']])
    (query : Query) : services.source.key query ≠ key := by
  rintro rfl
  apply elsewhere
  cases query with
  | snapshot place =>
      rw [show leading (services.source.key (.snapshot place)) = ['w', 'e']
        from leading_cacheKey place]
      decide
  | forecast place =>
      rw [show leading (services.source.key (.forecast place)) = ['f', 'o']
        from leading_forecastKey place]
      decide
  | search query =>
      rw [show leading (services.source.key (.search query)) = ['g', 'e']
        from leading_geocodeKey query]
      decide

/-- Locks, counters and windows live under other keys. -/
theorem key_ne_cycleLockKey (query : Query) (shard : Watcher.ShardConfig) :
    services.source.key query ≠ Watcher.cycleLockKey shard := by
  apply key_ne_of_leading
  unfold Watcher.cycleLockKey
  split
  · rw [leading_append (by decide)]
    decide
  · decide

theorem key_ne_loginFailureKey (query : Query)
    (login : LoginBudget.Services) (email : String) :
    services.source.key query ≠ LoginBudget.loginFailureKey login email := by
  apply key_ne_of_leading
  rw [LoginBudget.loginFailureKey, leading_append (by decide)]
  decide

theorem key_ne_hitKey (query : Query) (throttle : Common.Throttler.Throttle) :
    services.source.key query ≠ throttle.hitKey := by
  apply key_ne_of_leading
  rw [Common.Throttler.Throttle.hitKey, String.append_assoc, String.append_assoc,
    leading_append (by decide)]
  decide

theorem key_ne_cooldownKey (query : Query) (userId : String) :
    services.source.key query ≠ Triggers.TestSend.cooldownKey userId := by
  apply key_ne_of_leading
  rw [Triggers.TestSend.cooldownKey, leading_append (by decide)]
  decide

end WeatherNotify.OpenMeteo

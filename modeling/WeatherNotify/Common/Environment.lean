import WeatherNotify.Js.Digits
import WeatherNotify.Js.Integers

/-!
# The environment a process boots with

Each service checks its environment variables against a schema before it
starts, and refuses to start when one of them does not fit.  A variable is a
text or missing; the schema also turns it into the value that is used.
-/

namespace WeatherNotify.Common

open WeatherNotify.Js

/-- `process.env`. -/
abbrev ProcessEnv := String → Option String

/-! ## Checks of one variable -/

/-- `z.string().min(1)`. -/
def required (env : ProcessEnv) (name : String) : Option String :=
  (env name).filter fun value => value ≠ ""

/-- `schema.optional()`: a missing variable passes. -/
def optional {α : Type} (schema : String → Option α) :
    Option String → Option (Option α)
  | none => some none
  | some value => (schema value).map some

/-- A secret is long enough and not the placeholder. -/
def jwtSecret (env : ProcessEnv) (name : String) : Option String :=
  (env name).filter fun value =>
    32 ≤ (value.toList.flatMap codeUnits).length &&
      !"change-me".toList.isPrefixOf value.toList

/-- `/^\d+$/`, then `Number`. -/
def nonNegativeInt (value : String) : Option Number :=
  if acceptsWhole digits value then some (.ofString value) else none

/-- `/^(\S+\s+){4,5}\S+$/`, read off which characters are white space. -/
def cronFields : RegularExpression Bool :=
  let field := RegularExpression.char false * (RegularExpression.char false).star
  let gap := RegularExpression.char true * (RegularExpression.char true).star
  let fourGaps := field * gap * (field * gap) * (field * gap) * (field * gap)
  fourGaps * field + fourGaps * (field * gap) * field

def cronExpression (value : String) : Option String :=
  if cronFields.rmatch (value.toList.map Number.isSpace) then some value
  else none

inductive NodeEnv where
  | development
  | production
  | test
  deriving DecidableEq

/-- An enumeration with a default for the missing value. -/
def nodeEnv : Option String → Option NodeEnv
  | none => some .development
  | some "development" => some .development
  | some "production" => some .production
  | some "test" => some .test
  | some _ => none

inductive CookieSameSite where
  | lax
  | strict
  | none
  deriving DecidableEq

def cookieSameSite : String → Option CookieSameSite
  | "lax" => some .lax
  | "strict" => some .strict
  | "none" => some .none
  | _ => Option.none

/-! ## The schemas -/

structure CoreApiEnv where
  nodeEnv : NodeEnv
  databaseUrl : String
  redisUrl : String
  rabbitmqUrl : String
  jwtAccessSecret : String
  jwtRefreshSecret : String
  cookieSameSite : Option CookieSameSite
  deriving DecidableEq

def coreApiEnvSchema (env : ProcessEnv) : Option CoreApiEnv := do
  let parsed : CoreApiEnv := {
    nodeEnv := ← Common.nodeEnv (env "NODE_ENV")
    databaseUrl := ← required env "DATABASE_URL"
    redisUrl := ← required env "REDIS_URL"
    rabbitmqUrl := ← required env "RABBITMQ_URL"
    jwtAccessSecret := ← jwtSecret env "JWT_ACCESS_SECRET"
    jwtRefreshSecret := ← jwtSecret env "JWT_REFRESH_SECRET"
    cookieSameSite :=
      ← optional Common.cookieSameSite (env "COOKIE_SAMESITE") }
  guard (parsed.cookieSameSite ≠ some .none ∨ parsed.nodeEnv = .production)
  return parsed

structure WatcherEnv where
  nodeEnv : NodeEnv
  databaseUrl : String
  redisUrl : String
  rabbitmqUrl : String
  watcherCron : Option String
  watcherShardCount : Option Number
  watcherShardIndex : Option Number
  watcherConcurrency : Option Number
  deriving DecidableEq

def watcherEnvSchema (env : ProcessEnv) : Option WatcherEnv := do
  let parsed : WatcherEnv := {
    nodeEnv := ← Common.nodeEnv (env "NODE_ENV")
    databaseUrl := ← required env "DATABASE_URL"
    redisUrl := ← required env "REDIS_URL"
    rabbitmqUrl := ← required env "RABBITMQ_URL"
    watcherCron := ← optional cronExpression (env "WATCHER_CRON")
    watcherShardCount :=
      ← optional nonNegativeInt (env "WATCHER_SHARD_COUNT")
    watcherShardIndex :=
      ← optional nonNegativeInt (env "WATCHER_SHARD_INDEX")
    watcherConcurrency :=
      ← optional nonNegativeInt (env "WATCHER_CONCURRENCY") }
  guard (parsed.watcherConcurrency.getD (.finite 1)).isPositive
  guard (parsed.watcherShardCount.getD (.finite 1)).isPositive
  guard ((parsed.watcherShardIndex.getD (.finite 0)).lt
    (parsed.watcherShardCount.getD (.finite 1)))
  return parsed

structure CookieOptions where
  httpOnly : Bool
  secure : Bool
  sameSite : CookieSameSite
  path : String
  deriving DecidableEq

def refreshCookieOptions (config : CoreApiEnv) : CookieOptions where
  httpOnly := true
  secure := config.nodeEnv = .production
  sameSite := config.cookieSameSite.getD .lax
  path := "/auth"

variable {env : ProcessEnv}

/-- A browser discards a `SameSite=None` cookie that is not `Secure`. -/
theorem secure_of_sameSite_none {parsed : CoreApiEnv}
    (accepted : coreApiEnvSchema env = some parsed)
    (crossSite : (refreshCookieOptions parsed).sameSite = .none) :
    (refreshCookieOptions parsed).secure = true := by
  have given : parsed.cookieSameSite = some .none := by
    change parsed.cookieSameSite.getD .lax = .none at crossSite
    cases chosen : parsed.cookieSameSite with
    | none => simp [chosen] at crossSite
    | some sameSite => simpa [chosen] using crossSite
  simp only [coreApiEnvSchema, Option.pure_def, Option.bind_eq_bind,
    Option.bind_eq_some_iff, Option.guard_eq_some', Option.some.injEq,
    exists_and_left, exists_const] at accepted
  rcases accepted with ⟨_, _, _, _, _, _, _, _, _, _, _, _, _, _, allowed, rfl⟩
  have secure := allowed.resolve_left fun other => other given
  simpa [refreshCookieOptions] using secure

/-! ## What an accepted watcher reads -/

/-- A shard variable that passes is a natural number, or beyond all of them. -/
theorem value_of_optional {text : Option String} {value : Option Number}
    {fallback : Rat} {whole : Nat} (fallbackIs : (whole : Rat) = fallback)
    (accepted : optional nonNegativeInt text = some value) :
    value.getD (.finite fallback) =
        (text.map Number.ofString).getD (.finite fallback) ∧
      (value.getD (.finite fallback) = .infinity false ∨
        ∃ natural : Nat, value.getD (.finite fallback) = .finite natural) := by
  cases text with
  | none =>
      rcases Option.some.inj accepted with rfl
      exact ⟨rfl, Or.inr ⟨whole, congrArg Number.finite fallbackIs.symm⟩⟩
  | some text =>
      change (nonNegativeInt text).map some = some value at accepted
      unfold nonNegativeInt at accepted
      split at accepted
      case isTrue numeric =>
        rcases Option.some.inj accepted with rfl
        exact ⟨rfl, Number.ofString_digits numeric⟩
      case isFalse => cases accepted

/-- The variables of an accepted watcher, with what the refinements add. -/
theorem fields_of_watcherEnvSchema {parsed : WatcherEnv}
    (accepted : watcherEnvSchema env = some parsed) :
    optional nonNegativeInt (env "WATCHER_SHARD_COUNT") =
        some parsed.watcherShardCount ∧
      optional nonNegativeInt (env "WATCHER_SHARD_INDEX") =
        some parsed.watcherShardIndex ∧
      optional nonNegativeInt (env "WATCHER_CONCURRENCY") =
        some parsed.watcherConcurrency ∧
      (parsed.watcherConcurrency.getD (.finite 1)).isPositive = true ∧
      (parsed.watcherShardCount.getD (.finite 1)).isPositive = true ∧
      (parsed.watcherShardIndex.getD (.finite 0)).lt
        (parsed.watcherShardCount.getD (.finite 1)) = true := by
  simp only [watcherEnvSchema, Option.pure_def, Option.bind_eq_bind,
    Option.bind_eq_some_iff, Option.guard_eq_some', Option.some.injEq,
    exists_and_left, exists_const] at accepted
  rcases accepted with ⟨_, _, _, _, _, _, _, _, _, _, count, counted, index,
    indexed, concurrency, bounded, someWorkers, someShards, inRange, rfl⟩
  exact ⟨counted, indexed, bounded, someWorkers, someShards, inRange⟩

end WeatherNotify.Common

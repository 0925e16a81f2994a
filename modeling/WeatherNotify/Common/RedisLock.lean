import Mathlib.Data.Option.Basic

/-!
# The Redis lock

The commands of `RedisService` on one lock key.  The key stores the token of
its holder, or nothing; each command is one atomic step.  Expiry of the key is
not a command: whoever models time clears the key.
-/

namespace WeatherNotify.Common

variable {Token : Type} [DecidableEq Token]

/-- What the lock key stores. -/
abbrev LockKey (Token : Type) := Option Token

namespace LockKey

/-- `SET key token EX ttl NX`, under a token not used before. -/
def acquireLock (key : LockKey Token) (token : Token) :
    Bool × LockKey Token :=
  match key with
  | none => (true, some token)
  | some holder => (false, some holder)

/-- Renewing succeeds for the stored token only. -/
def extendLock (key : LockKey Token) (token : Token) : Bool :=
  key = some token

/-- Releasing deletes the key for the stored token only. -/
def releaseLock (key : LockKey Token) (token : Token) : LockKey Token :=
  if key = some token then none else key

end LockKey

end WeatherNotify.Common

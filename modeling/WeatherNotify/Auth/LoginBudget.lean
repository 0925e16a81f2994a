import WeatherNotify.Common.Expiring
import WeatherNotify.Js.Number
import WeatherNotify.Transition.Machine

/-!
# The sign-in budget of an address

`AuthService.login` reads the failure counter of the address, looks the
account up, compares the password and then records a failure or clears the
counter: separate steps, each Redis script being one.  Any number of logins
run interleaved over a fixed table of accounts, and Redis answers every time.

Three fields are ghosts: `failed` counts the comparisons that failed since the
counter of a key was created, `comparisons` and `successes` are the history.
-/

namespace WeatherNotify.LoginBudget

open WeatherNotify.Common WeatherNotify.Js WeatherNotify.Transition

/-- What the runtime and the libraries compute. -/
structure Services where
  toLowerCase : String → String
  sha256 : String → String
  comparePassword : String → String → Bool
  absentUserHash : String

structure Account where
  email : String
  passwordHash : String
  deriving DecidableEq, Repr

structure Login where
  email : String
  password : String
  deriving DecidableEq, Repr

def loginMaxFailures : Nat := 10

def loginLockoutSec : Int := 15 * 60

/-- The key of an address's run of failed sign-ins. -/
def loginFailureKey (services : Services) (email : String) : String :=
  "auth:login-fail:" ++ services.sha256
    (services.toLowerCase (String.ofList (Number.trimChars email.toList)))

/-! ## Counters -/

abbrev Counters := Expiring String Nat

/-- How many failures are in the window, and how long is left of it. -/
def failureCount (counters : Counters) (now : Int) (key : String) :
    Nat × Int :=
  match counters key with
  | some entry =>
      if now < entry.deadline then
        -- `TTL` answers in seconds, rounded to the nearest
        (entry.value, (entry.deadline - now + 500) / 1000)
      else (0, 0)
  | none => (0, 0)

/-- The window starts when `INCR` creates the key, and is not extended. -/
def recordFailure (counters : Counters) (now : Int) (key : String)
    (windowSec : Int) : Counters :=
  match counters key with
  | some entry =>
      if now < entry.deadline then
        counters.put key ⟨entry.value + 1, entry.deadline⟩
      else counters.put key ⟨1, now + windowSec * 1000⟩
  | none => counters.put key ⟨1, now + windowSec * 1000⟩

def clearFailures (counters : Counters) (key : String) : Counters :=
  counters.delete key

/-! ## Logins -/

/-- What a login waits for next. -/
inductive Phase where
  | waiting
  | finding
  | comparing (account : Option Account)
  | recording
  | clearing (account : Account)
  | locked (retryAfterSec : Int)
  | rejected
  | accepted
  deriving DecidableEq, Repr

inductive Label (n : Nat) where
  | tick (elapsed : Nat)
  | failureCount (login : Fin n)
  | findByEmail (login : Fin n)
  | compare (login : Fin n)
  | recordFailure (login : Fin n)
  | clearFailures (login : Fin n)
  deriving DecidableEq, Repr

/-- A password comparison, with the account whose hash it was made against. -/
structure Comparison where
  instant : Int
  account : Option Account
  matched : Bool
  deriving DecidableEq, Repr

structure State (n : Nat) where
  clock : Int
  counters : Counters
  phase : Fin n → Phase
  failed : String → Nat
  comparisons : List Comparison
  successes : List (Account × Int)

variable {n : Nat}

def State.moveTo (state : State n) (login : Fin n) (phase : Phase) :
    State n :=
  { state with phase := Function.update state.phase login phase }

section Step

variable (services : Services) (accounts : List Account)
  (logins : Fin n → Login)

def keyOf (login : Fin n) : String :=
  loginFailureKey services (logins login).email

def step (state : State n) : Label n → Option (State n)
  | .tick elapsed => some { state with clock := state.clock + elapsed }
  | .failureCount login =>
      match state.phase login with
      | .waiting =>
          let locked := failureCount state.counters state.clock
            (keyOf services logins login)
          if loginMaxFailures ≤ locked.1 then
            some (state.moveTo login (.locked locked.2))
          else some (state.moveTo login .finding)
      | _ => none
  | .findByEmail login =>
      match state.phase login with
      | .finding =>
          some (state.moveTo login (.comparing (accounts.find? fun account =>
            account.email == (logins login).email)))
      | _ => none
  | .compare login =>
      match state.phase login with
      | .comparing account =>
          let passwordMatches := services.comparePassword
            (logins login).password
            ((account.map Account.passwordHash).getD services.absentUserHash)
          let comparisons := state.comparisons ++
            [⟨state.clock, account, passwordMatches⟩]
          match account, passwordMatches with
          | some found, true =>
              some { state.moveTo login (.clearing found) with
                comparisons := comparisons }
          | _, _ =>
              let key := keyOf services logins login
              some { state.moveTo login .recording with
                comparisons := comparisons
                failed := Function.update state.failed key
                  (state.failed key + 1) }
      | _ => none
  | .recordFailure login =>
      match state.phase login with
      | .recording =>
          let key := keyOf services logins login
          let created := (state.counters.get state.clock key).isNone
          some { state.moveTo login .rejected with
            counters := recordFailure state.counters state.clock key
              loginLockoutSec
            failed := if created then Function.update state.failed key 0
              else state.failed }
      | _ => none
  | .clearFailures login =>
      match state.phase login with
      | .clearing account =>
          some { state.moveTo login .accepted with
            counters := clearFailures state.counters
              (keyOf services logins login)
            successes := state.successes ++ [(account, state.clock)] }
      | _ => none

def machine : Machine (State n) (Label n) where
  step := step services accounts logins

end Step

/-- No login has begun, and no address has a counter. -/
structure Initial (state : State n) : Prop where
  waiting : ∀ login, state.phase login = .waiting
  uncounted : ∀ key, state.counters key = none
  unlogged : state.comparisons = []

/-! ## What one step can do -/

/-- Every step, with the phase that enabled it and the state it leads to. -/
inductive Acted (services : Services) (accounts : List Account)
    (logins : Fin n → Login) (state : State n) :
    Label n → State n → Prop where
  | tick (elapsed : Nat) :
      Acted services accounts logins state (.tick elapsed)
        { state with clock := state.clock + elapsed }
  | locked {login : Fin n} {retryAfterSec : Int}
      (found : state.phase login = .waiting) :
      Acted services accounts logins state (.failureCount login)
        (state.moveTo login (.locked retryAfterSec))
  | passed {login : Fin n} (found : state.phase login = .waiting)
      (within : (failureCount state.counters state.clock
        (keyOf services logins login)).1 < loginMaxFailures) :
      Acted services accounts logins state (.failureCount login)
        (state.moveTo login .finding)
  | looked {login : Fin n} (found : state.phase login = .finding) :
      Acted services accounts logins state (.findByEmail login)
        (state.moveTo login (.comparing (accounts.find? fun account =>
          account.email == (logins login).email)))
  | matched {login : Fin n} {account : Account}
      (found : state.phase login = .comparing (some account)) :
      Acted services accounts logins state (.compare login)
        { state.moveTo login (.clearing account) with
          comparisons := state.comparisons ++
            [⟨state.clock, some account, true⟩] }
  | failed {login : Fin n} {account : Option Account} {accepted : Bool}
      (found : state.phase login = .comparing account) :
      Acted services accounts logins state (.compare login)
        { state.moveTo login .recording with
          comparisons := state.comparisons ++
            [⟨state.clock, account, accepted⟩]
          failed := Function.update state.failed
            (keyOf services logins login)
            (state.failed (keyOf services logins login) + 1) }
  | recorded {login : Fin n} (found : state.phase login = .recording) :
      Acted services accounts logins state (.recordFailure login)
        { state.moveTo login .rejected with
          counters := recordFailure state.counters state.clock
            (keyOf services logins login) loginLockoutSec
          failed := if (state.counters.get state.clock
                (keyOf services logins login)).isNone then
              Function.update state.failed (keyOf services logins login) 0
            else state.failed }
  | cleared {login : Fin n} {account : Account}
      (found : state.phase login = .clearing account) :
      Acted services accounts logins state (.clearFailures login)
        { state.moveTo login .accepted with
          counters := clearFailures state.counters
            (keyOf services logins login)
          successes := state.successes ++ [(account, state.clock)] }

theorem acted_of_step {services : Services} {accounts : List Account}
    {logins : Fin n → Login} {state next : State n} {label : Label n}
    (stepped : step services accounts logins state label = some next) :
    Acted services accounts logins state label next := by
  cases label with
  | tick elapsed =>
      cases stepped
      exact .tick elapsed
  | failureCount login =>
      simp only [step] at stepped
      split at stepped
      next found =>
        split at stepped
        next =>
          cases stepped
          exact .locked found
        next within =>
          cases stepped
          exact .passed found (Nat.not_le.mp within)
      next => cases stepped
  | findByEmail login =>
      simp only [step] at stepped
      split at stepped
      next found =>
        cases stepped
        exact .looked found
      next => cases stepped
  | compare login =>
      simp only [step] at stepped
      split at stepped
      next found =>
        split at stepped
        next same accepted =>
          cases stepped
          rw [accepted]
          exact .matched found
        next =>
          cases stepped
          exact .failed found
      next => cases stepped
  | recordFailure login =>
      simp only [step] at stepped
      split at stepped
      next found =>
        cases stepped
        exact .recorded found
      next => cases stepped
  | clearFailures login =>
      simp only [step] at stepped
      split at stepped
      next found =>
        cases stepped
        exact .cleared found
      next => cases stepped

end WeatherNotify.LoginBudget

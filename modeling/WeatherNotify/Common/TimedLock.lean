import WeatherNotify.Common.Expiring
import WeatherNotify.Common.RedisLock
import WeatherNotify.Transition.Machine

/-!
# The Redis lock in time

The commands of `RedisService` on one lock key with its expiry, called by any
number of clients in any order while the clock runs.  Every command or script
is one atomic step.  Tokens are random and never repeat, and no client presents
a token that was handed to another one.
-/

namespace WeatherNotify.Common.TimedLock

open WeatherNotify.Transition

universe u

variable {Client : Type u} {Token : Type} [DecidableEq Token]

/-! ## Commands -/

/-- The entry under the lock key. -/
abbrev Key (Token : Type) := Option (Entry Token)

/-- `SET key token EX ttlSec NX`; the command refuses an expiry that is not positive. -/
def acquireLock (key : Key Token) (now : Int) (token : Token)
    (ttlSec : Int) : Except String (Option Token) × Key Token :=
  if ttlSec ≤ 0 then
    (.error "ERR invalid expire time in 'set' command", key)
  else
    match Entry.read key now with
    | some _ => (.ok none, key)
    | none => (.ok (some token), some ⟨token, now + ttlSec * 1000⟩)

/-- `EXTEND_IF_OWNED`; `EXPIRE` deletes a key whose new expiry is not positive. -/
def extendLock (key : Key Token) (now : Int) (token : Token)
    (ttlSec : Int) : Bool × Key Token :=
  if Entry.read key now = some token then
    (true, if ttlSec ≤ 0 then none else some ⟨token, now + ttlSec * 1000⟩)
  else (false, key)

/-- `RELEASE_IF_OWNED`. -/
def releaseLock (key : Key Token) (now : Int) (token : Token) :
    Bool × Key Token :=
  if Entry.read key now = some token then (true, none) else (false, key)

/-! ## Clients -/

structure State (Client : Type u) (Token : Type) where
  clock : Int
  key : Key Token
  generated : List Token
  issued : List (Client × Token)

/-- Time passes, an entry past its expiry is dropped, or a client calls. -/
inductive Label (Client : Type u) (Token : Type) where
  | tick (elapsed : Nat)
  | evict
  | acquireLock (client : Client) (token : Token) (ttlSec : Int)
  | extendLock (client : Client) (token : Token) (ttlSec : Int)
  | releaseLock (client : Client) (token : Token)

def State.empty (start : Int) : State Client Token where
  clock := start
  key := none
  generated := []
  issued := []

/-- The token that a reader of the key sees. -/
def State.stored (state : State Client Token) : Option Token :=
  Entry.read state.key state.clock

/-- The token was not handed to anyone else. -/
def MayPresent (state : State Client Token) (client : Client)
    (token : Token) : Prop :=
  ∀ issue ∈ state.issued, issue.2 = token → issue.1 = client

variable [DecidableEq Client]

instance (state : State Client Token) (client : Client) (token : Token) :
    Decidable (MayPresent state client token) :=
  inferInstanceAs (Decidable (∀ issue ∈ state.issued, _ → _))

def step (state : State Client Token) :
    Label Client Token → Option (State Client Token)
  | .tick elapsed => some { state with clock := state.clock + elapsed }
  | .evict =>
      if state.stored = none then some { state with key := none } else none
  | .acquireLock client token ttlSec =>
      if token ∈ state.generated then none
      else
        let called := acquireLock state.key state.clock token ttlSec
        some
          { state with
            key := called.2
            generated := token :: state.generated
            issued :=
              match called.1 with
              | .ok (some token) => (client, token) :: state.issued
              | _ => state.issued }
  | .extendLock client token ttlSec =>
      if MayPresent state client token then
        some { state with
          key := (extendLock state.key state.clock token ttlSec).2 }
      else none
  | .releaseLock client token =>
      if MayPresent state client token then
        some { state with
          key := (releaseLock state.key state.clock token).2 }
      else none

def machine (Client : Type u) (Token : Type) [DecidableEq Client]
    [DecidableEq Token] : Machine (State Client Token) (Label Client Token) where
  step := step

/-! ## Calls that succeed -/

/-- A successful call with the expiry it sets. -/
inductive Event (Client : Type u) (Token : Type) where
  | acquired (client : Client) (token : Token) (deadline : Int)
  | extended (client : Client) (token : Token) (deadline : Int)
  | released (client : Client) (token : Token)
  deriving DecidableEq

/-- What a step puts on record. -/
def events (taken : Taken (State Client Token) (Label Client Token)) :
    List (Event Client Token) :=
  let state := taken.source
  match taken.label with
  | .acquireLock client token ttlSec =>
      match (acquireLock state.key state.clock token ttlSec).1 with
      | .ok (some token) =>
          [.acquired client token (state.clock + ttlSec * 1000)]
      | _ => []
  | .extendLock client token ttlSec =>
      if (extendLock state.key state.clock token ttlSec).1 then
        [.extended client token (state.clock + ttlSec * 1000)]
      else []
  | .releaseLock client token =>
      if (releaseLock state.key state.clock token).1 then
        [.released client token]
      else []
  | _ => []

/-- The expiry of a token after some more successful calls. -/
def expiry (token : Token) (deadline : Int)
    (record : List (Event Client Token)) : Int :=
  record.foldl (fun deadline event =>
    match event with
    | .extended _ other later => if other = token then later else deadline
    | _ => deadline) deadline

/-- The token an extension or a release is called with. -/
def Label.presented : Label Client Token → Option Token
  | .extendLock _ token _ | .releaseLock _ token => some token
  | _ => none

/-- What an extension or a release answers. -/
def Label.answer (state : State Client Token) : Label Client Token → Bool
  | .extendLock _ token ttlSec =>
      (TimedLock.extendLock state.key state.clock token ttlSec).1
  | .releaseLock _ token =>
      (TimedLock.releaseLock state.key state.clock token).1
  | _ => false

/-! ## What one step can do -/

/-- Every step, with what it puts on record and the state it leads to. -/
inductive Stepped (state : State Client Token) :
    Label Client Token → List (Event Client Token) →
      State Client Token → Prop where
  | tick (elapsed : Nat) :
      Stepped state (.tick elapsed) []
        { state with clock := state.clock + elapsed }
  | evict (expired : state.stored = none) :
      Stepped state .evict [] { state with key := none }
  | acquired {client : Client} {token : Token} {ttlSec : Int}
      (fresh : token ∉ state.generated) (free : state.stored = none) :
      Stepped state (.acquireLock client token ttlSec)
        [.acquired client token (state.clock + ttlSec * 1000)]
        { state with
          key := some ⟨token, state.clock + ttlSec * 1000⟩
          generated := token :: state.generated
          issued := (client, token) :: state.issued }
  | refused {client : Client} {token : Token} {ttlSec : Int}
      (fresh : token ∉ state.generated) :
      Stepped state (.acquireLock client token ttlSec) []
        { state with generated := token :: state.generated }
  | extended {client : Client} {token : Token} {ttlSec : Int}
      (presents : MayPresent state client token)
      (own : state.stored = some token) :
      Stepped state (.extendLock client token ttlSec)
        [.extended client token (state.clock + ttlSec * 1000)]
        { state with
          key :=
            if ttlSec ≤ 0 then none
            else some ⟨token, state.clock + ttlSec * 1000⟩ }
  | released {client : Client} {token : Token}
      (presents : MayPresent state client token)
      (own : state.stored = some token) :
      Stepped state (.releaseLock client token) [.released client token]
        { state with key := none }
  | foreign {label : Label Client Token} {token : Token}
      (called : label.presented = some token)
      (other : state.stored ≠ some token) :
      Stepped state label [] state

theorem stepped_of_step {state next : State Client Token}
    {label : Label Client Token} (taken : step state label = some next) :
    Stepped state label (events ⟨state, label, next⟩) next := by
  cases label with
  | tick elapsed =>
      cases taken
      exact .tick elapsed
  | evict =>
      simp only [step] at taken
      split at taken
      · rename_i expired
        cases taken
        exact .evict expired
      · cases taken
  | acquireLock client token ttlSec =>
      simp only [step] at taken
      split at taken
      · cases taken
      · rename_i fresh
        cases taken
        by_cases invalid : ttlSec ≤ 0
        · simp only [events, acquireLock, if_pos invalid]
          exact .refused fresh
        · cases held : Entry.read state.key state.clock with
          | none =>
              simp only [events, acquireLock, if_neg invalid, held]
              exact .acquired fresh held
          | some holder =>
              simp only [events, acquireLock, if_neg invalid, held]
              exact .refused fresh
  | extendLock client token ttlSec =>
      simp only [step] at taken
      split at taken
      · rename_i presents
        cases taken
        by_cases own : Entry.read state.key state.clock = some token
        · simp only [events, extendLock, if_pos own, if_true]
          exact .extended presents own
        · simp only [events, extendLock, if_neg own]
          exact .foreign rfl own
      · cases taken
  | releaseLock client token =>
      simp only [step] at taken
      split at taken
      · rename_i presents
        cases taken
        by_cases own : Entry.read state.key state.clock = some token
        · simp only [events, releaseLock, if_pos own, if_true]
          exact .released presents own
        · simp only [events, releaseLock, if_neg own]
          exact .foreign rfl own
      · cases taken

end WeatherNotify.Common.TimedLock

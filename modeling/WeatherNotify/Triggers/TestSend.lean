import WeatherNotify.Common.Expiring
import WeatherNotify.Common.RemoteCall
import WeatherNotify.Notifier.Format
import WeatherNotify.Transition.Machine

/-!
# Test sends

`SendTestNotificationHandler.execute`, one awaited call at a time.  Any number
of commands of any users run interleaved while the clock advances: each looks
for its trigger, reserves the cooldown of the user, publishes one event per
channel and hands the cooldown back when a publish fails, even one that the
broker took without confirming it.  Redis answers every command.

`reservations` and `accepted` are ghosts: the passed cooldown checks, and what
the broker took, newest first.
-/

namespace WeatherNotify.Triggers.TestSend

open WeatherNotify.Common
open WeatherNotify.Contracts
open WeatherNotify.Notifier
open WeatherNotify.Transition

/-! ## Triggers -/

structure StoredCondition extends ConditionDto where
  lastObservedValue : Option Rat
  deriving DecidableEq

/-- A row as the handler reads it; bodies with a repeated channel are refused. -/
structure StoredTrigger where
  id : String
  userId : String
  name : String
  city : String
  conditionLogic : ConditionLogic
  conditions : List StoredCondition
  channels : List Channel
  unique : channels.Nodup
  deriving DecidableEq

def findOwned (table : List StoredTrigger) (userId id : String) :
    Option StoredTrigger :=
  table.find? fun row => row.id = id ∧ row.userId = userId

theorem userId_of_findOwned {table : List StoredTrigger}
    {userId id : String} {trigger : StoredTrigger}
    (found : findOwned table userId id = some trigger) :
    trigger.userId = userId := by
  have holds := List.find?_some found
  exact (of_decide_eq_true holds).2

def firedCondition (condition : StoredCondition) : FiredCondition where
  metric := condition.metric
  operator := condition.operator
  threshold := condition.threshold
  observedValue := condition.lastObservedValue.getD condition.threshold

def testEvent (eventId : String) (trigger : StoredTrigger) :
    TriggerFiredEvent where
  eventId := eventId
  userId := trigger.userId
  triggerName := trigger.name
  city := trigger.city
  conditions := trigger.conditions.map firedCondition
  conditionLogic := trigger.conditionLogic
  test := some true

/-! ## The cooldown -/

def testCooldownSec : Int := 600

/-- The window of a reservation in milliseconds. -/
def testCooldownMs : Int := testCooldownSec * 1000

def cooldownKey (userId : String) : String :=
  "trigger-test:" ++ userId

/-- Redis stores `1`; here the value is whoever reserved the window. -/
abbrev Cooldowns (Caller : Type) := Expiring String Caller

section Cooldowns

variable {Caller : Type}

/-- `SET key 1 EX ttlSec NX`; `none` when the key is taken. -/
def reserve (cooldowns : Cooldowns Caller) (now : Int) (key : String)
    (caller : Caller) (ttlSec : Int) : Option (Cooldowns Caller) :=
  match cooldowns.get now key with
  | none => some (cooldowns.put key ⟨caller, now + ttlSec * 1000⟩)
  | some _ => none

theorem reserve_eq_some_iff {cooldowns next : Cooldowns Caller} {now : Int}
    {key : String} {caller : Caller} {ttlSec : Int} :
    reserve cooldowns now key caller ttlSec = some next ↔
      cooldowns.get now key = none ∧
        next = cooldowns.put key ⟨caller, now + ttlSec * 1000⟩ := by
  unfold reserve
  cases cooldowns.get now key with
  | none => simp [eq_comm]
  | some holder => simp

/-- `TTL` answers in seconds, rounded to the nearest. -/
def ttl (cooldowns : Cooldowns Caller) (now : Int) (key : String) : Int :=
  match cooldowns key with
  | some entry =>
      if now < entry.deadline then (entry.deadline - now + 500) / 1000
      else -2
  | none => -2

/-- What `consumeCooldown` answers once the reservation is refused. -/
def remaining (ttl ttlSec : Int) : Int :=
  if 0 < ttl then ttl else ttlSec

def clearCooldown (cooldowns : Cooldowns Caller) (key : String) :
    Cooldowns Caller :=
  cooldowns.delete key

end Cooldowns

/-! ## Commands -/

structure SendTestNotificationCommand where
  userId : String
  id : String
  deriving DecidableEq

inductive Response where
  | sent (channels : List Channel)
  | refused (status : Nat) (message : String) (retryAfter : Option Int)
  deriving DecidableEq

def notFound : Response :=
  .refused 404 "Trigger not found" none

def tooManyRequests (retryAfter : Int) : Response :=
  .refused 429
    ("Please wait " ++ toString retryAfter ++
      "s before sending another test") (some retryAfter)

def unavailable : Response :=
  .refused 503
    "Notifications are temporarily unavailable — please try again shortly"
    none

/-- The call a command makes next. -/
inductive Phase where
  | finding
  | reserving (trigger : StoredTrigger)
  | asking
  | publishing (trigger : StoredTrigger) (event : TriggerFiredEvent)
      (rest : List Channel)
  | clearing
  | answered (response : Response)
  deriving DecidableEq

/-- The channels a command has still to publish to. -/
def Phase.pending : Phase → List Channel
  | .publishing _ _ rest => rest
  | _ => []

/-- The head of the publishing loop. -/
def Phase.publish (trigger : StoredTrigger) (event : TriggerFiredEvent) :
    List Channel → Phase
  | [] => .answered (.sent trigger.channels)
  | channel :: rest => .publishing trigger event (channel :: rest)

@[simp]
theorem Phase.pending_publish (trigger : StoredTrigger)
    (event : TriggerFiredEvent) (rest : List Channel) :
    (Phase.publish trigger event rest).pending = rest := by
  cases rest <;> rfl

/-! ## Any number of commands -/

inductive Label (Caller : Type) where
  | tick (elapsed : Nat)
  | findOwned (caller : Caller) (table : List StoredTrigger)
  | reserve (caller : Caller) (eventId : String)
  | ttl (caller : Caller)
  | publish (caller : Caller) (outcome : RemoteCall)
  | clearCooldown (caller : Caller)

/-- A passed check; `refunded` once a refund has deleted the user's key since. -/
structure Reservation (Caller : Type) where
  caller : Caller
  userId : String
  instant : Int
  refunded : Bool
  deriving DecidableEq

/-- A message the broker took. -/
structure Accepted (Caller : Type) where
  caller : Caller
  routingKey : String
  event : TriggerFiredEvent
  instant : Int
  deriving DecidableEq

structure State (Caller : Type) where
  clock : Int
  cooldowns : Cooldowns Caller
  phase : Caller → Phase
  reservations : List (Reservation Caller)
  accepted : List (Accepted Caller)

variable {Caller : Type}

/-- No command has begun. -/
def State.start (clock : Int) : State Caller where
  clock := clock
  cooldowns := Expiring.empty
  phase := fun _ => .finding
  reservations := []
  accepted := []

/-- The reservations once the key of a user is deleted. -/
def refund (userId : String) (reservations : List (Reservation Caller)) :
    List (Reservation Caller) :=
  reservations.map fun reservation =>
    if reservation.userId = userId then { reservation with refunded := true }
    else reservation

/-- The reservation of a command, with the cooldowns it leaves. -/
def State.reserved (state : State Caller) (caller : Caller)
    (userId : String) (cooldowns : Cooldowns Caller) : State Caller :=
  { state with
    cooldowns := cooldowns
    reservations := ⟨caller, userId, state.clock, false⟩ ::
      state.reservations }

/-- What a publish leaves at the broker. -/
def State.published (state : State Caller) (caller : Caller)
    (channel : Channel) (event : TriggerFiredEvent) (outcome : RemoteCall) :
    State Caller :=
  { state with
    accepted := if outcome.reaches then
        ⟨caller, routingKeyFor channel, event, state.clock⟩ :: state.accepted
      else state.accepted }

/-- The cooldown of a user handed back. -/
def State.cleared (state : State Caller) (userId : String) : State Caller :=
  { state with
    cooldowns := clearCooldown state.cooldowns (cooldownKey userId)
    reservations := refund userId state.reservations }

variable [DecidableEq Caller]

def State.moveTo (state : State Caller) (caller : Caller) (phase : Phase) :
    State Caller :=
  { state with phase := Function.update state.phase caller phase }

/-- A move concerns the one command. -/
theorem State.forall_moveTo {state : State Caller} {caller : Caller}
    {phase : Phase} (Holds : Caller → Phase → Prop)
    (moved : Holds caller phase)
    (others : ∀ other, other ≠ caller → Holds other (state.phase other)) :
    ∀ other, Holds other ((state.moveTo caller phase).phase other) :=
  (Function.forall_update_iff _ Holds).mpr ⟨moved, others⟩

section Step

variable (commands : Caller → SendTestNotificationCommand)

def keyOf (caller : Caller) : String :=
  cooldownKey (commands caller).userId

def step (state : State Caller) : Label Caller → Option (State Caller)
  | .tick elapsed => some { state with clock := state.clock + elapsed }
  | .findOwned caller table =>
      match state.phase caller with
      | .finding =>
          match TestSend.findOwned table (commands caller).userId
            (commands caller).id with
          | some trigger => some (state.moveTo caller (.reserving trigger))
          | none => some (state.moveTo caller (.answered notFound))
      | _ => none
  | .reserve caller eventId =>
      match state.phase caller with
      | .reserving trigger =>
          match TestSend.reserve state.cooldowns state.clock
            (keyOf commands caller) caller testCooldownSec with
          | none => some (state.moveTo caller .asking)
          | some cooldowns =>
              let reserved := state.reserved caller (commands caller).userId
                cooldowns
              some (reserved.moveTo caller (Phase.publish trigger
                (testEvent eventId trigger) trigger.channels))
      | _ => none
  | .ttl caller =>
      match state.phase caller with
      | .asking =>
          let retryAfter := remaining (TestSend.ttl state.cooldowns
            state.clock (keyOf commands caller)) testCooldownSec
          some (state.moveTo caller (.answered (tooManyRequests retryAfter)))
      | _ => none
  | .publish caller outcome =>
      match state.phase caller with
      | .publishing trigger event (channel :: rest) =>
          let published := state.published caller channel event outcome
          some (published.moveTo caller (if outcome.resolves then
            Phase.publish trigger event rest else .clearing))
      | _ => none
  | .clearCooldown caller =>
      match state.phase caller with
      | .clearing =>
          let cleared := state.cleared (commands caller).userId
          some (cleared.moveTo caller (.answered unavailable))
      | _ => none

def machine : Machine (State Caller) (Label Caller) where
  step := step commands

/-! ## What one step can do -/

/-- A phase with nothing to publish, to reserve or to hand back. -/
def Phase.quiet : Phase → Bool
  | .asking => true
  | .answered response => response ≠ unavailable
  | _ => false

inductive Stepped (state : State Caller) :
    Label Caller → State Caller → Prop where
  | tick (elapsed : Nat) :
      Stepped state (.tick elapsed)
        { state with clock := state.clock + elapsed }
  | found {caller : Caller} {table : List StoredTrigger}
      {trigger : StoredTrigger}
      (owned : trigger.userId = (commands caller).userId)
      (finding : state.phase caller = .finding) :
      Stepped state (.findOwned caller table)
        (state.moveTo caller (.reserving trigger))
  | moved {label : Label Caller} {caller : Caller} {phase : Phase}
      (quiet : phase.quiet = true)
      (idle : (state.phase caller).pending = []) :
      Stepped state label (state.moveTo caller phase)
  | reserved {caller : Caller} {eventId : String} {trigger : StoredTrigger}
      (reserving : state.phase caller = .reserving trigger)
      (free : state.cooldowns.get state.clock (keyOf commands caller) =
        none) :
      Stepped state (.reserve caller eventId)
        ((state.reserved caller (commands caller).userId
            (state.cooldowns.put (keyOf commands caller)
              ⟨caller, state.clock + testCooldownMs⟩)).moveTo caller
          (Phase.publish trigger (testEvent eventId trigger)
            trigger.channels))
  | published {caller : Caller} {outcome : RemoteCall}
      {trigger : StoredTrigger} {event : TriggerFiredEvent}
      {channel : Channel} {rest : List Channel}
      (publishing : state.phase caller =
        .publishing trigger event (channel :: rest)) :
      Stepped state (.publish caller outcome)
        ((state.published caller channel event outcome).moveTo caller
          (if outcome.resolves then Phase.publish trigger event rest
            else .clearing))
  | cleared {caller : Caller} (clearing : state.phase caller = .clearing) :
      Stepped state (.clearCooldown caller)
        ((state.cleared (commands caller).userId).moveTo caller
          (.answered unavailable))

variable {commands}

theorem stepped_of_step {state next : State Caller} {label : Label Caller}
    (taken : step commands state label = some next) :
    Stepped commands state label next := by
  cases label with
  | tick elapsed =>
      cases taken
      exact .tick elapsed
  | findOwned caller table =>
      simp only [step] at taken
      split at taken
      case h_1 finding =>
        split at taken
        case h_1 trigger found =>
          cases taken
          exact .found (userId_of_findOwned found) finding
        case h_2 =>
          cases taken
          exact .moved rfl (by rw [finding]; rfl)
      case h_2 => cases taken
  | reserve caller eventId =>
      simp only [step] at taken
      split at taken
      case h_1 trigger reserving =>
        split at taken
        case h_1 =>
          cases taken
          exact .moved rfl (by rw [reserving]; rfl)
        case h_2 cooldowns reserved =>
          rcases reserve_eq_some_iff.mp reserved with ⟨free, rfl⟩
          cases taken
          exact .reserved reserving free
      case h_2 => cases taken
  | ttl caller =>
      simp only [step] at taken
      split at taken
      case h_1 asking =>
        cases taken
        exact .moved (by simp [Phase.quiet, tooManyRequests, unavailable])
          (by rw [asking]; rfl)
      case h_2 => cases taken
  | publish caller outcome =>
      simp only [step] at taken
      split at taken
      case h_1 trigger event channel rest publishing =>
        cases taken
        exact .published publishing
      case h_2 => cases taken
  | clearCooldown caller =>
      simp only [step] at taken
      split at taken
      case h_1 clearing =>
        cases taken
        exact .cleared clearing
      case h_2 => cases taken

end Step

end WeatherNotify.Triggers.TestSend

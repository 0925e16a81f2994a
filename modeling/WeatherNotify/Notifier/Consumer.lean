import WeatherNotify.Js.Async
import WeatherNotify.Js.Number
import WeatherNotify.Notifier.DeliveryLog

/-!
# One message through the notifier

`NotifierService` and `RabbitConsumerService` as they handle one delivery.
The world is the database, a counter of external calls and the log of what
the broker was told.  The environment answers each external call by its
number: what other writers did to the database before the statement, what the
clock read, how the channel's send ended and whether a publish was confirmed.
-/

namespace WeatherNotify.Notifier

open WeatherNotify.Contracts
open WeatherNotify.Js

/-! ## Messages and configuration -/

/-- A header value; only a string counts as an event id. -/
inductive HeaderValue where
  | str (value : String)
  | other
  deriving DecidableEq, Repr

inductive DeadReason where
  | unparseable
  | permanent
  | attemptsExhausted
  deriving DecidableEq, Repr

/--
A message with the headers the consumer reads or writes.  `attempts` is the
`x-attempts` header, absent or a non-negative integer.
-/
structure Message where
  content : List UInt8
  messageId : Option String
  attempts : Option Nat
  eventId : Option HeaderValue
  deadReason : Option DeadReason
  deriving DecidableEq, Repr

def defaultRetryDelaysMs : List Number :=
  [.finite 5000, .finite 30000, .finite 300000]

def defaultDeadQueueMax : Nat := 10000

/-- A positive integer from the environment, or the default for anything else. -/
def positiveInt (raw : Option String) (fallback : Nat) : Nat :=
  match (raw.map Number.ofString).getD .nan with
  | .finite value =>
      if value.den = 1 ∧ 0 < value then value.num.toNat else fallback
  | _ => fallback

/-- `NOTIFIER_RETRY_DELAYS_MS`; an unusable list falls back to the default. -/
def parseDelays (raw : Option String) : List Number :=
  match raw with
  | none => defaultRetryDelaysMs
  | some text =>
      if text = "" then defaultRetryDelaysMs
      else
        let parsed :=
          (text.splitOn ",").map Number.ofString |>.filter fun value =>
            value.isFinite && value.isPositive
        if 0 < parsed.length then parsed else defaultRetryDelaysMs

/-- What the two services are configured with. -/
structure Config where
  retryDelaysMs : List Number
  deadQueueMaxLength : Nat
  registeredChannels : List Channel

/-- The configuration read from the environment variables. -/
def Config.fromEnv (retryDelays deadQueueMax : Option String)
    (registeredChannels : List Channel) : Config where
  retryDelaysMs := parseDelays retryDelays
  deadQueueMaxLength := positiveInt deadQueueMax defaultDeadQueueMax
  registeredChannels := registeredChannels

/-- Total attempts before parking: the first try plus one per retry stage. -/
def Config.maxAttempts (config : Config) : Nat :=
  config.retryDelaysMs.length + 1

/-! ## The world of a handler -/

/-- How a publish ends: confirmed, refused, or accepted with the confirm lost. -/
inductive PublishResult where
  | confirmed
  | refused
  | unconfirmed
  deriving DecidableEq, Repr

inductive ClaimResult where
  | claimed
  | duplicate
  | inFlight
  deriving DecidableEq, Repr

inductive DispatchOutcome where
  | sent
  | skipped
  deriving DecidableEq, Repr

/-- What a handler does that is visible outside the database. -/
inductive Effect where
  | dispatchCalled
  | dispatched (outcome : DispatchOutcome)
  | published (exchange routingKey : String) (message : Message)
  | acked
  | handlerFailed
  deriving DecidableEq, Repr

/-- The answers of the outside, indexed by the number of the external call. -/
structure Env where
  parse : List UInt8 → Option Json
  interference : Nat → Db → Db
  reachable : Nat → Bool
  now : Nat → Int
  send : Nat → Option Failure
  publish : Nat → PublishResult

structure World where
  db : Db
  calls : Nat
  effects : List Effect

abbrev Handler (α : Type) := Async World Failure α

def World.push (world : World) (effect : Effect) : World :=
  { world with effects := world.effects ++ [effect] }

/-- One Prisma call: other writers act, then the statement runs atomically. -/
def statement {α : Type} (env : Env)
    (body : Db → Except Failure (α × Db)) : Handler α where
  run world :=
    let found := env.interference world.calls world.db
    let after := { world with db := found, calls := world.calls + 1 }
    if env.reachable world.calls then
      match body found with
      | .ok (value, changed) => (.ok value, { after with db := changed })
      | .error failure => (.error failure, after)
    else (.error (.unreachable "database"), after)

/-- A clock reading in milliseconds. -/
def now (env : Env) : Handler Int where
  run world :=
    (.ok (env.now world.calls), { world with calls := world.calls + 1 })

/-- `sender.send(event)`. -/
def send (env : Env) : Handler Unit where
  run world :=
    let after := { world with calls := world.calls + 1 }
    match env.send world.calls with
    | none => (.ok (), after)
    | some failure => (.error failure, after)

/-- `channelWrapper.publish` on a confirm channel. -/
def publish (env : Env) (exchange routingKey : String) (message : Message) :
    Handler Unit where
  run world :=
    let after := { world with calls := world.calls + 1 }
    let accepted := after.push (.published exchange routingKey message)
    match env.publish world.calls with
    | .confirmed => (.ok (), accepted)
    | .refused => (.error (.unreachable "broker"), after)
    | .unconfirmed => (.error (.unreachable "broker"), accepted)

/-- A synchronous note in the log. -/
def record (effect : Effect) : Handler Unit where
  run world := (.ok (), world.push effect)

/-- `channelWrapper.ack`. -/
def ack : Handler Unit :=
  record .acked

/-! ## `PrismaDeliveryLogRepository` and `NotifierService` -/

def claimLeaseMs : Int := 60000

def claim (env : Env) (channel : Channel) (event : Json)
    (leaseCutoff : Int) : Handler ClaimResult := do
  let stamp ← now env
  match ← Async.attempt (statement env (insertClaim channel event stamp)) with
  | .ok _ => return .claimed
  | .error failure =>
      if isUniqueViolation failure then
        let count ←
          statement env (takeOverClaim channel event leaseCutoff stamp)
        if 0 < count then return .claimed
        else
          match ← statement env (readBackClaim channel event) with
          -- vanished between the failed create and this read
          | none => return .claimed
          | some .sent => return .duplicate
          | some _ => return .inFlight
      else Async.reject failure

def settle (env : Env) (channel : Channel) (event : Json)
    (status : NotifStatus) (error : Option String) : Handler Unit :=
  statement env (settleStatement channel event status error)

/-- Best effort: a failed release leaves the lease to expire. -/
def releaseClaim (env : Env) (channel : Channel) (event : Json) :
    Handler Unit := do
  let _ ←
    Async.attempt (statement env (releaseClaimStatement channel event))
  return ()

def dispatch (config : Config) (env : Env) (channel : Channel)
    (event : Json) : Handler DispatchOutcome :=
  if channel ∈ config.registeredChannels then do
    let started ← now env
    match ← claim env channel event (started - claimLeaseMs) with
    | .duplicate => return .skipped
    | .inFlight => Async.reject (.deliveryInFlight channel)
    | .claimed =>
        match ← Async.attempt (send env) with
        | .error failure =>
            releaseClaim env channel event
            Async.reject failure
        | .ok _ =>
            settle env channel event .sent none
            return .sent
  else
    Async.reject
      (.permanent
        ("No implementation registered for channel " ++ channel.name))

/-! ## `RabbitConsumerService` -/

def headerString (message : Message) : Option String :=
  match message.eventId with
  | some (.str value) => some value
  | _ => none

def attemptCount (message : Message) : Nat :=
  message.attempts.getD 0

/-- The copy that `republish` sends: same body, headers written afresh. -/
def republished (message : Message) (attempts : Nat)
    (deadReason : Option DeadReason) : Message where
  content := message.content
  messageId := message.messageId
  attempts := some attempts
  -- an empty id is falsy, so its header is left out
  eventId := ((headerString message).filter (· ≠ "")).map .str
  deadReason := deadReason

def republish (env : Env) (message : Message) (routingKey : String)
    (attempts : Nat) (deadReason : Option DeadReason) : Handler Unit :=
  publish env dlxExchange routingKey
    (republished message attempts deadReason)

/-- Move a message to the terminal dead queue and ack the original. -/
def park (env : Env) (channel : Channel) (message : Message)
    (reason : DeadReason) : Handler Unit := do
  republish env message (deadRoutingKeyFor channel)
    (attemptCount message) (some reason)
  ack

/-- The branch of `handleFailure` that gives the message up. -/
def isFinal (config : Config) (message : Message) (failure : Failure) : Bool :=
  failure.isPermanent || config.maxAttempts ≤ attemptCount message + 1

def handleFailure (config : Config) (env : Env) (channel : Channel)
    (message : Message) (event : Json) (failure : Failure) :
    Handler Unit := do
  let thisAttempt := attemptCount message + 1
  if isFinal config message failure then
    settle env channel event .failed (some failure.message)
    park env channel message
      (if failure.isPermanent then .permanent else .attemptsExhausted)
  else
    republish env message (retryRoutingKeyFor channel thisAttempt)
      thisAttempt none
    ack

def process (config : Config) (env : Env) (channel : Channel)
    (message : Message) : Handler Unit :=
  match env.parse message.content with
  | none => park env channel message .unparseable
  | some event => do
      record .dispatchCalled
      match ← Async.attempt (dispatch config env channel event) with
      | .ok outcome =>
          record (.dispatched outcome)
          ack
      | .error failure =>
          handleFailure config env channel message event failure

/-- The consumer's callback; an escaping rejection leaves the message unacked. -/
def handle (config : Config) (env : Env) (channel : Channel)
    (message : Message) : Handler Unit := do
  match ← Async.attempt (process config env channel message) with
  | .ok _ => return ()
  | .error _ => record .handlerFailed

end WeatherNotify.Notifier

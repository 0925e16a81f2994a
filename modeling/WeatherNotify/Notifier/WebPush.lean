import WeatherNotify.Js.Async
import WeatherNotify.Notifier.DeliveryLog
import WeatherNotify.Notifier.Format

/-!
# The web push channel

`WebPushChannel.send` with the two repositories it calls.  One event fans out
to every browser of its user; the delivery log of the event's row carries the
endpoints reached so far from one call to the next.

The world of the channel is the database and what was sent out.  The answers
of a call say how its reads ended, how each push ended and whether the write
after a push was accepted; between two statements others may change the
database.
-/

namespace WeatherNotify.Notifier.WebPush

open WeatherNotify.Contracts
open WeatherNotify.Js

/-! ## Recipients -/

structure PushRecipient where
  id : String
  endpoint : String
  p256dh : String
  auth : String
  deriving DecidableEq, Repr

/-- What a read of the table answers: ids and endpoints are unique there. -/
structure Subscriptions where
  rows : List PushRecipient
  distinctIds : (rows.map PushRecipient.id).Nodup
  distinctEndpoints : (rows.map PushRecipient.endpoint).Nodup

/-! ## Rejections as the loop catches them -/

/-- What a push rejects with; `text` is its message, or itself as a string. -/
structure Thrown where
  statusCode : Option Nat
  isError : Bool
  text : String
  deriving DecidableEq, Repr

inductive Rejection where
  | push (thrown : Thrown)
  | database (message : String)

/-- A database error carries no status. -/
def Rejection.statusCode : Rejection → Option Nat
  | .push thrown => thrown.statusCode
  | .database _ => none

def Rejection.toError : Rejection → Failure
  | .push thrown =>
      .other (if thrown.isError then thrown.text
        else "Push delivery failed: " ++ thrown.text)
  | .database message => .unreachable message

/-- The push service does not know the subscription any more. -/
def isGone (statusCode : Option Nat) : Bool :=
  statusCode = some 404 || statusCode = some 410

/-! ## The world of a call -/

/-- One call of `sendNotification` and how it ended. -/
structure Attempt where
  recipient : PushRecipient
  payload : Json
  thrown : Option Thrown

structure World where
  db : Db
  attempts : List Attempt
  pruned : List String

/-- The outside during one call; a message is the text of a rejection. -/
structure Answers where
  pushSubscriptions : String → Except String Subscriptions
  deliveredDestinations : Option String
  push : PushRecipient → Option Thrown
  markDelivered : PushRecipient → Option String
  removePushSubscription : PushRecipient → Option String
  /-- What others write before the log is read, or before it is marked. -/
  interference : Option PushRecipient → Db → Db

abbrev Sending (α : Type) := Async World Failure α

/-! ## The repositories -/

def pushSubscriptions (answers : Answers) (userId : String) :
    Sending Subscriptions where
  run world :=
    match answers.pushSubscriptions userId with
    | .ok found => (.ok found, world)
    | .error message => (.error (.unreachable message), world)

def readDestinations (answers : Answers) (event : TriggerFiredEvent) :
    Sending (List String) where
  run world :=
    let found := answers.interference none world.db
    let after := { world with db := found }
    match answers.deliveredDestinations with
    | none => (.ok (deliveredDestinations .webPush event.eventId found), after)
    | some message => (.error (.unreachable message), after)

/-- The outcome of a push as the `try` around it sees it. -/
def sendNotification (answers : Answers) (payload : Json)
    (recipient : PushRecipient) : Sending (Option Thrown) where
  run world :=
    let thrown := answers.push recipient
    (.ok thrown, { world with
      attempts := world.attempts ++ [⟨recipient, payload, thrown⟩] })

/-- The mark as the `try` around it sees it. -/
def tryMark (answers : Answers) (event : TriggerFiredEvent)
    (recipient : PushRecipient) : Sending (Option String) where
  run world :=
    let found := answers.interference (some recipient) world.db
    match answers.markDelivered recipient with
    | none =>
        (.ok none, { world with
          db := markDelivered .webPush event.eventId recipient.endpoint
            found })
    | some message => (.ok (some message), { world with db := found })

/-- Deleting a row that is gone already rejects. -/
def removePushSubscription (answers : Answers) (recipient : PushRecipient) :
    Sending Unit where
  run world :=
    match answers.removePushSubscription recipient with
    | none => (.ok (), { world with pruned := world.pruned ++ [recipient.id] })
    | some message => (.error (.other message), world)

/-! ## `WebPushChannel` -/

/-- The two counters of the loop. -/
structure Tally where
  delivered : Nat
  lastError : Option Failure

/-- The `catch` block; what it awaits itself is not caught. -/
def recover (answers : Answers) (recipient : PushRecipient)
    (rejection : Rejection) (tally : Tally) : Sending Tally :=
  if isGone rejection.statusCode then do
    removePushSubscription answers recipient
    return tally
  else
    -- keep going: the remaining devices are independent
    return { tally with lastError := some rejection.toError }

/-- One round of the loop. -/
def visit (answers : Answers) (event : TriggerFiredEvent) (payload : Json)
    (recipient : PushRecipient) (tally : Tally) : Sending Tally := do
  match ← sendNotification answers payload recipient with
  | some thrown => recover answers recipient (.push thrown) tally
  | none =>
      let counted := { tally with delivered := tally.delivered + 1 }
      match ← tryMark answers event recipient with
      | none => return counted
      | some message =>
          recover answers recipient (.database message) counted

def visitAll (answers : Answers) (event : TriggerFiredEvent)
    (payload : Json) : List PushRecipient → Tally → Sending Tally
  | [], tally => return tally
  | recipient :: rest, tally => do
      let after ← visit answers event payload recipient tally
      visitAll answers event payload rest after

/-- What `JSON.stringify` is given. -/
def payloadOf (event : TriggerFiredEvent) : Json :=
  .obj [("title", .str (alertTitle event)), ("body", .str (alertText event))]

/-- The subscriptions that no earlier attempt has reached. -/
def pendingOf (found : Subscriptions) (alreadyDelivered : List String) :
    List PushRecipient :=
  found.rows.filter fun recipient => recipient.endpoint ∉ alreadyDelivered

/-- How the call ends once the loop is done. -/
def Tally.conclude (tally : Tally) : Sending Unit :=
  match tally.lastError with
  | some failure => Async.reject failure
  | none =>
      if tally.delivered = 0 then
        Async.reject (.permanent "All push subscriptions are invalid")
      else return ()

/-- `send`; `configured` says whether both VAPID keys are set. -/
def send (configured : Bool) (answers : Answers)
    (event : TriggerFiredEvent) : Sending Unit :=
  if configured then do
    let found ← pushSubscriptions answers event.userId
    if found.rows = [] then
      Async.reject (.permanent "User has no push subscriptions")
    else
      let alreadyDelivered ← readDestinations answers event
      let pending := pendingOf found alreadyDelivered
      if pending = [] then return ()
      else
        let tally ← visitAll answers event (payloadOf event) pending ⟨0, none⟩
        tally.conclude
  else Async.reject (.permanent "VAPID keys are not set")

end WeatherNotify.Notifier.WebPush

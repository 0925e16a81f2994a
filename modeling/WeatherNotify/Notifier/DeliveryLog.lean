import WeatherNotify.Contracts.Routing

/-!
# The delivery log and its statements

`Notification` rows as the Prisma repository reads and writes them.  The
payload of a message is whatever JSON arrived, so every statement first goes
through the argument checks of the client: a field that is `undefined` is
omitted from data and ignored in a filter, `null` is a value, and anything of
the wrong type is rejected before the database is asked.

The database then checks the unique `(eventId, channel)` index, which ignores
rows without an event id, and the two foreign keys.
-/

namespace WeatherNotify.Notifier

open WeatherNotify.Contracts

/-! ## Values of a parsed payload -/

/-- A JSON value as `JSON.parse` returns it; numbers are decimal. -/
inductive Json where
  | null
  | bool (value : Bool)
  | num (mantissa exponent : Int)
  | str (value : String)
  | arr (items : List Json)
  | obj (fields : List (String × Json))

/-- What a rejected promise of the delivery path carries. -/
inductive Failure where
  | permanent (message : String)
  | deliveryInFlight (channel : Channel)
  | uniqueViolation
  | foreignKeyViolation
  | validation
  | typeError (name : String)
  | unreachable (message : String)
  | other (message : String)
  deriving DecidableEq, Repr

/-- The text `handleFailure` records. -/
def Failure.message : Failure → String
  | .permanent message => message
  | .deliveryInFlight channel =>
      "Another consumer is already delivering this event on " ++ channel.name
  | .uniqueViolation => "Unique constraint failed"
  | .foreignKeyViolation => "Foreign key constraint violated"
  | .validation => "Invalid invocation"
  | .typeError name =>
      "Cannot read properties of null (reading '" ++ name ++ "')"
  | .unreachable message => message
  | .other message => message

/-- `err instanceof PermanentNotificationError`. -/
def Failure.isPermanent : Failure → Bool
  | .permanent _ => true
  | _ => false

def isUniqueViolation : Failure → Bool
  | .uniqueViolation => true
  | _ => false

/--
The member access `value.name`.  Only `null` has no members at all; a value
that is not an object answers `undefined`, which is `none` here.
-/
def Json.member (value : Json) (name : String) :
    Except Failure (Option Json) :=
  match value with
  | .null => .error (.typeError name)
  | .obj fields => .ok (fields.lookup name)
  | _ => .ok none

/-! ## Argument checks of the client -/

/-- A `String?` column of a create. -/
def nullableString : Option Json → Except Failure (Option String)
  | none | some .null => .ok none
  | some (.str value) => .ok (some value)
  | _ => .error .validation

/-- A `String` column of a create, or a member of a compound unique filter. -/
def requiredString : Option Json → Except Failure String
  | some (.str value) => .ok value
  | _ => .error .validation

/-- A `String?` column in a filter: `undefined` filters nothing. -/
inductive StringFilter where
  | anything
  | isNull
  | equals (value : String)
  deriving DecidableEq, Repr

def stringFilter : Option Json → Except Failure StringFilter
  | none => .ok .anything
  | some .null => .ok .isNull
  | some (.str value) => .ok (.equals value)
  | _ => .error .validation

def StringFilter.accepts : StringFilter → Option String → Bool
  | .anything, _ => true
  | .isNull, stored => stored.isNone
  | .equals value, stored => stored == some value

/-! ## Rows -/

/-- A `Notification` row; its generated id and creation time are never read. -/
structure NotificationRow where
  eventId : Option String
  triggerId : Option String
  userId : String
  channel : Channel
  status : NotifStatus
  payload : Json
  error : Option String
  claimedAt : Option Int
  deliveredTo : List String

/-- The tables the notifier's statements touch. -/
structure Db where
  users : List String
  triggers : List String
  notifications : List NotificationRow

/-- Data of a create before the client has looked at it. -/
structure RowInput where
  eventId : Option Json
  triggerId : Option Json
  userId : Option Json
  channel : Channel
  status : NotifStatus
  payload : Json
  error : Option String
  claimedAt : Option Int

def rowFor (channel : Channel) (event : Json) (status : NotifStatus)
    (error : Option String) : Except Failure RowInput := do
  let eventId ← event.member "eventId"
  let triggerId ← event.member "triggerId"
  let userId ← event.member "userId"
  return {
    eventId, triggerId, userId, channel, status, payload := event, error,
    claimedAt := none }

/-- The client's check of a create. -/
def RowInput.validate (input : RowInput) :
    Except Failure NotificationRow := do
  let eventId ← nullableString input.eventId
  let triggerId ← nullableString input.triggerId
  let userId ← requiredString input.userId
  return {
    eventId, triggerId, userId,
    channel := input.channel
    status := input.status
    payload := input.payload
    error := input.error
    claimedAt := input.claimedAt
    deliveredTo := [] }

/-- A row of the unique `(eventId, channel)` index. -/
def NotificationRow.hasKey (row : NotificationRow)
    (eventId : String) (channel : Channel) : Bool :=
  row.eventId == some eventId && row.channel == channel

def Db.find? (db : Db) (eventId : String) (channel : Channel) :
    Option NotificationRow :=
  db.notifications.find? fun row => row.hasKey eventId channel

/-- Whether both foreign keys of a row resolve. -/
def Db.referencesExist (db : Db)
    (userId : String) (triggerId : Option String) : Bool :=
  db.users.contains userId &&
    (match triggerId with
    | none => true
    | some trigger => db.triggers.contains trigger)

/-- Insert one row; the index is checked before the foreign keys. -/
def Db.insert (db : Db) (row : NotificationRow) : Except Failure Db :=
  let collides :=
    match row.eventId with
    | none => false
    | some eventId => (db.find? eventId row.channel).isSome
  if collides then .error .uniqueViolation
  else if db.referencesExist row.userId row.triggerId then
    .ok { db with notifications := db.notifications ++ [row] }
  else .error .foreignKeyViolation

/-- Rewrite the rows a filter hits. -/
def Db.updateMany (db : Db) (hit : NotificationRow → Bool)
    (change : NotificationRow → NotificationRow) : Db :=
  { db with
    notifications :=
      db.notifications.map fun row => if hit row then change row else row }

/-- An update that leaves the keys alone rewrites the row of a key. -/
theorem Db.find?_updateMany {db : Db} {eventId : String} {channel : Channel}
    {hit : NotificationRow → Bool}
    {change : NotificationRow → NotificationRow}
    (keyed : ∀ stored,
      (change stored).hasKey eventId channel =
        stored.hasKey eventId channel) :
    (db.updateMany hit change).find? eventId channel =
      (db.find? eventId channel).map fun stored =>
        if hit stored then change stored else stored := by
  have same : ((fun stored : NotificationRow =>
      stored.hasKey eventId channel) ∘ fun stored =>
        if hit stored then change stored else stored) =
      fun stored => stored.hasKey eventId channel := by
    funext stored
    show NotificationRow.hasKey (if hit stored then _ else _) _ _ = _
    split
    · exact keyed stored
    · rfl
  rw [Db.find?, Db.updateMany, List.find?_map, same]
  rfl

/-! ## The statements of the repository -/

/-- The predicate of the take-over update. -/
def claimable (leaseCutoff : Int)
    (status : NotifStatus) (claimedAt : Option Int) : Bool :=
  status != .sent &&
    (match claimedAt with
    | none => true
    | some stamp => stamp < leaseCutoff)

/-- `claim`, first statement: create the row already leased. -/
def insertClaim (channel : Channel) (event : Json) (now : Int) (db : Db) :
    Except Failure (Unit × Db) := do
  let input ← rowFor channel event .pending none
  let row ← RowInput.validate { input with claimedAt := some now }
  let after ← db.insert row
  return ((), after)

/-- `claim`, second statement: take over a row nobody holds; answers the count. -/
def takeOverClaim (channel : Channel) (event : Json)
    (leaseCutoff now : Int) (db : Db) : Except Failure (Nat × Db) := do
  let filter ← stringFilter (← event.member "eventId")
  let hit := fun row : NotificationRow =>
    filter.accepts row.eventId && row.channel == channel &&
      claimable leaseCutoff row.status row.claimedAt
  let taken := fun row : NotificationRow =>
    { row with status := .pending, claimedAt := some now, error := none }
  return (db.notifications.countP hit, db.updateMany hit taken)

/-- `claim`, third statement: what the row says now. -/
def readBackClaim (channel : Channel) (event : Json) (db : Db) :
    Except Failure (Option NotifStatus × Db) := do
  let eventId ← requiredString (← event.member "eventId")
  return ((db.find? eventId channel).map NotificationRow.status, db)

/-- `releaseClaim(channel, event.eventId)`. -/
def releaseClaimStatement (channel : Channel) (event : Json) (db : Db) :
    Except Failure (Unit × Db) := do
  let filter ← stringFilter (← event.member "eventId")
  let hit := fun row : NotificationRow =>
    filter.accepts row.eventId && row.channel == channel &&
      row.status == .pending
  return ((), db.updateMany hit fun row => { row with claimedAt := none })

/-- `settle`: one upsert on `(eventId, channel)`. -/
def settleStatement (channel : Channel) (event : Json)
    (status : NotifStatus) (error : Option String) (db : Db) :
    Except Failure (Unit × Db) := do
  let eventId ← event.member "eventId"
  let input ← rowFor channel event status error
  let key ← requiredString eventId
  let row ← input.validate
  if (db.find? key channel).isSome then
    let settled := fun stored : NotificationRow =>
      { stored with status := status, error := error }
    return ((), db.updateMany (fun stored => stored.hasKey key channel) settled)
  else
    let after ← db.insert row
    return ((), after)

/-- The destinations that earlier attempts on the event have reached. -/
def deliveredDestinations (channel : Channel) (eventId : String) (db : Db) :
    List String :=
  ((db.find? eventId channel).map NotificationRow.deliveredTo).getD []

def NotificationRow.reached (row : NotificationRow) (destination : String) :
    NotificationRow :=
  { row with deliveredTo := row.deliveredTo ++ [destination] }

/-- Record one destination of a fan-out channel as done. -/
def markDelivered (channel : Channel) (eventId destination : String)
    (db : Db) : Db :=
  db.updateMany (fun row => row.hasKey eventId channel) fun row =>
    row.reached destination

theorem find?_markDelivered (channel : Channel)
    (eventId destination : String) (db : Db) :
    (markDelivered channel eventId destination db).find? eventId channel =
      (db.find? eventId channel).map fun row => row.reached destination := by
  have keyed : ∀ stored : NotificationRow,
      (stored.reached destination).hasKey eventId channel =
        stored.hasKey eventId channel :=
    fun _ => rfl
  rw [markDelivered, Db.find?_updateMany keyed]
  cases found : db.find? eventId channel with
  | none => rfl
  | some row =>
      have own : row.hasKey eventId channel = true := by
        simpa using List.find?_some found
      show some (if row.hasKey eventId channel = true then _ else _) = _
      rw [if_pos own]
      rfl

theorem deliveredTo_markDelivered (channel : Channel)
    (eventId destination : String) (db : Db) :
    ((markDelivered channel eventId destination db).find? eventId
        channel).map NotificationRow.deliveredTo =
      ((db.find? eventId channel).map NotificationRow.deliveredTo).map
        fun reached => reached ++ [destination] := by
  rw [find?_markDelivered, Option.map_map, Option.map_map]
  rfl

/-! ## When an outcome can be written -/

/--
The settle of an event can be written: the payload carries a string event id
and user id and no ill-typed trigger id, and either the row exists already or
the user and the trigger it names still do.
-/
def Recordable (channel : Channel) (event : Json) (db : Db) : Prop :=
  ∃ fields eventId userId triggerId,
    event = .obj fields ∧
      fields.lookup "eventId" = some (.str eventId) ∧
      fields.lookup "userId" = some (.str userId) ∧
      nullableString (fields.lookup "triggerId") = .ok triggerId ∧
      ((db.find? eventId channel).isSome = true ∨
        db.referencesExist userId triggerId = true)

end WeatherNotify.Notifier

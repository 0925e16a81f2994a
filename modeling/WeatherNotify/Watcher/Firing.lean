import WeatherNotify.Domain.ConditionEvaluator
import WeatherNotify.Triggers.Requests
import WeatherNotify.Watcher.TriggerHistory

/-!
# Evaluations on the shared trigger table

Cycles of any number of watchers read active triggers, decide on each with the
snapshot they were given, and write their verdict back in one transaction,
while the requests of the API keep changing the same table one statement at a
time.  A trigger is skipped when there is no snapshot for it.  What an
evaluation has read may be edited, replaced or gone when it writes.

An update that carries conditions replaces the whole set: the old rows are
deleted and new ones inserted under new ids.  The transaction of an evaluation
updates each condition it read by id, so it is rejected as a whole when one of
them is gone.  The rows a deleted account takes with it go as in a request to
clear its triggers.

The outbox here lists every row ever inserted.  The ghosts remember the sets of
conditions ever inserted, the triggers ever inserted with their owners, the
event ids drawn and the evaluations that committed, the latest first.
-/

namespace WeatherNotify.Watcher.Firing

open WeatherNotify.Contracts
open WeatherNotify.Domain
open WeatherNotify.Notifier
open WeatherNotify.Transition
open WeatherNotify.Triggers

/-! ## Rows -/

/-- A `TriggerCondition` row. -/
structure StoredCondition extends Triggers.ConditionRow where
  id : String
  lastObservedValue : Option Rat
  lastMatched : Option Bool
  deriving DecidableEq

/-- A `Trigger` row with its conditions in their order. -/
structure StoredTrigger where
  id : String
  userId : String
  name : String
  city : String
  latitude : Rat
  longitude : Rat
  conditionLogic : ConditionLogic
  conditions : List StoredCondition
  channels : List Channel
  cooldownMin : Nat
  isActive : Bool
  locationBucket : Int
  state : TriggerState
  lastFiredAt : Option Int
  lastEvaluatedAt : Option Int
  deriving DecidableEq

/-- The columns the API reads and writes. -/
def StoredTrigger.columns (row : StoredTrigger) : Triggers.TriggerRow where
  id := row.id
  userId := row.userId
  name := row.name
  city := row.city
  latitude := row.latitude
  longitude := row.longitude
  conditionLogic := row.conditionLogic
  conditions := row.conditions.map StoredCondition.toConditionRow
  channels := row.channels
  cooldownMin := row.cooldownMin
  isActive := row.isActive
  locationBucket := row.locationBucket

/-- A set of new conditions under the ids the database drew for them. -/
def storedConditions (conditions : List Triggers.ConditionRow)
    (ids : List String) : List StoredCondition :=
  conditions.zipWith
    (fun condition id =>
      { condition with id := id, lastObservedValue := none, lastMatched := none })
    ids

/-- The row behind inserted columns; the watcher's have their defaults. -/
def StoredTrigger.inserted (columns : Triggers.TriggerRow)
    (ids : List String) : StoredTrigger where
  id := columns.id
  userId := columns.userId
  name := columns.name
  city := columns.city
  latitude := columns.latitude
  longitude := columns.longitude
  conditionLogic := columns.conditionLogic
  conditions := storedConditions columns.conditions ids
  channels := columns.channels
  cooldownMin := columns.cooldownMin
  isActive := columns.isActive
  locationBucket := columns.locationBucket
  state := .armed
  lastFiredAt := none
  lastEvaluatedAt := none

/-- An update writes the API's columns; new conditions replace the set. -/
def StoredTrigger.updated (round : Rat → Rat) (row : StoredTrigger)
    (dto : UpdateTriggerDto) (ids : List String) : StoredTrigger :=
  let columns := row.columns.updated round dto
  { row with
    name := columns.name
    city := columns.city
    latitude := columns.latitude
    longitude := columns.longitude
    conditionLogic := columns.conditionLogic
    conditions :=
      match dto.conditions with
      | .given conditions => storedConditions (conditionRows conditions) ids
      | _ => row.conditions
    channels := columns.channels
    cooldownMin := columns.cooldownMin
    isActive := columns.isActive
    locationBucket := columns.locationBucket }

/-! ## The statements of the API -/

section Api

variable (round : Rat → Rat)

def create (table : List StoredTrigger) (userId id : String)
    (dto : CreateTriggerDto) (ids : List String) :
    Option (List StoredTrigger) :=
  if table.any fun row => row.id = id then none
  else (createdRow round userId id dto).map fun columns =>
    table ++ [.inserted columns ids]

def update (table : List StoredTrigger) (id : String)
    (dto : UpdateTriggerDto) (ids : List String) :
    Option (List StoredTrigger) :=
  if dto.isRejected then none
  else if table.any fun row => row.id = id then
    some (table.map fun row =>
      if row.id = id then row.updated round dto ids else row)
  else none

def delete (table : List StoredTrigger) (id : String) :
    Option (List StoredTrigger) :=
  if table.any fun row => row.id = id then
    some (table.filter fun row => row.id ≠ id)
  else none

def deleteAllForUser (table : List StoredTrigger) (userId : String) :
    List StoredTrigger :=
  table.filter fun row => row.userId ≠ userId

/-- The statement a request runs; one that fails leaves the table. -/
def statement (table : List StoredTrigger) (ids : List String) :
    Triggers.Phase → Triggers.Action → List StoredTrigger
  | .inserting userId dto, .insert id =>
      (create round table userId id dto ids).getD table
  | .updating id dto, .execute => (update round table id dto ids).getD table
  | .deleting id, .execute => (delete table id).getD table
  | .clearing userId, .execute => deleteAllForUser table userId
  | _, _ => table

end Api

/-- The conditions a statement inserts, and the trigger they belong to. -/
def inserts : Triggers.Phase → Triggers.Action →
    Option (String × List ConditionDto)
  | .inserting _ dto, .insert id => some (id, dto.conditions)
  | .updating id dto, .execute =>
      match dto.conditions with
      | .given conditions => some (id, conditions)
      | _ => none
  | _, _ => none

/-! ## What a cycle reads -/

structure WatchedCondition extends ConditionDto where
  id : String
  deriving DecidableEq

/-- The projection the poll cycle works with. -/
structure WatchedTrigger where
  id : String
  userId : String
  name : String
  city : String
  latitude : Rat
  longitude : Rat
  conditionLogic : ConditionLogic
  conditions : List WatchedCondition
  channels : List Channel
  cooldownMin : Nat
  state : TriggerState
  lastFiredAt : Option Int
  quietHours : Option QuietHours
  deriving DecidableEq

def StoredCondition.watched (condition : StoredCondition) :
    WatchedCondition where
  metric := condition.metric
  operator := condition.operator
  threshold := condition.threshold
  id := condition.id

def StoredTrigger.watched (row : StoredTrigger) (quietHours : QuietHours) :
    WatchedTrigger where
  id := row.id
  userId := row.userId
  name := row.name
  city := row.city
  latitude := row.latitude
  longitude := row.longitude
  conditionLogic := row.conditionLogic
  conditions := row.conditions.map StoredCondition.watched
  channels := row.channels
  cooldownMin := row.cooldownMin
  state := row.state
  lastFiredAt := row.lastFiredAt
  quietHours := some quietHours

/-- `profiles` are the quiet hours on the users' rows. -/
def findActive (table : List StoredTrigger) (profiles : String → QuietHours)
    (buckets : Option (List Int)) : List WatchedTrigger :=
  (table.filter fun row =>
    row.isActive &&
      match buckets with
      | none => true
      | some buckets => row.locationBucket ∈ buckets).map fun row =>
    row.watched (profiles row.userId)

def WatchedTrigger.input (trigger : WatchedTrigger) : TriggerStateInput where
  state := trigger.state
  lastFiredAt := trigger.lastFiredAt
  cooldownMin := trigger.cooldownMin

/-! ## What an evaluation decides -/

/-- The published event with what the watcher adds for its consumers. -/
structure FiredEvent extends TriggerFiredEvent where
  triggerId : String
  channels : List Channel
  firedAt : Int
  deriving DecidableEq

structure OutboxMessage where
  eventId : String
  routingKey : String
  event : FiredEvent
  deriving DecidableEq

/-- The clock and the generator of ids, as one evaluation reads them. -/
structure Readings where
  evaluatedAt : Int
  firedAt : Int
  stampedAt : Int
  eventId : String
  deriving DecidableEq

/-- One call of `processTrigger`: what it was given. -/
structure Processing where
  trigger : WatchedTrigger
  snapshot : WeatherSnapshot
  readings : Readings
  deriving DecidableEq

def firedCondition (result : EvaluatedCondition WatchedCondition) :
    FiredCondition where
  metric := result.condition.metric
  operator := result.condition.operator
  threshold := result.condition.threshold
  observedValue := result.observedValue

namespace Processing

section Decision

variable (round : Rat → Rat) (zones : Zones) (processing : Processing)

def evaluation : ConditionsResult WatchedCondition :=
  evaluateConditions round WatchedCondition.toConditionDto
    processing.snapshot processing.trigger.conditions
    processing.trigger.conditionLogic

def decision : TriggerDecision :=
  decide zones processing.trigger.input
    (processing.evaluation round).matched processing.readings.evaluatedAt
    processing.trigger.quietHours

def patch : TriggerStatePatch :=
  statePatch (processing.decision round zones)
    processing.readings.evaluatedAt processing.readings.stampedAt

/-- The event of a firing. -/
def event : FiredEvent where
  eventId := processing.readings.eventId
  userId := processing.trigger.userId
  triggerName := processing.trigger.name
  city := processing.trigger.city
  conditions := (processing.evaluation round).results.map firedCondition
  conditionLogic := processing.trigger.conditionLogic
  test := none
  triggerId := processing.trigger.id
  channels := processing.trigger.channels
  firedAt := processing.readings.firedAt

def fires : Bool :=
  processing.decision round zones == .fire

/-- One message for each channel of a firing. -/
def messages : List OutboxMessage :=
  if processing.fires round zones then
    processing.trigger.channels.map fun channel =>
      { eventId := processing.readings.eventId
        routingKey := routingKeyFor channel
        event := processing.event round }
  else []

end Decision

end Processing

/-! ## The transaction -/

def StoredCondition.observe (condition : StoredCondition)
    (result : EvaluatedCondition WatchedCondition) : StoredCondition :=
  if condition.id = result.condition.id then
    { condition with
      lastObservedValue := some result.observedValue
      lastMatched := some result.matched }
  else condition

/-- The update of a condition by key; `none` when the row is gone. -/
def updateCondition (table : List StoredTrigger)
    (result : EvaluatedCondition WatchedCondition) :
    Option (List StoredTrigger) :=
  if table.any fun row =>
      row.conditions.any fun condition =>
        condition.id = result.condition.id then
    some (table.map fun row =>
      { row with
        conditions := row.conditions.map fun condition =>
          condition.observe result })
  else none

def StoredTrigger.patched (row : StoredTrigger) (patch : TriggerStatePatch) :
    StoredTrigger :=
  { row with
    state := patch.state.getD row.state
    lastFiredAt := patch.lastFiredAt.or row.lastFiredAt
    lastEvaluatedAt := some patch.lastEvaluatedAt }

def updateTrigger (table : List StoredTrigger) (id : String)
    (patch : TriggerStatePatch) : Option (List StoredTrigger) :=
  if table.any fun row => row.id = id then
    some (table.map fun row => if row.id = id then row.patched patch else row)
  else none

/-- The observations and the patch; `none` when one update is rejected. -/
def writes (table : List StoredTrigger) (id : String)
    (results : List (EvaluatedCondition WatchedCondition))
    (patch : TriggerStatePatch) : Option (List StoredTrigger) := do
  let observed ← results.foldlM updateCondition table
  updateTrigger observed id patch

/-- Rows whose key is taken are skipped. -/
def createMany (outbox : List OutboxMessage) :
    List OutboxMessage → List OutboxMessage
  | [] => outbox
  | message :: rest =>
      if outbox.any fun other => other.eventId = message.eventId ∧
          other.routingKey = message.routingKey then
        createMany outbox rest
      else createMany (outbox ++ [message]) rest

/-! ## The system -/

/-- A set of conditions inserted together. -/
structure Batch where
  triggerId : String
  conditions : List (String × ConditionDto)
  deriving DecidableEq

structure State (n : Nat) where
  triggers : List StoredTrigger
  outbox : List OutboxMessage
  profiles : String → QuietHours
  requests : Fin n → Triggers.Phase
  inHand : List WatchedTrigger
  writing : List Processing
  clock : Int
  batches : List Batch
  owners : List (String × String)
  eventIds : List String
  committed : List Processing

inductive Label (n : Nat) where
  | request (label : Triggers.Label n) (ids : List String)
  | updateProfile (userId : String) (quietHours : QuietHours)
  | findActive (buckets : Option (List Int))
  | processTrigger (index : Nat) (snapshot : WeatherSnapshot)
      (readings : Readings)
  | skip (index : Nat)
  | commit (index : Nat)
  | fail (index : Nat)

/-- Nothing stored and nothing under way. -/
def State.empty (n : Nat) (profiles : String → QuietHours) (clock : Int) :
    State n where
  triggers := []
  outbox := []
  profiles := profiles
  requests _ := .waiting
  inHand := []
  writing := []
  clock := clock
  batches := []
  owners := []
  eventIds := []
  committed := []

variable {n : Nat}

/-- Ids for new conditions: one for each, all different and never used. -/
def FreshConditions (batches : List Batch) (conditions : List ConditionDto)
    (ids : List String) : Prop :=
  ids.length = conditions.length ∧ ids.Nodup ∧
    ∀ id ∈ ids, ∀ batch ∈ batches, id ∉ batch.conditions.map Prod.fst

instance (batches : List Batch) (conditions : List ConditionDto)
    (ids : List String) : Decidable (FreshConditions batches conditions ids) :=
  inferInstanceAs (Decidable (_ ∧ _))

/-- The owner an insertion records. -/
def ownerOf : Triggers.Phase → Triggers.Action → List (String × String)
  | .inserting userId _, .insert id => [(id, userId)]
  | _, _ => []

def batchOf (ids : List String) (phase : Triggers.Phase)
    (action : Triggers.Action) : List Batch :=
  match inserts phase action with
  | some (id, conditions) => [⟨id, ids.zip conditions⟩]
  | none => []

/-- The ids an insertion draws have never been used. -/
def Fresh (state : State n) (ids : List String) (phase : Triggers.Phase)
    (action : Triggers.Action) : Prop :=
  (∀ owner ∈ ownerOf phase action,
      owner.1 ∉ state.owners.map Prod.fst) ∧
    ∀ inserted ∈ inserts phase action,
      FreshConditions state.batches inserted.2 ids

instance (state : State n) (ids : List String) (phase : Triggers.Phase)
    (action : Triggers.Action) : Decidable (Fresh state ids phase action) :=
  inferInstanceAs (Decidable (_ ∧ _))

section Step

variable (round : Rat → Rat) (zones : Zones)

def State.commit (state : State n) (processing : Processing) : State n :=
  match writes state.triggers processing.trigger.id
      (processing.evaluation round).results
      (processing.patch round zones) with
  | none => state
  | some triggers =>
      { state with
        triggers := triggers
        outbox := createMany state.outbox (processing.messages round zones)
        committed := processing :: state.committed }

def step (state : State n) : Label n → Option (State n)
  | .request label ids =>
      let phase := state.requests label.request
      if Fresh state ids phase label.action then
        (Triggers.advance round (state.triggers.map StoredTrigger.columns)
          phase label.action).map fun next =>
            { state with
              triggers :=
                statement round state.triggers ids phase label.action
              requests :=
                Function.update state.requests label.request next.1
              batches := state.batches ++ batchOf ids phase label.action
              owners := state.owners ++ ownerOf phase label.action }
      else none
  | .updateProfile userId quietHours =>
      some { state with
        profiles := Function.update state.profiles userId quietHours }
  | .findActive buckets =>
      some { state with
        inHand := state.inHand ++
          Firing.findActive state.triggers state.profiles buckets }
  | .processTrigger index snapshot readings =>
      match state.inHand[index]? with
      | some trigger =>
          if state.clock ≤ readings.evaluatedAt ∧
              readings.evaluatedAt ≤ readings.firedAt ∧
              readings.firedAt ≤ readings.stampedAt ∧
              readings.eventId ∉ state.eventIds then
            some { state with
              inHand := state.inHand.eraseIdx index
              writing := state.writing ++ [⟨trigger, snapshot, readings⟩]
              clock := readings.stampedAt
              eventIds := state.eventIds ++ [readings.eventId] }
          else none
      | none => none
  | .skip index =>
      -- no weather for its location, or the lock is lost before its turn
      match state.inHand[index]? with
      | some _ => some { state with inHand := state.inHand.eraseIdx index }
      | none => none
  | .commit index =>
      match state.writing[index]? with
      | some processing =>
          some (State.commit round zones
            { state with writing := state.writing.eraseIdx index } processing)
      | none => none
  | .fail index =>
      match state.writing[index]? with
      | some _ => some { state with writing := state.writing.eraseIdx index }
      | none => none

def machine (n : Nat) : Machine (State n) (Label n) where
  step := step round zones

end Step

end WeatherNotify.Watcher.Firing

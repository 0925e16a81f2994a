import Mathlib.Data.List.Basic
import WeatherNotify.Notifier.Lease

/-!
# The history beside the handlings

The row a handling claims and settles is the row the owner sees in the history,
and the core API deletes it: one by one, all of a user, or by age.  Any number
of handlings of one event on one channel run here beside any number of these
requests.  A handling runs the statements of the lease protocol on the row the
table holds for its event and channel.
-/

namespace WeatherNotify.Notifications

open WeatherNotify.Contracts
open WeatherNotify.Notifier
open WeatherNotify.Transition

def pruneChunk : Nat := 5000

/-! ## Rows -/

structure HistoryRow where
  id : String
  userId : String
  eventId : Option String
  channel : Channel
  delivery : Lease.Row
  createdAt : Int
  deriving DecidableEq

/-- The event all handlings carry, with its owner and the channel. -/
structure Delivery where
  eventId : String
  userId : String
  channel : Channel
  deriving DecidableEq

def HistoryRow.belongsTo (row : HistoryRow) (delivery : Delivery) : Bool :=
  row.eventId = some delivery.eventId && row.channel = delivery.channel

/-- What the lease protocol sees of the table. -/
def view (table : List HistoryRow) (delivery : Delivery) :
    Option Lease.Row :=
  (table.find? fun row => row.belongsTo delivery).map HistoryRow.delivery

/-- Writes what a statement of the protocol left; a handling deletes nothing. -/
def store (table : List HistoryRow) (delivery : Delivery) (id : String)
    (createdAt : Int) : Option Lease.Row → List HistoryRow
  | none => table
  | some written =>
      if table.any fun row => row.belongsTo delivery then
        table.map fun row =>
          if row.belongsTo delivery then { row with delivery := written }
          else row
      else
        table ++ [{ id := id, userId := delivery.userId,
                    eventId := some delivery.eventId,
                    channel := delivery.channel, delivery := written,
                    createdAt := createdAt }]

def deleteMany (table : List HistoryRow) (hit : HistoryRow → Bool) :
    List HistoryRow :=
  table.filter fun row => !hit row

/-! ## Requests on the history -/

inductive Request where
  | remove (userId id : String)
  | clear (userId : String)
  | pruneExpired
  deriving DecidableEq

/-- How a request ends; a refusal carries its status and message. -/
inductive Response where
  | removed (id : String)
  | cleared (count : Nat)
  | pruned
  | refused (status : Nat) (message : String)
  deriving DecidableEq

/-- Which statement or call a request runs next. -/
inductive Phase where
  | waiting
  | removing (userId id : String)
  | clearing (userId : String)
  | acquiring
  | renewing (before : Int)
  | finding (before : Int)
  | deleting (before : Int) (ids : List String)
  | answered (response : Response)
  deriving DecidableEq

/-- `granted` is what Redis answers about the lock, `found` a chunk of ids. -/
inductive Action where
  | receive (request : Request)
  | granted (held : Bool)
  | found (ids : List String)
  | execute
  deriving DecidableEq

def Request.first : Request → Phase
  | .remove userId id => .removing userId id
  | .clear userId => .clearing userId
  | .pruneExpired => .acquiring

/-- The rows the deletion of a phase matches. -/
def Phase.deletes : Phase → Option (HistoryRow → Bool)
  | .removing userId id =>
      some fun row => row.id = id && row.userId = userId
  | .clearing userId => some fun row => row.userId = userId
  | .deleting _ ids => some fun row => row.id ∈ ids
  | _ => none

/-- A date drops the fraction of a millisecond. -/
def retentionCutoff (retentionDays : Rat) (clock : Int) : Int :=
  let instant : Rat := clock - retentionDays * 24 * 3600000
  instant.num.tdiv instant.den

/-- Any ids of expired rows, as many as there are up to a full chunk. -/
def isChunk (table : List HistoryRow) (before : Int) (ids : List String) :
    Bool :=
  let expired := (table.filter fun row => row.createdAt < before).map
    HistoryRow.id
  ids.isSubperm expired && ids.length = min pruneChunk expired.length

/-- What a deletion answers to the number of rows it matched. -/
def Phase.afterDeletion (count : Nat) : Phase → Phase
  | .removing _ id =>
      if count = 0 then .answered (.refused 404 "Notification not found")
      else .answered (.removed id)
  | .clearing _ => .answered (.cleared count)
  | .deleting before _ => .renewing before
  | phase => phase

/-- The next phase of a request together with the table it leaves. -/
def advance (retentionDays : Rat) (clock : Int) (table : List HistoryRow)
    (phase : Phase) : Action → Option (Phase × List HistoryRow)
  | .receive request =>
      if phase = .waiting then some (request.first, table) else none
  | .granted held =>
      match phase with
      | .acquiring =>
          if held then
            some (.renewing (retentionCutoff retentionDays clock), table)
          else some (.answered .pruned, table)
      | .renewing before =>
          -- a sweep that lost its lock stops
          if held then some (.finding before, table)
          else some (.answered .pruned, table)
      | _ => none
  | .found ids =>
      match phase with
      | .finding before =>
          if isChunk table before ids then
            if ids = [] then some (.answered .pruned, table)
            else some (.deleting before ids, table)
          else none
      | _ => none
  | .execute =>
      phase.deletes.map fun hit =>
        (phase.afterDeletion (table.countP hit), deleteMany table hit)

/-! ## Both over one table -/

structure Setting (n : Nat) where
  maxAttempts : Nat
  attempts : Fin n → Nat
  delivery : Delivery
  retentionDays : Rat

structure State (n m : Nat) where
  clock : Int
  table : List HistoryRow
  phase : Fin n → Lease.Phase
  owner : Option (Fin n)
  sends : Nat
  requests : Fin m → Phase

/-- No handling and no request has begun. -/
def State.start (n m : Nat) (table : List HistoryRow) : State n m where
  clock := 0
  table := table
  phase := fun _ => .waiting
  owner := none
  sends := 0
  requests := fun _ => .waiting

/-- `id` is the one a row gets if the statement of the handling creates it. -/
inductive Label (n m : Nat) where
  | handle (label : Lease.Label n) (id : String)
  | history (request : Fin m) (action : Action)

variable {n m : Nat}

/-- The handlings with the row the table shows them. -/
def State.protocol (delivery : Delivery) (state : State n m) :
    Lease.State n where
  clock := state.clock
  row := view state.table delivery
  phase := state.phase
  owner := state.owner
  sends := state.sends

def State.handled (delivery : Delivery) (state : State n m) (id : String)
    (next : Lease.State n) : State n m where
  clock := next.clock
  table := store state.table delivery id state.clock next.row
  phase := next.phase
  owner := next.owner
  sends := next.sends
  requests := state.requests

def step (setting : Setting n) (state : State n m) :
    Label n m → Option (State n m)
  | .handle label id =>
      (Lease.step setting.maxAttempts setting.attempts
        (state.protocol setting.delivery) label).map
          (state.handled setting.delivery id)
  | .history request action =>
      (advance setting.retentionDays state.clock state.table
        (state.requests request) action).map fun next =>
          { state with
            table := next.2
            requests := Function.update state.requests request next.1 }

def machine (setting : Setting n) (m : Nat) :
    Machine (State n m) (Label n m) where
  step := step setting

end WeatherNotify.Notifications

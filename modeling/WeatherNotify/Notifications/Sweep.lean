import WeatherNotify.Notifications.History
import WeatherNotify.Transition.Potential

/-!
# The retention sweep beside other writers

One `pruneExpired`, statement by statement, over a table that other requests
insert into and delete from at any time.  Ids are generated and never used
twice, and a row that is inserted while the sweep runs was not created before
the sweep began.

`issued` and `deleted` are ghosts: the ids used so far and the rows that the
statements of the sweep removed.
-/

namespace WeatherNotify.Notifications.Sweep

open WeatherNotify.Transition

/-! ## The sweep -/

structure Setting where
  chunk : Nat
  retentionDays : Rat
  start : Int

/-- The largest distance of a date from the epoch, in milliseconds. -/
def maxTime : Nat := 8640000000000000

/-- The cut-off; `none` is an invalid date. -/
def Setting.before (setting : Setting) : Option Int :=
  let instant := retentionCutoff setting.retentionDays setting.start
  if instant.natAbs ≤ maxTime then some instant else none

/-- Any ids of expired rows, as many as there are up to a full chunk. -/
def isChunkOf (chunk : Nat) (table : List HistoryRow) (before : Int)
    (ids : List String) : Bool :=
  let expired := (table.filter fun row => row.createdAt < before).map
    HistoryRow.id
  ids.isSubperm expired && ids.length = min chunk expired.length

/-- How a sweep ends: without the lock, with nothing left, or with an error. -/
inductive Ending where
  | skipped
  | drained
  | lockLost
  | rejected
  deriving DecidableEq, Repr

inductive Phase where
  | acquiring
  | renewing
  | finding
  | deleting (ids : List String)
  | ended (ending : Ending)
  deriving DecidableEq, Repr

def Phase.isEnded : Phase → Bool
  | .ended _ => true
  | _ => false

/-! ## The table around it -/

/-- A table with its primary key. -/
structure KeyedTable where
  rows : List HistoryRow
  distinct : (rows.map HistoryRow.id).Nodup

structure State where
  table : List HistoryRow
  phase : Phase
  issued : List String
  deleted : List HistoryRow
  deriving DecidableEq

def State.begin (table : KeyedTable) : State where
  table := table.rows
  phase := .acquiring
  issued := table.rows.map HistoryRow.id
  deleted := []

/-- A statement of another request, or the next call of the sweep. -/
inductive Label where
  | insert (row : HistoryRow)
  | discard (ids : List String)
  | acquire (granted : Bool)
  | renew (held : Bool)
  | find (ids : List String)
  | delete
  | fail
  deriving DecidableEq

def Label.ofSweep : Label → Bool
  | .insert _ | .discard _ => false
  | _ => true

def State.moveTo (state : State) (phase : Phase) : State :=
  { state with phase := phase }

def hasId (ids : List String) (row : HistoryRow) : Bool :=
  row.id ∈ ids

def step (setting : Setting) (state : State) : Label → Option State
  | .insert row =>
      if setting.start ≤ row.createdAt ∧ row.id ∉ state.issued then
        some { state with
          table := state.table ++ [row]
          issued := row.id :: state.issued }
      else none
  | .discard ids =>
      some { state with table := deleteMany state.table (hasId ids) }
  | .acquire granted =>
      match state.phase with
      | .acquiring =>
          some (state.moveTo
            (if granted then .renewing else .ended .skipped))
      | _ => none
  | .renew held =>
      match state.phase with
      | .renewing =>
          -- a sweep that lost its lock stops
          some (state.moveTo (if held then .finding else .ended .lockLost))
      | _ => none
  | .find ids =>
      match state.phase, setting.before with
      | .finding, some before =>
          if isChunkOf setting.chunk state.table before ids then
            some (state.moveTo
              (if ids = [] then .ended .drained else .deleting ids))
          else none
      -- the client refuses an invalid date
      | .finding, none => some (state.moveTo (.ended .rejected))
      | _, _ => none
  | .delete =>
      match state.phase with
      | .deleting ids =>
          some { state with
            table := deleteMany state.table (hasId ids)
            phase := .renewing
            deleted := state.deleted ++ state.table.filter (hasId ids) }
      | _ => none
  | .fail =>
      match state.phase with
      | .finding | .deleting _ => some (state.moveTo (.ended .rejected))
      | _ => none

def machine (setting : Setting) : Machine State Label where
  step := step setting

/-! ## The same statements as the request on the history -/

/-- The phase of the request that a phase of the sweep is. -/
def Phase.request (before : Int) : Phase → Notifications.Phase
  | .acquiring => .acquiring
  | .renewing => .renewing before
  | .finding => .finding before
  | .deleting ids => .deleting before ids
  | .ended _ => .answered .pruned

/-- The action of the request that a step of the sweep is. -/
def Label.action : Label → Option Notifications.Action
  | .acquire granted => some (.granted granted)
  | .renew held => some (.granted held)
  | .find ids => some (.found ids)
  | .delete => some .execute
  | .insert _ | .discard _ | .fail => none

/-- With the chunk of the source a step of the sweep is one of the request. -/
theorem step_runs_request {setting : Setting} {state next : State}
    {label : Label} {action : Notifications.Action} {before : Int}
    (chunk : setting.chunk = pruneChunk)
    (valid : setting.before = some before) (named : label.action = some action)
    (stepped : step setting state label = some next) :
    advance setting.retentionDays setting.start state.table
        (state.phase.request before) action =
      some (next.phase.request before, next.table) := by
  have cutoff : retentionCutoff setting.retentionDays setting.start =
      before :=
    Option.some.inj (Option.ite_none_right_eq_some.mp valid).2
  cases label with
  | insert | discard | fail => cases named
  | acquire granted =>
      cases named
      simp only [step] at stepped
      split at stepped
      case h_1 found =>
        cases stepped
        rw [found]
        cases granted with
        | true =>
            show some (Notifications.Phase.renewing _, state.table) = _
            rw [cutoff]
            rfl
        | false => rfl
      case h_2 => cases stepped
  | renew held =>
      cases named
      simp only [step] at stepped
      split at stepped
      case h_1 found =>
        cases stepped
        rw [found]
        cases held <;> rfl
      case h_2 => cases stepped
  | find ids =>
      cases named
      simp only [step, valid] at stepped
      split at stepped
      case h_1 found same =>
        cases same
        rcases Option.ite_none_right_eq_some.mp stepped with ⟨isOne, moved⟩
        cases moved
        have read : isChunk state.table before ids = true := by
          rw [chunk] at isOne
          exact isOne
        rw [found]
        show (if isChunk state.table before ids then _ else none) = _
        rw [if_pos read]
        by_cases empty : ids = []
        · rw [if_pos empty, if_pos empty]
          rfl
        · rw [if_neg empty, if_neg empty]
          rfl
      case h_2 absent => cases absent
      case h_3 => cases stepped
  | delete =>
      cases named
      simp only [step] at stepped
      split at stepped
      case h_1 ids found =>
        cases stepped
        rw [found]
        rfl
      case h_2 => cases stepped

end WeatherNotify.Notifications.Sweep

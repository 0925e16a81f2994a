import WeatherNotify.Transition.Simulation
import WeatherNotify.Watcher.Observations

/-!
# What the clients of the API see of the watchers

The watchers write observations and the columns that remember firings, the API
writes the others, and neither reads what the other writes before it answers.
So the requests and the columns they work on evolve as if no watcher ran.
-/

namespace WeatherNotify.Watcher.Firing

open WeatherNotify.Domain
open WeatherNotify.Transition
open WeatherNotify.Triggers

variable {n : Nat} {round : Rat → Rat} {zones : Zones}

/-! ## One row -/

theorem toConditionRow_storedConditions
    {conditions : List Triggers.ConditionRow} {ids : List String}
    (length : ids.length = conditions.length) :
    (storedConditions conditions ids).map StoredCondition.toConditionRow =
      conditions := by
  unfold storedConditions
  rw [List.map_zipWith]
  induction conditions generalizing ids with
  | nil => rfl
  | cons condition rest induction =>
      cases ids with
      | nil => cases length
      | cons id others =>
          exact congrArg (condition :: ·) (induction (Nat.succ.inj length))

theorem length_conditionRows (conditions : List ConditionDto) :
    (conditionRows conditions).length = conditions.length := by
  rw [conditionRows, List.length_mapIdx]

theorem columns_inserted {columns : Triggers.TriggerRow} {ids : List String}
    (length : ids.length = columns.conditions.length) :
    (StoredTrigger.inserted columns ids).columns = columns := by
  have same := toConditionRow_storedConditions length
  unfold StoredTrigger.columns StoredTrigger.inserted
  simp only [same]

theorem columns_updated (row : StoredTrigger) {dto : UpdateTriggerDto}
    {ids : List String}
    (length : ∀ conditions, dto.conditions = .given conditions →
      ids.length = conditions.length) :
    (row.updated round dto ids).columns = row.columns.updated round dto := by
  unfold StoredTrigger.updated
  cases found : dto.conditions with
  | absent | null =>
      simp only [StoredTrigger.columns, TriggerRow.updated,
        Triggers.TriggerRow.updated, found]
  | given conditions =>
      have drawn : ids.length = (conditionRows conditions).length :=
        (length conditions found).trans (length_conditionRows _).symm
      have same := toConditionRow_storedConditions drawn
      simp only [StoredTrigger.columns, Triggers.TriggerRow.updated, found,
        same]

/-! ## One statement -/

section Statement

variable {table : List StoredTrigger} {ids : List String}

theorem any_columns (table : List StoredTrigger) (id : String) :
    ((table.map StoredTrigger.columns).any fun row => row.id = id) =
      table.any fun row => row.id = id := by
  rw [List.any_map]
  rfl

theorem columns_create {userId id : String} {dto : CreateTriggerDto}
    (length : ids.length = dto.conditions.length) :
    (create round table userId id dto ids).map
        (List.map StoredTrigger.columns) =
      Triggers.create round (table.map StoredTrigger.columns) userId id
        dto := by
  unfold create Triggers.create
  rw [any_columns]
  split
  case isTrue => rfl
  case isFalse =>
    cases made : createdRow round userId id dto with
    | none => rfl
    | some columns =>
        have drawn : ids.length = columns.conditions.length := by
          rw [(createdRow_fields made).2.2, length_conditionRows]
          exact length
        simp only [Option.map_some, List.map_append, List.map_cons,
          List.map_nil, columns_inserted drawn]

theorem columns_update {id : String} {dto : UpdateTriggerDto}
    (length : ∀ conditions, dto.conditions = .given conditions →
      ids.length = conditions.length) :
    (update round table id dto ids).map (List.map StoredTrigger.columns) =
      Triggers.update round (table.map StoredTrigger.columns) id dto := by
  unfold update Triggers.update
  rw [any_columns]
  split
  case isTrue => rfl
  case isFalse =>
    split
    case isFalse => rfl
    case isTrue =>
      simp only [Option.map_some, List.map_map]
      apply congrArg some
      apply List.map_congr_left
      intro row _
      show (if row.id = id then row.updated round dto ids else row).columns =
        if row.id = id then row.columns.updated round dto else row.columns
      split
      case isTrue => exact columns_updated row length
      case isFalse => rfl

theorem columns_delete (table : List StoredTrigger) (id : String) :
    (delete table id).map (List.map StoredTrigger.columns) =
      Triggers.delete (table.map StoredTrigger.columns) id := by
  unfold delete Triggers.delete
  rw [any_columns]
  split
  case isTrue =>
    rw [Option.map_some, List.filter_map]
    rfl
  case isFalse => rfl

theorem columns_deleteAllForUser (table : List StoredTrigger)
    (userId : String) :
    (deleteAllForUser table userId).map StoredTrigger.columns =
      Triggers.deleteAllForUser (table.map StoredTrigger.columns) userId := by
  unfold deleteAllForUser Triggers.deleteAllForUser
  rw [List.filter_map]
  rfl

/-- A statement that fails leaves the table on either side. -/
theorem columns_getD {result : Option (List StoredTrigger)}
    {shown : Option (List Triggers.TriggerRow)}
    (same : result.map (List.map StoredTrigger.columns) = shown)
    (response : Response) :
    (settled (table.map StoredTrigger.columns) response shown).2 =
      (result.getD table).map StoredTrigger.columns := by
  subst same
  cases result <;> rfl

/-- What the API computes on its columns is what the statement does to them. -/
theorem columns_statement {phase next : Triggers.Phase}
    {action : Triggers.Action} {written : List Triggers.TriggerRow}
    (drawn : ∀ inserted ∈ inserts phase action,
      ids.length = inserted.2.length)
    (advanced : Triggers.advance round (table.map StoredTrigger.columns)
      phase action = some (next, written)) :
    (statement round table ids phase action).map StoredTrigger.columns =
      written := by
  have settles : ∀ {response : Response}
      {result : Option (List StoredTrigger)}
      {shown : Option (List Triggers.TriggerRow)},
      result.map (List.map StoredTrigger.columns) = shown →
        some (settled (table.map StoredTrigger.columns) response shown) =
            some (next, written) →
          (result.getD table).map StoredTrigger.columns = written := by
    intro response result shown same ended
    rw [← columns_getD same response, Option.some.inj ended]
  unfold Triggers.advance at advanced
  split at advanced
  case h_1 => exact (Prod.mk.inj (Option.some.inj advanced)).2
  case h_2 => split at advanced <;>
    exact (Prod.mk.inj (Option.some.inj advanced)).2
  case h_3 => split at advanced <;>
    exact (Prod.mk.inj (Option.some.inj advanced)).2
  case h_4 userId dto id =>
    exact settles (columns_create (drawn _ rfl)) advanced
  case h_5 => split at advanced <;>
    exact (Prod.mk.inj (Option.some.inj advanced)).2
  case h_6 id dto =>
    refine settles (columns_update fun conditions found => ?_) advanced
    apply drawn (id, conditions)
    simp only [inserts, found, Option.mem_def]
  case h_7 => split at advanced <;>
    exact (Prod.mk.inj (Option.some.inj advanced)).2
  case h_8 id => exact settles (columns_delete table id) advanced
  case h_9 userId =>
    exact (columns_deleteAllForUser table userId).trans
      (Prod.mk.inj (Option.some.inj advanced)).2
  case h_10 => cases advanced
  case h_11 => cases advanced
  case h_12 =>
    have idle : statement round table ids phase .fail = table := by
      cases phase <;> rfl
    rw [idle]
    exact (Prod.mk.inj (Option.some.inj advanced)).2
  case h_13 => cases advanced

end Statement

/-! ## The run -/

/-- What the API works on. -/
def State.api (state : State n) : Triggers.State n where
  table := state.triggers.map StoredTrigger.columns
  requests := state.requests

/-- The steps of the API. -/
def Label.api : Label n → Option (Triggers.Label n)
  | .request label _ => some label
  | _ => none

theorem api_step {source target : State n} {label : Label n}
    (stepped : (machine round zones n).step source label = some target) :
    (∀ move, label.api = some move →
        (Triggers.machine n round).step source.api move =
          some target.api) ∧
      (label.api = none → target.api = source.api) := by
  cases stepped_of_step stepped with
  | @request label ids phase table fresh advanced =>
      have drawn : ∀ inserted ∈ inserts (source.requests label.request)
          label.action, ids.length = inserted.2.length :=
        fun inserted member => (fresh.2 inserted member).1
      have same := columns_statement drawn advanced
      have shown : Triggers.advance round source.api.table
          (source.api.requests label.request) label.action =
            some (phase, table) :=
        advanced
      refine ⟨fun move seen => ?_, fun unseen => (by cases unseen)⟩
      cases seen
      show Option.map _ (Triggers.advance round source.api.table
        (source.api.requests label.request) label.action) = _
      rw [shown]
      simp only [Option.map_some, State.api, same]
  | updateProfile | findActive | processTrigger | skipped | rejected
  | fail =>
      exact ⟨fun move seen => (by cases seen), fun _ => rfl⟩
  | @committed index processing found triggers applied =>
      have written := (writes_eq_some_iff.mp applied).2.2
      have same : triggers.map StoredTrigger.columns =
          source.triggers.map StoredTrigger.columns := by
        rw [written, List.map_map]
        exact List.map_congr_left fun row _ => written_columns _ _ _ row
      refine ⟨fun move seen => (by cases seen), fun _ => ?_⟩
      simp only [State.api, same]

end WeatherNotify.Watcher.Firing

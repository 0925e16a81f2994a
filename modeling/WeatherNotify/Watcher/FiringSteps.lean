import WeatherNotify.Watcher.Firing

/-!
# What one step does to the trigger table

A statement of the API inserts a row, changes the rows of one id, drops rows or
leaves the table.  The transaction of an evaluation is applied when every
condition it read and its trigger are still stored, and then it changes nothing
but observations and the columns of its patch.
-/

namespace WeatherNotify.Watcher.Firing

open WeatherNotify.Domain
open WeatherNotify.Transition
open WeatherNotify.Triggers

variable {n : Nat} {round : Rat → Rat} {zones : Zones}

/-! ## Statements of the API -/

/-- Every statement, with what it does to the table. -/
inductive Stated (round : Rat → Rat) (table : List StoredTrigger)
    (ids : List String) :
    Triggers.Phase → Triggers.Action → List StoredTrigger → Prop where
  | kept (phase : Triggers.Phase) (action : Triggers.Action) :
      Stated round table ids phase action table
  | created {userId id : String} {dto : CreateTriggerDto}
      {columns : Triggers.TriggerRow}
      (unused : ∀ row ∈ table, row.id ≠ id)
      (made : createdRow round userId id dto = some columns) :
      Stated round table ids (.inserting userId dto) (.insert id)
        (table ++ [.inserted columns ids])
  | updated {id : String} {dto : UpdateTriggerDto} :
      Stated round table ids (.updating id dto) .execute
        (table.map fun row =>
          if row.id = id then row.updated round dto ids else row)
  | removed (phase : Triggers.Phase) (action : Triggers.Action)
      (keep : StoredTrigger → Bool) :
      Stated round table ids phase action (table.filter keep)

theorem stated_statement (round : Rat → Rat) (table : List StoredTrigger)
    (ids : List String) (phase : Triggers.Phase) (action : Triggers.Action) :
    Stated round table ids phase action
      (statement round table ids phase action) := by
  unfold statement
  split
  case h_1 userId dto id =>
    unfold create
    split
    case isTrue => exact .kept _ _
    case isFalse unused =>
      have free : ∀ row ∈ table, row.id ≠ id := by simpa using unused
      cases made : createdRow round userId id dto with
      | none => exact .kept _ _
      | some columns => exact .created free made
  case h_2 id dto =>
    unfold update
    split
    case isTrue => exact .kept _ _
    case isFalse =>
      split
      case isTrue => exact .updated
      case isFalse => exact .kept _ _
  case h_3 id =>
    unfold delete
    split
    case isTrue => exact .removed _ _ _
    case isFalse => exact .kept _ _
  case h_4 => exact .removed _ _ _
  case h_5 => exact .kept _ _

/-- What a creation stores. -/
theorem createdRow_fields {userId id : String} {dto : CreateTriggerDto}
    {columns : Triggers.TriggerRow}
    (made : createdRow round userId id dto = some columns) :
    columns.id = id ∧ columns.userId = userId ∧
      columns.conditions = conditionRows dto.conditions := by
  unfold createdRow at made
  split at made
  · cases made
  · cases made
    exact ⟨rfl, rfl, rfl⟩

/-! ## The transaction of an evaluation -/

abbrev Result := EvaluatedCondition WatchedCondition

/-- What the observations of one transaction make of a condition. -/
def StoredCondition.observed (results : List Result)
    (condition : StoredCondition) : StoredCondition :=
  results.foldl StoredCondition.observe condition

def StoredTrigger.observed (results : List Result) (row : StoredTrigger) :
    StoredTrigger :=
  { row with conditions := row.conditions.map (·.observed results) }

@[simp]
theorem observe_toConditionRow (condition : StoredCondition)
    (result : Result) :
    (condition.observe result).toConditionRow = condition.toConditionRow := by
  unfold StoredCondition.observe
  split <;> rfl

@[simp]
theorem observe_id (condition : StoredCondition) (result : Result) :
    (condition.observe result).id = condition.id := by
  unfold StoredCondition.observe
  split <;> rfl

/-- Observing moves neither the id of a condition nor what it compares. -/
theorem observed_keeps (results : List Result) (condition : StoredCondition) :
    (condition.observed results).id = condition.id ∧
      (condition.observed results).toConditionRow =
        condition.toConditionRow := by
  unfold StoredCondition.observed
  induction results generalizing condition with
  | nil => exact ⟨rfl, rfl⟩
  | cons result rest induction =>
      rcases induction (condition.observe result) with ⟨sameId, sameRow⟩
      rw [observe_id] at sameId
      rw [observe_toConditionRow] at sameRow
      exact ⟨sameId, sameRow⟩

/-- A condition that no result is for stays as it is. -/
theorem observed_of_absent {results : List Result}
    {condition : StoredCondition}
    (absent : ∀ result ∈ results, result.condition.id ≠ condition.id) :
    condition.observed results = condition := by
  unfold StoredCondition.observed
  induction results with
  | nil => rfl
  | cons result rest induction =>
      rcases List.forall_mem_cons.mp absent with ⟨other, others⟩
      have skipped : condition.observe result = condition :=
        if_neg (Ne.symm other)
      rw [List.foldl_cons, skipped]
      exact induction others

/-- With one result for each id, a condition takes the one for its own. -/
theorem observed_of_mem {results : List Result}
    (distinct : (results.map fun result => result.condition.id).Nodup)
    {result : Result} (member : result ∈ results)
    {condition : StoredCondition}
    (same : result.condition.id = condition.id) :
    condition.observed results =
      { condition with
        lastObservedValue := some result.observedValue
        lastMatched := some result.matched } := by
  induction results generalizing condition with
  | nil => cases member
  | cons first rest induction =>
      rcases List.nodup_cons.mp distinct with ⟨unlisted, others⟩
      rcases List.mem_cons.mp member with rfl | later
      · have taken : condition.observe result =
            { condition with
              lastObservedValue := some result.observedValue
              lastMatched := some result.matched } :=
          if_pos same.symm
        show (condition.observe result).observed rest = _
        rw [taken]
        apply observed_of_absent
        intro other listed equal
        exact unlisted (List.mem_map.mpr ⟨other, listed, equal.trans same.symm⟩)
      · have skipped : condition.observe first = condition := by
          apply if_neg
          intro equal
          exact unlisted (List.mem_map.mpr ⟨result, later, same.trans equal⟩)
        show (condition.observe first).observed rest = _
        rw [skipped]
        exact induction others later same

/-- Some stored row has a condition with this id. -/
def Holds (table : List StoredTrigger) (id : String) : Prop :=
  ∃ row ∈ table, ∃ condition ∈ row.conditions, condition.id = id

theorem updateCondition_eq_some_iff {table written : List StoredTrigger}
    {result : Result} :
    updateCondition table result = some written ↔
      Holds table result.condition.id ∧
        written = table.map (·.observed [result]) := by
  have found : (table.any fun row => row.conditions.any fun condition =>
      condition.id = result.condition.id) = true ↔
        Holds table result.condition.id := by
    simp [Holds, List.any_eq_true]
  unfold updateCondition
  rw [ite_eq_iff, found]
  simp only [Option.some.injEq, reduceCtorEq, and_false, or_false,
    eq_comm (b := written)]
  rfl

theorem holds_observed {table : List StoredTrigger} {results : List Result}
    {id : String} :
    Holds (table.map (·.observed results)) id ↔ Holds table id := by
  unfold Holds
  simp only [List.mem_map, exists_exists_and_eq_and, StoredTrigger.observed]
  constructor
  · rintro ⟨row, member, condition, listed, same⟩
    exact ⟨row, member, condition, listed,
      (observed_keeps results condition).1.symm.trans same⟩
  · rintro ⟨row, member, condition, listed, same⟩
    exact ⟨row, member, condition, listed,
      (observed_keeps results condition).1.trans same⟩

theorem observed_observed (row : StoredTrigger) (result : Result)
    (rest : List Result) :
    (row.observed [result]).observed rest = row.observed (result :: rest) := by
  unfold StoredTrigger.observed
  simp only [List.map_map]
  rfl

theorem observed_nil (row : StoredTrigger) : row.observed [] = row := by
  unfold StoredTrigger.observed StoredCondition.observed
  simp

theorem foldlM_updateCondition {table written : List StoredTrigger}
    {results : List Result} :
    results.foldlM updateCondition table = some written ↔
      (∀ result ∈ results, Holds table result.condition.id) ∧
        written = table.map (·.observed results) := by
  induction results generalizing table with
  | nil =>
      have same : table.map (·.observed []) = table := by
        simp only [observed_nil, List.map_id']
      rw [same]
      simp [eq_comm]
  | cons result rest induction =>
      rw [List.foldlM_cons, Option.bind_eq_bind, Option.bind_eq_some_iff]
      constructor
      · rintro ⟨next, first, later⟩
        rcases updateCondition_eq_some_iff.mp first with ⟨held, rfl⟩
        rcases induction.mp later with ⟨others, rfl⟩
        constructor
        · intro other listed
          rcases List.mem_cons.mp listed with rfl | listed
          · exact held
          · exact holds_observed.mp (others other listed)
        · rw [List.map_map]
          exact List.map_congr_left fun row _ => observed_observed row _ _
      · rintro ⟨all, rfl⟩
        rcases List.forall_mem_cons.mp all with ⟨held, others⟩
        refine ⟨_, updateCondition_eq_some_iff.mpr ⟨held, rfl⟩,
          induction.mpr ⟨?_, ?_⟩⟩
        · exact fun other listed => holds_observed.mpr (others other listed)
        · rw [List.map_map]
          exact List.map_congr_left fun row _ =>
            (observed_observed row _ _).symm

/-- What an applied transaction makes of a row. -/
def StoredTrigger.written (id : String) (results : List Result)
    (patch : TriggerStatePatch) (row : StoredTrigger) : StoredTrigger :=
  if row.id = id then (row.observed results).patched patch
  else row.observed results

/--
The transaction applies exactly when all it updates is stored, and then it
writes every observation and the patch.
-/
theorem writes_eq_some_iff {table written : List StoredTrigger}
    {id : String} {results : List Result} {patch : TriggerStatePatch} :
    writes table id results patch = some written ↔
      (∀ result ∈ results, Holds table result.condition.id) ∧
        (∃ row ∈ table, row.id = id) ∧
        written = table.map (·.written id results patch) := by
  have found : ((table.map (·.observed results)).any
      fun row => row.id = id) = true ↔ ∃ row ∈ table, row.id = id := by
    simp [StoredTrigger.observed]
  have patched : (table.map (·.observed results)).map (fun row =>
      if row.id = id then row.patched patch else row) =
        table.map (·.written id results patch) := by
    rw [List.map_map]
    rfl
  unfold writes
  rw [Option.bind_eq_bind, Option.bind_eq_some_iff]
  constructor
  · rintro ⟨observed, first, later⟩
    rcases foldlM_updateCondition.mp first with ⟨held, rfl⟩
    unfold updateTrigger at later
    split at later
    case isTrue known =>
      refine ⟨held, found.mp known, ?_⟩
      rw [← patched]
      exact (Option.some.inj later).symm
    case isFalse => cases later
  · rintro ⟨held, known, rfl⟩
    refine ⟨_, foldlM_updateCondition.mpr ⟨held, rfl⟩, ?_⟩
    unfold updateTrigger
    rw [if_pos (found.mpr known), patched]

@[simp]
theorem written_id (id : String) (results : List Result)
    (patch : TriggerStatePatch) (row : StoredTrigger) :
    (row.written id results patch).id = row.id := by
  unfold StoredTrigger.written
  split <;> rfl

@[simp]
theorem written_userId (id : String) (results : List Result)
    (patch : TriggerStatePatch) (row : StoredTrigger) :
    (row.written id results patch).userId = row.userId := by
  unfold StoredTrigger.written
  split <;> rfl

@[simp]
theorem written_conditions (id : String) (results : List Result)
    (patch : TriggerStatePatch) (row : StoredTrigger) :
    (row.written id results patch).conditions =
      row.conditions.map (·.observed results) := by
  unfold StoredTrigger.written
  split <;> rfl

/-- The API's columns never move in the transaction of an evaluation. -/
theorem written_columns (id : String) (results : List Result)
    (patch : TriggerStatePatch) (row : StoredTrigger) :
    (row.written id results patch).columns = row.columns := by
  have observed : (row.observed results).columns = row.columns := by
    unfold StoredTrigger.observed StoredTrigger.columns
    simp only [List.map_map, Triggers.TriggerRow.mk.injEq, true_and,
      and_true]
    exact List.map_congr_left fun condition _ =>
      (observed_keeps results condition).2
  unfold StoredTrigger.written
  split
  · exact observed
  · exact observed

/-! ## Steps -/

/-- Every step, with what enabled it and the state it leads to. -/
inductive Stepped (round : Rat → Rat) (zones : Zones) (state : State n) :
    Label n → State n → Prop where
  | request {label : Triggers.Label n} {ids : List String}
      {phase : Triggers.Phase} {table : List Triggers.TriggerRow}
      (fresh : Fresh state ids (state.requests label.request) label.action)
      (advanced : Triggers.advance round
        (state.triggers.map StoredTrigger.columns)
        (state.requests label.request) label.action = some (phase, table)) :
      Stepped round zones state (.request label ids)
        { state with
          triggers := statement round state.triggers ids
            (state.requests label.request) label.action
          requests := Function.update state.requests label.request phase
          batches := state.batches ++
            batchOf ids (state.requests label.request) label.action
          owners := state.owners ++
            ownerOf (state.requests label.request) label.action }
  | updateProfile (userId : String) (quietHours : QuietHours) :
      Stepped round zones state (.updateProfile userId quietHours)
        { state with
          profiles := Function.update state.profiles userId quietHours }
  | findActive (buckets : Option (List Int)) :
      Stepped round zones state (.findActive buckets)
        { state with
          inHand := state.inHand ++
            Firing.findActive state.triggers state.profiles buckets }
  | processTrigger {index : Nat} {trigger : WatchedTrigger}
      (found : state.inHand[index]? = some trigger)
      (snapshot : WeatherSnapshot) {readings : Readings}
      (notBefore : state.clock ≤ readings.evaluatedAt)
      (firedAfter : readings.evaluatedAt ≤ readings.firedAt)
      (stampedAfter : readings.firedAt ≤ readings.stampedAt)
      (drawn : readings.eventId ∉ state.eventIds) :
      Stepped round zones state (.processTrigger index snapshot readings)
        { state with
          inHand := state.inHand.eraseIdx index
          writing := state.writing ++ [⟨trigger, snapshot, readings⟩]
          clock := readings.stampedAt
          eventIds := state.eventIds ++ [readings.eventId] }
  | skipped {index : Nat} {trigger : WatchedTrigger}
      (found : state.inHand[index]? = some trigger) :
      Stepped round zones state (.skip index)
        { state with inHand := state.inHand.eraseIdx index }
  | committed {index : Nat} {processing : Processing}
      (found : state.writing[index]? = some processing)
      {triggers : List StoredTrigger}
      (applied : writes state.triggers processing.trigger.id
        (processing.evaluation round).results
        (processing.patch round zones) = some triggers) :
      Stepped round zones state (.commit index)
        { state with
          writing := state.writing.eraseIdx index
          triggers := triggers
          outbox :=
            createMany state.outbox (processing.messages round zones)
          committed := processing :: state.committed }
  | rejected {index : Nat} {processing : Processing}
      (found : state.writing[index]? = some processing)
      (refused : writes state.triggers processing.trigger.id
        (processing.evaluation round).results
        (processing.patch round zones) = none) :
      Stepped round zones state (.commit index)
        { state with writing := state.writing.eraseIdx index }
  | fail {index : Nat} {processing : Processing}
      (found : state.writing[index]? = some processing) :
      Stepped round zones state (.fail index)
        { state with writing := state.writing.eraseIdx index }

theorem stepped_of_step {state target : State n} {label : Label n}
    (stepped : step round zones state label = some target) :
    Stepped round zones state label target := by
  cases label with
  | request label ids =>
      simp only [step] at stepped
      split at stepped
      case isTrue fresh =>
        rcases Option.map_eq_some_iff.mp stepped with
          ⟨⟨phase, table⟩, advanced, rfl⟩
        exact .request fresh advanced
      case isFalse => cases stepped
  | updateProfile userId quietHours =>
      cases stepped
      exact .updateProfile userId quietHours
  | findActive buckets =>
      cases stepped
      exact .findActive buckets
  | processTrigger index snapshot readings =>
      simp only [step] at stepped
      split at stepped
      case h_1 trigger found =>
        split at stepped
        case isTrue ready =>
          rcases ready with ⟨notBefore, firedAfter, stampedAfter, drawn⟩
          cases stepped
          exact .processTrigger found snapshot notBefore firedAfter
            stampedAfter drawn
        case isFalse => cases stepped
      case h_2 => cases stepped
  | skip index =>
      simp only [step] at stepped
      split at stepped
      case h_1 trigger found =>
        cases stepped
        exact .skipped found
      case h_2 => cases stepped
  | commit index =>
      simp only [step] at stepped
      split at stepped
      case h_1 processing found =>
        cases stepped
        unfold State.commit
        cases result : writes state.triggers processing.trigger.id
            (processing.evaluation round).results
            (processing.patch round zones) with
        | none => exact .rejected found result
        | some triggers => exact .committed found result
      case h_2 => cases stepped
  | fail index =>
      simp only [step] at stepped
      split at stepped
      case h_1 processing found =>
        cases stepped
        exact .fail found
      case h_2 => cases stepped

end WeatherNotify.Watcher.Firing

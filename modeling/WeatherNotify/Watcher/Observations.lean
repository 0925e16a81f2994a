import Mathlib.Data.List.Pairwise
import WeatherNotify.Watcher.FiringSteps

/-!
# What the observations on a trigger mean

Conditions are inserted in sets, under ids used once, and never change what
they compare.  So the conditions an evaluation has read are either still the
whole set of their trigger or all gone; its transaction is rejected exactly in
the second case.  What a trigger's conditions show is therefore the outcome of
one evaluation of just these conditions, the latest that committed, and never
a mixture of two or the verdict on a condition that was edited away.
-/

namespace WeatherNotify.Watcher.Firing

open WeatherNotify.Domain
open WeatherNotify.Transition
open WeatherNotify.Triggers

variable {n : Nat} {round : Rat → Rat} {zones : Zones}

/-! ## Sets of conditions -/

def Batch.ids (batch : Batch) : List String :=
  batch.conditions.map Prod.fst

def StoredTrigger.batch (row : StoredTrigger) : Batch where
  triggerId := row.id
  conditions := row.conditions.map fun condition =>
    (condition.id, condition.toConditionDto)

def WatchedTrigger.batch (trigger : WatchedTrigger) : Batch where
  triggerId := trigger.id
  conditions := trigger.conditions.map fun condition =>
    (condition.id, condition.toConditionDto)

@[simp]
theorem batch_watched (row : StoredTrigger) (quietHours : QuietHours) :
    (row.watched quietHours).batch = row.batch := by
  simp [WatchedTrigger.batch, StoredTrigger.batch, StoredTrigger.watched,
    StoredCondition.watched, Function.comp_def]

@[simp]
theorem batch_written (id : String) (results : List Result)
    (patch : TriggerStatePatch) (row : StoredTrigger) :
    (row.written id results patch).batch = row.batch := by
  unfold StoredTrigger.batch
  rw [written_id, written_conditions, List.map_map]
  apply congrArg (Batch.mk row.id)
  apply List.map_congr_left
  intro condition _
  rcases observed_keeps results condition with ⟨sameId, sameRow⟩
  show ((condition.observed results).id,
    (condition.observed results).toConditionRow.toConditionDto) = _
  rw [sameId, sameRow]

theorem storedConditions_batch (conditions : List ConditionDto)
    (ids : List String) :
    (storedConditions (conditionRows conditions) ids).map
        (fun condition => (condition.id, condition.toConditionDto)) =
      ids.zip conditions := by
  apply List.ext_getElem?
  intro position
  simp only [storedConditions, conditionRows, List.getElem?_map,
    List.getElem?_zipWith, List.getElem?_mapIdx, List.zip]
  cases conditions[position]? <;> cases ids[position]? <;> rfl

/-- Two recorded sets that share an id are one. -/
theorem batch_eq_of_shared {batches : List Batch}
    (distinct : (batches.flatMap Batch.ids).Nodup) {left right : Batch}
    (leftKnown : left ∈ batches) (rightKnown : right ∈ batches)
    {id : String} (inLeft : id ∈ left.ids) (inRight : id ∈ right.ids) :
    left = right := by
  by_contra different
  have apart := (List.nodup_flatMap.mp distinct).2
  have symmetric : Std.Symm (Function.onFun List.Disjoint Batch.ids) :=
    ⟨fun _ _ => List.Disjoint.symm⟩
  have disjoint : List.Disjoint left.ids right.ids :=
    apart.forall leftKnown rightKnown different
  exact disjoint inLeft inRight

/-! ## The invariant -/

/-- What cycles have read and not forgotten. -/
def State.evaluations (state : State n) : List WatchedTrigger :=
  state.inHand ++ (state.writing ++ state.committed).map Processing.trigger

/-- Everything stored or read belongs to a recorded set of conditions. -/
structure Registered (state : State n) : Prop where
  rows : ∀ row ∈ state.triggers, row.batch ∈ state.batches
  keys : (state.triggers.map StoredTrigger.id).Nodup
  owned : ∀ row ∈ state.triggers, (row.id, row.userId) ∈ state.owners
  read : ∀ trigger ∈ state.evaluations,
    trigger.batch ∈ state.batches ∧
      (trigger.id, trigger.userId) ∈ state.owners
  distinct : (state.batches.flatMap Batch.ids).Nodup
  owners : (state.owners.map Prod.fst).Nodup

theorem registered_empty (profiles : String → QuietHours) (clock : Int) :
    Registered (State.empty n profiles clock) := by
  constructor <;> simp [State.empty, State.evaluations]

/-- A row a statement leaves was there, or has a set of its own. -/
theorem row_of_stated {table next : List StoredTrigger} {ids : List String}
    {phase : Triggers.Phase} {action : Triggers.Action}
    (stated : Stated round table ids phase action next)
    {row : StoredTrigger} (member : row ∈ next) :
    (row.batch ∈ batchOf ids phase action ∧
        ∀ condition ∈ row.conditions, condition.lastObservedValue = none ∧
          condition.lastMatched = none) ∨
      ∃ before ∈ table, before.id = row.id ∧
        before.conditions = row.conditions := by
  have unobserved : ∀ conditions, ∀ condition ∈
      storedConditions (conditionRows conditions) ids,
      condition.lastObservedValue = none ∧ condition.lastMatched = none := by
    intro conditions condition listed
    unfold storedConditions at listed
    rcases List.mem_iff_getElem.mp listed with ⟨position, bound, rfl⟩
    rw [List.getElem_zipWith]
    exact ⟨rfl, rfl⟩
  cases stated with
  | kept => exact Or.inr ⟨row, member, rfl, rfl⟩
  | @created userId id dto columns unused made =>
      rcases createdRow_fields made with ⟨sameId, -, sameConditions⟩
      rcases List.mem_append.mp member with old | new
      · exact Or.inr ⟨row, old, rfl, rfl⟩
      · cases List.mem_singleton.mp new
        apply Or.inl
        constructor
        · show Batch.mk columns.id _ ∈ [Batch.mk id _]
          apply List.mem_singleton.mpr
          rw [sameId, ← storedConditions_batch, ← sameConditions]
          rfl
        · show ∀ condition ∈ storedConditions columns.conditions ids, _
          rw [sameConditions]
          exact unobserved _
  | @updated id dto =>
      rcases List.mem_map.mp member with ⟨before, old, rfl⟩
      split
      case isFalse => exact Or.inr ⟨before, old, rfl, rfl⟩
      case isTrue same =>
        cases found : dto.conditions with
        | absent | null =>
            refine Or.inr ⟨before, old, rfl, ?_⟩
            simp only [StoredTrigger.updated, found]
        | given conditions =>
            have replaced : (before.updated round dto ids).conditions =
                storedConditions (conditionRows conditions) ids := by
              simp only [StoredTrigger.updated, found]
            apply Or.inl
            rw [replaced]
            constructor
            · simp only [batchOf, inserts, found, List.mem_singleton]
              show Batch.mk before.id _ = _
              rw [same, replaced, storedConditions_batch]
            · exact unobserved conditions
  | removed keep =>
      exact Or.inr ⟨row, (List.mem_filter.mp member).1, rfl, rfl⟩

/-- Statements neither repeat a key nor move a row to another owner. -/
theorem keys_of_stated {table next : List StoredTrigger} {ids : List String}
    {phase : Triggers.Phase} {action : Triggers.Action}
    (stated : Stated round table ids phase action next)
    (keys : (table.map StoredTrigger.id).Nodup) :
    (next.map StoredTrigger.id).Nodup ∧
      ∀ row ∈ next, (row.id, row.userId) ∈ ownerOf phase action ∨
        ∃ before ∈ table, before.id = row.id ∧
          before.userId = row.userId := by
  cases stated with
  | kept => exact ⟨keys, fun row member => Or.inr ⟨row, member, rfl, rfl⟩⟩
  | @created userId id dto columns unused made =>
      rcases createdRow_fields made with ⟨sameId, sameUser, -⟩
      constructor
      · rw [List.map_append]
        apply List.nodup_append.mpr
        refine ⟨keys, List.nodup_singleton _, ?_⟩
        rintro other listed key new rfl
        rcases List.mem_map.mp listed with ⟨row, member, same⟩
        rw [List.mem_singleton.mp new] at same
        exact unused row member (same.trans sameId)
      · intro row member
        rcases List.mem_append.mp member with old | new
        · exact Or.inr ⟨row, old, rfl, rfl⟩
        · cases List.mem_singleton.mp new
          apply Or.inl
          apply List.mem_singleton.mpr
          exact Prod.ext sameId sameUser
  | @updated id dto =>
      constructor
      · rw [List.map_map]
        have same : (table.map (StoredTrigger.id ∘ fun row =>
            if row.id = id then row.updated round dto ids else row)) =
              table.map StoredTrigger.id := by
          apply List.map_congr_left
          intro row _
          simp only [Function.comp_apply]
          split <;> rfl
        rw [same]
        exact keys
      · intro row member
        rcases List.mem_map.mp member with ⟨before, old, rfl⟩
        refine Or.inr ⟨before, old, ?_⟩
        split <;> exact ⟨rfl, rfl⟩
  | removed keep =>
      constructor
      · exact keys.sublist (List.filter_sublist.map _)
      · exact fun row member =>
          Or.inr ⟨row, (List.mem_filter.mp member).1, rfl, rfl⟩

theorem distinct_batchOf {state : State n} {ids : List String}
    {phase : Triggers.Phase} {action : Triggers.Action}
    (fresh : Fresh state ids phase action)
    (distinct : (state.batches.flatMap Batch.ids).Nodup) :
    ((state.batches ++ batchOf ids phase action).flatMap Batch.ids).Nodup := by
  unfold batchOf
  cases inserted : inserts phase action with
  | none =>
      rw [List.append_nil]
      exact distinct
  | some set =>
      rcases set with ⟨id, conditions⟩
      rcases fresh.2 _ inserted with ⟨length, own, unused⟩
      have drawn : Batch.ids ⟨id, ids.zip conditions⟩ = ids :=
        List.map_fst_zip length.le
      rw [List.flatMap_append, List.flatMap_singleton, drawn]
      apply List.nodup_append.mpr
      refine ⟨distinct, own, ?_⟩
      rintro old known new listed rfl
      rcases List.mem_flatMap.mp known with ⟨batch, recorded, inside⟩
      exact unused old listed batch recorded inside

theorem registered_request {state : State n} (registered : Registered state)
    {label : Triggers.Label n} {ids : List String} {phase : Triggers.Phase}
    (fresh : Fresh state ids (state.requests label.request) label.action) :
    Registered { state with
      triggers := statement round state.triggers ids
        (state.requests label.request) label.action
      requests := Function.update state.requests label.request phase
      batches := state.batches ++
        batchOf ids (state.requests label.request) label.action
      owners := state.owners ++
        ownerOf (state.requests label.request) label.action } := by
  have stated := stated_statement round state.triggers ids
    (state.requests label.request) label.action
  rcases keys_of_stated stated registered.keys with ⟨keys, users⟩
  constructor
  · intro row member
    rcases row_of_stated stated member with
      ⟨new, -⟩ | ⟨before, old, sameId, sameConditions⟩
    · exact List.mem_append_right _ new
    · have same : before.batch = row.batch := by
        unfold StoredTrigger.batch
        rw [sameId, sameConditions]
      exact List.mem_append_left _ (same ▸ registered.rows before old)
  · exact keys
  · intro row member
    rcases users row member with new | ⟨before, old, sameId, sameUser⟩
    · exact List.mem_append_right _ new
    · rw [← sameId, ← sameUser]
      exact List.mem_append_left _ (registered.owned before old)
  · intro trigger member
    rcases registered.read trigger member with ⟨known, owner⟩
    exact ⟨List.mem_append_left _ known, List.mem_append_left _ owner⟩
  · exact distinct_batchOf fresh registered.distinct
  · rw [List.map_append]
    have unused := fresh.1
    revert unused
    unfold ownerOf
    split
    case h_1 userId dto id =>
      intro unused
      apply List.nodup_append.mpr
      refine ⟨registered.owners, List.nodup_singleton _, ?_⟩
      rintro other known key new rfl
      rw [List.mem_singleton.mp new] at known
      exact unused _ List.mem_cons_self known
    case h_2 =>
      intro _
      rw [List.map_nil, List.append_nil]
      exact registered.owners

/-- Nothing new is in flight after a step that only forgets or moves. -/
theorem Registered.of_evaluations {state next : State n}
    (registered : Registered state)
    (triggers : next.triggers = state.triggers)
    (batches : next.batches = state.batches)
    (owners : next.owners = state.owners)
    (evaluations : ∀ trigger ∈ next.evaluations,
      trigger ∈ state.evaluations) : Registered next where
  rows := by
    rw [triggers, batches]
    exact registered.rows
  keys := by
    rw [triggers]
    exact registered.keys
  owned := by
    rw [triggers, owners]
    exact registered.owned
  read trigger member := by
    rw [batches, owners]
    exact registered.read trigger (evaluations trigger member)
  distinct := by
    rw [batches]
    exact registered.distinct
  owners := by
    rw [owners]
    exact registered.owners

theorem mem_evaluations {state : State n} {trigger : WatchedTrigger} :
    trigger ∈ state.evaluations ↔ trigger ∈ state.inHand ∨
      (∃ processing ∈ state.writing, processing.trigger = trigger) ∨
      ∃ processing ∈ state.committed, processing.trigger = trigger := by
  simp only [State.evaluations, List.mem_append, List.mem_map, or_and_right,
    exists_or]

theorem registered_step {state target : State n} {label : Label n}
    (stepped : (machine round zones n).step state label = some target)
    (registered : Registered state) : Registered target := by
  cases stepped_of_step stepped with
  | request fresh advanced => exact registered_request registered fresh
  | updateProfile userId quietHours =>
      exact registered.of_evaluations rfl rfl rfl fun _ member => member
  | findActive buckets =>
      refine ⟨registered.rows, registered.keys, registered.owned, ?_,
        registered.distinct, registered.owners⟩
      intro trigger member
      rcases mem_evaluations.mp member with held | other
      · rcases List.mem_append.mp held with old | new
        · exact registered.read trigger
            (mem_evaluations.mpr (Or.inl old))
        · rcases List.mem_map.mp new with ⟨row, listed, rfl⟩
          have stored := (List.mem_filter.mp listed).1
          rw [batch_watched]
          exact ⟨registered.rows row stored, registered.owned row stored⟩
      · exact registered.read trigger (mem_evaluations.mpr (Or.inr other))
  | @processTrigger index trigger found =>
      refine registered.of_evaluations rfl rfl rfl ?_
      intro other member
      rcases mem_evaluations.mp member with held |
        ⟨processing, writing, same⟩ | committed
      · exact mem_evaluations.mpr (Or.inl (List.mem_of_mem_eraseIdx held))
      · rcases List.mem_append.mp writing with old | new
        · exact mem_evaluations.mpr (Or.inr (Or.inl ⟨processing, old, same⟩))
        · rw [List.mem_singleton.mp new] at same
          rw [← same]
          exact mem_evaluations.mpr (Or.inl (List.mem_of_getElem? found))
      · exact mem_evaluations.mpr (Or.inr (Or.inr committed))
  | skipped found =>
      refine registered.of_evaluations rfl rfl rfl ?_
      intro trigger member
      rcases mem_evaluations.mp member with held | other
      · exact mem_evaluations.mpr (Or.inl (List.mem_of_mem_eraseIdx held))
      · exact mem_evaluations.mpr (Or.inr other)
  | @committed index processing found triggers applied =>
      have written := (writes_eq_some_iff.mp applied).2.2
      subst written
      refine ⟨?_, ?_, ?_, ?_, registered.distinct, registered.owners⟩
      · intro row member
        rcases List.mem_map.mp member with ⟨before, old, rfl⟩
        rw [batch_written]
        exact registered.rows before old
      · rw [List.map_map]
        have same : state.triggers.map (StoredTrigger.id ∘ fun row =>
            row.written processing.trigger.id
              (processing.evaluation round).results
              (processing.patch round zones)) =
                state.triggers.map StoredTrigger.id :=
          List.map_congr_left fun row _ => written_id _ _ _ row
        rw [same]
        exact registered.keys
      · intro row member
        rcases List.mem_map.mp member with ⟨before, old, rfl⟩
        rw [written_id, written_userId]
        exact registered.owned before old
      · intro trigger member
        apply registered.read trigger
        rcases mem_evaluations.mp member with held |
          ⟨other, writing, same⟩ | ⟨other, committed, same⟩
        · exact mem_evaluations.mpr (Or.inl held)
        · exact mem_evaluations.mpr (Or.inr (Or.inl
            ⟨other, List.mem_of_mem_eraseIdx writing, same⟩))
        · rcases List.mem_cons.mp committed with rfl | old
          · exact mem_evaluations.mpr (Or.inr (Or.inl
              ⟨other, List.mem_of_getElem? found, same⟩))
          · exact mem_evaluations.mpr (Or.inr (Or.inr ⟨other, old, same⟩))
  | rejected found refused | fail found =>
      refine registered.of_evaluations rfl rfl rfl ?_
      intro trigger member
      rcases mem_evaluations.mp member with held |
        ⟨other, writing, same⟩ | committed
      · exact mem_evaluations.mpr (Or.inl held)
      · exact mem_evaluations.mpr (Or.inr (Or.inl
          ⟨other, List.mem_of_mem_eraseIdx writing, same⟩))
      · exact mem_evaluations.mpr (Or.inr (Or.inr committed))

/-! ## One transaction -/

section Transaction

variable {state : State n} {processing : Processing}

theorem results_eq (processing : Processing) :
    (processing.evaluation round).results =
      processing.trigger.conditions.map
        (enriched round WatchedCondition.toConditionDto
          processing.snapshot) :=
  rfl

theorem ids_results (round : Rat → Rat) (processing : Processing) :
    (processing.evaluation round).results.map
        (fun result => result.condition.id) =
      processing.trigger.batch.ids := by
  simp [results_eq, WatchedTrigger.batch, Batch.ids, Function.comp_def]

theorem StoredTrigger.ids_batch (row : StoredTrigger) :
    row.batch.ids = row.conditions.map StoredCondition.id := by
  simp [StoredTrigger.batch, Batch.ids, Function.comp_def]

theorem Registered.batch_writing (registered : Registered state)
    (member : processing ∈ state.writing) :
    processing.trigger.batch ∈ state.batches :=
  (registered.read _ (mem_evaluations.mpr
    (Or.inr (Or.inl ⟨processing, member, rfl⟩)))).1

/-- The set read is the trigger's present one, or none of it is left. -/
theorem batch_eq_of_held (registered : Registered state)
    (member : processing ∈ state.writing) {row : StoredTrigger}
    (stored : row ∈ state.triggers) (id : String)
    (held : id ∈ row.batch.ids) (read : id ∈ processing.trigger.batch.ids) :
    row.batch = processing.trigger.batch :=
  batch_eq_of_shared registered.distinct (registered.rows row stored)
    (registered.batch_writing member) held read

/--
The transaction of an evaluation applies exactly when its trigger is still
stored with the conditions that were read.
-/
theorem writes_isSome_iff (registered : Registered state)
    (member : processing ∈ state.writing) :
    (writes state.triggers processing.trigger.id
        (processing.evaluation round).results
        (processing.patch round zones)).isSome = true ↔
      ∃ row ∈ state.triggers, row.id = processing.trigger.id ∧
        (row.batch = processing.trigger.batch ∨
          processing.trigger.conditions = []) := by
  rw [Option.isSome_iff_exists]
  simp only [writes_eq_some_iff]
  constructor
  · rintro ⟨_, held, ⟨row, stored, same⟩, -⟩
    cases conditions : processing.trigger.conditions with
    | nil => exact ⟨row, stored, same, Or.inr rfl⟩
    | cons first rest =>
        have listed : first ∈ processing.trigger.conditions := by
          rw [conditions]
          exact List.mem_cons_self
        have result : enriched round WatchedCondition.toConditionDto
            processing.snapshot first ∈
              (processing.evaluation round).results :=
          List.mem_map_of_mem listed
        rcases held _ result with
          ⟨other, otherStored, condition, inside, sameId⟩
        have equal : other.batch = processing.trigger.batch := by
          apply batch_eq_of_held registered member otherStored condition.id
          · rw [StoredTrigger.ids_batch]
            exact List.mem_map_of_mem inside
          · rw [sameId, ← ids_results round]
            exact List.mem_map_of_mem result
        exact ⟨other, otherStored, congrArg Batch.triggerId equal,
          Or.inl equal⟩
  · rintro ⟨row, stored, same, cases⟩
    refine ⟨_, ?_, ⟨row, stored, same⟩, rfl⟩
    intro result listed
    rcases cases with equal | empty
    · have read : result.condition.id ∈ row.batch.ids := by
        rw [equal, ← ids_results round]
        exact List.mem_map_of_mem listed
      rw [StoredTrigger.ids_batch] at read
      rcases List.mem_map.mp read with ⟨condition, inside, sameId⟩
      exact ⟨row, stored, condition, inside, sameId⟩
    · rw [results_eq, empty] at listed
      cases listed

/-- What the conditions show after an evaluation of just these conditions. -/
def ObservedBy (round : Rat → Rat) (conditions : List StoredCondition) :
    Option Processing → Prop
  | none => ∀ condition ∈ conditions,
      condition.lastObservedValue = none ∧ condition.lastMatched = none
  | some processing => ∀ condition ∈ conditions,
      condition.lastObservedValue =
          some (metricValue processing.snapshot condition.metric) ∧
        condition.lastMatched =
          some (verdict round condition.toConditionDto
            (metricValue processing.snapshot condition.metric))

/-- The set that was read gets its observations together. -/
theorem observedBy_written (registered : Registered state)
    (member : processing ∈ state.writing) {row : StoredTrigger}
    (same : row.batch = processing.trigger.batch) :
    ObservedBy round
      (row.conditions.map
        (·.observed (processing.evaluation round).results))
      (some processing) := by
  have distinct : ((processing.evaluation round).results.map
      fun result => result.condition.id).Nodup := by
    rw [ids_results]
    exact (List.nodup_flatMap.mp registered.distinct).1 _
      (registered.batch_writing member)
  intro condition listed
  rcases List.mem_map.mp listed with ⟨before, stored, rfl⟩
  have read : (before.id, before.toConditionDto) ∈
      processing.trigger.batch.conditions := by
    rw [← same]
    exact List.mem_map_of_mem stored
  rcases List.mem_map.mp read with ⟨watched, watchedMember, equal⟩
  rcases Prod.mk.inj equal with ⟨sameId, sameSpec⟩
  have result : enriched round WatchedCondition.toConditionDto
      processing.snapshot watched ∈ (processing.evaluation round).results :=
    List.mem_map_of_mem watchedMember
  rw [observed_of_mem distinct result sameId, enriched_observedValue,
    enriched_matched, sameSpec]
  exact ⟨rfl, rfl⟩

/-- A set that was not read keeps what it shows. -/
theorem observed_of_different (registered : Registered state)
    (member : processing ∈ state.writing) {row : StoredTrigger}
    (stored : row ∈ state.triggers)
    (different : row.batch ≠ processing.trigger.batch) :
    row.conditions.map
        (·.observed (processing.evaluation round).results) =
      row.conditions := by
  have unread : ∀ condition ∈ row.conditions,
      condition.observed (processing.evaluation round).results =
        condition := by
    intro condition listed
    apply observed_of_absent
    intro result read equal
    apply different
    apply batch_eq_of_held registered member stored condition.id
    · rw [StoredTrigger.ids_batch]
      exact List.mem_map_of_mem listed
    · rw [← equal, ← ids_results round]
      exact List.mem_map_of_mem read
  rw [List.map_congr_left unread, List.map_id']

end Transaction

/-! ## The run -/

/-- The latest committed evaluation of this set of conditions. -/
def latest (committed : List Processing) (batch : Batch) :
    Option Processing :=
  committed.find? fun processing => processing.trigger.batch = batch

theorem latest_cons (processing : Processing) (committed : List Processing)
    (batch : Batch) :
    latest (processing :: committed) batch =
      if processing.trigger.batch = batch then some processing
      else latest committed batch := by
  unfold latest
  rw [List.find?_cons]
  by_cases same : processing.trigger.batch = batch
  · simp [same]
  · simp [same]

/-- Every trigger shows its latest committed evaluation. -/
structure Observed (round : Rat → Rat) (state : State n) : Prop where
  registered : Registered state
  shown : ∀ row ∈ state.triggers,
    ObservedBy round row.conditions (latest state.committed row.batch)

/-- A set inserted by this statement has not been evaluated. -/
theorem latest_of_batchOf {state : State n} {ids : List String}
    {phase : Triggers.Phase} {action : Triggers.Action} {batch : Batch}
    (registered : Registered state)
    (fresh : Fresh state ids phase action)
    (inserted : batch ∈ batchOf ids phase action) :
    batch.conditions = [] ∨ latest state.committed batch = none := by
  unfold batchOf at inserted
  cases set : inserts phase action with
  | none =>
      rw [set] at inserted
      cases inserted
  | some pair =>
      rcases pair with ⟨id, conditions⟩
      rw [set] at inserted
      rcases fresh.2 _ set with ⟨length, -, unused⟩
      cases List.mem_singleton.mp inserted
      cases zipped : ids.zip conditions with
      | nil => exact Or.inl rfl
      | cons first rest =>
          apply Or.inr
          apply List.find?_eq_none.mpr
          intro processing committed equal
          have known := (registered.read _ (mem_evaluations.mpr
            (Or.inr (Or.inr ⟨processing, committed, rfl⟩)))).1
          have drawn : first.1 ∈ ids := by
            have inside : first ∈ ids.zip conditions := by
              rw [zipped]
              exact List.mem_cons_self
            exact (List.of_mem_zip (show (first.1, first.2) ∈ _ from
              inside)).1
          apply unused first.1 drawn _ known
          rw [of_decide_eq_true equal]
          exact List.mem_cons_self

theorem observed_step {state target : State n} {label : Label n}
    (stepped : (machine round zones n).step state label = some target)
    (observed : Observed round state) : Observed round target := by
  have registered := observed.registered
  refine ⟨registered_step stepped registered, ?_⟩
  cases stepped_of_step stepped with
  | @request label ids phase table fresh advanced =>
      intro row member
      have stated := stated_statement round state.triggers ids
        (state.requests label.request) label.action
      rcases row_of_stated stated member with
        ⟨new, unobserved⟩ | ⟨before, old, sameId, sameConditions⟩
      · rcases latest_of_batchOf registered fresh new with empty | none
        · have bare : row.conditions = [] := List.map_eq_nil_iff.mp empty
          show ObservedBy round row.conditions
            (latest state.committed row.batch)
          rw [bare]
          cases latest state.committed row.batch <;> exact nofun
        · show ObservedBy round row.conditions
            (latest state.committed row.batch)
          rw [none]
          exact unobserved
      · have same : before.batch = row.batch := by
          unfold StoredTrigger.batch
          rw [sameId, sameConditions]
        rw [← same, ← sameConditions]
        exact observed.shown before old
  | updateProfile | findActive | processTrigger | skipped | rejected
  | fail =>
      exact observed.shown
  | @committed index processing found triggers applied =>
      have member := List.mem_of_getElem? found
      have written := (writes_eq_some_iff.mp applied).2.2
      subst written
      intro row listed
      rcases List.mem_map.mp listed with ⟨before, old, rfl⟩
      rw [batch_written, written_conditions]
      show ObservedBy round _ (latest (processing :: state.committed) _)
      rw [latest_cons]
      by_cases same : before.batch = processing.trigger.batch
      · rw [if_pos same.symm]
        exact observedBy_written registered member same
      · rw [if_neg (Ne.symm same),
          observed_of_different registered member old same]
        exact observed.shown before old

theorem observed_of_run {profiles : String → QuietHours} {clock : Int}
    {labels : List (Label n)} {final : State n}
    (reached : (machine round zones n).run
      (State.empty n profiles clock) labels = some final) :
    Observed round final := by
  refine Machine.run_preserves (Observed round) observed_step ?_ reached
  exact ⟨registered_empty profiles clock, fun _ member => by cases member⟩

/--
Whatever the API does between the read and the write of an evaluation, the
conditions of a trigger show together what the latest committed evaluation of
just these conditions saw, and a transaction is rejected exactly when its
trigger is gone or has other conditions by now.
-/
theorem observations_of_run {profiles : String → QuietHours} {clock : Int}
    {labels : List (Label n)} {final : State n}
    (reached : (machine round zones n).run
      (State.empty n profiles clock) labels = some final) :
    (∀ row ∈ final.triggers,
      ObservedBy round row.conditions
        (latest final.committed row.batch)) ∧
    ∀ processing ∈ final.writing,
      ((writes final.triggers processing.trigger.id
          (processing.evaluation round).results
          (processing.patch round zones)).isSome = true ↔
        ∃ row ∈ final.triggers, row.id = processing.trigger.id ∧
          (row.batch = processing.trigger.batch ∨
            processing.trigger.conditions = [])) := by
  have observed : Observed round final := observed_of_run reached
  exact ⟨observed.shown, fun processing member =>
    writes_isSome_iff observed.registered member⟩

/-! ## A run -/

def heatDto : CreateTriggerDto where
  name := "Heat"
  city := "Berlin"
  latitude := 52
  longitude := 13
  conditions := [⟨.temperature, .gt, 30⟩]
  channels := [.telegram, .email]

def hotDay : WeatherSnapshot :=
  ⟨31, 33, 40, 5, 0, 1⟩

/-- The requests of one client, up to the insertion of the trigger. -/
def heatCreated : List (Label 1) :=
  [.request ⟨0, .receive (.create "u" heatDto)⟩ [],
    .request ⟨0, .verified true⟩ [],
    .request ⟨0, .execute⟩ [],
    .request ⟨0, .insert "t"⟩ ["c"]]

/-- A hot day is read twice before either evaluation writes. -/
def heatObserved : List (Label 1) :=
  heatCreated ++
    [.findActive none, .findActive none,
      .processTrigger 0 hotDay ⟨0, 1, 2, "e"⟩, .commit 0,
      .processTrigger 0 hotDay ⟨10, 11, 12, "f"⟩]

theorem observations_of_heat :
    ∃ final : State 1,
      (machine id (fun _ _ => none) 1).run
          (State.empty 1 (fun _ => ⟨none, none, none⟩) 0) heatObserved =
        some final ∧
      final.triggers.map (fun row =>
          row.conditions.map StoredCondition.lastMatched) = [[some true]] ∧
      ∀ row ∈ final.triggers,
        ObservedBy id row.conditions
          (latest final.committed row.batch) := by
  obtain ⟨final, reached⟩ : ∃ final : State 1,
      (machine id (fun _ _ => none) 1).run
          (State.empty 1 (fun _ => ⟨none, none, none⟩) 0) heatObserved =
        some final :=
    ⟨_, rfl⟩
  refine ⟨final, reached, ?_, (observations_of_run reached).1⟩
  cases reached
  decide

end WeatherNotify.Watcher.Firing

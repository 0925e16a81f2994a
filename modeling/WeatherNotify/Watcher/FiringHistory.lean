import Mathlib.Data.List.Forall2
import WeatherNotify.Transition.Simulation
import WeatherNotify.Watcher.StagedEvents

/-!
# One trigger of the shared table has the history of one trigger

As long as no cycle reads a trigger while an earlier evaluation of it is under
way, which is what the cycle lock is for, the committed evaluations of the
trigger are those of a run of the history machine.  What that machine says of
cooldowns and of the state therefore holds on the shared table, with any other
triggers, requests and watchers around.

The history lags behind while an evaluation is under way: the edits made since
its read are pending, and they are the ones made meanwhile when it commits.
-/

namespace WeatherNotify.Watcher.Firing

open WeatherNotify.Domain
open WeatherNotify.Transition
open WeatherNotify.Triggers

variable {n : Nat} {round : Rat → Rat} {zones : Zones}

/-! ## The two levels -/

/-- The columns of a row that the decision reads. -/
def StoredTrigger.memory (row : StoredTrigger) : TriggerRow Unit where
  state := row.state
  lastFiredAt := row.lastFiredAt
  lastEvaluatedAt := row.lastEvaluatedAt
  cooldownMin := row.cooldownMin
  details := ()

/-- An edit that sets the cooldown. -/
def cooldownEdit (cooldownMin : Int) : TriggerEdit Unit where
  cooldownMin := some cooldownMin
  details := id

/-- What the history machine is given for an evaluation. -/
def Processing.given (round : Rat → Rat) (processing : Processing) :
    History.Evaluation where
  matched := (processing.evaluation round).matched
  quietHours := processing.trigger.quietHours
  evaluatedAt := processing.readings.evaluatedAt
  stampedAt := processing.readings.stampedAt

/-- An outcome on record is that of a committed evaluation. -/
structure Records (round : Rat → Rat) (zones : Zones)
    (outcome : History.Outcome Unit) (processing : Processing) : Prop where
  evaluation : outcome.evaluation = processing.given round
  cooldownMin : outcome.cooldownMin = processing.trigger.cooldownMin
  fires : outcome.fires = processing.fires round zones
  stamp : processing.fires round zones = true →
    outcome.row.lastFiredAt = some processing.readings.stampedAt

/-- The committed evaluations of one trigger, the latest first. -/
def committedOf (committed : List Processing) (id : String) :
    List Processing :=
  committed.filter fun processing => processing.trigger.id = id

/-- How many evaluations of a trigger are under way. -/
def State.underWay (state : State n) (id : String) : Nat :=
  (state.inHand.countP fun trigger => trigger.id = id) +
    state.writing.countP fun processing => processing.trigger.id = id

/-- The table and a history that has these edits still to come. -/
structure Tracks (round : Rat → Rat) (zones : Zones) (id : String)
    (state : State n) (history : History.State Unit)
    (edits : List (TriggerEdit Unit)) : Prop where
  registered : Registered state
  row : ∀ row ∈ state.triggers, row.id = id →
    row.memory = edits.foldl TriggerRow.edited history.row
  unborn : id ∉ state.owners.map Prod.fst →
    history.row = .created none () ∧ state.underWay id = 0
  held : ∀ trigger ∈ state.inHand, trigger.id = id →
    trigger.input = history.row.input
  writing : ∀ processing ∈ state.writing, processing.trigger.id = id →
    processing.trigger.input = history.row.input ∧
      history.clock ≤ processing.readings.evaluatedAt ∧
      processing.readings.evaluatedAt ≤ processing.readings.stampedAt ∧
      processing.readings.stampedAt ≤ state.clock
  alone : state.underWay id ≤ 1
  clock : history.clock ≤ state.clock
  records : List.Forall₂ (Records round zones) history.history
    (committedOf state.committed id)

def Related (round : Rat → Rat) (zones : Zones) (id : String)
    (state : State n) (history : History.State Unit) : Prop :=
  ∃ edits, Tracks round zones id state history edits

/-- A cycle reads the trigger only when no evaluation of it is under way. -/
def ReadsAlone (id : String) (taken : Taken (State n) (Label n)) : Prop :=
  ∀ buckets, taken.label = .findActive buckets →
    (∃ trigger ∈ findActive taken.source.triggers taken.source.profiles
        buckets, trigger.id = id) →
      taken.source.underWay id = 0

theorem tracks_empty (id : String) (profiles : String → QuietHours)
    (clock : Int) :
    Tracks round zones id (State.empty n profiles clock)
      (History.State.created none () clock) [] where
  registered := registered_empty profiles clock
  row _ member := by cases member
  unborn _ := ⟨rfl, rfl⟩
  held _ member := by cases member
  writing _ member := by cases member
  alone := Nat.zero_le 1
  clock := le_rfl
  records := .nil

/-! ## Edits -/

/-- Pending edits are a run of the history machine. -/
theorem run_edits (history : History.State Unit)
    (edits : List (TriggerEdit Unit)) :
    (History.machine zones).run history (edits.map .update) =
      some { history with
        row := edits.foldl TriggerRow.edited history.row } := by
  induction edits generalizing history with
  | nil => rfl
  | cons edit rest induction =>
      exact induction { history with row := history.row.edited edit }

/-- A statement of the API edits the cooldown of a row at most. -/
theorem memory_edited_of_stated {table next : List StoredTrigger}
    {ids : List String} {phase : Triggers.Phase} {action : Triggers.Action}
    (stated : Stated round table ids phase action next)
    (keys : (table.map StoredTrigger.id).Nodup) {id : String}
    (old : id ∉ (ownerOf phase action).map Prod.fst) :
    ∃ edits : List (TriggerEdit Unit), ∀ row ∈ next, row.id = id →
      ∃ before ∈ table, before.id = id ∧
        row.memory = edits.foldl TriggerRow.edited before.memory := by
  cases stated with
  | kept => exact ⟨[], fun row member same => ⟨row, member, same, rfl⟩⟩
  | @created userId other dto columns unused made =>
      refine ⟨[], fun row member same => ?_⟩
      rcases List.mem_append.mp member with stored | new
      · exact ⟨row, stored, same, rfl⟩
      · cases List.mem_singleton.mp new
        apply absurd _ old
        exact List.mem_singleton.mpr
          (same.symm.trans (createdRow_fields made).1)
  | @updated other dto =>
      by_cases there : ∃ row ∈ table, row.id = id ∧ row.id = other
      · rcases there with ⟨stored, storedMember, sameId, sameOther⟩
        refine ⟨[cooldownEdit
          (stored.updated round dto ids).cooldownMin], ?_⟩
        intro row member same
        rcases List.mem_map.mp member with ⟨before, beforeMember, rfl⟩
        have beforeId : before.id = id := by
          revert same
          split <;> exact fun same => same
        have equal : before = stored :=
          List.inj_on_of_nodup_map keys beforeMember storedMember
            (beforeId.trans sameId.symm)
        subst equal
        refine ⟨before, beforeMember, sameId, ?_⟩
        rw [if_pos sameOther]
        rfl
      · refine ⟨[], fun row member same => ?_⟩
        rcases List.mem_map.mp member with ⟨before, beforeMember, rfl⟩
        by_cases target : before.id = other
        · rw [if_pos target] at same
          exact absurd ⟨before, beforeMember, same, target⟩ there
        · rw [if_neg target] at same ⊢
          exact ⟨before, beforeMember, same, rfl⟩
  | removed keep =>
      exact ⟨[], fun row member same =>
        ⟨row, (List.mem_filter.mp member).1, same, rfl⟩⟩

/-- The row a statement inserts under this id is new and alone. -/
theorem memory_of_inserted {table next : List StoredTrigger}
    {ids : List String} {phase : Triggers.Phase} {action : Triggers.Action}
    (stated : Stated round table ids phase action next) {id : String}
    (absent : ∀ row ∈ table, row.id ≠ id) :
    ∃ cooldownMin : Int, ∀ row ∈ next, row.id = id →
      row.memory = (TriggerRow.created none ()).edited
        (cooldownEdit cooldownMin) := by
  cases stated with
  | kept => exact ⟨0, fun row member same => absurd same (absent row member)⟩
  | @created userId other dto columns unused made =>
      refine ⟨columns.cooldownMin, fun row member same => ?_⟩
      rcases List.mem_append.mp member with stored | new
      · exact absurd same (absent row stored)
      · cases List.mem_singleton.mp new
        rfl
  | updated =>
      refine ⟨0, fun row member same => ?_⟩
      rcases List.mem_map.mp member with ⟨before, stored, rfl⟩
      apply absurd _ (absent before stored)
      revert same
      split <;> exact fun same => same
  | removed keep =>
      exact ⟨0, fun row member same =>
        absurd same (absent row (List.mem_filter.mp member).1)⟩

/-! ## What is under way -/

section UnderWay

variable {state : State n} {id : String}

theorem underWay_eq_zero :
    state.underWay id = 0 ↔
      (∀ trigger ∈ state.inHand, trigger.id ≠ id) ∧
        ∀ processing ∈ state.writing, processing.trigger.id ≠ id := by
  simp [State.underWay, List.countP_eq_zero]

/-- Taking an element out of a list takes its share of a count. -/
theorem countP_eraseIdx {Item : Type} {items : List Item} {index : Nat}
    {item : Item} (found : items[index]? = some item)
    (counted : Item → Bool) :
    (items.eraseIdx index).countP counted +
      (if counted item then 1 else 0) = items.countP counted := by
  rcases List.getElem?_eq_some_iff.mp found with ⟨bound, rfl⟩
  have moved := (List.getElem_cons_eraseIdx_perm bound).countP_eq counted
  rw [List.countP_cons] at moved
  exact moved

/-- The one evaluation under way is the one that commits. -/
theorem underWay_eraseIdx (id : String) {index : Nat}
    {processing : Processing}
    (found : state.writing[index]? = some processing) :
    { state with writing := state.writing.eraseIdx index }.underWay id +
      (if processing.trigger.id = id then 1 else 0) =
        state.underWay id := by
  have taken := countP_eraseIdx found
    (fun processing => decide (processing.trigger.id = id))
  simp only [decide_eq_true_eq] at taken
  simp only [State.underWay]
  omega

/-- A cycle reads a trigger at most once. -/
theorem countP_findActive_le (keys : (state.triggers.map
    StoredTrigger.id).Nodup) (profiles : String → QuietHours)
    (buckets : Option (List Int)) :
    (findActive state.triggers profiles buckets).countP
      (fun trigger => trigger.id = id) ≤ 1 := by
  have distinct : ((findActive state.triggers profiles buckets).map
      WatchedTrigger.id).Nodup := by
    unfold findActive
    rw [List.map_map]
    exact keys.sublist (List.filter_sublist.map _)
  have counted := List.nodup_iff_count_le_one.mp distinct id
  rw [List.count, List.countP_map] at counted
  exact counted

end UnderWay

/-! ## Steps -/

section Steps

variable {id : String} {state : State n} {history : History.State Unit}
variable {edits : List (TriggerEdit Unit)}

/-- Before its insertion nothing is stored under an id. -/
theorem absent_of_unborn (registered : Registered state)
    (unborn : id ∉ state.owners.map Prod.fst) :
    ∀ row ∈ state.triggers, row.id ≠ id := by
  rintro row stored rfl
  exact unborn (List.mem_map_of_mem (registered.owned row stored))

theorem tracks_request
    (tracks : Tracks round zones id state history edits)
    {label : Triggers.Label n} {ids : List String} {phase : Triggers.Phase}
    (fresh : Fresh state ids (state.requests label.request) label.action) :
    Related round zones id { state with
      triggers := statement round state.triggers ids
        (state.requests label.request) label.action
      requests := Function.update state.requests label.request phase
      batches := state.batches ++
        batchOf ids (state.requests label.request) label.action
      owners := state.owners ++
        ownerOf (state.requests label.request) label.action } history := by
  have stated := stated_statement round state.triggers ids
    (state.requests label.request) label.action
  by_cases born : id ∈ state.owners.map Prod.fst
  · have old : id ∉ (ownerOf (state.requests label.request)
        label.action).map Prod.fst := by
      intro again
      rcases List.mem_map.mp again with ⟨owner, listed, rfl⟩
      exact fresh.1 owner listed born
    obtain ⟨later, edited⟩ :=
      memory_edited_of_stated stated tracks.registered.keys old
    refine ⟨edits ++ later, registered_request tracks.registered fresh,
      ?_, ?_, tracks.held, tracks.writing, tracks.alone, tracks.clock,
      tracks.records⟩
    · intro row member same
      rcases edited row member same with ⟨before, stored, sameId, equal⟩
      rw [equal, tracks.row before stored sameId, List.foldl_append]
    · intro absent
      exact absurd born fun known => absent (by
        rw [List.map_append]
        exact List.mem_append_left _ known)
  · have none := absent_of_unborn tracks.registered born
    rcases tracks.unborn born with ⟨created, idle⟩
    obtain ⟨cooldownMin, inserted⟩ := memory_of_inserted stated none
    refine ⟨[cooldownEdit cooldownMin],
      registered_request tracks.registered fresh, ?_,
      fun _ => ⟨created, idle⟩, tracks.held, tracks.writing, tracks.alone,
      tracks.clock, tracks.records⟩
    intro row member same
    rw [created]
    exact inserted row member same

theorem input_watched (row : StoredTrigger) (quietHours : QuietHours) :
    (row.watched quietHours).input = row.memory.input :=
  rfl

theorem tracks_findActive
    (tracks : Tracks round zones id state history edits)
    {buckets : Option (List Int)}
    (registered : Registered { state with
      inHand := state.inHand ++
        findActive state.triggers state.profiles buckets })
    (alone : (∃ trigger ∈ findActive state.triggers state.profiles buckets,
      trigger.id = id) → state.underWay id = 0) :
    ∃ moves next, (History.machine zones).run history moves = some next ∧
      Related round zones id { state with
        inHand := state.inHand ++
          findActive state.triggers state.profiles buckets } next := by
  have total : State.underWay { state with
      inHand := state.inHand ++
        findActive state.triggers state.profiles buckets } id =
      state.underWay id +
        (findActive state.triggers state.profiles buckets).countP
          (fun trigger => trigger.id = id) := by
    simp only [State.underWay, List.countP_append]
    omega
  by_cases read : ∃ trigger ∈
      findActive state.triggers state.profiles buckets, trigger.id = id
  · -- the pending edits are made before the evaluation reads
    have idle := underWay_eq_zero.mp (alone read)
    refine ⟨_, _, run_edits history edits, [], registered, tracks.row,
      ?_, ?_, ?_, ?_, tracks.clock, tracks.records⟩
    · intro unborn
      rcases read with ⟨trigger, listed, same⟩
      rcases List.mem_map.mp listed with ⟨row, kept, rfl⟩
      have stored := (List.mem_filter.mp kept).1
      exact absurd same
        (absent_of_unborn tracks.registered unborn row stored)
    · intro trigger member same
      rcases List.mem_append.mp member with old | new
      · exact absurd same (idle.1 trigger old)
      · rcases List.mem_map.mp new with ⟨row, kept, rfl⟩
        have stored := (List.mem_filter.mp kept).1
        rw [input_watched, tracks.row row stored same]
    · exact fun processing member same =>
        absurd same (idle.2 processing member)
    · rw [total, alone read, Nat.zero_add]
      exact countP_findActive_le tracks.registered.keys _ _
  · have unread : (findActive state.triggers state.profiles buckets).countP
        (fun trigger => trigger.id = id) = 0 := by
      apply List.countP_eq_zero.mpr
      intro trigger listed same
      exact read ⟨trigger, listed, of_decide_eq_true same⟩
    rw [unread, Nat.add_zero] at total
    refine ⟨[], history, rfl, edits, registered, tracks.row, ?_, ?_,
      tracks.writing, ?_, tracks.clock, tracks.records⟩
    · intro unborn
      rw [total]
      exact tracks.unborn unborn
    · intro trigger member same
      rcases List.mem_append.mp member with old | new
      · exact tracks.held trigger old same
      · exact absurd ⟨trigger, new, same⟩ read
    · rw [total]
      exact tracks.alone

theorem tracks_processTrigger
    (tracks : Tracks round zones id state history edits) {index : Nat}
    {trigger : WatchedTrigger}
    (found : state.inHand[index]? = some trigger)
    (snapshot : WeatherSnapshot) {readings : Readings}
    (notBefore : state.clock ≤ readings.evaluatedAt)
    (firedAfter : readings.evaluatedAt ≤ readings.firedAt)
    (stampedAfter : readings.firedAt ≤ readings.stampedAt)
    (registered : Registered { state with
      inHand := state.inHand.eraseIdx index
      writing := state.writing ++ [⟨trigger, snapshot, readings⟩]
      clock := readings.stampedAt
      eventIds := state.eventIds ++ [readings.eventId] }) :
    Tracks round zones id { state with
      inHand := state.inHand.eraseIdx index
      writing := state.writing ++ [⟨trigger, snapshot, readings⟩]
      clock := readings.stampedAt
      eventIds := state.eventIds ++ [readings.eventId] } history edits := by
  have taken := countP_eraseIdx found
    (fun trigger => decide (trigger.id = id))
  have total : State.underWay { state with
      inHand := state.inHand.eraseIdx index
      writing := state.writing ++ [⟨trigger, snapshot, readings⟩]
      clock := readings.stampedAt
      eventIds := state.eventIds ++ [readings.eventId] } id =
        state.underWay id := by
    simp only [State.underWay, List.countP_append, List.countP_singleton]
    omega
  have ordered := firedAfter.trans stampedAfter
  have later := notBefore.trans ordered
  refine ⟨registered, tracks.row, ?_, ?_, ?_, ?_, tracks.clock.trans later,
    tracks.records⟩
  · rw [total]
    exact tracks.unborn
  · exact fun other member same =>
      tracks.held other (List.mem_of_mem_eraseIdx member) same
  · intro processing member same
    rcases List.mem_append.mp member with old | new
    · rcases tracks.writing processing old same with
        ⟨input, after, stamped, past⟩
      exact ⟨input, after, stamped, past.trans later⟩
    · cases List.mem_singleton.mp new
      exact ⟨tracks.held trigger (List.mem_of_getElem? found) same,
        tracks.clock.trans notBefore, ordered, le_rfl⟩
  · rw [total]
    exact tracks.alone

/-- Forgetting evaluations that will not commit. -/
theorem tracks_forget
    (tracks : Tracks round zones id state history edits)
    {inHand : List WatchedTrigger} {writing : List Processing}
    (held : inHand.Sublist state.inHand)
    (kept : writing.Sublist state.writing)
    (registered : Registered
      { state with inHand := inHand, writing := writing }) :
    Tracks round zones id
      { state with inHand := inHand, writing := writing } history
      edits := by
  have fewer : State.underWay
      { state with inHand := inHand, writing := writing } id ≤
        state.underWay id :=
    Nat.add_le_add held.countP_le kept.countP_le
  refine ⟨registered, tracks.row, ?_, ?_, ?_, fewer.trans tracks.alone,
    tracks.clock, tracks.records⟩
  · intro unborn
    obtain ⟨created, idle⟩ := tracks.unborn unborn
    exact ⟨created, Nat.le_zero.mp (fewer.trans_eq idle)⟩
  · exact fun trigger member same =>
      tracks.held trigger (held.subset member) same
  · exact fun other member same =>
      tracks.writing other (kept.subset member) same

theorem memory_written_of_ne (row : StoredTrigger) {other : String}
    (different : row.id ≠ other) (results : List Result)
    (patch : TriggerStatePatch) :
    (row.written other results patch).memory = row.memory := by
  unfold StoredTrigger.written
  rw [if_neg different]
  rfl

/-- The write of an evaluation, on the columns the decision reads. -/
theorem memory_written (row : StoredTrigger) (results : List Result)
    (patch : TriggerStatePatch) :
    (row.written row.id results patch).memory =
      row.memory.patched patch := by
  unfold StoredTrigger.written
  rw [if_pos rfl]
  rfl

theorem committedOf_cons (processing : Processing)
    (committed : List Processing) (id : String) :
    committedOf (processing :: committed) id =
      if processing.trigger.id = id then
        processing :: committedOf committed id
      else committedOf committed id := by
  unfold committedOf
  rw [List.filter_cons]
  by_cases same : processing.trigger.id = id <;> simp [same]

/-- The outcome the history machine computes for an evaluation. -/
theorem records_processTrigger (round : Rat → Rat) (zones : Zones)
    (edits : List (TriggerEdit Unit)) {processing : Processing}
    (input : processing.trigger.input = history.row.input) :
    (History.processTrigger zones history.row (processing.given round)
        edits).decision = processing.decision round zones ∧
      Records round zones
        (History.processTrigger zones history.row (processing.given round)
          edits) processing := by
  have decided : (History.processTrigger zones history.row
      (processing.given round) edits).decision =
        processing.decision round zones := by
    unfold Processing.decision
    rw [input]
    rfl
  have fires : (History.processTrigger zones history.row
      (processing.given round) edits).fires =
        processing.fires round zones := by
    unfold History.Outcome.fires Processing.fires
    rw [decided]
  refine ⟨decided, rfl, ?_, fires, ?_⟩
  · exact congrArg TriggerStateInput.cooldownMin input.symm
  · intro fired
    rw [History.processTrigger_lastFiredAt, fires, if_pos fired]
    rfl

theorem tracks_commit
    (tracks : Tracks round zones id state history edits) {index : Nat}
    {processing : Processing}
    (found : state.writing[index]? = some processing)
    {triggers : List StoredTrigger}
    (applied : writes state.triggers processing.trigger.id
      (processing.evaluation round).results
      (processing.patch round zones) = some triggers)
    (registered : Registered { state with
      writing := state.writing.eraseIdx index
      triggers := triggers
      outbox := createMany state.outbox (processing.messages round zones)
      committed := processing :: state.committed }) :
    ∃ moves next, (History.machine zones).run history moves = some next ∧
      Related round zones id { state with
        writing := state.writing.eraseIdx index
        triggers := triggers
        outbox := createMany state.outbox (processing.messages round zones)
        committed := processing :: state.committed } next := by
  have written := (writes_eq_some_iff.mp applied).2.2
  have member := List.mem_of_getElem? found
  have fewer := underWay_eraseIdx id found
  by_cases mine : processing.trigger.id = id
  · rcases tracks.writing processing member mine with
      ⟨input, after, ordered, past⟩
    rcases records_processTrigger round zones edits input with
      ⟨decided, recorded⟩
    generalize computed : History.processTrigger zones history.row
      (processing.given round) edits = outcome at decided recorded
    have finished : processing.readings.evaluatedAt ≤ outcome.finishedAt ∧
        outcome.finishedAt ≤ processing.readings.stampedAt := by
      unfold History.Outcome.finishedAt
      rw [recorded.evaluation]
      split
      · exact ⟨ordered, le_rfl⟩
      · exact ⟨le_rfl, ordered⟩
    have idle : State.underWay
        { state with writing := state.writing.eraseIdx index } id = 0 := by
      have bound := tracks.alone
      rw [if_pos mine] at fewer
      omega
    have none := underWay_eq_zero.mp idle
    let next : History.State Unit := {
      row := outcome.row
      clock := outcome.finishedAt
      history := outcome :: history.history }
    have moved : History.step zones history
        (.evaluate (processing.given round) edits) = some next := by
      simp only [History.step, computed]
      exact if_pos ⟨after, finished.1⟩
    refine ⟨[.evaluate (processing.given round) edits], next, ?_, [],
      registered, ?_, ?_, ?_, ?_, ?_, ?_, ?_⟩
    · have stepped : (History.machine zones).step history
          (.evaluate (processing.given round) edits) = some next :=
        moved
      rw [Machine.run_cons, stepped]
      rfl
    · intro row listed same
      rw [written] at listed
      rcases List.mem_map.mp listed with ⟨before, stored, rfl⟩
      rw [written_id] at same
      rw [mine, ← same, memory_written, tracks.row before stored same]
      show _ = outcome.row
      rw [← computed, History.processTrigger_row, computed, decided]
      rfl
    · intro unborn
      have read := (tracks.registered.read _ (mem_evaluations.mpr
        (Or.inr (Or.inl ⟨processing, member, rfl⟩)))).2
      rw [mine] at read
      exact absurd (List.mem_map_of_mem read) unborn
    · exact fun trigger listed same => absurd same (none.1 trigger listed)
    · exact fun other listed same => absurd same (none.2 other listed)
    · exact (Nat.le_of_eq idle).trans (Nat.zero_le 1)
    · exact finished.2.trans past
    · rw [committedOf_cons, if_pos mine]
      exact .cons recorded tracks.records
  · rw [if_neg mine, Nat.add_zero] at fewer
    refine ⟨[], history, rfl, edits, registered, ?_, ?_, tracks.held, ?_,
      ?_, tracks.clock, ?_⟩
    · intro row listed same
      rw [written] at listed
      rcases List.mem_map.mp listed with ⟨before, stored, rfl⟩
      rw [written_id] at same
      rw [memory_written_of_ne before fun equal =>
        mine (equal.symm.trans same)]
      exact tracks.row before stored same
    · intro unborn
      rcases tracks.unborn unborn with ⟨created, idle⟩
      exact ⟨created, fewer.trans idle⟩
    · exact fun other listed same =>
        tracks.writing other (List.mem_of_mem_eraseIdx listed) same
    · exact fewer.le.trans tracks.alone
    · rw [committedOf_cons, if_neg mine]
      exact tracks.records

/-- Each step on the table is a run of the history machine, or none. -/
theorem related_step {source target : State n} {label : Label n}
    (stepped : (machine round zones n).step source label = some target)
    (alone : ReadsAlone id ⟨source, label, target⟩)
    (related : Related round zones id source history) :
    ∃ moves next, (History.machine zones).run history moves = some next ∧
      Related round zones id target next := by
  rcases related with ⟨edits, tracks⟩
  have registered := registered_step stepped tracks.registered
  cases stepped_of_step stepped with
  | request fresh advanced =>
      exact ⟨[], history, rfl, tracks_request tracks fresh⟩
  | updateProfile =>
      exact ⟨[], history, rfl, edits, registered, tracks.row, tracks.unborn,
        tracks.held, tracks.writing, tracks.alone, tracks.clock,
        tracks.records⟩
  | findActive buckets =>
      exact tracks_findActive tracks registered (alone buckets rfl)
  | processTrigger found snapshot notBefore firedAfter stampedAfter drawn =>
      exact ⟨[], history, rfl, edits, tracks_processTrigger tracks found
        snapshot notBefore firedAfter stampedAfter registered⟩
  | committed found applied =>
      exact tracks_commit tracks found applied registered
  | skipped found =>
      exact ⟨[], history, rfl, edits, tracks_forget tracks
        (List.eraseIdx_sublist _ _) (List.Sublist.refl _) registered⟩
  | rejected found refused | fail found =>
      exact ⟨[], history, rfl, edits, tracks_forget tracks
        (List.Sublist.refl _) (List.eraseIdx_sublist _ _) registered⟩

end Steps

/-! ## What the history says, read on the table -/

/-- Enough time lies between an earlier firing and this evaluation. -/
def Processing.elapsedSince (processing earlier : Processing) : Prop :=
  earlier.readings.stampedAt + processing.trigger.cooldownMin * 60000 ≤
    processing.readings.evaluatedAt

/-- Some firing has been followed by matching evaluations only. -/
def Standing (round : Rat → Rat) (zones : Zones) : List Processing → Prop
  | [] => False
  | processing :: earlier =>
      processing.fires round zones = true ∨
        (processing.evaluation round).matched = true ∧
          Standing round zones earlier

/-- Why an evaluation fired or not. -/
def Accounted (round : Rat → Rat) (zones : Zones) (processing : Processing)
    (earlier : List Processing) : Prop :=
  processing.fires round zones = true ↔
    (processing.evaluation round).matched = true ∧
      (processing.trigger.quietHours.any fun window =>
        isInQuietHours zones window processing.readings.evaluatedAt) =
          false ∧
      ∀ last, earlier.find? (fun other => other.fires round zones) =
        some last → processing.elapsedSince last

section Transfer

variable {outcomes : List (History.Outcome Unit)}
variable {processings : List Processing}

theorem elapsedSince_iff {outcome earlier : History.Outcome Unit}
    {processing before : Processing}
    (recorded : Records round zones outcome processing)
    (recordedBefore : Records round zones earlier before)
    (fired : before.fires round zones = true) :
    outcome.elapsedSince earlier ↔ processing.elapsedSince before := by
  unfold History.Outcome.elapsedSince Processing.elapsedSince
  rw [recordedBefore.stamp fired, recorded.cooldownMin, recorded.evaluation]
  constructor
  · rintro ⟨stamp, same, passed⟩
    cases same
    exact passed
  · exact fun passed => ⟨_, rfl, passed⟩

theorem standing_iff
    (records : List.Forall₂ (Records round zones) outcomes processings) :
    History.StandingFiring outcomes ↔ Standing round zones processings := by
  induction records with
  | nil => simp [History.StandingFiring, Standing]
  | cons recorded later induction =>
      rw [History.standingFiring_cons, induction, recorded.fires,
        recorded.evaluation]
      rfl

/-- The latest firings correspond. -/
theorem find?_fires
    (records : List.Forall₂ (Records round zones) outcomes processings)
    {last : Processing}
    (found : processings.find? (fun other => other.fires round zones) =
      some last) :
    ∃ firing, outcomes.find? History.Outcome.fires = some firing ∧
      Records round zones firing last := by
  induction records with
  | nil => cases found
  | @cons outcome processing outcomes processings recorded later induction =>
      rw [List.find?_cons] at found ⊢
      rw [recorded.fires]
      cases fires : processing.fires round zones with
      | true =>
          rw [fires] at found
          cases found
          exact ⟨outcome, rfl, recorded⟩
      | false =>
          rw [fires] at found
          exact induction found

theorem find?_fires_none
    (records : List.Forall₂ (Records round zones) outcomes processings)
    {firing : History.Outcome Unit}
    (found : outcomes.find? History.Outcome.fires = some firing) :
    ∃ last, processings.find? (fun other => other.fires round zones) =
        some last ∧ Records round zones firing last := by
  induction records with
  | nil => cases found
  | @cons outcome processing outcomes processings recorded later induction =>
      rw [List.find?_cons] at found ⊢
      rw [← recorded.fires]
      cases fires : outcome.fires with
      | true =>
          rw [fires] at found
          cases found
          exact ⟨processing, rfl, recorded⟩
      | false =>
          rw [fires] at found
          exact induction found

theorem accounted_of_records {outcome : History.Outcome Unit}
    {processing : Processing}
    (recorded : Records round zones outcome processing)
    (records : List.Forall₂ (Records round zones) outcomes processings)
    (accounted : History.Accounted zones outcome outcomes) :
    Accounted round zones processing processings := by
  have reason := accounted.fires_iff
  unfold Accounted
  rw [← recorded.fires, reason, History.Outcome.quiet, recorded.evaluation]
  refine and_congr_right fun _ => and_congr_right fun _ => ?_
  constructor
  · intro passed last found
    obtain ⟨firing, there, recordedLast⟩ := find?_fires records found
    have fired : last.fires round zones = true := List.find?_some found
    exact (elapsedSince_iff recorded recordedLast fired).mp
      (passed firing there)
  · intro passed firing found
    obtain ⟨last, there, recordedLast⟩ := find?_fires_none records found
    have fired : last.fires round zones = true := by
      rw [← recordedLast.fires]
      exact List.find?_some found
    exact (elapsedSince_iff recorded recordedLast fired).mpr
      (passed last there)

theorem forall_accounted_of_records
    (records : List.Forall₂ (Records round zones) outcomes processings)
    (accounted : ∀ outcome earlier, outcome :: earlier <:+ outcomes →
      History.Accounted zones outcome earlier) :
    ∀ processing earlier, processing :: earlier <:+ processings →
      Accounted round zones processing earlier := by
  induction records with
  | nil =>
      intro processing earlier suffix
      cases List.eq_nil_of_suffix_nil suffix
  | @cons outcome processing outcomes processings recorded later induction =>
      intro other earlier suffix
      rcases List.suffix_cons_iff.mp suffix with same | inside
      · cases same
        exact accounted_of_records recorded later
          (accounted _ _ (List.suffix_refl _))
      · exact induction (fun _ _ within =>
          accounted _ _ (within.trans (List.suffix_cons _ _))) _ _ inside

theorem exists_of_records
    (records : List.Forall₂ (Records round zones) outcomes processings)
    {processing : Processing} (member : processing ∈ processings) :
    ∃ outcome ∈ outcomes, Records round zones outcome processing := by
  induction records with
  | nil => cases member
  | @cons outcome first outcomes processings recorded later induction =>
      rcases List.mem_cons.mp member with rfl | inside
      · exact ⟨outcome, List.mem_cons_self, recorded⟩
      · obtain ⟨other, there, recordedOther⟩ := induction inside
        exact ⟨other, List.mem_cons_of_mem _ there, recordedOther⟩

theorem spaced_of_records
    (records : List.Forall₂ (Records round zones) outcomes processings)
    (spaced : outcomes.Pairwise fun later earlier =>
      later.fires = true → earlier.fires = true →
        later.elapsedSince earlier) :
    processings.Pairwise fun later earlier =>
      later.fires round zones = true → earlier.fires round zones = true →
        later.elapsedSince earlier := by
  induction records with
  | nil => exact .nil
  | @cons outcome processing outcomes processings recorded later induction =>
      rcases List.pairwise_cons.mp spaced with ⟨first, others⟩
      refine List.pairwise_cons.mpr ⟨?_, induction others⟩
      intro before member fires firesBefore
      obtain ⟨earlier, earlierMember, recordedBefore⟩ :=
        exists_of_records later member
      apply (elapsedSince_iff recorded recordedBefore firesBefore).mp
      exact first earlier earlierMember (recorded.fires.trans fires)
        (recordedBefore.fires.trans firesBefore)

end Transfer

/-! ## The run -/

/-- The committed evaluations of a trigger are accounted for. -/
structure AccountsFor (round : Rat → Rat) (zones : Zones) (id : String)
    (state : State n) : Prop where
  spaced : (committedOf state.committed id).Pairwise fun later earlier =>
    later.fires round zones = true → earlier.fires round zones = true →
      later.elapsedSince earlier
  accounted : ∀ processing earlier,
    processing :: earlier <:+ committedOf state.committed id →
      Accounted round zones processing earlier
  standing : ∀ row ∈ state.triggers, row.id = id →
    (row.state = .fired ↔
      Standing round zones (committedOf state.committed id))

/-- A table that follows a run of the history has what the history says. -/
theorem Related.accountsFor {id : String} {clock : Int} {state : State n}
    {moves : List (History.Operation Unit)} {last : History.State Unit}
    (moved : (History.machine zones).run (History.State.created none () clock)
      moves = some last)
    (related : Related round zones id state last) :
    AccountsFor round zones id state := by
  obtain ⟨edits, tracks⟩ := related
  have explained : History.Explained zones last :=
    Machine.run_preserves (History.Explained zones) History.explained_step
      (History.explained_created zones none () clock) moved
  refine ⟨spaced_of_records tracks.records explained.spaced,
    forall_accounted_of_records tracks.records explained.accounted, ?_⟩
  intro row stored same
  have state : row.state = last.row.state := by
    have shown := congrArg TriggerRow.state (tracks.row row stored same)
    rw [(History.foldl_edited edits last.row).1] at shown
    exact shown
  rw [state, explained.standing]
  exact standing_iff tracks.records

/--
If cycles read a trigger only when no evaluation of it is under way, its
committed evaluations are accounted for on the shared table: firings are a
cooldown apart, an evaluation fires exactly when it matched outside quiet hours
and a cooldown after the latest firing, and the row is `FIRED` exactly while a
firing has been followed by matching evaluations only.
-/
theorem firings_of_run {profiles : String → QuietHours} {clock : Int}
    {labels : List (Label n)} {final : State n} {id : String}
    (alone : ∀ taken ∈ (machine round zones n).transitions
      (State.empty n profiles clock) labels, ReadsAlone id taken)
    (reached : (machine round zones n).run
      (State.empty n profiles clock) labels = some final) :
    ((committedOf final.committed id).Pairwise fun later earlier =>
      later.fires round zones = true → earlier.fires round zones = true →
        later.elapsedSince earlier) ∧
    (∀ processing earlier,
      processing :: earlier <:+ committedOf final.committed id →
        Accounted round zones processing earlier) ∧
    ∀ row ∈ final.triggers, row.id = id →
      (row.state = .fired ↔
        Standing round zones (committedOf final.committed id)) := by
  have simulated : ∃ moves last,
      (History.machine zones).run (History.State.created none () clock)
          moves = some last ∧ Related round zones id final last :=
    Machine.run_simulates
      (fun _ stepped guard _ related => related_step stepped guard related)
      ⟨[], tracks_empty id profiles clock⟩ alone reached
  obtain ⟨moves, last, moved, related⟩ := simulated
  have accounts := Related.accountsFor moved related
  exact ⟨accounts.spaced, accounts.accounted, accounts.standing⟩

/-- Two hot days, the second just when the cooldown of the first is over. -/
def heatTwice : List (Label 1) :=
  heatCreated ++
    [.findActive none, .processTrigger 0 hotDay ⟨0, 1, 2, "e"⟩, .commit 0,
      .findActive none,
      .processTrigger 0 hotDay ⟨3600002, 3600002, 3600003, "f"⟩, .commit 0]

def heatStart : State 1 :=
  State.empty 1 (fun _ => ⟨none, none, none⟩) 0

theorem heatTwice_fires_twice :
    ∃ final, (machine id (fun _ _ => none) 1).run heatStart heatTwice =
        some final ∧
      (committedOf final.committed "t").map
          (fun processing => processing.fires id fun _ _ => none) =
        [true, true] ∧
      (committedOf final.committed "t").Pairwise fun later earlier =>
        later.fires id (fun _ _ => none) = true →
          earlier.fires id (fun _ _ => none) = true →
            later.elapsedSince earlier := by
  obtain ⟨final, reached⟩ : ∃ final,
      (machine id (fun _ _ => none) 1).run heatStart heatTwice =
        some final :=
    ⟨_, rfl⟩
  have idle : ∀ taken ∈ (machine id (fun _ _ => none) 1).transitions
      heatStart heatTwice, taken.label matches .findActive _ →
        taken.source.underWay "t" = 0 := by
    decide
  have alone : ∀ taken ∈ (machine id (fun _ _ => none) 1).transitions
      heatStart heatTwice, ReadsAlone "t" taken := by
    intro taken member buckets read _
    apply idle taken member
    rw [read]
  refine ⟨final, reached, ?_, (firings_of_run alone reached).1⟩
  cases reached
  decide

end WeatherNotify.Watcher.Firing

import Mathlib.Data.List.Perm.Basic
import WeatherNotify.Watcher.Observations

/-!
# What a staged delivery vouches for

A committed firing stages one message for each channel of its trigger, all of
them in the transaction that marks the trigger as fired.  The values an event
lists are those of one snapshot, and under the event's own logic they bear out
the alert; a reader needs nothing else to check it.  A trigger remembers a
firing exactly when its messages were staged.
-/

namespace WeatherNotify.Watcher.Firing

open WeatherNotify.Contracts
open WeatherNotify.Domain
open WeatherNotify.Notifier
open WeatherNotify.Transition
open WeatherNotify.Triggers

variable {n : Nat} {round : Rat → Rat} {zones : Zones}

/-! ## One firing -/

section Firing

variable {processing : Processing}

theorem fires_iff :
    processing.fires round zones = true ↔
      (processing.evaluation round).matched = true ∧
        isCooldownElapsed processing.trigger.input
          processing.readings.evaluatedAt = true ∧
        (processing.trigger.quietHours.any fun window =>
          isInQuietHours zones window processing.readings.evaluatedAt) =
            false := by
  unfold Processing.fires Processing.decision
  rw [beq_iff_eq]
  exact decide_eq_fire_iff

/-- The conditions of a fired event bear it out. -/
theorem justified_event (fires : processing.fires round zones = true) :
    Justified round (processing.event round).toTriggerFiredEvent := by
  have matched := (fires_iff.mp fires).1
  rcases evaluateConditions_matched_iff.mp matched with ⟨some, verdicts⟩
  have listed : (processing.event round).conditions =
      processing.trigger.conditions.map fun condition =>
        firedCondition (enriched round WatchedCondition.toConditionDto
          processing.snapshot condition) := by
    show (processing.evaluation round).results.map firedCondition = _
    rw [results_eq, List.map_map]
    rfl
  have spec : ∀ condition : WatchedCondition,
      firedSpec (firedCondition (enriched round
        WatchedCondition.toConditionDto processing.snapshot condition)) =
          condition.toConditionDto :=
    fun _ => rfl
  have value : ∀ condition : WatchedCondition,
      (firedCondition (enriched round WatchedCondition.toConditionDto
        processing.snapshot condition)).observedValue =
          metricValue processing.snapshot condition.metric :=
    fun condition => enriched_observedValue condition
  constructor
  · rw [listed]
    exact fun empty => some (List.map_eq_nil_iff.mp empty)
  · have same : (processing.event round).conditionLogic =
        processing.trigger.conditionLogic :=
      rfl
    rw [listed, same]
    cases logic : processing.trigger.conditionLogic with
    | and =>
        rw [logic] at verdicts
        intro condition member
        rcases List.mem_map.mp member with ⟨watched, inside, rfl⟩
        rw [spec, value]
        exact verdicts watched inside
    | or =>
        rw [logic] at verdicts
        rcases verdicts with ⟨watched, inside, holds⟩
        refine ⟨_, List.mem_map_of_mem inside, ?_⟩
        rw [spec, value]
        exact holds

theorem mem_messages_iff {message : OutboxMessage} :
    message ∈ processing.messages round zones ↔
      processing.fires round zones = true ∧
        ∃ channel ∈ processing.trigger.channels,
          message = ⟨processing.readings.eventId, routingKeyFor channel,
            processing.event round⟩ := by
  unfold Processing.messages
  split
  case isTrue fires => simp [fires, eq_comm]
  case isFalse silent => simp [silent]

theorem eventId_of_mem_messages {message : OutboxMessage}
    (member : message ∈ processing.messages round zones) :
    message.eventId = processing.readings.eventId := by
  rcases (mem_messages_iff.mp member).2 with ⟨channel, -, rfl⟩
  rfl

/-- One firing stages one message under one key. -/
theorem eq_of_mem_messages {left right : OutboxMessage}
    (leftMember : left ∈ processing.messages round zones)
    (rightMember : right ∈ processing.messages round zones)
    (same : left.routingKey = right.routingKey) : left = right := by
  rcases (mem_messages_iff.mp leftMember).2 with ⟨channel, -, rfl⟩
  rcases (mem_messages_iff.mp rightMember).2 with ⟨other, -, rfl⟩
  have equal : routingKeyFor channel = routingKeyFor other := same
  rw [equal]

/-- What a patch makes of the columns that remember firings. -/
theorem patch_lastFiredAt (processing : Processing) :
    (processing.patch round zones).lastFiredAt =
      if processing.fires round zones then
        some processing.readings.stampedAt
      else none := by
  unfold Processing.patch Processing.fires
  cases processing.decision round zones <;> rfl

theorem patch_state (processing : Processing) :
    (processing.patch round zones).state = some .fired ↔
      processing.fires round zones = true := by
  unfold Processing.patch Processing.fires
  cases processing.decision round zones <;> simp [statePatch]

end Firing

/-! ## Staging -/

def OutboxMessage.key (message : OutboxMessage) : String × String :=
  (message.eventId, message.routingKey)

theorem any_key_iff {outbox : List OutboxMessage} {message : OutboxMessage} :
    (outbox.any fun other => other.eventId = message.eventId ∧
        other.routingKey = message.routingKey) = true ↔
      ∃ other ∈ outbox, other.key = message.key := by
  simp [OutboxMessage.key]

theorem mem_createMany {messages outbox : List OutboxMessage}
    {message : OutboxMessage}
    (member : message ∈ createMany outbox messages) :
    message ∈ outbox ∨ message ∈ messages := by
  induction messages generalizing outbox with
  | nil => exact Or.inl member
  | cons first rest induction =>
      unfold createMany at member
      split at member
      case isTrue =>
        exact (induction member).imp_right (List.mem_cons_of_mem _)
      case isFalse =>
        rcases induction member with old | later
        · rcases List.mem_append.mp old with older | new
          · exact Or.inl older
          · cases List.mem_singleton.mp new
            exact Or.inr List.mem_cons_self
        · exact Or.inr (List.mem_cons_of_mem _ later)

theorem subset_createMany (messages outbox : List OutboxMessage) :
    outbox ⊆ createMany outbox messages := by
  induction messages generalizing outbox with
  | nil => exact List.Subset.refl _
  | cons first rest induction =>
      unfold createMany
      split
      case isTrue => exact induction outbox
      case isFalse =>
        exact List.Subset.trans (List.subset_append_left _ _) (induction _)

theorem keys_createMany {messages outbox : List OutboxMessage}
    (distinct : (outbox.map OutboxMessage.key).Nodup) :
    ((createMany outbox messages).map OutboxMessage.key).Nodup := by
  induction messages generalizing outbox with
  | nil => exact distinct
  | cons first rest induction =>
      unfold createMany
      split
      case isTrue => exact induction distinct
      case isFalse absent =>
        apply induction
        rw [List.map_append]
        apply List.nodup_append.mpr
        refine ⟨distinct, List.nodup_singleton _, ?_⟩
        rintro key listed other new rfl
        rw [List.mem_singleton.mp new] at listed
        rcases List.mem_map.mp listed with ⟨stored, inside, same⟩
        exact absent (any_key_iff.mpr ⟨stored, inside, same⟩)

/-- No message is skipped when a taken key means the same message. -/
theorem mem_createMany_of_mem {messages outbox : List OutboxMessage}
    (unambiguous : ∀ message ∈ messages, ∀ other,
      other ∈ outbox ∨ other ∈ messages →
        other.key = message.key → other = message)
    {message : OutboxMessage} (member : message ∈ messages) :
    message ∈ createMany outbox messages := by
  induction messages generalizing outbox with
  | nil => cases member
  | cons first rest induction =>
      have later : ∀ outbox' : List OutboxMessage,
          (∀ other ∈ outbox', other ∈ outbox ∨ other = first) →
          message ∈ rest → message ∈ createMany outbox' rest := by
        intro outbox' known inside
        apply induction _ inside
        intro wanted listed other there same
        apply unambiguous wanted (List.mem_cons_of_mem _ listed) other _ same
        rcases there with stored | staged
        · rcases known other stored with old | rfl
          · exact Or.inl old
          · exact Or.inr List.mem_cons_self
        · exact Or.inr (List.mem_cons_of_mem _ staged)
      unfold createMany
      split
      case isTrue taken =>
        rcases List.mem_cons.mp member with rfl | inside
        · rcases any_key_iff.mp taken with ⟨other, stored, same⟩
          have equal := unambiguous message List.mem_cons_self other
            (Or.inl stored) same
          rw [← equal]
          exact subset_createMany _ _ stored
        · exact later outbox (fun _ stored => Or.inl stored) inside
      case isFalse =>
        rcases List.mem_cons.mp member with rfl | inside
        · exact subset_createMany _ _
            (List.mem_append_right _ (List.mem_singleton_self _))
        · apply later _ _ inside
          intro other stored
          rcases List.mem_append.mp stored with old | new
          · exact Or.inl old
          · exact Or.inr (List.mem_singleton.mp new)

/-! ## The invariant -/

/-- The latest committed firing of a trigger. -/
def latestFiring (round : Rat → Rat) (zones : Zones)
    (committed : List Processing) (id : String) : Option Processing :=
  committed.find? fun processing =>
    processing.trigger.id = id ∧ processing.fires round zones = true

/-- The ids events were given. -/
def State.drawn (state : State n) : List String :=
  (state.writing ++ state.committed).map fun processing =>
    processing.readings.eventId

structure Staged (round : Rat → Rat) (zones : Zones) (state : State n) :
    Prop where
  registered : Registered state
  drawn : state.drawn.Nodup
  known : ∀ eventId ∈ state.drawn, eventId ∈ state.eventIds
  genuine : ∀ message ∈ state.outbox, ∃ processing ∈ state.committed,
    message ∈ processing.messages round zones
  complete : ∀ processing ∈ state.committed,
    ∀ message ∈ processing.messages round zones, message ∈ state.outbox
  keys : (state.outbox.map OutboxMessage.key).Nodup
  remembered : ∀ row ∈ state.triggers, row.lastFiredAt =
    (latestFiring round zones state.committed row.id).map fun processing =>
      processing.readings.stampedAt
  fired : ∀ row ∈ state.triggers, row.state = .fired →
    (latestFiring round zones state.committed row.id).isSome = true

theorem staged_empty (profiles : String → QuietHours) (clock : Int) :
    Staged round zones (State.empty n profiles clock) where
  registered := registered_empty profiles clock
  drawn := List.nodup_nil
  known _ member := by cases member
  genuine _ member := by cases member
  complete _ member := by cases member
  keys := List.nodup_nil
  remembered _ member := by cases member
  fired _ member := by cases member

/-! ## Steps -/

/-- Statements of the API leave what a row remembers of firings. -/
theorem memory_of_stated {table next : List StoredTrigger}
    {ids : List String} {phase : Triggers.Phase} {action : Triggers.Action}
    (stated : Stated round table ids phase action next)
    {row : StoredTrigger} (member : row ∈ next) :
    (row.id ∈ (ownerOf phase action).map Prod.fst ∧
        row.lastFiredAt = none ∧ row.state = .armed) ∨
      ∃ before ∈ table, before.id = row.id ∧
        before.lastFiredAt = row.lastFiredAt ∧ before.state = row.state := by
  cases stated with
  | kept => exact Or.inr ⟨row, member, rfl, rfl, rfl⟩
  | @created userId id dto columns unused made =>
      rcases List.mem_append.mp member with old | new
      · exact Or.inr ⟨row, old, rfl, rfl, rfl⟩
      · cases List.mem_singleton.mp new
        refine Or.inl ⟨?_, rfl, rfl⟩
        exact List.mem_singleton.mpr (createdRow_fields made).1
  | updated =>
      rcases List.mem_map.mp member with ⟨before, old, rfl⟩
      refine Or.inr ⟨before, old, ?_⟩
      split <;> exact ⟨rfl, rfl, rfl⟩
  | removed keep =>
      exact Or.inr ⟨row, (List.mem_filter.mp member).1, rfl, rfl, rfl⟩

/-- A trigger that is about to be inserted has never fired. -/
theorem latestFiring_of_ownerOf {state : State n} {ids : List String}
    {phase : Triggers.Phase} {action : Triggers.Action} {id : String}
    (registered : Registered state) (fresh : Fresh state ids phase action)
    (inserted : id ∈ (ownerOf phase action).map Prod.fst) :
    latestFiring round zones state.committed id = none := by
  rcases List.mem_map.mp inserted with ⟨owner, listed, rfl⟩
  apply List.find?_eq_none.mpr
  intro processing committed claimed
  have known := (registered.read _ (mem_evaluations.mpr
    (Or.inr (Or.inr ⟨processing, committed, rfl⟩)))).2
  apply fresh.1 owner listed
  rw [← (of_decide_eq_true claimed).1]
  exact List.mem_map_of_mem known

theorem staged_request {state : State n}
    (staged : Staged round zones state) {label : Triggers.Label n}
    {ids : List String} {phase : Triggers.Phase}
    (fresh : Fresh state ids (state.requests label.request) label.action) :
    Staged round zones { state with
      triggers := statement round state.triggers ids
        (state.requests label.request) label.action
      requests := Function.update state.requests label.request phase
      batches := state.batches ++
        batchOf ids (state.requests label.request) label.action
      owners := state.owners ++
        ownerOf (state.requests label.request) label.action } := by
  have stated := stated_statement round state.triggers ids
    (state.requests label.request) label.action
  refine ⟨registered_request staged.registered fresh, staged.drawn,
    staged.known, staged.genuine, staged.complete, staged.keys, ?_, ?_⟩
  · intro row member
    rcases memory_of_stated stated member with
      ⟨inserted, never, -⟩ | ⟨before, old, sameId, sameStamp, -⟩
    · rw [never, latestFiring_of_ownerOf staged.registered fresh inserted]
      rfl
    · rw [← sameStamp, ← sameId]
      exact staged.remembered before old
  · intro row member isFired
    rcases memory_of_stated stated member with
      ⟨-, -, armed⟩ | ⟨before, old, sameId, -, sameState⟩
    · rw [armed] at isFired
      cases isFired
    · rw [← sameId]
      exact staged.fired before old (sameState.trans isFired)

theorem latestFiring_cons (processing : Processing)
    (committed : List Processing) (id : String) :
    latestFiring round zones (processing :: committed) id =
      if processing.trigger.id = id ∧ processing.fires round zones = true then
        some processing
      else latestFiring round zones committed id := by
  unfold latestFiring
  rw [List.find?_cons]
  by_cases claimed :
      processing.trigger.id = id ∧ processing.fires round zones = true
  · simp [claimed]
  · rw [if_neg claimed, decide_eq_false claimed]

/-- A row remembers the firing that is committed with it, or an older one. -/
theorem remembered_written {row : StoredTrigger} {processing : Processing}
    {committed : List Processing}
    (remembered : row.lastFiredAt =
      (latestFiring round zones committed row.id).map fun processing =>
        processing.readings.stampedAt)
    (fired : row.state = .fired →
      (latestFiring round zones committed row.id).isSome = true)
    {next : StoredTrigger}
    (written : row.written processing.trigger.id
      (processing.evaluation round).results
      (processing.patch round zones) = next) :
    next.lastFiredAt =
        (latestFiring round zones (processing :: committed) next.id).map
          (fun processing => processing.readings.stampedAt) ∧
      (next.state = .fired →
        (latestFiring round zones (processing :: committed)
          next.id).isSome = true) := by
  subst written
  rw [written_id, latestFiring_cons]
  unfold StoredTrigger.written
  by_cases same : row.id = processing.trigger.id
  · by_cases fires : processing.fires round zones = true
    · rw [if_pos same, if_pos ⟨same.symm, fires⟩]
      constructor
      · show (processing.patch round zones).lastFiredAt.or row.lastFiredAt = _
        rw [patch_lastFiredAt, if_pos fires]
        rfl
      · exact fun _ => rfl
    · have silent : ¬ (processing.trigger.id = row.id ∧
          processing.fires round zones = true) := fun both => fires both.2
      rw [if_pos same, if_neg silent]
      constructor
      · show (processing.patch round zones).lastFiredAt.or row.lastFiredAt = _
        rw [patch_lastFiredAt, if_neg fires]
        exact remembered
      · intro isFired
        apply fired
        have stays : (processing.patch round zones).state.getD row.state =
            .fired := isFired
        cases moved : (processing.patch round zones).state with
        | none =>
            rw [moved] at stays
            exact stays
        | some other =>
            rw [moved] at stays
            rw [← patch_state, moved] at fires
            exact absurd (congrArg some stays) fires
  · have other : ¬ (processing.trigger.id = row.id ∧
        processing.fires round zones = true) :=
      fun both => same both.1.symm
    rw [if_neg same, if_neg other]
    exact ⟨remembered, fired⟩

theorem perm_of_getElem? {processings : List Processing} {index : Nat}
    {processing : Processing}
    (found : processings[index]? = some processing) :
    (processing :: processings.eraseIdx index).Perm processings := by
  rcases List.getElem?_eq_some_iff.mp found with ⟨bound, rfl⟩
  exact List.getElem_cons_eraseIdx_perm bound

/-- The messages of a firing meet none of an earlier one. -/
theorem unambiguous_messages {state : State n}
    (staged : Staged round zones state) {index : Nat}
    {processing : Processing}
    (found : state.writing[index]? = some processing) :
    ∀ message ∈ processing.messages round zones, ∀ other,
      other ∈ state.outbox ∨ other ∈ processing.messages round zones →
        other.key = message.key → other = message := by
  intro message member other there same
  rcases Prod.mk.inj same with ⟨sameEvent, sameRoute⟩
  rcases there with stored | own
  · rcases staged.genuine other stored with ⟨earlier, committed, from_⟩
    rw [eventId_of_mem_messages from_, eventId_of_mem_messages member]
      at sameEvent
    have distinct := staged.drawn
    rw [State.drawn, List.map_append] at distinct
    have apart := (List.nodup_append.mp distinct).2.2
    have writing : processing.readings.eventId ∈
        state.writing.map fun processing => processing.readings.eventId :=
      List.mem_map_of_mem (List.mem_of_getElem? found)
    have earlierId : earlier.readings.eventId ∈
        state.committed.map fun processing => processing.readings.eventId :=
      List.mem_map_of_mem committed
    exact absurd sameEvent.symm (apart _ writing _ earlierId)
  · exact eq_of_mem_messages own member sameRoute

theorem staged_commit {state : State n} (staged : Staged round zones state)
    {index : Nat} {processing : Processing}
    (found : state.writing[index]? = some processing)
    {triggers : List StoredTrigger}
    (applied : writes state.triggers processing.trigger.id
      (processing.evaluation round).results
      (processing.patch round zones) = some triggers)
    (registered : Registered { state with
      writing := state.writing.eraseIdx index
      triggers := triggers
      outbox := createMany state.outbox (processing.messages round zones)
      committed := processing :: state.committed }) :
    Staged round zones { state with
      writing := state.writing.eraseIdx index
      triggers := triggers
      outbox := createMany state.outbox (processing.messages round zones)
      committed := processing :: state.committed } := by
  have moved : ((state.writing.eraseIdx index ++
      processing :: state.committed).map fun processing =>
        processing.readings.eventId).Perm state.drawn := by
    apply List.Perm.map
    exact List.perm_middle.trans
      ((perm_of_getElem? found).append_right state.committed)
  have written := (writes_eq_some_iff.mp applied).2.2
  refine ⟨registered, moved.nodup_iff.mpr staged.drawn, ?_, ?_, ?_,
    keys_createMany staged.keys, ?_, ?_⟩
  · intro eventId member
    exact staged.known eventId (moved.mem_iff.mp member)
  · intro message member
    rcases mem_createMany member with old | new
    · rcases staged.genuine message old with ⟨earlier, committed, own⟩
      exact ⟨earlier, List.mem_cons_of_mem _ committed, own⟩
    · exact ⟨processing, List.mem_cons_self, new⟩
  · intro other member message own
    rcases List.mem_cons.mp member with rfl | old
    · exact mem_createMany_of_mem (unambiguous_messages staged found) own
    · exact subset_createMany _ _ (staged.complete other old message own)
  · intro row member
    rw [written] at member
    rcases List.mem_map.mp member with ⟨before, old, same⟩
    exact (remembered_written (staged.remembered before old)
      (staged.fired before old) same).1
  · intro row member
    rw [written] at member
    rcases List.mem_map.mp member with ⟨before, old, same⟩
    exact (remembered_written (staged.remembered before old)
      (staged.fired before old) same).2

theorem staged_step {state target : State n} {label : Label n}
    (stepped : (machine round zones n).step state label = some target)
    (staged : Staged round zones state) : Staged round zones target := by
  have registered := registered_step stepped staged.registered
  cases stepped_of_step stepped with
  | request fresh advanced => exact staged_request staged fresh
  | updateProfile | findActive | skipped =>
      exact ⟨registered, staged.drawn, staged.known, staged.genuine,
        staged.complete, staged.keys, staged.remembered, staged.fired⟩
  | @processTrigger index trigger found snapshot readings _ _ _ unused =>
      have moved : ((state.writing ++
          [Processing.mk trigger snapshot readings] ++
            state.committed).map fun processing =>
              processing.readings.eventId).Perm
                (readings.eventId :: state.drawn) := by
        rw [List.append_assoc]
        exact List.Perm.map _ List.perm_middle
      refine ⟨registered, ?_, ?_, staged.genuine, staged.complete,
        staged.keys, staged.remembered, staged.fired⟩
      · apply moved.nodup_iff.mpr
        apply List.nodup_cons.mpr
        exact ⟨fun taken => unused (staged.known _ taken), staged.drawn⟩
      · intro eventId member
        apply List.mem_append.mpr
        rcases List.mem_cons.mp (moved.mem_iff.mp member) with rfl | old
        · exact Or.inr (List.mem_singleton_self _)
        · exact Or.inl (staged.known eventId old)
  | committed found applied =>
      exact staged_commit staged found applied registered
  | @rejected index processing found | @fail index processing found =>
      have fewer : ((state.writing.eraseIdx index ++
          state.committed).map fun processing =>
            processing.readings.eventId).Sublist state.drawn :=
        ((List.eraseIdx_sublist _ _).append_right _).map _
      exact ⟨registered, staged.drawn.sublist fewer,
        fun eventId member => staged.known eventId (fewer.subset member),
        staged.genuine, staged.complete, staged.keys, staged.remembered,
        staged.fired⟩

/-! ## The run -/

/--
In every run the rows of the outbox have distinct keys, and the event of each
bears itself out, names the owner of its trigger and is staged for every
channel it lists.  A stored trigger remembers the latest firing that staged
its messages and no other, and is `FIRED` only if there is one.
-/
theorem deliveries_of_run {profiles : String → QuietHours} {clock : Int}
    {labels : List (Label n)} {final : State n}
    (reached : (machine round zones n).run
      (State.empty n profiles clock) labels = some final) :
    (final.outbox.map OutboxMessage.key).Nodup ∧
    (∀ message ∈ final.outbox,
      Justified round message.event.toTriggerFiredEvent ∧
      message.eventId = message.event.eventId ∧
      (∃ channel ∈ message.event.channels,
        message.routingKey = routingKeyFor channel) ∧
      (∀ channel ∈ message.event.channels,
        ⟨message.eventId, routingKeyFor channel, message.event⟩ ∈
          final.outbox) ∧
      ∀ row ∈ final.triggers, row.id = message.event.triggerId →
        row.userId = message.event.userId ∧
          row.lastFiredAt.isSome = true) ∧
    ∀ row ∈ final.triggers,
      row.lastFiredAt =
          (latestFiring round zones final.committed row.id).map
            (fun processing => processing.readings.stampedAt) ∧
        (row.state = .fired → row.lastFiredAt.isSome = true) ∧
        ∀ processing ∈ latestFiring round zones final.committed row.id,
          ∀ message ∈ processing.messages round zones,
            message ∈ final.outbox := by
  have staged : Staged round zones final :=
    Machine.run_preserves (Staged round zones) staged_step
      (staged_empty profiles clock) reached
  refine ⟨staged.keys, ?_, ?_⟩
  · intro message member
    rcases staged.genuine message member with ⟨processing, committed, own⟩
    rcases mem_messages_iff.mp own with ⟨fires, channel, listed, rfl⟩
    refine ⟨justified_event fires, rfl, ⟨channel, listed, rfl⟩, ?_, ?_⟩
    · intro other otherListed
      exact staged.complete processing committed _
        (mem_messages_iff.mpr ⟨fires, other, otherListed, rfl⟩)
    · intro row stored same
      have registered := staged.registered
      have read := (registered.read _ (mem_evaluations.mpr
        (Or.inr (Or.inr ⟨processing, committed, rfl⟩)))).2
      constructor
      · exact congrArg Prod.snd (List.inj_on_of_nodup_map registered.owners
          (registered.owned row stored) read same)
      · rw [staged.remembered row stored, Option.isSome_map]
        apply List.find?_isSome.mpr
        exact ⟨processing, committed, decide_eq_true ⟨same.symm, fires⟩⟩
  · intro row member
    refine ⟨staged.remembered row member, ?_, ?_⟩
    · intro isFired
      rw [staged.remembered row member, Option.isSome_map]
      exact staged.fired row member isFired
    · intro processing latest message own
      exact staged.complete processing
        (List.mem_of_find?_eq_some latest) message own

/-- The hot day was worth two messages, and their event says why. -/
theorem deliveries_of_heat :
    ∃ final : State 1,
      (machine id (fun _ _ => none) 1).run
          (State.empty 1 (fun _ => ⟨none, none, none⟩) 0) heatObserved =
        some final ∧
      final.outbox.map OutboxMessage.key =
        [("e", "telegram.fired"), ("e", "email.fired")] ∧
      ∀ message ∈ final.outbox,
        Justified id message.event.toTriggerFiredEvent := by
  obtain ⟨final, reached⟩ : ∃ final : State 1,
      (machine id (fun _ _ => none) 1).run
          (State.empty 1 (fun _ => ⟨none, none, none⟩) 0) heatObserved =
        some final :=
    ⟨_, rfl⟩
  refine ⟨final, reached, ?_, fun message member =>
    ((deliveries_of_run reached).2.1 message member).1⟩
  cases reached
  decide

end WeatherNotify.Watcher.Firing

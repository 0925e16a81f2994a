import WeatherNotify.EndToEnd.Pipeline

/-!
# Every firing arrives, and nothing else does

The keys the relay stages are those of the messages the firings staged, so what
holds of the outbox and of the queues, each for itself, holds of the way from
the transaction of a firing to the dispatch of its messages.
-/

namespace WeatherNotify.EndToEnd

open WeatherNotify.Contracts
open WeatherNotify.Domain
open WeatherNotify.Notifier
open WeatherNotify.Transition
open WeatherNotify.Triggers
open WeatherNotify.Watcher
open WeatherNotify.Watcher.Firing (FiredEvent OutboxMessage Processing)

variable {m n : Nat} {setting : Setting}

/-! ## What the parts add -/

theorem prefix_createMany (messages outbox : List OutboxMessage) :
    outbox <+: Firing.createMany outbox messages := by
  induction messages generalizing outbox with
  | nil => exact List.prefix_refl outbox
  | cons message rest induction =>
      unfold Firing.createMany
      split
      · exact induction outbox
      · exact (List.prefix_append outbox [message]).trans (induction _)

/-- A step of the trigger table appends to the outbox. -/
theorem prefix_of_firing {round : Rat → Rat} {zones : Zones}
    {state next : Firing.State m} {label : Firing.Label m}
    (fired : (Firing.machine round zones m).step state label = some next) :
    state.outbox <+: next.outbox := by
  cases Firing.stepped_of_step fired with
  | committed => exact prefix_createMany _ _
  | request | updateProfile | findActive | processTrigger | skipped
  | rejected | fail =>
      exact List.prefix_refl _

theorem keys_rowsFor {ids : List Nat} {createdAt : Int}
    {staged : List OutboxMessage} (drawn : ids.length = staged.length) :
    (Setting.rowsFor ids createdAt staged).map Outbox.OutboxRow.key =
      staged.map OutboxMessage.key := by
  unfold Setting.rowsFor
  induction staged generalizing ids with
  | nil => rw [List.zipWith_nil_right, List.map_nil, List.map_nil]
  | cons message rest induction =>
      cases ids with
      | nil => cases drawn
      | cons id others =>
          rw [List.zipWith_cons_cons, List.map_cons, List.map_cons,
            induction (Nat.succ.inj drawn)]
          rfl

theorem kept_of_step {limit : Nat} {state next : Outbox.State n}
    {label : Outbox.Label n}
    (stepped : (Outbox.machine limit).step state label = some next)
    (kept : Outbox.Kept state) : Outbox.Kept next := by
  change Outbox.step limit state label = some next at stepped
  exact Outbox.kept_step stepped kept

/-- The relay's steps add keys of rows it has inserted, and stage nothing. -/
structure Relayed (state next : Outbox.State n) : Prop where
  staged : next.staged = state.staged
  inserted : next.inserted = state.inserted
  accepted : ∃ keys, next.accepted = state.accepted ++ keys ∧
    ∀ key ∈ keys, ∃ origin ∈ state.inserted, origin.key = key

theorem Relayed.idle {state next : Outbox.State n}
    (staged : next.staged = state.staged)
    (inserted : next.inserted = state.inserted)
    (accepted : next.accepted = state.accepted) : Relayed state next :=
  ⟨staged, inserted, [], by rw [accepted, List.append_nil],
    fun _ member => (List.not_mem_nil member).elim⟩

theorem relayed_of_step {limit : Nat} {state next : Outbox.State n}
    {label : Outbox.Label n} (moved : ∀ rows, label ≠ .commitFire rows)
    (kept : Outbox.Kept state)
    (relayed : (Outbox.machine limit).step state label = some next) :
    Relayed state next := by
  have origin : ∀ {pass : Fin n} {row : Outbox.OutboxRow}
      {rest : List Outbox.OutboxRow} {published : List Nat},
      state.passes pass = .publishing (row :: rest) published →
        ∃ origin ∈ state.inserted, origin.key = row.key := by
    intro pass row rest published found
    obtain ⟨origin, member, stem⟩ := kept.batches pass row
      (by rw [found]; exact List.mem_cons_self)
    exact ⟨origin, member, stem.2.symm⟩
  cases Outbox.stepped_of_step relayed with
  | commitFire => exact (moved _ rfl).elim
  | publishResolves found =>
      exact ⟨rfl, rfl, _, rfl, fun key member =>
        List.mem_singleton.mp member ▸ origin found⟩
  | publishRejects found accepted =>
      cases accepted with
      | true =>
          exact ⟨rfl, rfl, _, rfl, fun key member =>
            List.mem_singleton.mp member ▸ origin found⟩
      | false => exact .idle rfl rfl rfl
  | acquired | busy | acquireFails | expire | drained | findPending
  | findPendingFails | markPublished | markLost | markUnreported | release
  | releaseFails | prune | crash => exact .idle rfl rfl rfl

/-- Publishing is all that adds to what was published. -/
theorem mem_published_iff {state next : Traffic.State}
    {label : Traffic.Label} {config : Config}
    (stepped : (Traffic.machine config).step state label = some next)
    {entry : String × Message} :
    entry ∈ next.published ↔
      entry ∈ Setting.published label ∨ entry ∈ state.published := by
  cases Traffic.stepped_of_step stepped with
  | publish routingKey message =>
      rw [Setting.published, List.mem_singleton]
      exact List.mem_cons
  | @perform index message effect todo detached channel found =>
      cases effect <;> exact (or_iff_right List.not_mem_nil).symm
  | deliver | ack | stop | crash | requeue | expire =>
      exact (or_iff_right List.not_mem_nil).symm

theorem mem_published_of_run {config : Config}
    {entries : List (String × Message)} {state next : Traffic.State}
    (handed : (Traffic.machine config).run state
      (entries.map fun entry => .publish entry.1 entry.2) = some next)
    {entry : String × Message} :
    entry ∈ next.published ↔ entry ∈ entries ∨ entry ∈ state.published := by
  induction entries generalizing state with
  | nil =>
      cases handed
      exact (or_iff_right List.not_mem_nil).symm
  | cons first rest induction =>
      obtain ⟨middle, stepped, later⟩ := Option.bind_eq_some_iff.mp handed
      rw [induction later, mem_published_iff stepped, List.mem_cons,
        Setting.published, List.mem_singleton]
      constructor
      · rintro (inRest | first | before)
        · exact Or.inl (Or.inr inRest)
        · exact Or.inl (Or.inl first)
        · exact Or.inr before
      · rintro ((first | inRest) | before)
        · exact Or.inr (Or.inl first)
        · exact Or.inl inRest
        · exact Or.inr (Or.inr before)

theorem mem_handedOver_iff {outbox : List OutboxMessage}
    {keys : List (String × String)} {entry : String × Message} :
    entry ∈ setting.handedOver outbox keys ↔
      ∃ message ∈ outbox, message.key ∈ keys ∧
        entry = (message.routingKey, setting.messageFor message.event) := by
  simp only [Setting.handedOver, List.mem_flatMap, List.mem_map,
    List.mem_filter, decide_eq_true_eq]
  constructor
  · rintro ⟨key, accepted, message, ⟨member, rfl⟩, rfl⟩
    exact ⟨message, member, accepted, rfl⟩
  · rintro ⟨message, member, accepted, rfl⟩
    exact ⟨message.key, accepted, message, ⟨member, rfl⟩, rfl⟩

/-! ## The invariant -/

variable (setting) in
/-- The parts agree on what was staged, accepted and published. -/
structure Linked (state : State m n) : Prop where
  fired : Firing.Staged setting.round setting.zones state.firing
  kept : Outbox.Kept state.outbox
  sources : ∀ origin ∈ state.outbox.inserted,
    origin.key ∈ state.outbox.staged
  accepted : ∀ key ∈ state.outbox.accepted, key ∈ state.outbox.staged
  mirrored : state.outbox.staged =
    state.firing.outbox.map OutboxMessage.key
  safe : Traffic.Safe setting.notifier state.traffic
  handed : ∀ message ∈ state.firing.outbox,
    message.key ∈ state.outbox.accepted →
      (message.routingKey, setting.messageFor message.event) ∈
        state.traffic.published
  known : ∀ entry ∈ state.traffic.published,
    (∃ message ∈ state.firing.outbox,
      entry = (message.routingKey, setting.messageFor message.event)) ∨
      entry ∈ state.tests

theorem linked_empty (profiles : String → QuietHours) (clock : Int) :
    Linked setting (State.empty m n profiles clock) where
  fired := Firing.staged_empty profiles clock
  kept := Outbox.kept_empty
  sources _ member := (List.not_mem_nil member).elim
  accepted _ member := (List.not_mem_nil member).elim
  mirrored := rfl
  safe := Traffic.safe_empty
  handed _ member := (List.not_mem_nil member).elim
  known _ member := (List.not_mem_nil member).elim

variable {state : State m n}

theorem linked_fire (linked : Linked setting state)
    {label : Firing.Label m} {ids : List Nat} {createdAt : Int}
    {firing : Firing.State m} {outbox : Outbox.State n}
    (fired : (Firing.machine setting.round setting.zones m).step state.firing
      label = some firing)
    (drawn : ids.length =
      (firing.outbox.drop state.firing.outbox.length).length)
    (inserted : (Outbox.machine setting.limit).step state.outbox
      (.commitFire (Setting.rowsFor ids createdAt
        (firing.outbox.drop state.firing.outbox.length))) = some outbox) :
    Linked setting { state with firing := firing, outbox := outbox } := by
  have grown : state.firing.outbox ++
      firing.outbox.drop state.firing.outbox.length = firing.outbox :=
    List.prefix_iff_eq_append.mp (prefix_of_firing fired)
  have staged := Firing.staged_step fired linked.fired
  have kept := kept_of_step inserted linked.kept
  have keys : (Setting.rowsFor ids createdAt
      (firing.outbox.drop state.firing.outbox.length)).map
        Outbox.OutboxRow.key =
      (firing.outbox.drop state.firing.outbox.length).map OutboxMessage.key :=
    keys_rowsFor drawn
  generalize firing.outbox.drop state.firing.outbox.length = new
    at grown inserted keys
  change Outbox.step setting.limit state.outbox
    (.commitFire (Setting.rowsFor ids createdAt new)) = some outbox at inserted
  cases Outbox.stepped_of_step inserted with
  | commitFire fresh =>
      have mirrored : (state.outbox.commitFire
          (Setting.rowsFor ids createdAt new)).staged =
            firing.outbox.map OutboxMessage.key := by
        show state.outbox.staged ++ _ = _
        rw [keys, linked.mirrored, ← List.map_append, grown]
      refine ⟨staged, kept, ?_, ?_, mirrored, linked.safe, ?_, ?_⟩
      · intro origin member
        apply List.mem_append.mpr
        rcases List.mem_append.mp member with old | fresh
        · exact Or.inl (linked.sources origin old)
        · exact Or.inr (List.mem_map_of_mem
            ((Outbox.skipDuplicates_sublist _ _).subset fresh))
      · exact fun key member =>
          List.mem_append_left _ (linked.accepted key member)
      · intro message member accepted
        apply linked.handed message ?_ accepted
        -- a key that was accepted is an old one, so its message is
        have old := linked.accepted _ accepted
        rw [linked.mirrored] at old
        obtain ⟨earlier, there, same⟩ := List.mem_map.mp old
        have equal : earlier = message := by
          refine List.inj_on_of_nodup_map staged.keys ?_ member same
          rw [← grown]
          exact List.mem_append_left _ there
        rwa [← equal]
      · intro entry member
        refine (linked.known entry member).imp ?_ id
        rintro ⟨message, there, same⟩
        refine ⟨message, ?_, same⟩
        show message ∈ firing.outbox
        rw [← grown]
        exact List.mem_append_left _ there

theorem linked_relay (linked : Linked setting state)
    {label : Outbox.Label n} {outbox : Outbox.State n}
    {traffic : Traffic.State} (moved : ∀ rows, label ≠ .commitFire rows)
    (relayed : (Outbox.machine setting.limit).step state.outbox label =
      some outbox)
    (handed : (Traffic.machine setting.notifier).run state.traffic
      ((setting.handedOver state.firing.outbox
        (outbox.accepted.drop state.outbox.accepted.length)).map
          fun entry => .publish entry.1 entry.2) = some traffic) :
    Linked setting { state with outbox := outbox, traffic := traffic } := by
  have effect := relayed_of_step moved linked.kept relayed
  obtain ⟨keys, grown, rooted⟩ := effect.accepted
  have new : outbox.accepted.drop state.outbox.accepted.length = keys := by
    rw [grown, List.drop_left]
  rw [new] at handed
  have published : ∀ {entry : String × Message},
      entry ∈ traffic.published ↔
        entry ∈ setting.handedOver state.firing.outbox keys ∨
          entry ∈ state.traffic.published :=
    mem_published_of_run handed
  refine ⟨linked.fired, kept_of_step relayed linked.kept, ?_, ?_, ?_, ?_,
    ?_, ?_⟩
  · show ∀ origin ∈ outbox.inserted, origin.key ∈ outbox.staged
    rw [effect.inserted, effect.staged]
    exact linked.sources
  · intro key member
    show key ∈ outbox.staged
    rw [effect.staged]
    replace member : key ∈ outbox.accepted := member
    rw [grown] at member
    rcases List.mem_append.mp member with old | fresh
    · exact linked.accepted key old
    · obtain ⟨origin, inserted, same⟩ := rooted key fresh
      rw [← same]
      exact linked.sources origin inserted
  · exact effect.staged.trans linked.mirrored
  · exact Machine.run_preserves (Traffic.Safe setting.notifier)
      (Traffic.safe_step setting.room) linked.safe handed
  · intro message member accepted
    replace accepted : message.key ∈ outbox.accepted := accepted
    rw [grown] at accepted
    apply published.mpr
    rcases List.mem_append.mp accepted with old | fresh
    · exact Or.inr (linked.handed message member old)
    · exact Or.inl (mem_handedOver_iff.mpr ⟨message, member, fresh, rfl⟩)
  · intro entry member
    rcases published.mp member with new | old
    · obtain ⟨message, there, -, same⟩ := mem_handedOver_iff.mp new
      exact Or.inl ⟨message, there, same⟩
    · exact linked.known entry old

theorem linked_broker (linked : Linked setting state)
    {label : Traffic.Label} {traffic : Traffic.State}
    (stepped : (Traffic.machine setting.notifier).step state.traffic label =
      some traffic) :
    Linked setting
      { state with
        traffic := traffic
        tests := state.tests ++ Setting.published label } := by
  refine ⟨linked.fired, linked.kept, linked.sources, linked.accepted,
    linked.mirrored, Traffic.safe_step setting.room stepped linked.safe, ?_,
    ?_⟩
  · exact fun message member accepted => (mem_published_iff stepped).mpr
      (Or.inr (linked.handed message member accepted))
  · intro entry member
    rcases (mem_published_iff stepped).mp member with new | old
    · exact Or.inr (List.mem_append_right _ new)
    · exact (linked.known entry old).imp id (List.mem_append_left _)

theorem linked_step {next : State m n} {label : Label m n}
    (stepped : (setting.machine m n).step state label = some next)
    (linked : Linked setting state) : Linked setting next := by
  cases stepped_of_step stepped with
  | fire fired drawn inserted => exact linked_fire linked fired drawn inserted
  | relay moved relayed handed =>
      exact linked_relay linked moved relayed handed
  | broker moved => exact linked_broker linked moved

/-! ## The result -/

/-- The message still waits in the outbox. -/
def Waiting (state : State m n) (message : OutboxMessage) : Prop :=
  ∃ row ∈ state.outbox.rows, row.key = message.key ∧ row.publishedAt = none

theorem Linked.waiting_or_alive (linked : Linked setting state)
    {message : OutboxMessage} (member : message ∈ state.firing.outbox)
    {channel : Channel}
    (registered : channel ∈ setting.notifier.registeredChannels)
    (routed : message.routingKey = routingKeyFor channel) :
    Waiting state message ∨
      Traffic.Alive setting.notifier channel
        (setting.messageFor message.event) state.traffic := by
  have staged : message.key ∈ state.outbox.staged := by
    rw [linked.mirrored]
    exact List.mem_map_of_mem member
  obtain ⟨origin, inserted, same⟩ := linked.kept.covered _ staged
  rcases linked.kept.present origin inserted with waiting | resolved
  · obtain ⟨row, stored, stem, pending⟩ := waiting
    exact Or.inl ⟨row, stored, stem.2.trans same,
      Option.isNone_iff_eq_none.mp pending⟩
  · have accepted := linked.kept.delivered origin inserted resolved
    rw [same] at accepted
    have published := linked.handed message member accepted
    rw [routed] at published
    exact Or.inr (linked.safe.kept channel registered _ published)

/--
At every moment of every run: each message of every firing that was committed
still waits in the outbox, or is in a queue of its channel, with a handler,
dispatched, or pushed out of the full dead queue; and what was dispatched on a
channel is the event of a committed firing that listed the channel, which bears
itself out, or was published past the outbox.
-/
theorem delivered_of_run {profiles : String → QuietHours} {clock : Int}
    {labels : List (Label m n)} {final : State m n}
    (reached : (setting.machine m n).run
      (State.empty m n profiles clock) labels = some final) :
    (∀ processing ∈ final.firing.committed,
      processing.fires setting.round setting.zones = true →
        ∀ channel ∈ processing.trigger.channels,
          channel ∈ setting.notifier.registeredChannels →
            ∃ message ∈ final.firing.outbox,
              message.event = processing.event setting.round ∧
              message.routingKey = routingKeyFor channel ∧
              (Waiting final message ∨
                Traffic.Alive setting.notifier channel
                  (setting.messageFor message.event) final.traffic)) ∧
    ∀ dispatched ∈ final.traffic.completed,
      (∃ processing ∈ final.firing.committed,
        processing.fires setting.round setting.zones = true ∧
        dispatched.1 ∈ processing.trigger.channels ∧
        Justified setting.round
          (processing.event setting.round).toTriggerFiredEvent ∧
        SamePayload (setting.messageFor (processing.event setting.round))
          dispatched.2) ∨
      ∃ test ∈ final.tests, test.1 = routingKeyFor dispatched.1 ∧
        SamePayload test.2 dispatched.2 := by
  have linked : Linked setting final :=
    Machine.run_preserves (Linked setting) linked_step
      (linked_empty profiles clock) reached
  constructor
  · intro processing committed fires channel listed registered
    have member := linked.fired.complete processing committed _
      (Firing.mem_messages_iff.mpr ⟨fires, channel, listed, rfl⟩)
    exact ⟨_, member, rfl, rfl,
      linked.waiting_or_alive member registered rfl⟩
  · intro dispatched member
    obtain ⟨original, published, same⟩ :=
      linked.safe.genuine.completed dispatched member
    rcases linked.known _ published with ⟨message, stored, equal⟩ | test
    · obtain ⟨processing, committed, own⟩ :=
        linked.fired.genuine message stored
      obtain ⟨fires, channel, listed, rfl⟩ := Firing.mem_messages_iff.mp own
      obtain ⟨key, payload⟩ := Prod.mk.inj equal
      have sameChannel : dispatched.1 = channel :=
        routingKeyFor_injective key
      refine Or.inl ⟨processing, committed, fires, ?_,
        Firing.justified_event fires, ?_⟩
      · rw [sameChannel]
        exact listed
      · rw [payload] at same
        exact same
    · exact Or.inr ⟨_, test, rfl, same⟩

/-! ## A run -/

/-- The payload of the event of the hot day, as the broker carries it. -/
def heatContent : List UInt8 :=
  ("\x7b\"city\":\"Berlin\",\"userId\":\"u\",\"eventId\":\"e\"," ++
    "\"firedAt\":\"1970-01-01T00:00:00.001Z\"," ++
    "\"channels\":[\"TELEGRAM\",\"EMAIL\"],\"triggerId\":\"t\"," ++
    "\"conditions\":[\x7b\"metric\":\"TEMPERATURE\",\"operator\":\"GT\"," ++
    "\"threshold\":30,\"observedValue\":31\x7d]," ++
    "\"triggerName\":\"Heat\",\"conditionLogic\":\"AND\"\x7d").toList.map
      fun char => UInt8.ofNat char.toNat

/-- The fields of it that the notifier reads. -/
def heatJson : Json :=
  .obj [("eventId", .str "e"), ("triggerId", .str "t"), ("userId", .str "u")]

def heatSetting : Setting where
  round := id
  zones _ _ := none
  limit := 100
  notifier :=
    { retryDelaysMs := defaultRetryDelaysMs
      deadQueueMaxLength := defaultDeadQueueMax
      registeredChannels := [.telegram, .email, .webPush] }
  room := by decide
  encode _ := heatContent

/-- A handling while everything answers and the account lives. -/
def calmHandling : Handling where
  env :=
    { parse := fun content =>
        if content = heatContent then some heatJson else none
      interference := fun _ db => db
      reachable := fun _ => true
      now := fun _ => 0
      send := fun _ => none
      publish := fun _ => .confirmed }
  world :=
    { db := { users := ["u"], triggers := ["t"], notifications := [] }
      calls := 0
      effects := [] }

/-- One hot day, up to the dispatch of the first of its two messages. -/
def heatDelivered : List (Label 1 1) :=
  (Firing.heatCreated ++
    [Firing.Label.findActive none,
      .processTrigger 0 Firing.hotDay ⟨0, 1, 2, "e"⟩]).map
        (fun label => .fire label [] 0) ++
  [.fire (.commit 0) [1, 2] 0,
    .relay (.acquire (Fin.last 0)),
    .relay (.findPending (Fin.last 0)
      [⟨1, "e", "telegram.fired", 0, none⟩, ⟨2, "e", "email.fired", 0, none⟩]),
    .relay (.publishResolves (Fin.last 0)),
    .relay (.publishResolves (Fin.last 0)),
    .relay (.markPublished (Fin.last 0) 3),
    .relay (.release (Fin.last 0)),
    .broker (.deliver .telegram calmHandling),
    .broker (.perform 0),
    .broker (.perform 0)]

theorem delivered_of_heat :
    ∃ final : State 1 1,
      (heatSetting.machine 1 1).run
          (State.empty 1 1 (fun _ => ⟨none, none, none⟩) 0) heatDelivered =
        some final ∧
      final.traffic.completed.map Prod.fst = [.telegram] ∧
      (final.traffic.queues (queueNameFor .email)).length = 1 ∧
      ∀ processing ∈ final.firing.committed,
        processing.fires id (fun _ _ => none) = true →
          ∀ channel ∈ processing.trigger.channels,
            channel ∈ heatSetting.notifier.registeredChannels →
              ∃ message ∈ final.firing.outbox,
                message.event = processing.event id ∧
                message.routingKey = routingKeyFor channel ∧
                (Waiting final message ∨
                  Traffic.Alive heatSetting.notifier channel
                    (heatSetting.messageFor message.event)
                    final.traffic) := by
  have ran :
      ((heatSetting.machine 1 1).run
          (State.empty 1 1 (fun _ => ⟨none, none, none⟩) 0)
          heatDelivered).map (fun final =>
            (final.traffic.completed.map Prod.fst,
              (final.traffic.queues (queueNameFor .email)).length)) =
        some ([.telegram], 1) := by
    decide +kernel
  obtain ⟨final, reached, view⟩ := Option.map_eq_some_iff.mp ran
  have parts := Prod.mk.inj view
  exact ⟨final, reached, parts.1, parts.2, (delivered_of_run reached).1⟩

end WeatherNotify.EndToEnd

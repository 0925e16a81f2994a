import WeatherNotify.Notifier.Traffic
import WeatherNotify.Transition.Workers

/-!
# Neither lost nor invented

What one message goes through is not disturbed by the others, except that a
full dead queue drops its head: a message that was published for a channel is
in a queue of that channel, held by a handler, dispatched, or pushed out of the
dead queue, and nothing is in these places that was not published.
-/

namespace WeatherNotify.Notifier.Traffic

open WeatherNotify.Broker
open WeatherNotify.Contracts
open WeatherNotify.Notifier.Delivery
open WeatherNotify.Transition

variable {config : Config}

/-! ## Nothing is invented -/

/-- The message is a copy of one that was published for the channel. -/
def Known (state : State) (channel : Channel) (copy : Message) : Prop :=
  ∃ original, (routingKeyFor channel, original) ∈ state.published ∧
    SamePayload original copy

variable (config) in
structure Genuine (state : State) : Prop where
  registered : ∀ handler ∈ state.handlers,
    handler.channel ∈ config.registeredChannels
  shaped : ∀ handler ∈ state.handlers, ∃ performed,
    HandlingLog config handler.channel handler.message
      (performed ++ handler.todo)
  held : ∀ handler ∈ state.handlers,
    Known state handler.channel handler.message
  queued : ∀ channel, ∀ queue ∈ channelQueues config channel,
    ∀ copy ∈ state.queues queue, Known state channel copy
  completed : ∀ entry ∈ state.completed, Known state entry.1 entry.2
  dropped : ∀ entry ∈ state.dropped, ∃ channel ∈ config.registeredChannels,
    entry.1 = deadQueueNameFor channel ∧ Known state channel entry.2

variable {state : State}

theorem genuine_empty : Genuine config .empty where
  registered _ member := (List.not_mem_nil member).elim
  shaped _ member := (List.not_mem_nil member).elim
  held _ member := (List.not_mem_nil member).elim
  queued _ _ _ _ member := (List.not_mem_nil member).elim
  completed _ member := (List.not_mem_nil member).elim
  dropped _ member := (List.not_mem_nil member).elim

/-- A message that is known where it goes. -/
theorem genuine_route (genuine : Genuine config state)
    {exchange routingKey : String} {message : Message}
    (homed : ∀ target,
      (setupTopology config).Bound exchange routingKey target →
        ∃ channel ∈ config.registeredChannels,
          target ∈ channelQueues config channel ∧
            Known state channel message) :
    Genuine config (state.route config exchange routingKey message) where
  registered := genuine.registered
  shaped := genuine.shaped
  held := genuine.held
  completed := genuine.completed
  queued := by
    intro channel queue owned copy member
    by_cases bound : (setupTopology config).Bound exchange routingKey queue
    · obtain ⟨owner, _, home, known⟩ := homed queue bound
      rcases mem_route member with old | new
      · exact genuine.queued channel queue owned copy old
      · rw [new, channel_unique owned home]
        exact known
    · apply genuine.queued channel queue owned copy
      have same : (state.route config exchange routingKey message).queues
          queue = state.queues queue :=
        if_neg fun member =>
          bound (Topology.mem_boundQueues_iff.mp member)
      rwa [same] at member
  dropped := by
    rintro ⟨queue, copy⟩ member
    rcases List.mem_append.mp member with old | new
    · exact genuine.dropped _ old
    · obtain ⟨bound, lost⟩ := mem_spilled_iff.mp new
      obtain ⟨owner, registered, home, known⟩ := homed queue bound
      obtain ⟨limit, limited⟩ := limited_of_mem_overflow lost
      refine ⟨owner, registered, dead_of_limited home limited, ?_⟩
      rcases mem_of_mem_overflow lost with stored | same
      · exact genuine.queued owner queue home copy stored
      · show Known state owner copy
        rw [same]
        exact known

/-- Fewer messages in a queue. -/
theorem genuine_withQueue (genuine : Genuine config state) {queue : String}
    {messages : List Message}
    (known : ∀ channel, queue ∈ channelQueues config channel →
      ∀ copy ∈ messages, Known state channel copy) :
    Genuine config (state.withQueue queue messages) where
  registered := genuine.registered
  shaped := genuine.shaped
  held := genuine.held
  completed := genuine.completed
  dropped := genuine.dropped
  queued := by
    intro channel other owned copy member
    by_cases same : other = queue
    · subst same
      rw [State.withQueue_self] at member
      exact known channel owned copy member
    · rw [State.withQueue_of_ne _ _ same] at member
      exact genuine.queued channel other owned copy member

theorem genuine_giveBack (genuine : Genuine config state)
    {channel : Channel} {message : Message}
    (known : Known state channel message) :
    Genuine config (state.giveBack channel message) := by
  apply genuine_withQueue genuine
  intro owner owned copy member
  rcases List.mem_cons.mp member with rfl | old
  · rw [channel_unique owned mainQueue_mem]
    exact known
  · exact genuine.queued owner _ owned copy old

/-- Handlers that do as known ones do. -/
theorem genuine_handlers (genuine : Genuine config state)
    {handlers : List Handler}
    (members : ∀ handler ∈ handlers,
      handler.channel ∈ config.registeredChannels ∧
        (∃ performed, HandlingLog config handler.channel handler.message
          (performed ++ handler.todo)) ∧
        Known state handler.channel handler.message) :
    Genuine config { state with handlers := handlers } where
  registered handler member := (members handler member).1
  shaped handler member := (members handler member).2.1
  held handler member := (members handler member).2.2
  queued := genuine.queued
  completed := genuine.completed
  dropped := genuine.dropped

theorem Genuine.member (genuine : Genuine config state) {handler : Handler}
    (member : handler ∈ state.handlers) :
    handler.channel ∈ config.registeredChannels ∧
      (∃ performed, HandlingLog config handler.channel handler.message
        (performed ++ handler.todo)) ∧
      Known state handler.channel handler.message :=
  ⟨genuine.registered handler member, genuine.shaped handler member,
    genuine.held handler member⟩

theorem genuine_eraseIdx (genuine : Genuine config state) (index : Nat) :
    Genuine config { state with handlers := state.handlers.eraseIdx index } :=
  genuine_handlers genuine fun _ member =>
    genuine.member (List.mem_of_mem_eraseIdx member)

theorem genuine_set (genuine : Genuine config state) {index : Nat}
    {next : Handler}
    (registered : next.channel ∈ config.registeredChannels)
    (shaped : ∃ performed, HandlingLog config next.channel next.message
      (performed ++ next.todo))
    (known : Known state next.channel next.message) :
    Genuine config
      { state with handlers := state.handlers.set index next } := by
  apply genuine_handlers genuine
  intro handler member
  rcases List.mem_or_eq_of_mem_set member with old | rfl
  · exact genuine.member old
  · exact ⟨registered, shaped, known⟩

/-- More is known after a publish. -/
theorem genuine_published (genuine : Genuine config state)
    (entry : String × Message) :
    Genuine config { state with published := entry :: state.published } := by
  have more : ∀ {channel : Channel} {copy : Message},
      Known state channel copy →
        Known { state with published := entry :: state.published } channel
          copy := by
    rintro channel copy ⟨original, member, same⟩
    exact ⟨original, List.mem_cons_of_mem _ member, same⟩
  exact ⟨genuine.registered, genuine.shaped,
    fun handler member => more (genuine.held handler member),
    fun channel queue owned copy member =>
      more (genuine.queued channel queue owned copy member),
    fun done member => more (genuine.completed done member),
    fun lost member => (genuine.dropped lost member).imp fun _ found =>
      ⟨found.1, found.2.1, more found.2.2⟩⟩

theorem Known.trans {channel : Channel} {message copy : Message}
    (known : Known state channel message) (same : SamePayload message copy) :
    Known state channel copy := by
  obtain ⟨original, member, payload⟩ := known
  exact ⟨original, member, payload.trans same⟩

theorem samePayload_refl (message : Message) : SamePayload message message :=
  ⟨rfl, rfl, rfl⟩

theorem genuine_perform (genuine : Genuine config state) {index : Nat}
    {message : Message} {effect : Effect} {todo : List Effect}
    {detached : Bool} {channel : Channel}
    (found : state.handlers[index]? =
      some ⟨⟨message, effect :: todo, detached⟩, channel⟩) :
    Genuine config
      { state.apply config channel message effect with
        handlers := state.handlers.set index
          ⟨⟨message, todo, detached⟩, channel⟩ } := by
  obtain ⟨registered, ⟨performed, shape⟩, known⟩ :=
    genuine.member (List.mem_of_getElem? found)
  have shaped : ∃ performed, HandlingLog config channel message
      (performed ++ todo) :=
    ⟨performed ++ [effect], by simpa using shape⟩
  cases effect with
  | dispatched outcome =>
      have done : Genuine config
          { state with
            completed := (channel, message) :: state.completed } := by
        refine ⟨genuine.registered, genuine.shaped, genuine.held,
          genuine.queued, fun entry member => ?_, genuine.dropped⟩
        rcases List.mem_cons.mp member with rfl | old
        · exact known
        · exact genuine.completed entry old
      exact genuine_set done registered shaped known
  | published exchange routingKey copy =>
      have concluded := conclusion_of_published shape
      obtain ⟨home, owned, bound⟩ := home_of_conclusion registered concluded
      have routed : Genuine config
          (state.route config exchange routingKey copy) := by
        apply genuine_route genuine
        intro target reached
        rw [(bound target).mp reached]
        exact ⟨channel, registered, owned,
          known.trans concluded.samePayload⟩
      exact genuine_set routed registered shaped known
  | dispatchCalled | acked | handlerFailed =>
      exact genuine_set genuine registered shaped known

theorem genuine_step {next : State} {label : Label}
    (stepped : (machine config).step state label = some next)
    (genuine : Genuine config state) : Genuine config next := by
  cases stepped_of_step stepped with
  | publish routingKey message =>
      refine genuine_route (genuine_published genuine (routingKey, message)) ?_
      intro target bound
      obtain ⟨channel, registered, rfl, rfl⟩ := home_of_bound bound
      exact ⟨channel, registered, mainQueue_mem, message,
        List.mem_cons_self, samePayload_refl message⟩
  | @deliver channel handling message rest registered head =>
      have known : ∀ copy ∈ message :: rest, Known state channel copy :=
        fun copy member => genuine.queued channel _ mainQueue_mem copy
          (by rw [head]; exact member)
      have fewer : Genuine config
          (state.withQueue (queueNameFor channel) rest) := by
        apply genuine_withQueue genuine
        intro owner owned copy member
        rw [channel_unique owned mainQueue_mem]
        exact known copy (List.mem_cons_of_mem _ member)
      apply genuine_handlers fewer
      intro handler member
      rcases List.mem_append.mp member with old | new
      · exact fewer.member old
      · rw [List.mem_singleton.mp new]
        exact ⟨registered, ⟨[], handling.log_shape config channel message⟩,
          known message List.mem_cons_self⟩
  | ack found => exact genuine_eraseIdx genuine _
  | perform found => exact genuine_perform genuine found
  | stop found detached => exact genuine_eraseIdx genuine _
  | crash found attached =>
      exact genuine_giveBack (genuine_eraseIdx genuine _)
        (genuine.member (List.mem_of_getElem? found)).2.2
  | requeue found =>
      obtain ⟨registered, shaped, known⟩ :=
        genuine.member (List.mem_of_getElem? found)
      exact genuine_set (genuine_giveBack genuine known) registered shaped
        known
  | @expire queue exchange routingKey message rest expiring head =>
      obtain ⟨channel, registered, owned, bound⟩ :=
        returns_of_expiring expiring
      have known : ∀ copy ∈ message :: rest, Known state channel copy :=
        fun copy member => genuine.queued channel queue owned copy
          (by rw [head]; exact member)
      have fewer : Genuine config (state.withQueue queue rest) := by
        apply genuine_withQueue genuine
        intro owner other copy member
        rw [channel_unique other owned]
        exact known copy (List.mem_cons_of_mem _ member)
      apply genuine_route fewer
      intro target reached
      rw [(bound target).mp reached]
      exact ⟨channel, registered, mainQueue_mem,
        known message List.mem_cons_self⟩

/-! ## Nothing is lost -/

variable (config) in
/-- Where a message that was published for a channel can be. -/
inductive Alive (channel : Channel) (original : Message) (state : State) :
    Prop
  | completed {copy : Message} (done : (channel, copy) ∈ state.completed)
      (same : SamePayload original copy)
  | queued {queue : String} {copy : Message}
      (owned : queue ∈ channelQueues config channel)
      (member : copy ∈ state.queues queue)
      (same : SamePayload original copy)
  | held {handler : Handler} (member : handler ∈ state.handlers)
      (owner : handler.channel = channel) (holds : handler.Holds)
      (same : SamePayload original handler.message)
  | dropped {copy : Message}
      (lost : (deadQueueNameFor channel, copy) ∈ state.dropped)
      (same : SamePayload original copy)

section Alive

variable {channel : Channel} {original : Message}

theorem alive_route (alive : Alive config channel original state)
    (exchange routingKey : String) (message : Message) :
    Alive config channel original
      (state.route config exchange routingKey message) := by
  cases alive with
  | completed done same => exact .completed done same
  | held member owner holds same => exact .held member owner holds same
  | dropped lost same => exact .dropped (List.mem_append_left _ lost) same
  | @queued queue copy owned member same =>
      have somewhere : copy ∈ Broker.route (setupTopology config) exchange
            routingKey message state.queues queue ∨
          (queue, copy) ∈ spilled (setupTopology config) exchange routingKey
            message state.queues :=
        mem_route_or_spilled member
      rcases somewhere with still | lost
      · exact .queued owned still same
      · obtain ⟨limit, limited⟩ :=
          limited_of_mem_overflow (mem_spilled_iff.mp lost).2
        rw [dead_of_limited owned limited] at lost
        exact .dropped (List.mem_append_right _ lost) same

/-- What is published to a queue of the channel is there. -/
theorem alive_of_route (room : 0 < config.deadQueueMaxLength)
    {exchange routingKey home : String} {message : Message}
    (owned : home ∈ channelQueues config channel)
    (bound : (setupTopology config).Bound exchange routingKey home)
    (same : SamePayload original message) :
    Alive config channel original
      (state.route config exchange routingKey message) :=
  .queued owned (mem_route_of_bound (setupTopology_roomy room) bound) same

/-- A queue without its head, unless that was the message. -/
theorem alive_or_head (alive : Alive config channel original state)
    {queue : String} {message : Message} {rest : List Message}
    (head : state.queues queue = message :: rest) :
    Alive config channel original (state.withQueue queue rest) ∨
      queue ∈ channelQueues config channel ∧
        SamePayload original message := by
  cases alive with
  | completed done same => exact Or.inl (.completed done same)
  | held member owner holds same =>
      exact Or.inl (.held member owner holds same)
  | dropped lost same => exact Or.inl (.dropped lost same)
  | @queued other copy owned member same =>
      by_cases equal : other = queue
      · subst equal
        rw [head] at member
        rcases List.mem_cons.mp member with rfl | later
        · exact Or.inr ⟨owned, same⟩
        · refine Or.inl (.queued owned ?_ same)
          rw [State.withQueue_self]
          exact later
      · refine Or.inl (.queued owned ?_ same)
        rw [State.withQueue_of_ne _ _ equal]
        exact member

theorem alive_giveBack (alive : Alive config channel original state)
    (owner : Channel) (message : Message) :
    Alive config channel original (state.giveBack owner message) := by
  cases alive with
  | completed done same => exact .completed done same
  | held member owned holds same => exact .held member owned holds same
  | dropped lost same => exact .dropped lost same
  | @queued queue copy owned member same =>
      refine .queued owned ?_ same
      by_cases equal : queue = queueNameFor owner
      · subst equal
        rw [State.giveBack, State.withQueue_self]
        exact List.mem_cons_of_mem _ member
      · rw [State.giveBack, State.withQueue_of_ne _ _ equal]
        exact member

theorem mem_giveBack (owner : Channel) (message : Message) :
    message ∈ (state.giveBack owner message).queues (queueNameFor owner) := by
  rw [State.giveBack, State.withQueue_self]
  exact List.mem_cons_self

/-- A handler has a copy of the message in its hands. -/
def Carries (channel : Channel) (original : Message) (handler : Handler) :
    Prop :=
  handler.channel = channel ∧ handler.Holds ∧
    SamePayload original handler.message

/-- The message stays where it is when some handler still carries it. -/
theorem alive_handlers (alive : Alive config channel original state)
    {handlers : List Handler}
    (kept : (∃ handler ∈ state.handlers, Carries channel original handler) →
      ∃ handler ∈ handlers, Carries channel original handler) :
    Alive config channel original { state with handlers := handlers } := by
  cases alive with
  | completed done same => exact .completed done same
  | queued owned member same => exact .queued owned member same
  | dropped lost same => exact .dropped lost same
  | held member owner holds same =>
      obtain ⟨other, there, owned, held, payload⟩ :=
        kept ⟨_, member, owner, holds, same⟩
      exact .held there owned held payload

/-- A handler that does not hold its message can go. -/
theorem alive_eraseIdx (alive : Alive config channel original state)
    {index : Nat} {handler : Handler}
    (found : state.handlers[index]? = some handler)
    (spent : handler.channel = channel →
      SamePayload original handler.message → ¬ handler.Holds) :
    Alive config channel original
      { state with handlers := state.handlers.eraseIdx index } := by
  apply alive_handlers alive
  exact exists_mem_eraseIdx found
    fun ⟨owner, holds, same⟩ => spent owner same holds

/-- A handler goes on, and holds what it held. -/
theorem alive_set (alive : Alive config channel original state)
    {index : Nat} {handler next : Handler}
    (found : state.handlers[index]? = some handler)
    (still : handler.channel = channel →
      SamePayload original handler.message → handler.Holds →
        next.channel = channel ∧ next.Holds ∧
          SamePayload original next.message) :
    Alive config channel original
      { state with handlers := state.handlers.set index next } := by
  apply alive_handlers alive
  exact exists_mem_set found
    fun ⟨owner, holds, same⟩ => still owner same holds

theorem alive_published (alive : Alive config channel original state)
    (published : List (String × Message)) :
    Alive config channel original
      { state with published := published } := by
  cases alive with
  | completed done same => exact .completed done same
  | queued owned member same => exact .queued owned member same
  | held member owner holds same => exact .held member owner holds same
  | dropped lost same => exact .dropped lost same

theorem alive_completed (alive : Alive config channel original state)
    (entry : Channel × Message) :
    Alive config channel original
      { state with completed := entry :: state.completed } := by
  cases alive with
  | completed done same =>
      exact .completed (List.mem_cons_of_mem _ done) same
  | queued owned member same => exact .queued owned member same
  | held member owner holds same => exact .held member owner holds same
  | dropped lost same => exact .dropped lost same

/-- A handler begins with its message unconcluded. -/
theorem holds_of_log (handling : Handling) (owner : Channel)
    (message : Message) :
    InFlight.Holds ⟨message, handling.log config owner message, false⟩ := by
  refine ⟨rfl, fun alone => ?_⟩
  change handling.log config owner message = [.acked] at alone
  have shape := handling.log_shape config owner message
  rw [alone] at shape
  generalize only : [Effect.acked] = log at shape
  cases shape with
  | acked opened concluded =>
      rcases opened with rfl | rfl <;> simp at only
  | lost opened => rcases opened with rfl | rfl <;> simp at only
  | unconfirmed opened concluded =>
      rcases opened with rfl | rfl <;> simp at only

theorem alive_deliver (alive : Alive config channel original state)
    {owner : Channel} (handling : Handling) {message : Message}
    {rest : List Message}
    (head : state.queues (queueNameFor owner) = message :: rest) :
    Alive config channel original
      { state.withQueue (queueNameFor owner) rest with
        handlers := state.handlers ++
          [⟨⟨message, handling.log config owner message, false⟩,
            owner⟩] } := by
  rcases alive_or_head alive head with elsewhere | ⟨owned, same⟩
  · apply alive_handlers elsewhere
    rintro ⟨handler, member, carries⟩
    exact ⟨handler, List.mem_append_left _ member, carries⟩
  · exact .held (List.mem_append_right _ (List.mem_singleton_self _))
      (channel_unique mainQueue_mem owned) (holds_of_log handling owner message)
      same

theorem alive_perform (room : 0 < config.deadQueueMaxLength)
    (genuine : Genuine config state)
    (alive : Alive config channel original state) {index : Nat}
    {message : Message} {effect : Effect} {todo : List Effect}
    {detached : Bool} {owner : Channel}
    (found : state.handlers[index]? =
      some ⟨⟨message, effect :: todo, detached⟩, owner⟩) :
    Alive config channel original
      { state.apply config owner message effect with
        handlers := state.handlers.set index
          ⟨⟨message, todo, detached⟩, owner⟩ } := by
  obtain ⟨registered, ⟨performed, shape⟩, -⟩ :=
    genuine.member (List.mem_of_getElem? found)
  by_cases mine : owner = channel ∧ SamePayload original message
  case neg =>
    -- another message's handler takes nothing from this one
    have applied : Alive config channel original
        (state.apply config owner message effect) := by
      cases effect with
      | dispatched outcome => exact alive_completed alive _
      | published exchange routingKey copy =>
          exact alive_route alive exchange routingKey copy
      | dispatchCalled | acked | handlerFailed => exact alive
    have same : (state.apply config owner message effect).handlers =
        state.handlers := by
      cases effect <;> rfl
    rw [← same] at found ⊢
    exact alive_set applied found
      fun owned payload _ => (mine ⟨owned, payload⟩).elim
  case pos =>
    obtain ⟨rfl, payload⟩ := mine
    cases effect with
    | dispatched outcome => exact .completed List.mem_cons_self payload
    | published exchange routingKey copy =>
        have concluded := conclusion_of_published shape
        obtain ⟨home, owned, bound⟩ := home_of_conclusion registered concluded
        exact .queued owned
          (mem_route_of_bound (setupTopology_roomy room)
            ((bound home).mpr rfl))
          (payload.trans concluded.samePayload)
    | dispatchCalled | acked | handlerFailed =>
        refine alive_set alive found fun _ _ holds => ⟨rfl, ?_, payload⟩
        refine ⟨holds.1, fun last => ?_⟩
        change todo = [.acked] at last
        rw [last] at shape
        cases conclusion_of_todo_acked shape

theorem alive_step (room : 0 < config.deadQueueMaxLength) {next : State}
    {label : Label}
    (stepped : (machine config).step state label = some next)
    (genuine : Genuine config state)
    (alive : Alive config channel original state) :
    Alive config channel original next := by
  cases stepped_of_step stepped with
  | publish routingKey message =>
      exact alive_published (alive_route alive _ _ _) _
  | deliver handling registered head =>
      exact alive_deliver alive handling head
  | @ack index message todo detached owner found =>
      obtain ⟨-, ⟨performed, shape⟩, -⟩ :=
        genuine.member (List.mem_of_getElem? found)
      have last := todo_nil_of_acked shape
      apply alive_eraseIdx alive found
      rintro - - ⟨-, unfinished⟩
      exact unfinished (by rw [last])
  | perform found => exact alive_perform room genuine alive found
  | stop found detached =>
      apply alive_eraseIdx alive found
      rintro - - ⟨attached, -⟩
      rw [detached] at attached
      cases attached
  | @crash index handler found attached =>
      by_cases mine : handler.channel = channel ∧
        SamePayload original handler.message
      · obtain ⟨rfl, payload⟩ := mine
        exact .queued mainQueue_mem (mem_giveBack _ _) payload
      · apply alive_giveBack
        exact alive_eraseIdx alive found
          fun owned payload _ => mine ⟨owned, payload⟩
  | @requeue index message todo owner found =>
      by_cases mine : owner = channel ∧ SamePayload original message
      · obtain ⟨rfl, payload⟩ := mine
        exact .queued mainQueue_mem (mem_giveBack _ _) payload
      · have found' : (state.giveBack owner message).handlers[index]? =
            some ⟨⟨message, todo, false⟩, owner⟩ :=
          found
        exact alive_set (alive_giveBack alive owner message) found'
          fun owned payload _ => (mine ⟨owned, payload⟩).elim
  | @expire queue exchange routingKey message rest expiring head =>
      rcases alive_or_head alive head with elsewhere | ⟨owned, same⟩
      · exact alive_route elsewhere _ _ _
      · obtain ⟨owner, -, home, bound⟩ := returns_of_expiring expiring
        have equal := channel_unique home owned
        subst equal
        exact alive_of_route room mainQueue_mem ((bound _).mpr rfl) same

/-- What is published under the key of a channel is in its main queue. -/
theorem alive_publish (room : 0 < config.deadQueueMaxLength)
    (registered : channel ∈ config.registeredChannels) {next : State}
    {message : Message}
    (stepped : (machine config).step state
      (.publish (routingKeyFor channel) message) = some next) :
    Alive config channel message next := by
  cases stepped_of_step stepped with
  | publish =>
      exact .queued mainQueue_mem
        (mem_route_of_bound (setupTopology_roomy room)
          ((bound_main_iff registered).mpr rfl))
        (samePayload_refl message)

end Alive

/-! ## Whole runs -/

variable (config) in
/-- Whatever was published is somewhere, and whatever is somewhere was. -/
structure Safe (state : State) : Prop where
  genuine : Genuine config state
  kept : ∀ channel ∈ config.registeredChannels, ∀ message,
    (routingKeyFor channel, message) ∈ state.published →
      Alive config channel message state

theorem safe_empty : Safe config .empty :=
  ⟨genuine_empty, fun _ _ _ member => (List.not_mem_nil member).elim⟩

theorem safe_step (room : 0 < config.deadQueueMaxLength) {next : State}
    {label : Label}
    (stepped : (machine config).step state label = some next)
    (safe : Safe config state) : Safe config next := by
  refine ⟨genuine_step stepped safe.genuine, ?_⟩
  intro channel registered message member
  have before : (routingKeyFor channel, message) ∈ state.published →
      Alive config channel message next :=
    fun old => alive_step room stepped safe.genuine
      (safe.kept channel registered message old)
  cases stepped_of_step stepped with
  | publish routingKey other =>
      rcases List.mem_cons.mp member with new | old
      · cases new
        exact alive_publish room registered stepped
      · exact before old
  | @perform index other effect todo detached owner found =>
      apply before
      cases effect <;> exact member
  | deliver | ack | stop | crash | requeue | expire => exact before member

theorem safe_of_run (room : 0 < config.deadQueueMaxLength)
    {labels : List Label} {final : State}
    (reached : (machine config).run .empty labels = some final) :
    Safe config final :=
  Machine.run_preserves (Safe config) (safe_step room) safe_empty reached

end WeatherNotify.Notifier.Traffic

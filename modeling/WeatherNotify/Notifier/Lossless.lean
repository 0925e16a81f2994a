import WeatherNotify.Notifier.Ladder
import WeatherNotify.Transition.Machine

/-!
# No message is lost between two steps

The channel's queues and the handlings in flight, one effect at a time.  A
handling that crashes before its ack gives its message back; a channel that
drops while the handler lives on does so too, and the handler's later effects
still happen.  Retry queues hand their head to the main exchange when it
expires.

Publishing before acking keeps one copy alive at every moment, until some
dispatch has completed.
-/

namespace WeatherNotify.Notifier

open WeatherNotify.Broker
open WeatherNotify.Contracts
open WeatherNotify.Transition

namespace Delivery

/-- An unacked message and what its handler still does. -/
structure InFlight where
  message : Message
  todo : List Effect
  detached : Bool

structure State where
  queues : String → List Message
  handlers : List InFlight
  completed : Bool

inductive Label where
  | deliver (handling : Handling)
  | perform (index : Nat)
  | crash (index : Nat)
  | requeue (index : Nat)
  | expire (queue : String)

section Step

variable (config : Config) (channel : Channel)

def State.withQueue (state : State) (queue : String)
    (messages : List Message) : State :=
  { state with queues := Function.update state.queues queue messages }

/-- Put a message back at the head of the main queue. -/
def State.giveBack (state : State) (message : Message) : State :=
  state.withQueue (queueNameFor channel)
    (message :: state.queues (queueNameFor channel))

/-- The effect of a handler on the queues. -/
def State.apply (state : State) : Effect → State
  | .dispatched _ => { state with completed := true }
  | .published exchange routingKey copy =>
      { state with
        queues := route (setupTopology config) exchange routingKey copy
          state.queues }
  | .dispatchCalled | .acked | .handlerFailed => state

def step (state : State) : Label → Option State
  | .deliver handling =>
      match state.queues (queueNameFor channel) with
      | [] => none
      | message :: rest =>
          some { state.withQueue (queueNameFor channel) rest with
            handlers := state.handlers ++
              [⟨message, handling.log config channel message, false⟩] }
  | .perform index =>
      match state.handlers[index]? with
      | some ⟨_, .acked :: _, _⟩ =>
          some { state with handlers := state.handlers.eraseIdx index }
      | some ⟨message, effect :: todo, detached⟩ =>
          some { state.apply config effect with
            handlers :=
              state.handlers.set index ⟨message, todo, detached⟩ }
      | _ => none
  | .crash index =>
      match state.handlers[index]? with
      | some handler =>
          let stopped :=
            { state with handlers := state.handlers.eraseIdx index }
          some (if handler.detached then stopped
            else stopped.giveBack channel handler.message)
      | none => none
  | .requeue index =>
      match state.handlers[index]? with
      | some ⟨message, todo, false⟩ =>
          some { state.giveBack channel message with
            handlers := state.handlers.set index ⟨message, todo, true⟩ }
      | _ => none
  | .expire queue =>
      match ((setupTopology config).argsOf queue).bind
          QueueArgs.deadLetter, state.queues queue with
      | some (exchange, routingKey), message :: rest =>
          some { state with
            queues := route (setupTopology config) exchange routingKey
              message (Function.update state.queues queue rest) }
      | _, _ => none

def machine : Machine State Label where
  step := step config channel

end Step

/-- The message is ready in the main queue and nothing has begun. -/
def State.start (channel : Channel) (message : Message) : State where
  queues queue := if queue = queueNameFor channel then [message] else []
  handlers := []
  completed := false

/-- The main queue, the retry queues and the dead queue of a channel. -/
def channelQueues (config : Config) (channel : Channel) : List String :=
  queueNameFor channel :: deadQueueNameFor channel ::
    (List.range' 1 config.retryDelaysMs.length).map
      (retryQueueNameFor channel)

/-! ## The invariant -/

section Invariant

variable (config : Config) (channel : Channel) (original : Message)

/-- A handler that has not concluded holds its message for good. -/
def InFlight.Holds (handler : InFlight) : Prop :=
  handler.detached = false ∧ handler.todo ≠ [.acked]

def InFlight.Shaped (handler : InFlight) : Prop :=
  SamePayload original handler.message ∧
    ∃ performed, HandlingLog config channel handler.message
      (performed ++ handler.todo)

/-- Some queue of the channel or some handler holds a copy. -/
def Live (state : State) : Prop :=
  (∃ queue ∈ channelQueues config channel, state.queues queue ≠ []) ∨
    ∃ handler ∈ state.handlers, handler.Holds

structure Kept (state : State) : Prop where
  genuine : ∀ queue, ∀ copy ∈ state.queues queue, SamePayload original copy
  shaped : ∀ handler ∈ state.handlers,
    handler.Shaped config channel original
  live : state.completed = true ∨ Live config channel state

end Invariant

theorem kept_start (config : Config) (channel : Channel)
    (message : Message) :
    Kept config channel message (State.start channel message) where
  genuine queue copy member := by
    simp only [State.start] at member
    split at member
    · rw [List.mem_singleton.mp member]
      exact ⟨rfl, rfl, rfl⟩
    · cases member
  shaped _ member := by cases member
  live := Or.inr (Or.inl ⟨queueNameFor channel, List.mem_cons_self,
    by simp [State.start]⟩)

/-! ## Remaining effects -/

section Remaining

variable {config : Config} {channel : Channel} {message : Message}
variable {performed todo : List Effect} {effect : Effect}

/-- A handling acks right after its conclusion. -/
theorem conclusion_of_todo_acked
    (shape : HandlingLog config channel message
      (performed ++ [effect, .acked])) :
    Conclusion config channel message effect := by
  generalize split : performed ++ [effect, .acked] = log at shape
  have ending := congrArg List.reverse split
  cases shape with
  | acked opened concluded =>
      simp only [List.reverse_append, List.reverse_cons, List.reverse_nil,
        List.nil_append, List.cons_append, List.cons.injEq] at ending
      rw [ending.2.1]
      exact concluded
  | lost opened => simp at ending
  | unconfirmed opened concluded => simp at ending

/-- An ack is the last effect of a handling. -/
theorem todo_nil_of_acked
    (shape : HandlingLog config channel message
      (performed ++ .acked :: todo)) :
    todo = [] := by
  have member : .acked ∈ performed ++ .acked :: todo := by simp
  generalize split : performed ++ .acked :: todo = log at shape member
  have silent : ∀ {opening : List Effect},
      opening = [] ∨ opening = [.dispatchCalled] → .acked ∉ opening := by
    rintro opening (rfl | rfl) <;> simp
  cases shape with
  | @acked opening last opened concluded =>
      have absent : .acked ∉ opening ++ [last] := by
        rw [List.mem_append, not_or]
        exact ⟨silent opened, by simpa using concluded.ne_acked.symm⟩
      have whole : (opening ++ [last]) ++ .acked :: [] =
          performed ++ .acked :: todo := by
        rw [split, List.append_assoc]
        rfl
      exact ((List.append_cons_inj_of_notMem absent (by simp)).mp
        whole).2.2.symm
  | lost opened =>
      rcases List.mem_append.mp member with early | late
      · exact (silent opened early).elim
      · simp at late
  | unconfirmed opened concluded =>
      rcases List.mem_append.mp member with early | late
      · exact (silent opened early).elim
      · simp only [List.mem_cons, List.not_mem_nil, or_false, reduceCtorEq]
          at late
        exact (concluded.ne_acked late.symm).elim

/-- Whatever a handling publishes concludes it. -/
theorem conclusion_of_published {exchange routingKey : String}
    {copy : Message}
    (shape : HandlingLog config channel message
      (performed ++ .published exchange routingKey copy :: todo)) :
    Conclusion config channel message
      (.published exchange routingKey copy) := by
  have member : Effect.published exchange routingKey copy ∈
      performed ++ .published exchange routingKey copy :: todo := by
    simp
  generalize performed ++ .published exchange routingKey copy :: todo = log
    at shape member
  have published : ∀ {opening : List Effect} {effect : Effect},
      opening = [] ∨ opening = [.dispatchCalled] →
        Effect.published exchange routingKey copy ∈
          opening ++ [effect, .acked] ∨
        Effect.published exchange routingKey copy ∈
          opening ++ [effect, .handlerFailed] →
        .published exchange routingKey copy = effect := by
    rintro opening effect (rfl | rfl) (member | member) <;>
      simpa using member
  cases shape with
  | acked opened concluded =>
      rw [published opened (Or.inl member)]
      exact concluded
  | lost opened => rcases opened with rfl | rfl <;> simp at member
  | unconfirmed opened concluded =>
      rw [published opened (Or.inr member)]
      exact concluded

end Remaining

/-! ## Steps -/

section Steps

variable {config : Config} {channel : Channel} {original : Message}
variable {state : State}

theorem deadQueue_mem :
    deadQueueNameFor channel ∈ channelQueues config channel := by
  simp [channelQueues]

theorem mainQueue_mem :
    queueNameFor channel ∈ channelQueues config channel := by
  simp [channelQueues]

theorem retryQueue_mem {stage : Nat} (positive : 0 < stage)
    (within : stage ≤ config.retryDelaysMs.length) :
    retryQueueNameFor channel stage ∈ channelQueues config channel := by
  simp only [channelQueues, List.mem_cons, List.mem_map,
    List.mem_range'_1]
  exact Or.inr (Or.inr ⟨stage, by omega, rfl⟩)

/-- A concluding publish puts a copy into a queue of the channel. -/
theorem live_of_published
    (registered : channel ∈ config.registeredChannels)
    (room : 0 < config.deadQueueMaxLength)
    {message copy : Message} {exchange routingKey : String}
    (concluded : Conclusion config channel message
      (.published exchange routingKey copy))
    (queues : String → List Message) :
    ∃ queue ∈ channelQueues config channel,
      route (setupTopology config) exchange routingKey copy queues queue ≠
        [] := by
  have roomy := setupTopology_roomy room
  cases concluded with
  | retried left =>
      have positive : 0 < attemptCount message + 1 := Nat.succ_pos _
      have within :
          attemptCount message + 1 ≤ config.retryDelaysMs.length :=
        Nat.le_of_lt_succ left
      exact ⟨_, retryQueue_mem positive within, route_bound_ne_nil roomy
        ((bound_retry_iff registered positive within).mpr rfl) _ _⟩
  | parked reason =>
      exact ⟨_, deadQueue_mem, route_bound_ne_nil roomy
        ((bound_dead_iff registered).mpr rfl) _ _⟩

/-- Only retry queues hand their messages on, and back to the main queue. -/
theorem main_of_expiring
    (registered : channel ∈ config.registeredChannels)
    {queue exchange routingKey : String}
    (member : queue ∈ channelQueues config channel)
    (expiring : ((setupTopology config).argsOf queue).bind
      QueueArgs.deadLetter = some (exchange, routingKey)) :
    (setupTopology config).Bound exchange routingKey
      (queueNameFor channel) := by
  obtain ⟨args, found, target⟩ := Option.bind_eq_some_iff.mp expiring
  obtain ⟨other, _, ⟨_, rfl⟩ | ⟨delay, index, _, named, rfl⟩ | ⟨_, rfl⟩⟩ :=
    assertQueue_mem_iff.mp (Topology.argsOf_mem found)
  · cases target
  · cases target
    have same : other = channel := by
      simp only [channelQueues, List.mem_cons, List.mem_map] at member
      rcases member with main | dead | ⟨stage, _, retry⟩
      · rw [named] at main
        exact (retryQueueNameFor_ne_queueNameFor _ _ _ main).elim
      · rw [named] at dead
        exact (retryQueueNameFor_ne_deadQueueNameFor _ _ _ dead).elim
      · rw [named] at retry
        exact (retryQueueNameFor_eq_iff.mp retry).1.symm
    rw [same]
    exact (bound_main_iff registered).mpr rfl
  · cases target

theorem kept_deliver (kept : Kept config channel original state)
    {message : Message} {rest : List Message}
    (head : state.queues (queueNameFor channel) = message :: rest)
    (handling : Handling) :
    Kept config channel original
      { state.withQueue (queueNameFor channel) rest with
        handlers := state.handlers ++
          [⟨message, handling.log config channel message, false⟩] } := by
  have original_head : SamePayload original message :=
    kept.genuine (queueNameFor channel) message
      (by rw [head]; exact List.mem_cons_self)
  have shape := handling.log_shape config channel message
  refine ⟨?_, ?_, ?_⟩
  · intro queue copy member
    by_cases same : queue = queueNameFor channel
    · subst same
      simp only [State.withQueue, Function.update_self] at member
      exact kept.genuine (queueNameFor channel) copy
        (by rw [head]; exact List.mem_cons_of_mem _ member)
    · simp only [State.withQueue, Function.update_of_ne same] at member
      exact kept.genuine queue copy member
  · intro handler member
    rcases List.mem_append.mp member with old | new
    · exact kept.shaped handler old
    · rw [List.mem_singleton.mp new]
      exact ⟨original_head, [], shape⟩
  · refine Or.inr (Or.inr ⟨_, List.mem_append_right _
      (List.mem_singleton_self _), rfl, ?_⟩)
    intro alone
    change handling.log config channel message = [.acked] at alone
    rw [alone] at shape
    generalize only : [Effect.acked] = log at shape
    cases shape with
    | acked opened concluded =>
        rcases opened with rfl | rfl <;> simp at only
    | lost opened => rcases opened with rfl | rfl <;> simp at only
    | unconfirmed opened concluded =>
        rcases opened with rfl | rfl <;> simp at only

theorem mem_eraseIdx_of_ne {handlers : List InFlight} {index : Nat}
    {gone handler : InFlight} (found : handlers[index]? = some gone)
    (member : handler ∈ handlers) (different : handler ≠ gone) :
    handler ∈ handlers.eraseIdx index := by
  obtain ⟨position, there⟩ := List.mem_iff_getElem?.mp member
  refine List.mem_eraseIdx_iff_getElem?.mpr ⟨position, ?_, there⟩
  rintro rfl
  rw [found] at there
  cases there
  exact different rfl

/-- Removing a handler that holds nothing. -/
theorem kept_erase (kept : Kept config channel original state)
    {index : Nat} {handler : InFlight}
    (found : state.handlers[index]? = some handler)
    (spent : ¬ handler.Holds) :
    Kept config channel original
      { state with handlers := state.handlers.eraseIdx index } := by
  refine ⟨kept.genuine, ?_, ?_⟩
  · exact fun other member =>
      kept.shaped other (List.mem_of_mem_eraseIdx member)
  · refine kept.live.imp id (Or.imp id ?_)
    rintro ⟨other, member, holds⟩
    refine ⟨other, mem_eraseIdx_of_ne found member ?_, holds⟩
    rintro rfl
    exact spent holds

theorem shaped_set (kept : Kept config channel original state)
    {index : Nat} {next : InFlight}
    (shaped : next.Shaped config channel original) :
    ∀ handler ∈ state.handlers.set index next,
      handler.Shaped config channel original := by
  intro other member
  rcases List.mem_or_eq_of_mem_set member with old | rfl
  · exact kept.shaped other old
  · exact shaped

/-- Replacing a handler by its continuation. -/
theorem kept_set (kept : Kept config channel original state)
    {index : Nat} {handler next : InFlight}
    (found : state.handlers[index]? = some handler)
    (shaped : next.Shaped config channel original)
    (still : handler.Holds → next.Holds) :
    Kept config channel original
      { state with handlers := state.handlers.set index next } := by
  have inside : index < state.handlers.length :=
    (List.getElem?_eq_some_iff.mp found).1
  refine ⟨kept.genuine, shaped_set kept shaped,
    kept.live.imp id (Or.imp id ?_)⟩
  rintro ⟨other, member, holds⟩
  obtain ⟨position, there⟩ := List.mem_iff_getElem?.mp member
  by_cases same : position = index
  · subst same
    rw [found] at there
    cases there
    exact ⟨next, List.mem_set inside _, still holds⟩
  · refine ⟨other, List.mem_iff_getElem?.mpr ⟨position, ?_⟩, holds⟩
    rw [List.getElem?_set_ne (Ne.symm same)]
    exact there

theorem genuine_giveBack (kept : Kept config channel original state)
    {message : Message} (same : SamePayload original message) :
    ∀ queue, ∀ copy ∈ (state.giveBack channel message).queues queue,
      SamePayload original copy := by
  intro queue copy member
  by_cases main : queue = queueNameFor channel
  · subst main
    simp only [State.giveBack, State.withQueue, Function.update_self]
      at member
    rcases List.mem_cons.mp member with rfl | old
    · exact same
    · exact kept.genuine _ copy old
  · simp only [State.giveBack, State.withQueue,
      Function.update_of_ne main] at member
    exact kept.genuine queue copy member

/-- A message given back is ready again. -/
theorem live_giveBack (message : Message) :
    ∃ queue ∈ channelQueues config channel,
      (state.giveBack channel message).queues queue ≠ [] :=
  ⟨queueNameFor channel, mainQueue_mem,
    by simp [State.giveBack, State.withQueue]⟩

theorem kept_expire (registered : channel ∈ config.registeredChannels)
    (room : 0 < config.deadQueueMaxLength)
    (kept : Kept config channel original state)
    {queue exchange routingKey : String} {message : Message}
    {rest : List Message}
    (expiring : ((setupTopology config).argsOf queue).bind
      QueueArgs.deadLetter = some (exchange, routingKey))
    (head : state.queues queue = message :: rest) :
    Kept config channel original
      { state with
        queues := route (setupTopology config) exchange routingKey message
          (Function.update state.queues queue rest) } := by
  have roomy := setupTopology_roomy room
  refine ⟨?_, kept.shaped, kept.live.imp id (Or.imp ?_ id)⟩
  · intro other copy member
    have older : ∀ stored ∈ message :: rest, SamePayload original stored :=
      fun stored storedMember =>
        kept.genuine queue stored (by rw [head]; exact storedMember)
    rcases mem_route member with old | rfl
    · by_cases same : other = queue
      · subst same
        rw [Function.update_self] at old
        exact older copy (List.mem_cons_of_mem _ old)
      · rw [Function.update_of_ne same] at old
        exact kept.genuine other copy old
    · exact older copy List.mem_cons_self
  · rintro ⟨other, member, nonempty⟩
    by_cases same : other = queue
    · subst same
      exact ⟨queueNameFor channel, mainQueue_mem, route_bound_ne_nil roomy
        (main_of_expiring registered member expiring) _ _⟩
    · refine ⟨other, member, route_ne_nil roomy ?_ _ _ _⟩
      rw [Function.update_of_ne same]
      exact nonempty

/-- A handler goes on to its next effect. -/
theorem kept_perform (registered : channel ∈ config.registeredChannels)
    (room : 0 < config.deadQueueMaxLength)
    (kept : Kept config channel original state)
    {index : Nat} {message : Message} {effect : Effect}
    {todo : List Effect} {detached : Bool}
    (found : state.handlers[index]? =
      some ⟨message, effect :: todo, detached⟩) :
    Kept config channel original
      { state.apply config effect with
        handlers := state.handlers.set index ⟨message, todo, detached⟩ } := by
  obtain ⟨same, performed, shape⟩ :=
    kept.shaped _ (List.mem_of_getElem? found)
  have shaped : InFlight.Shaped config channel original
      ⟨message, todo, detached⟩ :=
    ⟨same, performed ++ [effect], by simpa using shape⟩
  -- before its conclusion a handler goes on holding its message
  have holding : ¬ Conclusion config channel message effect →
      InFlight.Holds ⟨message, effect :: todo, detached⟩ →
        InFlight.Holds ⟨message, todo, detached⟩ := by
    rintro inconclusive ⟨attached, _⟩
    refine ⟨attached, ?_⟩
    rintro rfl
    exact inconclusive (conclusion_of_todo_acked shape)
  cases effect with
  | dispatched outcome =>
      exact ⟨kept.genuine, shaped_set kept shaped, Or.inl rfl⟩
  | published exchange routingKey copy =>
      have concluded := conclusion_of_published shape
      refine ⟨?_, shaped_set kept shaped, Or.inr (Or.inl
        (live_of_published registered room concluded state.queues))⟩
      intro queue stored member
      rcases mem_route member with old | rfl
      · exact kept.genuine queue stored old
      · exact same.trans concluded.samePayload
  | dispatchCalled | acked | handlerFailed =>
      exact kept_set kept found shaped
        (holding fun concluded => by cases concluded)

theorem kept_step (registered : channel ∈ config.registeredChannels)
    (room : 0 < config.deadQueueMaxLength)
    {next : State} {label : Label}
    (stepped : step config channel state label = some next)
    (kept : Kept config channel original state) :
    Kept config channel original next := by
  cases label with
  | deliver handling =>
      simp only [step] at stepped
      split at stepped
      next => cases stepped
      next head =>
        cases stepped
        exact kept_deliver kept head handling
  | perform index =>
      simp only [step] at stepped
      split at stepped
      next message todo detached found =>
        cases stepped
        obtain ⟨_, performed, shape⟩ :=
          kept.shaped _ (List.mem_of_getElem? found)
        have last := todo_nil_of_acked shape
        refine kept_erase kept found ?_
        rintro ⟨_, unfinished⟩
        exact unfinished (by rw [last])
      next found =>
        cases stepped
        exact kept_perform registered room kept found
      next => cases stepped
  | crash index =>
      simp only [step] at stepped
      split at stepped
      next handler found =>
        cases stepped
        split
        next detached =>
          refine kept_erase kept found ?_
          rintro ⟨attached, _⟩
          rw [detached] at attached
          cases attached
        next =>
          have same := (kept.shaped _ (List.mem_of_getElem? found)).1
          exact ⟨genuine_giveBack kept same,
            fun other member =>
              kept.shaped other (List.mem_of_mem_eraseIdx member),
            Or.inr (Or.inl (live_giveBack handler.message))⟩
      next => cases stepped
  | requeue index =>
      simp only [step] at stepped
      split at stepped
      next message todo found =>
        cases stepped
        obtain ⟨same, shape⟩ :=
          kept.shaped _ (List.mem_of_getElem? found)
        exact ⟨genuine_giveBack kept same,
          shaped_set kept ⟨same, shape⟩,
          Or.inr (Or.inl (live_giveBack message))⟩
      next => cases stepped
  | expire queue =>
      simp only [step] at stepped
      split at stepped
      next expiring head =>
        cases stepped
        exact kept_expire registered room kept expiring head
      next => cases stepped

/-- Some copy of the message is in a queue of its channel or unacked. -/
def HasCopy (config : Config) (channel : Channel) (original : Message)
    (state : State) : Prop :=
  (∃ queue ∈ channelQueues config channel, ∃ copy ∈ state.queues queue,
      SamePayload original copy) ∨
    ∃ handler ∈ state.handlers, handler.detached = false ∧
      SamePayload original handler.message

theorem Kept.hasCopy (kept : Kept config channel original state) :
    state.completed = true ∨ HasCopy config channel original state := by
  refine kept.live.imp id (Or.imp ?_ ?_)
  · rintro ⟨queue, member, nonempty⟩
    obtain ⟨copy, copyMember⟩ := List.exists_mem_of_ne_nil _ nonempty
    exact ⟨queue, member, copy, copyMember,
      kept.genuine queue copy copyMember⟩
  · rintro ⟨handler, member, holds⟩
    exact ⟨handler, member, holds.1, (kept.shaped handler member).1⟩

end Steps

end Delivery

/--
The retry ladder.  Every key a handling publishes to lands in one declared
queue; a journey of acked handlings climbs the stages in order, calls
`dispatch` at most once more than there are stages and ends completed or
parked; and at every moment of every run with crashes and failed publishes, a
message whose dispatch has not completed has a copy left.
-/
theorem ladder_total_escalating_lossless
    (retryDelays deadQueueMax : Option String) (channels : List Channel)
    {channel : Channel} (registered : channel ∈ channels)
    (message : Message) :
    let config := Config.fromEnv retryDelays deadQueueMax channels
    let stages := config.retryDelaysMs.length
    (∀ (handling : Handling) (exchange routingKey : String)
        (copy : Message),
      .published exchange routingKey copy ∈
          handling.log config channel message →
        Landed config channel exchange routingKey) ∧
    (message.attempts = none → ∀ handlings : List Handling,
      let journey := travel config channel message handlings
      (∀ left, journey.ending ≠ .unacked left) →
        journey.stages = (List.range' 1 journey.stages.length).map
            (retryRoutingKeyFor channel) ∧
          journey.stages.length ≤ stages ∧
          journey.dispatches ≤ stages + 1 ∧
          (stages + 1 ≤ handlings.length →
            journey.ending = .completed ∨
              ∃ copy reason, journey.ending = .parked copy ∧
                copy.deadReason = some reason ∧
                SamePayload message copy)) ∧
    ∀ (labels : List Delivery.Label) (final : Delivery.State),
      (Delivery.machine config channel).run
          (Delivery.State.start channel message) labels = some final →
        final.completed = true ∨
          Delivery.HasCopy config channel message final := by
  intro config stages
  have consumed : channel ∈ config.registeredChannels := registered
  have room : 0 < config.deadQueueMaxLength :=
    positiveInt_pos (by decide) deadQueueMax
  refine ⟨?_, ?_, ?_⟩
  · intro handling exchange routingKey copy member
    obtain ⟨performed, todo, split⟩ := List.append_of_mem member
    have shape := handling.log_shape config channel message
    rw [split] at shape
    exact (Delivery.conclusion_of_published shape).landed consumed
  · intro absent handlings journey acked
    have counted : attemptCount message = 0 := by
      simp [attemptCount, absent]
    obtain ⟨escalates, bounded, tried, ends, parked⟩ :=
      travel_climbs consumed message handlings
    rw [counted] at escalates bounded tried ends
    refine ⟨escalates, bounded, tried, fun enough => ?_⟩
    cases ending : journey.ending with
    | completed => exact Or.inl rfl
    | parked copy =>
        obtain ⟨same, reason, known⟩ := parked copy ending
        exact Or.inr ⟨copy, reason, rfl, known, same⟩
    | waiting left => exact (ends enough left ending).elim
    | unacked left => exact (acked left ending).elim
  · intro labels final reached
    have kept : Delivery.Kept config channel message final :=
      Machine.run_preserves (Delivery.Kept config channel message)
        (fun stepped => Delivery.kept_step consumed room stepped)
        (Delivery.kept_start config channel message) reached
    exact kept.hasCopy

/-- A broker that confirms everything and a body that is not JSON. -/
def unparseableHandling : Handling where
  env :=
    { parse := fun _ => none
      interference := fun _ db => db
      reachable := fun _ => true
      now := fun _ => 0
      send := fun _ => none
      publish := fun _ => .confirmed }
  world := ⟨⟨[], [], []⟩, 0, []⟩

def brokenMessage : Message where
  content := [0]
  messageId := some "m"
  attempts := none
  eventId := some (.str "event")
  deadReason := none

theorem ladder_parks_unparseable :
    ∃ copy,
      (travel (Config.fromEnv none none [.email]) .email brokenMessage
          (List.replicate 4 unparseableHandling)).ending = .parked copy ∧
        SamePayload brokenMessage copy := by
  have ending :
      (travel (Config.fromEnv none none [.email]) .email brokenMessage
        (List.replicate 4 unparseableHandling)).ending =
          .parked (republished brokenMessage 0 (some .unparseable)) := by
    rfl
  obtain ⟨_, _, _, ends⟩ :=
    (ladder_total_escalating_lossless none none [.email]
      (List.mem_singleton_self _) brokenMessage).2.1 rfl
      (List.replicate 4 unparseableHandling)
      (fun left unacked => by
        rw [ending] at unacked
        cases unacked)
  rcases ends (by decide) with completed | ⟨copy, _, parked, _, same⟩
  · rw [ending] at completed
    cases completed
  · exact ⟨copy, parked, same⟩

end WeatherNotify.Notifier

import WeatherNotify.Broker.Overflow
import WeatherNotify.Notifier.Lossless

/-!
# Every message on its own way

The queues of all channels and the handlings in flight, with any number of
messages published from outside between any two steps.  The ghosts remember
what was published, what was dispatched and what a full queue pushed out.
-/

namespace WeatherNotify.Notifier.Traffic

open WeatherNotify.Broker
open WeatherNotify.Contracts
open WeatherNotify.Notifier.Delivery
open WeatherNotify.Transition

/-- An unacked message of a channel and what its handler still does. -/
structure Handler extends InFlight where
  channel : Channel

structure State where
  queues : String → List Message
  handlers : List Handler
  completed : List (Channel × Message)
  dropped : List (String × Message)
  published : List (String × Message)

inductive Label where
  | publish (routingKey : String) (message : Message)
  | deliver (channel : Channel) (handling : Handling)
  | perform (index : Nat)
  | crash (index : Nat)
  | requeue (index : Nat)
  | expire (queue : String)

section Step

variable (config : Config)

def State.withQueue (state : State) (queue : String)
    (messages : List Message) : State :=
  { state with queues := Function.update state.queues queue messages }

@[simp]
theorem State.withQueue_self (state : State) (queue : String)
    (messages : List Message) :
    (state.withQueue queue messages).queues queue = messages :=
  Function.update_self _ _ _

theorem State.withQueue_of_ne (state : State) {queue other : String}
    (messages : List Message) (different : other ≠ queue) :
    (state.withQueue queue messages).queues other = state.queues other :=
  Function.update_of_ne different _ _

/-- Put a message back at the head of the main queue. -/
def State.giveBack (state : State) (channel : Channel) (message : Message) :
    State :=
  state.withQueue (queueNameFor channel)
    (message :: state.queues (queueNameFor channel))

/-- A message reaches an exchange. -/
def State.route (state : State) (exchange routingKey : String)
    (message : Message) : State :=
  { state with
    queues := Broker.route (setupTopology config) exchange routingKey message
      state.queues
    dropped := state.dropped ++
      spilled (setupTopology config) exchange routingKey message
        state.queues }

/-- The effect of a handler. -/
def State.apply (state : State) (channel : Channel) (message : Message) :
    Effect → State
  | .dispatched _ =>
      { state with completed := (channel, message) :: state.completed }
  | .published exchange routingKey copy =>
      state.route config exchange routingKey copy
  | .dispatchCalled | .acked | .handlerFailed => state

def step (state : State) : Label → Option State
  | .publish routingKey message =>
      some { state.route config notificationsExchange routingKey message with
        published := (routingKey, message) :: state.published }
  | .deliver channel handling =>
      match state.queues (queueNameFor channel) with
      | [] => none
      | message :: rest =>
          if channel ∈ config.registeredChannels then
            some { state.withQueue (queueNameFor channel) rest with
              handlers := state.handlers ++
                [⟨⟨message, handling.log config channel message, false⟩,
                  channel⟩] }
          else none
  | .perform index =>
      match state.handlers[index]? with
      | some ⟨⟨_, .acked :: _, _⟩, _⟩ =>
          some { state with handlers := state.handlers.eraseIdx index }
      | some ⟨⟨message, effect :: todo, detached⟩, channel⟩ =>
          some { state.apply config channel message effect with
            handlers := state.handlers.set index
              ⟨⟨message, todo, detached⟩, channel⟩ }
      | _ => none
  | .crash index =>
      match state.handlers[index]? with
      | some handler =>
          let stopped :=
            { state with handlers := state.handlers.eraseIdx index }
          some (if handler.detached then stopped
            else stopped.giveBack handler.channel handler.message)
      | none => none
  | .requeue index =>
      match state.handlers[index]? with
      | some ⟨⟨message, todo, false⟩, channel⟩ =>
          some { state.giveBack channel message with
            handlers := state.handlers.set index
              ⟨⟨message, todo, true⟩, channel⟩ }
      | _ => none
  | .expire queue =>
      match ((setupTopology config).argsOf queue).bind
          QueueArgs.deadLetter, state.queues queue with
      | some (exchange, routingKey), message :: rest =>
          some ((state.withQueue queue rest).route config exchange routingKey
            message)
      | _, _ => none

def machine : Machine State Label where
  step := step config

end Step

/-- Declared queues, nothing published. -/
def State.empty : State where
  queues _ := []
  handlers := []
  completed := []
  dropped := []
  published := []

/-! ## What one step can do -/

/-- Every step, with what it found and the state it leads to. -/
inductive Stepped (config : Config) (state : State) :
    Label → State → Prop where
  | publish (routingKey : String) (message : Message) :
      Stepped config state (.publish routingKey message)
        { state.route config notificationsExchange routingKey message with
          published := (routingKey, message) :: state.published }
  | deliver {channel : Channel} (handling : Handling) {message : Message}
      {rest : List Message}
      (registered : channel ∈ config.registeredChannels)
      (head : state.queues (queueNameFor channel) = message :: rest) :
      Stepped config state (.deliver channel handling)
        { state.withQueue (queueNameFor channel) rest with
          handlers := state.handlers ++
            [⟨⟨message, handling.log config channel message, false⟩,
              channel⟩] }
  | ack {index : Nat} {message : Message} {todo : List Effect}
      {detached : Bool} {channel : Channel}
      (found : state.handlers[index]? =
        some ⟨⟨message, .acked :: todo, detached⟩, channel⟩) :
      Stepped config state (.perform index)
        { state with handlers := state.handlers.eraseIdx index }
  | perform {index : Nat} {message : Message} {effect : Effect}
      {todo : List Effect} {detached : Bool} {channel : Channel}
      (found : state.handlers[index]? =
        some ⟨⟨message, effect :: todo, detached⟩, channel⟩) :
      Stepped config state (.perform index)
        { state.apply config channel message effect with
          handlers := state.handlers.set index
            ⟨⟨message, todo, detached⟩, channel⟩ }
  | stop {index : Nat} {handler : Handler}
      (found : state.handlers[index]? = some handler)
      (detached : handler.detached = true) :
      Stepped config state (.crash index)
        { state with handlers := state.handlers.eraseIdx index }
  | crash {index : Nat} {handler : Handler}
      (found : state.handlers[index]? = some handler)
      (attached : handler.detached = false) :
      Stepped config state (.crash index)
        ({ state with handlers := state.handlers.eraseIdx index }.giveBack
          handler.channel handler.message)
  | requeue {index : Nat} {message : Message} {todo : List Effect}
      {channel : Channel}
      (found : state.handlers[index]? =
        some ⟨⟨message, todo, false⟩, channel⟩) :
      Stepped config state (.requeue index)
        { state.giveBack channel message with
          handlers := state.handlers.set index
            ⟨⟨message, todo, true⟩, channel⟩ }
  | expire {queue exchange routingKey : String} {message : Message}
      {rest : List Message}
      (expiring : ((setupTopology config).argsOf queue).bind
        QueueArgs.deadLetter = some (exchange, routingKey))
      (head : state.queues queue = message :: rest) :
      Stepped config state (.expire queue)
        ((state.withQueue queue rest).route config exchange routingKey
          message)

variable {config : Config}

theorem stepped_of_step {state next : State} {label : Label}
    (stepped : (machine config).step state label = some next) :
    Stepped config state label next := by
  change step config state label = some next at stepped
  cases label with
  | publish routingKey message =>
      cases stepped
      exact .publish routingKey message
  | deliver channel handling =>
      simp only [step] at stepped
      split at stepped
      case h_1 => cases stepped
      case h_2 message rest head =>
        obtain ⟨registered, same⟩ := Option.ite_none_right_eq_some.mp stepped
        cases same
        exact .deliver handling registered head
  | perform index =>
      simp only [step] at stepped
      split at stepped
      case h_1 found =>
        cases stepped
        exact .ack found
      case h_2 found =>
        cases stepped
        exact .perform found
      case h_3 => cases stepped
  | crash index =>
      simp only [step] at stepped
      split at stepped
      case h_2 => cases stepped
      case h_1 handler found =>
        cases stepped
        split
        case isTrue detached => exact .stop found detached
        case isFalse attached =>
          exact .crash found (Bool.eq_false_of_not_eq_true attached)
  | requeue index =>
      simp only [step] at stepped
      split at stepped
      case h_1 found =>
        cases stepped
        exact .requeue found
      case h_2 => cases stepped
  | expire queue =>
      simp only [step] at stepped
      split at stepped
      case h_1 expiring head =>
        cases stepped
        exact .expire expiring head
      case h_2 => cases stepped

/-! ## Queues and their channels -/

section Names

variable {channel other : Channel}

theorem queueNameFor_injective : Function.Injective queueNameFor := by
  intro left right equal
  exact channel_eq_of_append_eq
    ((String.append_empty).trans
      ((append_left_cancel equal).trans (String.append_empty).symm))

theorem deadQueueNameFor_injective : Function.Injective deadQueueNameFor := by
  intro left right equal
  rw [deadQueueNameFor_eq_append, deadQueueNameFor_eq_append] at equal
  exact deadRoutingKeyFor_injective (append_left_cancel equal)

theorem mem_channelQueues_iff {queue : String} :
    queue ∈ channelQueues config channel ↔
      queue = queueNameFor channel ∨ queue = deadQueueNameFor channel ∨
        ∃ stage, 0 < stage ∧ stage ≤ config.retryDelaysMs.length ∧
          queue = retryQueueNameFor channel stage := by
  simp only [channelQueues, List.mem_cons, List.mem_map, List.mem_range'_1]
  constructor
  · rintro (main | dead | ⟨stage, within, rfl⟩)
    · exact Or.inl main
    · exact Or.inr (Or.inl dead)
    · exact Or.inr (Or.inr ⟨stage, by omega, by omega, rfl⟩)
  · rintro (main | dead | ⟨stage, positive, within, rfl⟩)
    · exact Or.inl main
    · exact Or.inr (Or.inl dead)
    · exact Or.inr (Or.inr ⟨stage, by omega, rfl⟩)

/-- A queue belongs to one channel. -/
theorem channel_unique {queue : String}
    (here : queue ∈ channelQueues config channel)
    (there : queue ∈ channelQueues config other) : channel = other := by
  rcases mem_channelQueues_iff.mp here with rfl | rfl | ⟨stage, _, _, rfl⟩ <;>
    rcases mem_channelQueues_iff.mp there with
      same | same | ⟨otherStage, _, _, same⟩
  · exact queueNameFor_injective same
  · exact (deadQueueNameFor_ne_queueNameFor _ _ same.symm).elim
  · exact (retryQueueNameFor_ne_queueNameFor _ _ _ same.symm).elim
  · exact (deadQueueNameFor_ne_queueNameFor _ _ same).elim
  · exact deadQueueNameFor_injective same
  · exact (retryQueueNameFor_ne_deadQueueNameFor _ _ _ same.symm).elim
  · exact (retryQueueNameFor_ne_queueNameFor _ _ _ same).elim
  · exact (retryQueueNameFor_ne_deadQueueNameFor _ _ _ same).elim
  · exact (retryQueueNameFor_eq_iff.mp same).1

/-- Only the dead queue of a channel has a limit. -/
theorem dead_of_limited {queue : String} {limit : Nat}
    (member : queue ∈ channelQueues config channel)
    (limited : ((setupTopology config).argsOf queue).bind
      QueueArgs.maxLength = some limit) :
    queue = deadQueueNameFor channel := by
  obtain ⟨args, found, bounded⟩ := Option.bind_eq_some_iff.mp limited
  obtain ⟨owner, _, ⟨_, rfl⟩ | ⟨_, _, _, _, rfl⟩ | ⟨named, _⟩⟩ :=
    assertQueue_mem_iff.mp (Topology.argsOf_mem found)
  · cases bounded
  · cases bounded
  · have dead : deadQueueNameFor owner ∈ channelQueues config owner :=
      deadQueue_mem
    rw [named] at member ⊢
    rw [channel_unique dead member]

/-- A message that expires goes back to the main queue of its channel. -/
theorem returns_of_expiring {queue exchange routingKey : String}
    (expiring : ((setupTopology config).argsOf queue).bind
      QueueArgs.deadLetter = some (exchange, routingKey)) :
    ∃ channel ∈ config.registeredChannels,
      queue ∈ channelQueues config channel ∧
        ∀ target, (setupTopology config).Bound exchange routingKey target ↔
          target = queueNameFor channel := by
  obtain ⟨args, found, target⟩ := Option.bind_eq_some_iff.mp expiring
  obtain ⟨owner, registered, ⟨_, rfl⟩ | ⟨delay, index, staged, named, rfl⟩ |
    ⟨_, rfl⟩⟩ := assertQueue_mem_iff.mp (Topology.argsOf_mem found)
  · cases target
  · cases target
    have within : index < config.retryDelaysMs.length :=
      (List.getElem?_eq_some_iff.mp staged).1
    refine ⟨owner, registered, ?_, fun _ => bound_main_iff registered⟩
    rw [named]
    exact retryQueue_mem (Nat.succ_pos index) within
  · cases target

/-- What a handler publishes reaches one queue of its channel. -/
theorem home_of_conclusion (registered : channel ∈ config.registeredChannels)
    {message copy : Message} {exchange routingKey : String}
    (concluded : Conclusion config channel message
      (.published exchange routingKey copy)) :
    ∃ home ∈ channelQueues config channel,
      ∀ target, (setupTopology config).Bound exchange routingKey target ↔
        target = home := by
  cases concluded with
  | retried left =>
      have within :
          attemptCount message + 1 ≤ config.retryDelaysMs.length :=
        Nat.le_of_lt_succ left
      exact ⟨_, retryQueue_mem (Nat.succ_pos _) within,
        fun _ => bound_retry_iff registered (Nat.succ_pos _) within⟩
  | parked reason =>
      exact ⟨_, deadQueue_mem, fun _ => bound_dead_iff registered⟩

/-- What comes from outside reaches the main queue its key names. -/
theorem home_of_bound {routingKey target : String}
    (bound : (setupTopology config).Bound notificationsExchange routingKey
      target) :
    ∃ channel ∈ config.registeredChannels,
      routingKey = routingKeyFor channel ∧ target = queueNameFor channel := by
  obtain ⟨owner, registered, ⟨named, _, same⟩ | ⟨_, _, _, _, wrong, _⟩ |
    ⟨_, wrong, _⟩⟩ := bindQueue_mem_iff.mp bound
  · exact ⟨owner, registered, same, named⟩
  · exact (dlxExchange_ne_notificationsExchange wrong.symm).elim
  · exact (dlxExchange_ne_notificationsExchange wrong.symm).elim

end Names

end WeatherNotify.Notifier.Traffic

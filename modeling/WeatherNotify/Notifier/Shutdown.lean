import WeatherNotify.Notifier.Ladder
import WeatherNotify.Transition.Machine

/-!
# Shutting a notifier down

One consumer process on one connection: the setup that registers its consumers,
the deliveries it takes, the counter of those in flight, and `onModuleDestroy`,
which cancels the consumers, polls the counter and closes the channel.  The
broker waits for an ack of every delivery and takes back what is unacked when
the channel closes.
-/

namespace WeatherNotify.Notifier.Shutdown

open WeatherNotify.Contracts
open WeatherNotify.Transition

def drainTimeoutMs : Int := 30000

def drainPollMs : Int := 50

/-- One call of `handle`: its delivery and what it still does. -/
structure Handler where
  number : Nat
  todo : List Effect

/-- Where the process stands on its way down. -/
inductive Phase where
  | serving
  | cancelling (tags : List String)
  | polling (deadline : Int)
  | sleeping (deadline wakeAt : Int)
  | closing
  | closed
  deriving DecidableEq

/-- The consumer tags by channel, as a map with one entry for a key. -/
def setTag (tags : List (Channel × String)) (channel : Channel)
    (tag : String) : List (Channel × String) :=
  if tags.any fun entry => entry.1 = channel then
    tags.map fun entry => if entry.1 = channel then (channel, tag) else entry
  else tags ++ [(channel, tag)]

/--
The process and what the broker keeps for it.  The last six fields are ghosts:
deliveries that were acked, that came back at the close of the channel, that
were left unacked by a handler; consumers registered after the shutdown began;
whether the broker refused a cancellation; how often the drain slept.
-/
structure State where
  unregistered : List Channel
  consumers : List (Channel × String)
  consumerTags : List (Channel × String)
  inFlight : Int
  handlers : List Handler
  unacked : List Nat
  delivered : Nat
  phase : Phase
  clock : Int
  acked : List Nat
  returned : List Nat
  failed : List Nat
  late : List String
  refused : Bool
  sleeps : Nat

inductive Label where
  | consume (tag : String)
  | deliver (channel : Channel) (tag : String) (message : Message)
    (handling : Handling)
  | perform (index : Nat)
  | finish (index : Nat)
  | destroy
  | cancel
  | cancelled
  | cancelFails
  | poll
  | wake
  | closeConnection
  | tick (ms : Nat)

/-- Nothing was closed yet. -/
def Phase.isOpen : Phase → Bool
  | .closing | .closed => false
  | _ => true

section Step

variable (config : Config)

/-- A delivery is taken and counted. -/
def State.deliver (state : State) (todo : List Effect) : State :=
  { state with
    inFlight := state.inFlight + 1
    handlers := state.handlers ++ [⟨state.delivered, todo⟩]
    unacked := state.unacked ++ [state.delivered]
    delivered := state.delivered + 1 }

/-- The broker hears of an ack only while it waits for it. -/
def State.ack (state : State) (number : Nat) : State :=
  if number ∈ state.unacked then
    { state with
      unacked := state.unacked.erase number
      acked := state.acked ++ [number] }
  else state

def State.apply (state : State) (number : Nat) : Effect → State
  | .acked => state.ack number
  | .handlerFailed => { state with failed := state.failed ++ [number] }
  | .dispatchCalled | .dispatched _ | .published _ _ _ => state

/-- A closed channel has no consumers and waits for no acks. -/
def State.closeChannel (state : State) : State :=
  { state with
    consumers := []
    unacked := []
    returned := state.returned ++ state.unacked
    phase := .closing }

def step (state : State) : Label → Option State
  | .consume tag =>
      match state.unregistered with
      | channel :: rest =>
          if state.phase.isOpen then
            some { state with
              unregistered := rest
              consumers := state.consumers ++ [(channel, tag)]
              consumerTags := setTag state.consumerTags channel tag
              late :=
                if state.phase = .serving then state.late
                else state.late ++ [tag] }
          else none
      | [] => none
  | .deliver channel tag message handling =>
      if (channel, tag) ∈ state.consumers then
        some (state.deliver (handling.log config channel message))
      else none
  | .perform index =>
      match state.handlers[index]? with
      | some ⟨number, effect :: todo⟩ =>
          some { state.apply number effect with
            handlers := state.handlers.set index ⟨number, todo⟩ }
      | _ => none
  | .finish index =>
      match state.handlers[index]? with
      | some ⟨_, []⟩ =>
          some { state with
            inFlight := state.inFlight - 1
            handlers := state.handlers.eraseIdx index }
      | _ => none
  | .destroy =>
      match state.phase with
      | .serving =>
          some { state with
            phase := .cancelling (state.consumerTags.map Prod.snd)
            consumerTags := [] }
      | _ => none
  | .cancel =>
      -- `addSetup` waits for a setup that is still under way
      match state.phase, state.unregistered with
      | .cancelling (tag :: rest), [] =>
          some { state with
            consumers := state.consumers.filter fun entry => entry.2 ≠ tag
            phase := .cancelling rest }
      | _, _ => none
  | .cancelled =>
      match state.phase, state.unregistered with
      | .cancelling [], [] =>
          some { state with phase := .polling (state.clock + drainTimeoutMs) }
      | _, _ => none
  | .cancelFails =>
      match state.phase with
      | .cancelling _ =>
          some { state with
            phase := .polling (state.clock + drainTimeoutMs)
            refused := true }
      | _ => none
  | .poll =>
      match state.phase with
      | .polling deadline =>
          if 0 < state.inFlight ∧ state.clock < deadline then
            some { state with
              phase := .sleeping deadline (state.clock + drainPollMs)
              sleeps := state.sleeps + 1 }
          else some state.closeChannel
      | _ => none
  | .wake =>
      match state.phase with
      | .sleeping deadline wakeAt =>
          if wakeAt ≤ state.clock then
            some { state with phase := .polling deadline }
          else none
      | _ => none
  | .closeConnection =>
      match state.phase with
      | .closing => some { state with phase := .closed }
      | _ => none
  | .tick ms => some { state with clock := state.clock + ms }

def machine : Machine State Label where
  step := step config

/-- Connected, with every consumer still to be registered. -/
def State.start (clock : Int) : State where
  unregistered := config.registeredChannels
  consumers := []
  consumerTags := []
  inFlight := 0
  handlers := []
  unacked := []
  delivered := 0
  phase := .serving
  clock := clock
  acked := []
  returned := []
  failed := []
  late := []
  refused := false
  sleeps := 0

end Step

/-! ## What one step can do -/

/-- Every step, with what it found and the state it leads to. -/
inductive Stepped (config : Config) (state : State) : Label → State → Prop where
  | consume {channel : Channel} {rest : List Channel} (tag : String)
      (next : state.unregistered = channel :: rest)
      (isOpen : state.phase.isOpen = true) :
      Stepped config state (.consume tag)
        { state with
          unregistered := rest
          consumers := state.consumers ++ [(channel, tag)]
          consumerTags := setTag state.consumerTags channel tag
          late :=
            if state.phase = .serving then state.late
            else state.late ++ [tag] }
  | deliver {channel : Channel} {tag : String} (message : Message)
      (handling : Handling) (consumer : (channel, tag) ∈ state.consumers) :
      Stepped config state (.deliver channel tag message handling)
        (state.deliver (handling.log config channel message))
  | perform {index number : Nat} {effect : Effect} {todo : List Effect}
      (found : state.handlers[index]? = some ⟨number, effect :: todo⟩) :
      Stepped config state (.perform index)
        { state.apply number effect with
          handlers := state.handlers.set index ⟨number, todo⟩ }
  | finish {index number : Nat}
      (found : state.handlers[index]? = some ⟨number, []⟩) :
      Stepped config state (.finish index)
        { state with
          inFlight := state.inFlight - 1
          handlers := state.handlers.eraseIdx index }
  | destroy (serving : state.phase = .serving) :
      Stepped config state .destroy
        { state with
          phase := .cancelling (state.consumerTags.map Prod.snd)
          consumerTags := [] }
  | cancel {tag : String} {rest : List String}
      (cancelling : state.phase = .cancelling (tag :: rest))
      (settled : state.unregistered = []) :
      Stepped config state .cancel
        { state with
          consumers := state.consumers.filter fun entry => entry.2 ≠ tag
          phase := .cancelling rest }
  | cancelled (cancelling : state.phase = .cancelling [])
      (settled : state.unregistered = []) :
      Stepped config state .cancelled
        { state with phase := .polling (state.clock + drainTimeoutMs) }
  | cancelFails {tags : List String}
      (cancelling : state.phase = .cancelling tags) :
      Stepped config state .cancelFails
        { state with
          phase := .polling (state.clock + drainTimeoutMs)
          refused := true }
  | waits {deadline : Int} (polling : state.phase = .polling deadline)
      (busy : 0 < state.inFlight) (early : state.clock < deadline) :
      Stepped config state .poll
        { state with
          phase := .sleeping deadline (state.clock + drainPollMs)
          sleeps := state.sleeps + 1 }
  | closes {deadline : Int} (polling : state.phase = .polling deadline)
      (ready : state.inFlight ≤ 0 ∨ deadline ≤ state.clock) :
      Stepped config state .poll state.closeChannel
  | wake {deadline wakeAt : Int}
      (sleeping : state.phase = .sleeping deadline wakeAt)
      (elapsed : wakeAt ≤ state.clock) :
      Stepped config state .wake { state with phase := .polling deadline }
  | closeConnection (closing : state.phase = .closing) :
      Stepped config state .closeConnection { state with phase := .closed }
  | tick (ms : Nat) :
      Stepped config state (.tick ms) { state with clock := state.clock + ms }

variable {config : Config}

theorem stepped_of_step {state next : State} {label : Label}
    (stepped : (machine config).step state label = some next) :
    Stepped config state label next := by
  change step config state label = some next at stepped
  cases label with
  | consume tag =>
      simp only [step] at stepped
      split at stepped
      case h_1 channel rest registered =>
        obtain ⟨isOpen, same⟩ := Option.ite_none_right_eq_some.mp stepped
        cases same
        exact .consume tag registered isOpen
      case h_2 => cases stepped
  | deliver channel tag message handling =>
      obtain ⟨consumer, same⟩ := Option.ite_none_right_eq_some.mp stepped
      cases same
      exact .deliver message handling consumer
  | perform index =>
      simp only [step] at stepped
      split at stepped
      case h_1 found =>
        cases stepped
        exact .perform found
      case h_2 => cases stepped
  | finish index =>
      simp only [step] at stepped
      split at stepped
      case h_1 found =>
        cases stepped
        exact .finish found
      case h_2 => cases stepped
  | destroy =>
      simp only [step] at stepped
      split at stepped
      case h_1 serving =>
        cases stepped
        exact .destroy serving
      case h_2 => cases stepped
  | cancel =>
      simp only [step] at stepped
      split at stepped
      case h_1 cancelling settled =>
        cases stepped
        exact .cancel cancelling settled
      case h_2 => cases stepped
  | cancelled =>
      simp only [step] at stepped
      split at stepped
      case h_1 cancelling settled =>
        cases stepped
        exact .cancelled cancelling settled
      case h_2 => cases stepped
  | cancelFails =>
      simp only [step] at stepped
      split at stepped
      case h_1 cancelling =>
        cases stepped
        exact .cancelFails cancelling
      case h_2 => cases stepped
  | poll =>
      simp only [step] at stepped
      split at stepped
      case h_1 deadline polling =>
        split at stepped
        case isTrue waiting =>
          cases stepped
          exact .waits polling waiting.1 waiting.2
        case isFalse done =>
          cases stepped
          refine .closes polling ?_
          rw [not_and_or, Int.not_lt, Int.not_lt] at done
          exact done
      case h_2 => cases stepped
  | wake =>
      simp only [step] at stepped
      split at stepped
      case h_1 sleeping =>
        obtain ⟨elapsed, same⟩ := Option.ite_none_right_eq_some.mp stepped
        cases same
        exact .wake sleeping elapsed
      case h_2 => cases stepped
  | closeConnection =>
      simp only [step] at stepped
      split at stepped
      case h_1 closing =>
        cases stepped
        exact .closeConnection closing
      case h_2 => cases stepped
  | tick ms =>
      cases stepped
      exact .tick ms

end WeatherNotify.Notifier.Shutdown

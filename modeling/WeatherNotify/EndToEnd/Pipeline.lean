import WeatherNotify.Notifier.TrafficSafety
import WeatherNotify.Watcher.OutboxSafety
import WeatherNotify.Watcher.StagedEvents

/-!
# From an evaluation to a delivery

The whole path of a notification: requests and evaluations on the trigger
table, the transaction of a firing that stages its messages, the relay that
hands them to the broker, the queues of the channels and the handlings of the
consumers.  The three parts share the outbox and the broker and nothing else,
and each takes its steps as it does alone.
-/

namespace WeatherNotify.EndToEnd

open WeatherNotify.Contracts
open WeatherNotify.Domain
open WeatherNotify.Notifier
open WeatherNotify.Transition
open WeatherNotify.Watcher
open WeatherNotify.Watcher.Firing (FiredEvent OutboxMessage)

variable {m n : Nat}

/-- What the parts are configured with. -/
structure Setting where
  round : Rat → Rat
  zones : Zones
  /-- How many rows a pass of the relay reads. -/
  limit : Nat
  notifier : Config
  room : 0 < notifier.deadQueueMaxLength
  /-- The text of an event, as the publisher sends it. -/
  encode : FiredEvent → List UInt8

structure State (m n : Nat) where
  firing : Firing.State m
  outbox : Outbox.State n
  traffic : Traffic.State
  /-- What was published past the outbox. -/
  tests : List (String × Message)

inductive Label (m n : Nat) where
  | fire (label : Firing.Label m) (ids : List Nat) (createdAt : Int)
  | relay (label : Outbox.Label n)
  | broker (label : Traffic.Label)

namespace Setting

variable (setting : Setting)

/-- The message the publisher makes of a payload. -/
def messageFor (event : FiredEvent) : Message where
  content := setting.encode event
  messageId := some event.eventId
  attempts := none
  eventId := some (.str event.eventId)
  deadReason := none

/-- The rows of staged messages. -/
def rowsFor (ids : List Nat) (createdAt : Int)
    (staged : List OutboxMessage) : List Outbox.OutboxRow :=
  List.zipWith (fun id message =>
    ⟨id, message.eventId, message.routingKey, createdAt, none⟩) ids staged

/-- What the broker is handed for the keys it accepted. -/
def handedOver (outbox : List OutboxMessage) (keys : List (String × String)) :
    List (String × Message) :=
  keys.flatMap fun key =>
    (outbox.filter fun message => message.key = key).map fun message =>
      (message.routingKey, setting.messageFor message.event)

/-- The messages reach the broker one after the other. -/
def publishAll (traffic : Traffic.State) (entries : List (String × Message)) :
    Option Traffic.State :=
  (Traffic.machine setting.notifier).run traffic
    (entries.map fun entry => .publish entry.1 entry.2)

/-- The transaction of a firing is its step and the rows it inserts. -/
def fire (state : State m n) (label : Firing.Label m) (ids : List Nat)
    (createdAt : Int) : Option (State m n) := do
  let firing ← (Firing.machine setting.round setting.zones m).step
    state.firing label
  let staged := firing.outbox.drop state.firing.outbox.length
  if ids.length = staged.length then
    let outbox ← Outbox.step setting.limit state.outbox
      (.commitFire (rowsFor ids createdAt staged))
    return { state with firing := firing, outbox := outbox }
  else none

/-- A step of the relay, and what the broker takes by it. -/
def relay (state : State m n) (label : Outbox.Label n) :
    Option (State m n) := do
  let outbox ← Outbox.step setting.limit state.outbox label
  let accepted := outbox.accepted.drop state.outbox.accepted.length
  let traffic ← setting.publishAll state.traffic
    (setting.handedOver state.firing.outbox accepted)
  return { state with outbox := outbox, traffic := traffic }

/-- What a step publishes past the outbox. -/
def published : Traffic.Label → List (String × Message)
  | .publish routingKey message => [(routingKey, message)]
  | _ => []

def step (state : State m n) : Label m n → Option (State m n)
  | .fire label ids createdAt => setting.fire state label ids createdAt
  | .relay (.commitFire _) => none
  | .relay label => setting.relay state label
  | .broker label =>
      (Traffic.step setting.notifier state.traffic label).map fun traffic =>
        { state with
          traffic := traffic
          tests := state.tests ++ published label }

def machine (m n : Nat) : Machine (State m n) (Label m n) where
  step := setting.step

end Setting

/-- Nothing stored, nothing under way and the queues declared. -/
def State.empty (m n : Nat) (profiles : String → QuietHours) (clock : Int) :
    State m n where
  firing := .empty m profiles clock
  outbox := .empty n
  traffic := .empty
  tests := []

variable {setting : Setting}

/-! ## What one step can do -/

/-- Every step, as steps of the parts. -/
inductive Stepped (setting : Setting) (state : State m n) :
    Label m n → State m n → Prop where
  | fire {label : Firing.Label m} {ids : List Nat} {createdAt : Int}
      {firing : Firing.State m} {outbox : Outbox.State n}
      (fired : (Firing.machine setting.round setting.zones m).step
        state.firing label = some firing)
      (drawn : ids.length =
        (firing.outbox.drop state.firing.outbox.length).length)
      (inserted : (Outbox.machine setting.limit).step state.outbox
        (.commitFire (Setting.rowsFor ids createdAt
          (firing.outbox.drop state.firing.outbox.length))) = some outbox) :
      Stepped setting state (.fire label ids createdAt)
        { state with firing := firing, outbox := outbox }
  | relay {label : Outbox.Label n} {outbox : Outbox.State n}
      {traffic : Traffic.State} (moved : ∀ rows, label ≠ .commitFire rows)
      (relayed : (Outbox.machine setting.limit).step state.outbox label =
        some outbox)
      (handed : (Traffic.machine setting.notifier).run state.traffic
        ((setting.handedOver state.firing.outbox
          (outbox.accepted.drop state.outbox.accepted.length)).map
            fun entry => .publish entry.1 entry.2) = some traffic) :
      Stepped setting state (.relay label)
        { state with outbox := outbox, traffic := traffic }
  | broker {label : Traffic.Label} {traffic : Traffic.State}
      (stepped : (Traffic.machine setting.notifier).step state.traffic label =
        some traffic) :
      Stepped setting state (.broker label)
        { state with
          traffic := traffic
          tests := state.tests ++ Setting.published label }

theorem stepped_of_relay {state next : State m n} {label : Outbox.Label n}
    (moved : ∀ rows, label ≠ .commitFire rows)
    (stepped : setting.relay state label = some next) :
    Stepped setting state (.relay label) next := by
  obtain ⟨outbox, relayed, rest⟩ := Option.bind_eq_some_iff.mp stepped
  obtain ⟨traffic, handed, same⟩ := Option.bind_eq_some_iff.mp rest
  cases same
  exact .relay moved relayed handed

theorem stepped_of_step {state next : State m n} {label : Label m n}
    (stepped : (setting.machine m n).step state label = some next) :
    Stepped setting state label next := by
  change setting.step state label = some next at stepped
  cases label with
  | fire label ids createdAt =>
      obtain ⟨firing, fired, rest⟩ := Option.bind_eq_some_iff.mp stepped
      obtain ⟨drawn, inserts⟩ := Option.ite_none_right_eq_some.mp rest
      obtain ⟨outbox, inserted, same⟩ := Option.bind_eq_some_iff.mp inserts
      cases same
      exact .fire fired drawn inserted
  | relay label =>
      cases label with
      | commitFire rows => cases stepped
      | acquire | acquireFails | expire | findPending | findPendingFails
      | publishResolves | publishRejects | markPublished
      | markPublishedFails | release | releaseFails | prune | crash =>
          exact stepped_of_relay (fun _ same => nomatch same) stepped
  | broker label =>
      obtain ⟨traffic, moved, same⟩ := Option.map_eq_some_iff.mp stepped
      cases same
      exact .broker moved

end WeatherNotify.EndToEnd

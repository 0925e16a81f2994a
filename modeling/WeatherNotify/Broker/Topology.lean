import Mathlib.Data.List.Basic
import Mathlib.Logic.Function.Basic

/-!
# Queues and bindings of a message broker

A topology is the list of declarations a service made on its channel.  Binding
keys are plain words here, so a topic exchange routes by equality of keys.  A
message published under a key no queue is bound to is lost without a trace; a
full queue that drops its head makes room for the newest message.
-/

namespace WeatherNotify.Broker

/-- Arguments of a queue declaration; `Ttl` is the type of message lifetimes. -/
structure QueueArgs (Ttl : Type) where
  messageTtl : Option Ttl
  deadLetter : Option (String × String)
  maxLength : Option Nat

/-- Calls on a channel while the topology is set up. -/
inductive Declaration (Ttl : Type) where
  | assertExchange (exchange : String)
  | assertQueue (queue : String) (args : QueueArgs Ttl)
  | bindQueue (queue exchange routingKey : String)
  | consume (queue : String)

abbrev Topology (Ttl : Type) := List (Declaration Ttl)

variable {Ttl Message : Type}

namespace Topology

/-- A queue is bound to a key of an exchange. -/
def Bound (topology : Topology Ttl) (exchange routingKey queue : String) :
    Prop :=
  .bindQueue queue exchange routingKey ∈ topology

/-- A queue is declared with the given arguments, and with no others. -/
def Declared (topology : Topology Ttl) (queue : String)
    (args : QueueArgs Ttl) : Prop :=
  .assertQueue queue args ∈ topology ∧
    ∀ other, .assertQueue queue other ∈ topology → other = args

/-- The arguments of a queue, as first declared. -/
def argsOf (topology : Topology Ttl) (queue : String) :
    Option (QueueArgs Ttl) :=
  topology.findSome? fun declaration =>
    match declaration with
    | .assertQueue name args => if name = queue then some args else none
    | _ => none

/-- The queues a message published under a key reaches. -/
def boundQueues (topology : Topology Ttl) (exchange routingKey : String) :
    List String :=
  topology.filterMap fun declaration =>
    match declaration with
    | .bindQueue queue boundExchange key =>
        if boundExchange = exchange ∧ key = routingKey then some queue
        else none
    | _ => none

/-- What is published under a key is dead-lettered into the queue `home`. -/
def comesBack (topology : Topology Ttl) (exchange routingKey home : String) :
    Bool :=
  (topology.boundQueues exchange routingKey).any fun queue =>
    ((topology.argsOf queue).bind QueueArgs.deadLetter).any fun target =>
      home ∈ topology.boundQueues target.1 target.2

theorem mem_boundQueues_iff {topology : Topology Ttl}
    {exchange routingKey queue : String} :
    queue ∈ topology.boundQueues exchange routingKey ↔
      topology.Bound exchange routingKey queue := by
  unfold boundQueues Bound
  rw [List.mem_filterMap]
  constructor
  · rintro ⟨declaration, member, selected⟩
    cases declaration with
    | bindQueue name boundExchange key =>
        simp only [Option.ite_none_right_eq_some, Option.some.injEq]
          at selected
        obtain ⟨⟨rfl, rfl⟩, rfl⟩ := selected
        exact member
    | assertExchange | assertQueue | consume => cases selected
  · intro member
    exact ⟨_, member, by simp⟩

/-- The arguments found for a queue were declared. -/
theorem argsOf_mem {topology : Topology Ttl} {queue : String}
    {args : QueueArgs Ttl} (found : topology.argsOf queue = some args) :
    .assertQueue queue args ∈ topology := by
  obtain ⟨declaration, member, selected⟩ :=
    List.exists_of_findSome?_eq_some found
  cases declaration with
  | assertQueue name other =>
      simp only [Option.ite_none_right_eq_some, Option.some.injEq]
        at selected
      obtain ⟨rfl, rfl⟩ := selected
      exact member
  | assertExchange | bindQueue | consume => cases selected

theorem argsOf_eq_some {topology : Topology Ttl} {queue : String}
    {args : QueueArgs Ttl} (declared : topology.Declared queue args) :
    topology.argsOf queue = some args := by
  obtain ⟨member, unique⟩ := declared
  cases found : topology.argsOf queue with
  | none =>
      have missed := List.findSome?_eq_none_iff.mp found _ member
      simp at missed
  | some other => rw [unique other (argsOf_mem found)]

end Topology

/-! ## Messages in queues -/

/-- A queue after one more message. -/
def enqueue (maxLength : Option Nat) (queue : List Message)
    (message : Message) : List Message :=
  match maxLength with
  | none => queue ++ [message]
  | some limit => (queue ++ [message]).drop (queue.length + 1 - limit)

/-- Publish a message under a key of an exchange. -/
def route (topology : Topology Ttl) (exchange routingKey : String)
    (message : Message) (queues : String → List Message) :
    String → List Message :=
  fun queue =>
    if queue ∈ topology.boundQueues exchange routingKey then
      enqueue ((topology.argsOf queue).bind QueueArgs.maxLength)
        (queues queue) message
    else queues queue

theorem mem_enqueue {maxLength : Option Nat} {queue : List Message}
    {message stored : Message}
    (member : stored ∈ enqueue maxLength queue message) :
    stored ∈ queue ∨ stored = message := by
  have appended : stored ∈ queue ++ [message] := by
    cases maxLength with
    | none => exact member
    | some limit => exact List.mem_of_mem_drop member
  simpa using appended

/-- A publish adds nothing but the published message. -/
theorem mem_route {topology : Topology Ttl} {exchange routingKey : String}
    {message stored : Message} {queues : String → List Message}
    {queue : String}
    (member :
      stored ∈ route topology exchange routingKey message queues queue) :
    stored ∈ queues queue ∨ stored = message := by
  unfold route at member
  split at member
  · exact mem_enqueue member
  · exact Or.inl member

theorem enqueue_ne_nil {maxLength : Option Nat}
    (positive : ∀ limit, maxLength = some limit → 0 < limit)
    (queue : List Message) (message : Message) :
    enqueue maxLength queue message ≠ [] := by
  unfold enqueue
  cases maxLength with
  | none => simp
  | some limit =>
      have room := positive limit rfl
      simp only [ne_eq, List.drop_eq_nil_iff, List.length_append,
        List.length_singleton, Nat.not_le]
      omega

/-- No queue of the topology is declared with room for nothing. -/
def Roomy (topology : Topology Ttl) : Prop :=
  ∀ queue args limit, .assertQueue queue args ∈ topology →
    args.maxLength = some limit → 0 < limit

theorem Roomy.maxLength_pos {topology : Topology Ttl}
    (roomy : Roomy topology) (queue : String) (limit : Nat)
    (limited :
      (topology.argsOf queue).bind QueueArgs.maxLength = some limit) :
    0 < limit := by
  obtain ⟨args, found, bounded⟩ := Option.bind_eq_some_iff.mp limited
  exact roomy queue args limit (Topology.argsOf_mem found) bounded

/-- A bound queue holds something after a publish. -/
theorem route_bound_ne_nil {topology : Topology Ttl}
    (roomy : Roomy topology) {exchange routingKey queue : String}
    (bound : topology.Bound exchange routingKey queue)
    (message : Message) (queues : String → List Message) :
    route topology exchange routingKey message queues queue ≠ [] := by
  unfold route
  rw [if_pos (Topology.mem_boundQueues_iff.mpr bound)]
  exact enqueue_ne_nil (roomy.maxLength_pos queue) _ _

/-- A publish never empties a queue. -/
theorem route_ne_nil {topology : Topology Ttl} (roomy : Roomy topology)
    {queues : String → List Message} {queue : String}
    (nonempty : queues queue ≠ [])
    (exchange routingKey : String) (message : Message) :
    route topology exchange routingKey message queues queue ≠ [] := by
  unfold route
  split
  · exact enqueue_ne_nil (roomy.maxLength_pos queue) _ _
  · exact nonempty

end WeatherNotify.Broker

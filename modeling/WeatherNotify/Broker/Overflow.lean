import WeatherNotify.Broker.Topology

/-!
# What a full queue drops

A publish to a queue that drops its head pushes the oldest messages out.  What
was in a queue before a publish is in it afterwards or has been pushed out, and
nothing else has.
-/

namespace WeatherNotify.Broker

variable {Ttl Message : Type}

/-- The messages pushed out by one more message. -/
def overflow (maxLength : Option Nat) (queue : List Message)
    (message : Message) : List Message :=
  match maxLength with
  | none => []
  | some limit => (queue ++ [message]).take (queue.length + 1 - limit)

/-- What a publish pushes out, each with the queue it was in. -/
def spilled (topology : Topology Ttl) (exchange routingKey : String)
    (message : Message) (queues : String → List Message) :
    List (String × Message) :=
  (topology.boundQueues exchange routingKey).flatMap fun queue =>
    (overflow ((topology.argsOf queue).bind QueueArgs.maxLength)
      (queues queue) message).map fun dropped => (queue, dropped)

theorem overflow_append_enqueue (maxLength : Option Nat)
    (queue : List Message) (message : Message) :
    overflow maxLength queue message ++ enqueue maxLength queue message =
      queue ++ [message] := by
  cases maxLength with
  | none => rfl
  | some limit => exact List.take_append_drop _ _

section Route

variable {topology : Topology Ttl} {exchange routingKey queue : String}
variable {message stored : Message} {queues : String → List Message}

/-- Only a bound queue of limited length loses a message. -/
theorem mem_spilled_iff :
    (queue, stored) ∈ spilled topology exchange routingKey message queues ↔
      topology.Bound exchange routingKey queue ∧
        stored ∈ overflow ((topology.argsOf queue).bind QueueArgs.maxLength)
          (queues queue) message := by
  unfold spilled
  rw [List.mem_flatMap]
  constructor
  · rintro ⟨other, bound, member⟩
    obtain ⟨dropped, lost, same⟩ := List.mem_map.mp member
    cases same
    exact ⟨Topology.mem_boundQueues_iff.mp bound, lost⟩
  · rintro ⟨bound, lost⟩
    exact ⟨queue, Topology.mem_boundQueues_iff.mpr bound,
      List.mem_map_of_mem lost⟩

theorem limited_of_mem_overflow {maxLength : Option Nat}
    {held : List Message} (lost : stored ∈ overflow maxLength held message) :
    ∃ limit, maxLength = some limit := by
  cases maxLength with
  | none => exact (List.not_mem_nil lost).elim
  | some limit => exact ⟨limit, rfl⟩

theorem mem_of_mem_overflow {maxLength : Option Nat} {held : List Message}
    (lost : stored ∈ overflow maxLength held message) :
    stored ∈ held ∨ stored = message := by
  have member : stored ∈ held ++ [message] := by
    rw [← overflow_append_enqueue maxLength]
    exact List.mem_append_left _ lost
  simpa using member

/-- A message that was there is still there, or has been pushed out. -/
theorem mem_route_or_spilled (member : stored ∈ queues queue) :
    stored ∈ route topology exchange routingKey message queues queue ∨
      (queue, stored) ∈
        spilled topology exchange routingKey message queues := by
  unfold route
  split
  case isFalse => exact Or.inl member
  case isTrue bound =>
    have whole : stored ∈ queues queue ++ [message] :=
      List.mem_append_left _ member
    rw [← overflow_append_enqueue
      ((topology.argsOf queue).bind QueueArgs.maxLength)] at whole
    rcases List.mem_append.mp whole with lost | kept
    · exact Or.inr (mem_spilled_iff.mpr
        ⟨Topology.mem_boundQueues_iff.mp bound, lost⟩)
    · exact Or.inl kept

/-- What is published under a bound key is in the queue afterwards. -/
theorem mem_route_of_bound (roomy : Roomy topology)
    (bound : topology.Bound exchange routingKey queue) :
    message ∈ route topology exchange routingKey message queues queue := by
  unfold route
  rw [if_pos (Topology.mem_boundQueues_iff.mpr bound)]
  have room := roomy.maxLength_pos queue
  revert room
  cases (topology.argsOf queue).bind QueueArgs.maxLength with
  | none =>
      exact fun _ => List.mem_append_right _ (List.mem_singleton_self _)
  | some limit =>
      intro room
      have positive := room limit rfl
      show message ∈ (queues queue ++ [message]).drop
        ((queues queue).length + 1 - limit)
      rw [List.drop_append_of_le_length (by omega)]
      exact List.mem_append_right _ (List.mem_singleton_self _)

end Route

end WeatherNotify.Broker

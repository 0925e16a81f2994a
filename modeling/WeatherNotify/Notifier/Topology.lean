import Mathlib.Algebra.Order.Ring.Unbundled.Rat
import WeatherNotify.Broker.Topology
import WeatherNotify.Notifier.Consumer

/-!
# The notifier's queues

`setupTopology` as the declarations it makes: per registered channel a main
queue, one retry queue per configured delay and one dead queue.  A retry queue
dead-letters into the main exchange under the channel's own key when a message
outlives its delay; the dead queue is capped and drops its head.
-/

namespace WeatherNotify.Notifier

open WeatherNotify.Broker
open WeatherNotify.Contracts
open WeatherNotify.Js

/-- A durable queue without further arguments. -/
def plainQueue : QueueArgs Number where
  messageTtl := none
  deadLetter := none
  maxLength := none

def retryQueueArgs (channel : Channel) (delay : Number) :
    QueueArgs Number where
  messageTtl := some delay
  deadLetter := some (notificationsExchange, routingKeyFor channel)
  maxLength := none

def deadQueueArgs (maxLength : Nat) : QueueArgs Number where
  messageTtl := none
  deadLetter := none
  maxLength := some maxLength

/-- The declarations of one backoff stage. -/
def retryStage (channel : Channel) (delay : Number) (index : Nat) :
    Topology Number :=
  let attempt := index + 1
  [.assertQueue (retryQueueNameFor channel attempt)
      (retryQueueArgs channel delay),
    .bindQueue (retryQueueNameFor channel attempt) dlxExchange
      (retryRoutingKeyFor channel attempt)]

/-- The declarations for one registered channel. -/
def channelTopology (config : Config) (channel : Channel) :
    Topology Number :=
  [.assertQueue (queueNameFor channel) plainQueue,
    .bindQueue (queueNameFor channel) notificationsExchange
      (routingKeyFor channel)] ++
    (config.retryDelaysMs.zipIdx.flatMap fun stage =>
      retryStage channel stage.1 stage.2) ++
    [.assertQueue (deadQueueNameFor channel)
        (deadQueueArgs config.deadQueueMaxLength),
      .bindQueue (deadQueueNameFor channel) dlxExchange
        (deadRoutingKeyFor channel),
      .consume (queueNameFor channel)]

def setupTopology (config : Config) : Topology Number :=
  [.assertExchange notificationsExchange, .assertExchange dlxExchange] ++
    config.registeredChannels.flatMap (channelTopology config)

/-! ## What was declared -/

section Declarations

variable {config : Config}

/-- Where a queue declaration of the topology comes from. -/
theorem assertQueue_mem_iff {queue : String} {args : QueueArgs Number} :
    .assertQueue queue args ∈ setupTopology config ↔
      ∃ channel ∈ config.registeredChannels,
        queue = queueNameFor channel ∧ args = plainQueue ∨
        (∃ delay index, config.retryDelaysMs[index]? = some delay ∧
          queue = retryQueueNameFor channel (index + 1) ∧
          args = retryQueueArgs channel delay) ∨
        queue = deadQueueNameFor channel ∧
          args = deadQueueArgs config.deadQueueMaxLength := by
  simp only [setupTopology, channelTopology, retryStage, List.mem_append,
    List.mem_flatMap, List.mem_cons, List.not_mem_nil, or_false, reduceCtorEq,
    false_or, Declaration.assertQueue.injEq, Prod.exists,
    List.mem_zipIdx_iff_getElem?, or_assoc]

/-- Where a binding of the topology comes from. -/
theorem bindQueue_mem_iff {queue exchange routingKey : String} :
    .bindQueue queue exchange routingKey ∈ setupTopology config ↔
      ∃ channel ∈ config.registeredChannels,
        queue = queueNameFor channel ∧ exchange = notificationsExchange ∧
          routingKey = routingKeyFor channel ∨
        (∃ delay index, config.retryDelaysMs[index]? = some delay ∧
          queue = retryQueueNameFor channel (index + 1) ∧
          exchange = dlxExchange ∧
          routingKey = retryRoutingKeyFor channel (index + 1)) ∨
        queue = deadQueueNameFor channel ∧ exchange = dlxExchange ∧
          routingKey = deadRoutingKeyFor channel := by
  simp only [setupTopology, channelTopology, retryStage, List.mem_append,
    List.mem_flatMap, List.mem_cons, List.not_mem_nil, or_false, reduceCtorEq,
    false_or, Declaration.bindQueue.injEq, Prod.exists,
    List.mem_zipIdx_iff_getElem?, or_assoc]

/-- A stage number within the ladder has its delay. -/
theorem delay_of_stage {stage : Nat} (positive : 0 < stage)
    (within : stage ≤ config.retryDelaysMs.length) :
    ∃ delay, config.retryDelaysMs[stage - 1]? = some delay :=
  ⟨_, List.getElem?_eq_getElem (by omega)⟩

variable {channel : Channel}

theorem bound_main_iff (registered : channel ∈ config.registeredChannels)
    {queue : String} :
    (setupTopology config).Bound notificationsExchange
        (routingKeyFor channel) queue ↔
      queue = queueNameFor channel := by
  unfold Topology.Bound
  rw [bindQueue_mem_iff]
  constructor
  · rintro ⟨other, _, main | ⟨_, _, _, _, wrong, _⟩ | ⟨_, wrong, _⟩⟩
    · rw [main.1, routingKeyFor_injective main.2.2]
    · exact (dlxExchange_ne_notificationsExchange wrong.symm).elim
    · exact (dlxExchange_ne_notificationsExchange wrong.symm).elim
  · rintro rfl
    exact ⟨channel, registered, Or.inl ⟨rfl, rfl, rfl⟩⟩

theorem bound_retry_iff (registered : channel ∈ config.registeredChannels)
    {stage : Nat} (positive : 0 < stage)
    (within : stage ≤ config.retryDelaysMs.length) {queue : String} :
    (setupTopology config).Bound dlxExchange
        (retryRoutingKeyFor channel stage) queue ↔
      queue = retryQueueNameFor channel stage := by
  unfold Topology.Bound
  rw [bindQueue_mem_iff]
  constructor
  · rintro ⟨other, _, ⟨_, wrong, _⟩ | ⟨_, index, _, named, _, same⟩ |
      ⟨_, _, same⟩⟩
    · exact (dlxExchange_ne_notificationsExchange wrong).elim
    · obtain ⟨rfl, rfl⟩ := retryRoutingKeyFor_eq_iff.mp same
      exact named
    · exact (retryRoutingKeyFor_ne_deadRoutingKeyFor _ _ _ same).elim
  · rintro rfl
    obtain ⟨delay, found⟩ := delay_of_stage positive within
    have stageEq : stage - 1 + 1 = stage := by omega
    refine ⟨channel, registered,
      Or.inr (Or.inl ⟨delay, stage - 1, found, ?_, rfl, ?_⟩)⟩ <;>
      rw [stageEq]

theorem bound_dead_iff (registered : channel ∈ config.registeredChannels)
    {queue : String} :
    (setupTopology config).Bound dlxExchange
        (deadRoutingKeyFor channel) queue ↔
      queue = deadQueueNameFor channel := by
  unfold Topology.Bound
  rw [bindQueue_mem_iff]
  constructor
  · rintro ⟨other, _, ⟨_, wrong, _⟩ | ⟨_, index, _, _, _, same⟩ |
      ⟨named, _, same⟩⟩
    · exact (dlxExchange_ne_notificationsExchange wrong).elim
    · exact (retryRoutingKeyFor_ne_deadRoutingKeyFor _ _ _ same.symm).elim
    · rw [named, deadRoutingKeyFor_injective same]
  · rintro rfl
    exact ⟨channel, registered, Or.inr (Or.inr ⟨rfl, rfl, rfl⟩)⟩

/-- Each stage has one queue, and it returns messages to the main key. -/
theorem declared_retry (registered : channel ∈ config.registeredChannels)
    {stage : Nat} (positive : 0 < stage)
    (within : stage ≤ config.retryDelaysMs.length) :
    ∃ delay, (setupTopology config).Declared
      (retryQueueNameFor channel stage) (retryQueueArgs channel delay) := by
  obtain ⟨delay, found⟩ := delay_of_stage positive within
  have stageEq : stage - 1 + 1 = stage := by omega
  refine ⟨delay, assertQueue_mem_iff.mpr ⟨channel, registered,
    Or.inr (Or.inl ⟨delay, stage - 1, found, by rw [stageEq], rfl⟩)⟩, ?_⟩
  intro args member
  obtain ⟨other, _, ⟨same, _⟩ | ⟨otherDelay, index, otherFound, same, rfl⟩ |
    ⟨same, _⟩⟩ := assertQueue_mem_iff.mp member
  · exact (retryQueueNameFor_ne_queueNameFor _ _ _ same).elim
  · obtain ⟨rfl, rfl⟩ := retryQueueNameFor_eq_iff.mp same
    rw [Nat.add_sub_cancel] at found
    rw [found] at otherFound
    cases otherFound
    rfl
  · exact (retryQueueNameFor_ne_deadQueueNameFor _ _ _ same).elim

theorem assertQueue_dead_mem
    (registered : channel ∈ config.registeredChannels) :
    .assertQueue (deadQueueNameFor channel)
        (deadQueueArgs config.deadQueueMaxLength) ∈
      setupTopology config :=
  assertQueue_mem_iff.mpr
    ⟨channel, registered, Or.inr (Or.inr ⟨rfl, rfl⟩)⟩

theorem declared_dead (registered : channel ∈ config.registeredChannels) :
    (setupTopology config).Declared (deadQueueNameFor channel)
      (deadQueueArgs config.deadQueueMaxLength) := by
  refine ⟨assertQueue_dead_mem registered, fun args member => ?_⟩
  obtain ⟨other, _, ⟨same, _⟩ | ⟨_, _, _, same, _⟩ | ⟨_, rfl⟩⟩ :=
    assertQueue_mem_iff.mp member
  · exact (deadQueueNameFor_ne_queueNameFor _ _ same).elim
  · exact (retryQueueNameFor_ne_deadQueueNameFor _ _ _ same.symm).elim
  · rfl

/-- A message sent to a stage of the ladder comes back to the main queue. -/
theorem retry_comesBack (registered : channel ∈ config.registeredChannels)
    {stage : Nat} (positive : 0 < stage)
    (within : stage ≤ config.retryDelaysMs.length) :
    (setupTopology config).comesBack dlxExchange
      (retryRoutingKeyFor channel stage) (queueNameFor channel) = true := by
  obtain ⟨delay, declared⟩ := declared_retry registered positive within
  refine List.any_eq_true.mpr ⟨retryQueueNameFor channel stage,
    Topology.mem_boundQueues_iff.mpr
      ((bound_retry_iff registered positive within).mpr rfl), ?_⟩
  rw [Topology.argsOf_eq_some declared]
  simp only [retryQueueArgs, Option.bind_some, Option.any_some,
    decide_eq_true_eq]
  exact Topology.mem_boundQueues_iff.mpr
    ((bound_main_iff registered).mpr rfl)

/-- A parked message stays where it is. -/
theorem dead_not_comesBack
    (registered : channel ∈ config.registeredChannels) (home : String) :
    (setupTopology config).comesBack dlxExchange
      (deadRoutingKeyFor channel) home = false := by
  refine List.any_eq_false.mpr fun queue member => ?_
  have named := (bound_dead_iff registered).mp
    (Topology.mem_boundQueues_iff.mp member)
  rw [named, Topology.argsOf_eq_some (declared_dead registered)]
  simp [deadQueueArgs]

theorem setupTopology_roomy (room : 0 < config.deadQueueMaxLength) :
    Roomy (setupTopology config) := by
  intro queue args limit member bounded
  obtain ⟨channel, _, ⟨_, rfl⟩ | ⟨_, _, _, _, rfl⟩ | ⟨_, rfl⟩⟩ :=
    assertQueue_mem_iff.mp member
  · cases bounded
  · cases bounded
  · cases bounded
    exact room

end Declarations

/-! ## Configuration read from the environment -/

theorem positiveInt_pos {fallback : Nat} (positive : 0 < fallback)
    (raw : Option String) : 0 < positiveInt raw fallback := by
  unfold positiveInt
  split
  · split
    next integral =>
      have numerator := Rat.num_pos.mpr integral.2
      omega
    next => exact positive
  · exact positive

end WeatherNotify.Notifier

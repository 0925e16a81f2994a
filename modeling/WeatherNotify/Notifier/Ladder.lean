import WeatherNotify.Notifier.HandlerEffects
import WeatherNotify.Notifier.Topology

/-!
# The retry ladder

A message's journey over any sequence of handlings: each handling concludes
with a completed dispatch or with one copy published to the dead-letter
exchange, and whether that copy comes back to the main queue is read off the
topology.  The attempt count in the header makes the stages escalate and the
journey end.
-/

namespace WeatherNotify.Notifier

open WeatherNotify.Broker
open WeatherNotify.Contracts
open WeatherNotify.Js

/-! ## Every published key is bound -/

/--
Where a published copy ends up: in exactly one declared queue, which is the
dead queue or dead-letters to the main queue's own key.
-/
def Landed (config : Config) (channel : Channel)
    (exchange routingKey : String) : Prop :=
  exchange = dlxExchange ∧
    ∃ queue args,
      .assertQueue queue args ∈ setupTopology config ∧
        (∀ other, (setupTopology config).Bound exchange routingKey other ↔
          other = queue) ∧
        (queue = deadQueueNameFor channel ∨
          args.deadLetter =
              some (notificationsExchange, routingKeyFor channel) ∧
            ∀ main, (setupTopology config).Bound notificationsExchange
              (routingKeyFor channel) main ↔ main = queueNameFor channel)

theorem Conclusion.landed {config : Config} {channel : Channel}
    {message copy : Message} {exchange routingKey : String}
    (registered : channel ∈ config.registeredChannels)
    (concluded : Conclusion config channel message
      (.published exchange routingKey copy)) :
    Landed config channel exchange routingKey := by
  cases concluded with
  | retried left =>
      have positive : 0 < attemptCount message + 1 := Nat.succ_pos _
      have within :
          attemptCount message + 1 ≤ config.retryDelaysMs.length :=
        Nat.le_of_lt_succ left
      obtain ⟨delay, declared⟩ := declared_retry registered positive within
      exact ⟨rfl, _, _, declared.1,
        fun _ => bound_retry_iff registered positive within,
        Or.inr ⟨rfl, fun _ => bound_main_iff registered⟩⟩
  | parked reason =>
      exact ⟨rfl, _, _, assertQueue_dead_mem registered,
        fun _ => bound_dead_iff registered, Or.inl rfl⟩

/-! ## Handlings and their verdicts -/

/-- One handling: how the outside answers and the world it starts in. -/
structure Handling where
  env : Env
  world : World

/-- What a handling adds to the log. -/
def Handling.log (handling : Handling) (config : Config)
    (channel : Channel) (message : Message) : List Effect :=
  ((handle config handling.env channel message).run
    handling.world).2.effects.drop handling.world.effects.length

theorem Handling.log_shape (handling : Handling) (config : Config)
    (channel : Channel) (message : Message) :
    HandlingLog config channel message
      (handling.log config channel message) := by
  obtain ⟨log, shape, effects⟩ :=
    handle_log config handling.env channel message handling.world
  unfold Handling.log
  rw [effects, List.drop_left]
  exact shape

/-- How a handling ends for its message. -/
inductive Verdict where
  | completed (outcome : DispatchOutcome)
  | moved (routingKey : String) (copy : Message)
  | unacked
  deriving DecidableEq, Repr

def Effect.verdict? : Effect → Option Verdict
  | .dispatched outcome => some (.completed outcome)
  | .published _ routingKey copy => some (.moved routingKey copy)
  | _ => none

/-- The conclusion of a log that reaches its ack. -/
def verdict (log : List Effect) : Verdict :=
  if .acked ∈ log then (log.findSome? Effect.verdict?).getD .unacked
  else .unacked

theorem count_dispatchCalled_le {config : Config} {channel : Channel}
    {message : Message} {log : List Effect}
    (shape : HandlingLog config channel message log) :
    log.count .dispatchCalled ≤ 1 := by
  cases shape with
  | acked opened concluded =>
      rcases opened with rfl | rfl <;> cases concluded <;> simp
  | lost opened =>
      rcases opened with rfl | rfl <;> simp
  | unconfirmed opened concluded =>
      rcases opened with rfl | rfl <;> cases concluded <;> simp

theorem verdict_of_acked {opening : List Effect} {last : Effect}
    {concluded : Verdict}
    (opened : opening = [] ∨ opening = [.dispatchCalled])
    (concludes : last.verdict? = some concluded) :
    verdict (opening ++ [last, .acked]) = concluded := by
  have acked : Effect.acked ∈ opening ++ [last, .acked] := by simp
  unfold verdict
  rw [if_pos acked]
  have called : Effect.verdict? .dispatchCalled = none := rfl
  rcases opened with rfl | rfl <;>
    simp [concludes, called]

/-- The verdicts a handling can end with. -/
theorem verdict_cases {config : Config} {channel : Channel}
    {message : Message} {log : List Effect}
    (shape : HandlingLog config channel message log) :
    verdict log = .unacked ∨
      (∃ outcome, verdict log = .completed outcome) ∨
      (attemptCount message + 1 < config.maxAttempts ∧
        verdict log = .moved
          (retryRoutingKeyFor channel (attemptCount message + 1))
          (republished message (attemptCount message + 1) none)) ∨
      ∃ reason, verdict log = .moved (deadRoutingKeyFor channel)
        (republished message (attemptCount message) (some reason)) := by
  cases shape with
  | acked opened concluded =>
      right
      cases concluded with
      | completed outcome =>
          exact Or.inl ⟨outcome, verdict_of_acked opened rfl⟩
      | retried left =>
          exact Or.inr (Or.inl ⟨left, verdict_of_acked opened rfl⟩)
      | parked reason =>
          exact Or.inr (Or.inr ⟨reason, verdict_of_acked opened rfl⟩)
  | lost opened =>
      left
      rcases opened with rfl | rfl <;> simp [verdict]
  | unconfirmed opened concluded =>
      left
      rcases opened with rfl | rfl <;> cases concluded <;> simp [verdict]

/-! ## Journeys -/

inductive Ending where
  | waiting (message : Message)
  | completed
  | parked (copy : Message)
  | unacked (message : Message)

/-- The keys visited, the calls of `dispatch` and the end of a journey. -/
structure Journey where
  stages : List String
  dispatches : Nat
  ending : Ending

/-- Follow a message through handlings as long as it comes back. -/
def travel (config : Config) (channel : Channel) :
    Message → List Handling → Journey
  | message, [] => ⟨[], 0, .waiting message⟩
  | message, handling :: rest =>
      let log := handling.log config channel message
      let calls := log.count .dispatchCalled
      match verdict log with
      | .unacked => ⟨[], calls, .unacked message⟩
      | .completed _ => ⟨[], calls, .completed⟩
      | .moved routingKey copy =>
          if (setupTopology config).comesBack dlxExchange routingKey
              (queueNameFor channel) then
            let later := travel config channel copy rest
            ⟨routingKey :: later.stages, calls + later.dispatches,
              later.ending⟩
          else ⟨[], calls, .parked copy⟩

/-- The event id a message carries; an empty header counts as none. -/
def eventIdOf (message : Message) : Option String :=
  (headerString message).filter (· ≠ "")

/-- The copy has the body, the message id and the event id of the original. -/
def SamePayload (original copy : Message) : Prop :=
  copy.content = original.content ∧ copy.messageId = original.messageId ∧
    eventIdOf copy = eventIdOf original

theorem headerString_of_eventId {message : Message}
    {value : Option String} (stored : message.eventId = value.map .str) :
    headerString message = value := by
  cases value <;> simp [headerString, stored]

theorem samePayload_republished (message : Message) (attempts : Nat)
    (reason : Option DeadReason) :
    SamePayload message (republished message attempts reason) := by
  refine ⟨rfl, rfl, ?_⟩
  unfold eventIdOf
  have header : headerString (republished message attempts reason) =
      (headerString message).filter (· ≠ "") :=
    headerString_of_eventId rfl
  rw [header]
  simp

theorem Conclusion.samePayload {config : Config} {channel : Channel}
    {message copy : Message} {exchange routingKey : String}
    (concluded : Conclusion config channel message
      (.published exchange routingKey copy)) :
    SamePayload message copy := by
  cases concluded <;> exact samePayload_republished _ _ _

theorem SamePayload.trans {first second third : Message}
    (earlier : SamePayload first second)
    (later : SamePayload second third) :
    SamePayload first third :=
  ⟨later.1.trans earlier.1, later.2.1.trans earlier.2.1,
    later.2.2.trans earlier.2.2⟩

/-- What holds of every journey that started with `message`. -/
structure Climbs (config : Config) (channel : Channel) (message : Message)
    (handlings : List Handling) (journey : Journey) : Prop where
  escalates : journey.stages =
    (List.range' (attemptCount message + 1) journey.stages.length).map
      (retryRoutingKeyFor channel)
  bounded : journey.stages.length ≤
    config.retryDelaysMs.length - attemptCount message
  tried : journey.dispatches ≤
    config.retryDelaysMs.length - attemptCount message + 1
  ends : config.retryDelaysMs.length - attemptCount message + 1 ≤
      handlings.length →
    ∀ copy, journey.ending ≠ .waiting copy
  parked : ∀ copy, journey.ending = .parked copy →
    SamePayload message copy ∧ ∃ reason, copy.deadReason = some reason

theorem travel_climbs {config : Config} {channel : Channel}
    (registered : channel ∈ config.registeredChannels)
    (message : Message) (handlings : List Handling) :
    Climbs config channel message handlings
      (travel config channel message handlings) := by
  induction handlings generalizing message with
  | nil =>
      refine ⟨rfl, Nat.zero_le _, Nat.zero_le _, ?_, ?_⟩
      · intro enough
        simp at enough
      · intro copy ending
        cases ending
  | cons handling rest induction =>
      have shape := handling.log_shape config channel message
      have calls := count_dispatchCalled_le shape
      simp only [travel]
      rcases verdict_cases shape with
        verdictEq | ⟨outcome, verdictEq⟩ | ⟨left, verdictEq⟩ |
          ⟨reason, verdictEq⟩
      · simp only [verdictEq]
        exact ⟨rfl, Nat.zero_le _, by dsimp only; omega,
          fun _ _ => by simp, fun _ ending => by cases ending⟩
      · simp only [verdictEq]
        exact ⟨rfl, Nat.zero_le _, by dsimp only; omega,
          fun _ _ => by simp, fun _ ending => by cases ending⟩
      · have within :
            attemptCount message + 1 ≤ config.retryDelaysMs.length :=
          Nat.le_of_lt_succ left
        have later := induction
          (republished message (attemptCount message + 1) none)
        have climbed : attemptCount
            (republished message (attemptCount message + 1) none) =
              attemptCount message + 1 :=
          rfl
        simp only [verdictEq,
          retry_comesBack registered (Nat.succ_pos _) within, if_true]
        obtain ⟨escalates, bounded, tried, ends, parked⟩ := later
        rw [climbed] at escalates bounded tried ends
        refine ⟨?_, ?_, ?_, ?_, ?_⟩
        · rw [List.length_cons, List.range'_succ, List.map_cons,
            ← escalates]
        · simp only [List.length_cons]
          omega
        · dsimp only
          omega
        · intro enough
          rw [List.length_cons] at enough
          exact ends (by omega)
        · intro copy ending
          obtain ⟨same, reason⟩ := parked copy ending
          exact ⟨(samePayload_republished _ _ _).trans same, reason⟩
      · simp only [verdictEq, dead_not_comesBack registered,
          Bool.false_eq_true, if_false]
        refine ⟨rfl, Nat.zero_le _, by dsimp only; omega,
          fun _ _ => by simp, ?_⟩
        rintro copy ⟨rfl⟩
        exact ⟨samePayload_republished _ _ _, reason, rfl⟩

end WeatherNotify.Notifier

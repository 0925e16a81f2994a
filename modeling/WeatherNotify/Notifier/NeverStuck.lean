import WeatherNotify.Notifier.Recordability

/-!
# When a handling acks its message

With the database and the broker reachable, a handling ends in an ack unless
it reaches the final failure branch and the `FAILED` row it insists on
writing cannot be written.  That happens for a payload without the fields the
row needs, and for one whose user or trigger is gone while the row is too.
-/

namespace WeatherNotify.Notifier

open WeatherNotify.Contracts
open WeatherNotify.Js

/-! ## The handling as a whole -/

/-- The handling acks once, right after a conclusion, and not before. -/
def AcksOnce (config : Config) (env : Env) (channel : Channel)
    (message : Message) (world : World) : Prop :=
  ∃ earlier last,
    ((handle config env channel message).run world).2.effects =
        world.effects ++ (earlier ++ [last, .acked]) ∧
      .acked ∉ earlier ∧
      Conclusion config channel message last

/--
Whenever the dispatch of a parsed payload fails for good, the database that
the settle of the failure finds lets it be written.
-/
def OutcomeRecordable (config : Config) (env : Env) (channel : Channel)
    (message : Message) (world : World) : Prop :=
  ∀ event failure after,
    env.parse message.content = some event →
      (dispatch config env channel event).run
          (world.push .dispatchCalled) = (.error failure, after) →
        isFinal config message failure = true →
          Recordable channel event
            (env.interference after.calls after.db)

theorem not_acked_mem_opening {opening : List Effect}
    (opened : opening = [] ∨ opening = [.dispatchCalled]) :
    .acked ∉ opening := by
  rcases opened with rfl | rfl <;> simp

/-- An ack log with the right ending acks once. -/
theorem acksOnce_of_effects
    {config : Config} {env : Env} {channel : Channel} {message : Message}
    {world : World} {opening : List Effect} {last : Effect}
    (opened : opening = [] ∨ opening = [.dispatchCalled])
    (concluded : Conclusion config channel message last)
    (effects :
      closedEffects ((process config env channel message).run world) =
        world.effects ++ (opening ++ [last, .acked])) :
    AcksOnce config env channel message world := by
  refine ⟨opening, last, ?_, not_acked_mem_opening opened, concluded⟩
  rw [handle_effects]
  exact effects

/-- Republishing to a reachable broker concludes the handling. -/
theorem closedEffects_republish
    {env : Env} (brokerReachable : ∀ call, env.publish call = .confirmed)
    (message : Message) (routingKey : String) (attempts : Nat)
    (deadReason : Option DeadReason) (world : World) :
    closedEffects
        ((do republish env message routingKey attempts deadReason
             ack : Handler Unit).run world) =
      world.effects ++
        [.published dlxExchange routingKey
            (republished message attempts deadReason), .acked] := by
  rw [republish_ack_apply]
  simp [brokerReachable, closedEffects, World.push]

/-- The final branch of `handleFailure` when its settle goes through. -/
theorem closedEffects_handleFailure_of_settled
    {config : Config} {env : Env} {channel : Channel} {message : Message}
    {event : Json} {failure : Failure} {world after : World}
    (brokerReachable : ∀ call, env.publish call = .confirmed)
    (final : isFinal config message failure = true)
    (settled :
      (settle env channel event .failed (some failure.message)).run world =
        (.ok (), after)) :
    closedEffects
        ((handleFailure config env channel message event failure).run
          world) =
      world.effects ++
        [.published dlxExchange (deadRoutingKeyFor channel)
          (republished message (attemptCount message)
            (some (if failure.isPermanent then .permanent
              else .attemptsExhausted))), .acked] := by
  have silent := statement_preserves_effects env
    (settleStatement channel event .failed (some failure.message)) world
  change ((settle env channel event .failed
    (some failure.message)).run world).2.effects = _ at silent
  rw [settled] at silent
  have unchanged : after.effects = world.effects := silent
  rw [handleFailure_of_final final, Async.run_bind_of_ok settled,
    ← unchanged]
  exact closedEffects_republish brokerReachable message _ _ _ after

/-- The same branch when it does not: no ack is ever logged. -/
theorem closedEffects_handleFailure_of_not_settled
    {config : Config} {env : Env} {channel : Channel} {message : Message}
    {event : Json} {failure : Failure} {world : World}
    (final : isFinal config message failure = true)
    (refused : ¬ ∃ after,
      (settle env channel event .failed (some failure.message)).run world =
        (.ok (), after)) :
    closedEffects
        ((handleFailure config env channel message event failure).run
          world) = world.effects ++ [.handlerFailed] := by
  have silent := statement_preserves_effects env
    (settleStatement channel event .failed (some failure.message)) world
  change ((settle env channel event .failed
    (some failure.message)).run world).2.effects = _ at silent
  rw [handleFailure_of_final final]
  cases settled : (settle env channel event .failed
      (some failure.message)).run world with
  | mk written after =>
      rw [settled] at silent
      cases written with
      | ok value => exact (refused ⟨after, settled⟩).elim
      | error rejected =>
          rw [Async.run_bind_of_error settled]
          exact congrArg (· ++ [Effect.handlerFailed]) silent

/-- The handling acks exactly if the failure it may record is recordable. -/
theorem acksOnce_iff_outcomeRecordable
    (config : Config) (env : Env) (channel : Channel)
    (message : Message) (world : World)
    (brokerReachable : ∀ call, env.publish call = .confirmed)
    (databaseReachable : ∀ call, env.reachable call = true) :
    AcksOnce config env channel message world ↔
      OutcomeRecordable config env channel message world := by
  constructor
  · rintro ⟨earlier, last, effects, _, _⟩ event failure after parsed
      failed final
    rw [← settle_run_ok_iff databaseReachable channel event .failed
      (some failure.message) after]
    by_contra refused
    rw [handle_effects, process_of_failed parsed failed,
      closedEffects_handleFailure_of_not_settled final refused,
      dispatch_effects failed, List.append_assoc,
      List.append_cancel_left_eq] at effects
    have lastEqual := congrArg List.getLast? effects
    simp at lastEqual
  · intro recordable
    cases parsed : env.parse message.content with
    | none =>
        refine acksOnce_of_effects (Or.inl rfl)
          (.parked .unparseable) ?_
        rw [process_of_unparseable parsed]
        exact closedEffects_republish brokerReachable message _ _ _ world
    | some event =>
        cases ran : (dispatch config env channel event).run
            (world.push .dispatchCalled) with
        | mk outcome after =>
            have opened := dispatch_effects ran
            cases outcome with
            | ok outcome =>
                refine acksOnce_of_effects (Or.inr rfl)
                  (.completed outcome) ?_
                rw [process_of_dispatched parsed ran]
                simp [closedEffects, World.push, opened]
            | error failure =>
                by_cases final : isFinal config message failure = true
                · obtain ⟨afterSettle, settled⟩ :=
                    (settle_run_ok_iff databaseReachable channel event
                      .failed (some failure.message) after).mpr
                      (recordable event failure after parsed ran final)
                  refine acksOnce_of_effects (Or.inr rfl)
                    (.parked (if failure.isPermanent then .permanent
                      else .attemptsExhausted)) ?_
                  rw [process_of_failed parsed ran,
                    closedEffects_handleFailure_of_settled
                      brokerReachable final settled, opened]
                  simp
                · refine acksOnce_of_effects (Or.inr rfl)
                    (.retried (attempts_left_of_not_final final)) ?_
                  rw [process_of_failed parsed ran,
                    handleFailure_of_not_final final,
                    closedEffects_republish brokerReachable, opened]
                  simp

/-! ## An undisturbed database -/

/--
The failure of a message can be recorded, or it will not have to be: the
message has retries left and its failure is not permanent.
-/
def Concludable (config : Config) (env : Env) (channel : Channel)
    (message : Message) (world : World) : Prop :=
  ∀ event, env.parse message.content = some event →
    Recordable channel event world.db ∨
      channel ∈ config.registeredChannels ∧
        attemptCount message + 1 < config.maxAttempts ∧
        (ClaimedWithoutId event world.db →
          ∀ failure, env.send (world.calls + 3) = some failure →
            failure.isPermanent = false)

/-- Whether a failure will be recordable can be told in advance. -/
theorem outcomeRecordable_iff_concludable {env : Env}
    (undisturbed : ∀ call db, env.interference call db = db)
    (reachable : ∀ call, env.reachable call = true)
    (config : Config) (channel : Channel) (message : Message)
    (world : World) :
    OutcomeRecordable config env channel message world ↔
      Concludable config env channel message world := by
  constructor
  · intro outcome event parsed
    by_cases recordable : Recordable channel event world.db
    · exact Or.inl recordable
    · right
      by_cases registered : channel ∈ config.registeredChannels
      · obtain ⟨failure, after, failed, unrecordable, permanent⟩ :=
          dispatch_fails_of_not_recordable undisturbed reachable
            (world.push .dispatchCalled) registered recordable
        have notFinal : ¬ isFinal config message failure = true := by
          intro final
          have written := outcome event failure after parsed failed final
          rw [undisturbed] at written
          exact unrecordable written
        refine ⟨registered, attempts_left_of_not_final notFinal, ?_⟩
        intro claimed sent sentFailed
        rw [Bool.eq_false_iff]
        intro sentPermanent
        have gone := permanent.mpr
          ⟨claimed, sent, sentFailed, sentPermanent⟩
        exact notFinal (by rw [isFinal, gone, Bool.true_or])
      · exfalso
        have failed : (dispatch config env channel event).run
            (world.push .dispatchCalled) = (.error (.permanent
              ("No implementation registered for channel " ++
                channel.name)), world.push .dispatchCalled) := by
          simp only [dispatch, registered, if_false, Async.run_reject]
        have written := outcome event _ _ parsed failed
          (by rw [isFinal]; rfl)
        rw [undisturbed] at written
        exact recordable written
  · intro concludable event failure after parsed failed final
    rw [undisturbed]
    rcases concludable event parsed with recordable |
      ⟨registered, attemptsLeft, transient⟩
    · have kept := dispatch_keeps_recordable undisturbed config channel
        event (world.push .dispatchCalled) recordable
      rw [failed] at kept
      exact kept
    · by_contra unrecordable
      have atFirst : ¬ Recordable channel event
          (world.push .dispatchCalled).db := by
        intro recordable
        have kept := dispatch_keeps_recordable undisturbed config channel
          event (world.push .dispatchCalled) recordable
        rw [failed] at kept
        exact unrecordable kept
      obtain ⟨_, _, ran, _, permanent⟩ :=
        dispatch_fails_of_not_recordable undisturbed reachable
          (world.push .dispatchCalled) registered atFirst
      rw [failed] at ran
      cases ran
      simp only [isFinal, Bool.or_eq_true, decide_eq_true_eq] at final
      rcases final with gone | exhausted
      · obtain ⟨claimed, sent, sentFailed, sentPermanent⟩ :=
          permanent.mp gone
        rw [transient claimed sent sentFailed] at sentPermanent
        cases sentPermanent
      · omega

/--
With the database and the broker reachable, a handling acks its message
exactly once and after a conclusion if and only if the failure it may have to
record is recordable.  If nobody else writes to the database meanwhile, the
message, the tables and the outcome of the send tell in advance.
-/
theorem handle_acksOnce_iff
    (config : Config) (env : Env) (channel : Channel)
    (message : Message) (world : World)
    (brokerReachable : ∀ call, env.publish call = .confirmed)
    (databaseReachable : ∀ call, env.reachable call = true) :
    (AcksOnce config env channel message world ↔
      OutcomeRecordable config env channel message world) ∧
    ((∀ call db, env.interference call db = db) →
      (AcksOnce config env channel message world ↔
        Concludable config env channel message world)) := by
  have acks := acksOnce_iff_outcomeRecordable config env channel message
    world brokerReachable databaseReachable
  refine ⟨acks, fun undisturbed => acks.trans ?_⟩
  exact outcomeRecordable_iff_concludable undisturbed databaseReachable
    config channel message world

/-! ## A message that is never acked -/

/-- A fired event as the watcher stages it, cut down to the columns it fills. -/
def stagedEvent : Json :=
  .obj [("eventId", .str "e1"), ("triggerId", .str "t1"),
    ("userId", .str "u1")]

def stagedContent : List UInt8 :=
  "\x7b\"eventId\":\"e1\",\"triggerId\":\"t1\",\"userId\":\"u1\"\x7d".toList.map
    fun char => UInt8.ofNat char.toNat

/-- The message on its fourth delivery, after three retry stages. -/
def fourthDelivery : Message where
  content := stagedContent
  messageId := some "e1"
  attempts := some 3
  eventId := some (.str "e1")
  deadReason := none

def emailConfig : Config :=
  Config.fromEnv none none [.email]

/-- Everything answers, and nobody else touches the database. -/
def calmEnv : Env where
  parse content :=
    if content = stagedContent then some stagedEvent else none
  interference _ db := db
  reachable _ := true
  now _ := 0
  send _ := none
  publish _ := .confirmed

/-- The tables after the user deleted the account the event was fired for. -/
def deletedAccount : World where
  db := { users := [], triggers := [], notifications := [] }
  calls := 0
  effects := []

/-- The same tables with the user and the trigger in place. -/
def liveAccount : World where
  db := { users := ["u1"], triggers := ["t1"], notifications := [] }
  calls := 0
  effects := []

/--
The fourth delivery of an event whose user was deleted: the claim violates a
foreign key, the settle of that failure violates it again, and the message is
left unacked.
-/
theorem handle_leaves_deletedAccount_unacked :
    ¬ ∀ (config : Config) (env : Env) (channel : Channel)
        (message : Message) (world : World),
        (∀ call, env.publish call = .confirmed) →
          (∀ call, env.reachable call = true) →
            AcksOnce config env channel message world := by
  intro everyHandlingAcks
  obtain ⟨earlier, last, effects, _, _⟩ :=
    everyHandlingAcks emailConfig calmEnv .email fourthDelivery
      deletedAccount (fun _ => rfl) (fun _ => rfl)
  have unacked :
      ((handle emailConfig calmEnv .email fourthDelivery).run
          deletedAccount).2.effects =
        [.dispatchCalled, .handlerFailed] := by
    decide
  rw [unacked] at effects
  have lastEqual := congrArg List.getLast? effects
  simp [deletedAccount] at lastEqual

/-- While the account lives, the same delivery is acked. -/
theorem handle_acks_liveAccount :
    AcksOnce emailConfig calmEnv .email fourthDelivery liveAccount := by
  refine ((handle_acksOnce_iff emailConfig calmEnv .email fourthDelivery
    liveAccount (fun _ => rfl) (fun _ => rfl)).2 fun _ _ => rfl).mpr ?_
  intro event parsed
  have parsedStaged :
      calmEnv.parse fourthDelivery.content = some stagedEvent := by
    simp [calmEnv, fourthDelivery]
  rw [parsedStaged] at parsed
  cases parsed
  exact Or.inl ⟨_, "e1", "u1", some "t1", rfl, rfl, rfl, rfl, Or.inr rfl⟩

end WeatherNotify.Notifier

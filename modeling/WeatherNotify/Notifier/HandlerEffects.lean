import WeatherNotify.Notifier.Consumer

/-!
# What one handling tells the broker

The database work of a handling is silent: it adds nothing to the log.  What
remains is a short list of shapes.  A handling either ends with an ack that
comes right after a conclusion, that is a completed dispatch or an accepted
copy of the message, or it ends without any ack.
-/

namespace WeatherNotify.Notifier

open WeatherNotify.Contracts
open WeatherNotify.Js

/-! ## Silent calls -/

theorem statement_preserves_effects {α : Type} (env : Env)
    (body : Db → Except Failure (α × Db)) :
    Async.Preserves World.effects (statement env body) := by
  intro world
  simp only [statement]
  split
  · split <;> rfl
  · rfl

theorem now_preserves_effects (env : Env) :
    Async.Preserves World.effects (now env) :=
  fun _ => rfl

theorem send_preserves_effects (env : Env) :
    Async.Preserves World.effects (send env) := by
  intro world
  simp only [send]
  split <;> rfl

theorem claim_preserves_effects (env : Env) (channel : Channel)
    (event : Json) (leaseCutoff : Int) :
    Async.Preserves World.effects
      (claim env channel event leaseCutoff) := by
  unfold claim
  refine (now_preserves_effects env).bind fun stamp => ?_
  refine (statement_preserves_effects env _).attempt.bind fun outcome => ?_
  split
  · exact Async.preserves_pure _
  · split
    · refine (statement_preserves_effects env _).bind fun count => ?_
      split
      · exact Async.preserves_pure _
      · refine (statement_preserves_effects env _).bind fun existing => ?_
        split <;> exact Async.preserves_pure _
    · exact Async.preserves_reject _

theorem dispatch_preserves_effects (config : Config) (env : Env)
    (channel : Channel) (event : Json) :
    Async.Preserves World.effects (dispatch config env channel event) := by
  unfold dispatch
  split
  · refine (now_preserves_effects env).bind fun started => ?_
    refine (claim_preserves_effects env channel event _).bind
      fun claimResult => ?_
    split
    · exact Async.preserves_pure _
    · exact Async.preserves_reject _
    · refine (send_preserves_effects env).attempt.bind fun outcome => ?_
      split
      · refine Async.Preserves.bind ?_ fun _ => Async.preserves_reject _
        exact (statement_preserves_effects env _).attempt.bind
          fun _ => Async.preserves_pure _
      · exact (statement_preserves_effects env _).bind
          fun _ => Async.preserves_pure _
  · exact Async.preserves_reject _

/-! ## Shapes of a handling -/

/-- What has to be on record before a message may be acked. -/
inductive Conclusion (config : Config) (channel : Channel)
    (message : Message) : Effect → Prop where
  | completed (outcome : DispatchOutcome) :
      Conclusion config channel message (.dispatched outcome)
  | retried
      (left : attemptCount message + 1 < config.maxAttempts) :
      Conclusion config channel message
        (.published dlxExchange
          (retryRoutingKeyFor channel (attemptCount message + 1))
          (republished message (attemptCount message + 1) none))
  | parked (reason : DeadReason) :
      Conclusion config channel message
        (.published dlxExchange (deadRoutingKeyFor channel)
          (republished message (attemptCount message) (some reason)))

theorem Conclusion.ne_acked {config : Config} {channel : Channel}
    {message : Message} {effect : Effect}
    (concluded : Conclusion config channel message effect) :
    effect ≠ .acked := by
  cases concluded <;> simp

/-- The log of one handling. -/
inductive HandlingLog (config : Config) (channel : Channel)
    (message : Message) : List Effect → Prop where
  | acked {opening : List Effect} {last : Effect}
      (opened : opening = [] ∨ opening = [.dispatchCalled])
      (concluded : Conclusion config channel message last) :
      HandlingLog config channel message (opening ++ [last, .acked])
  | lost {opening : List Effect}
      (opened : opening = [] ∨ opening = [.dispatchCalled]) :
      HandlingLog config channel message (opening ++ [.handlerFailed])
  | unconfirmed {opening : List Effect} {last : Effect}
      (opened : opening = [] ∨ opening = [.dispatchCalled])
      (concluded : Conclusion config channel message last) :
      HandlingLog config channel message
        (opening ++ [last, .handlerFailed])

/--
A republish followed by an ack: confirmed it concludes the handling, refused
it leaves nothing, and with the confirm lost it leaves the copy and no ack.
-/
theorem republish_ack_apply (env : Env) (message : Message)
    (routingKey : String) (attempts : Nat)
    (deadReason : Option DeadReason) (world : World) :
    let copy := Effect.published dlxExchange routingKey
      (republished message attempts deadReason)
    let after := { world with calls := world.calls + 1 }
    (do republish env message routingKey attempts deadReason
        ack : Handler Unit).run world =
      match env.publish world.calls with
      | .confirmed => (.ok (), (after.push copy).push .acked)
      | .refused => (.error (.unreachable "broker"), after)
      | .unconfirmed =>
          (.error (.unreachable "broker"), after.push copy) := by
  simp only [republish, publish, Async.run_bind]
  cases env.publish world.calls <;> rfl

/-- The log once `handle` has closed the outcome of `process`. -/
def closedEffects : Except Failure Unit × World → List Effect
  | (.ok _, after) => after.effects
  | (.error _, after) => after.effects ++ [.handlerFailed]

theorem handle_effects (config : Config) (env : Env) (channel : Channel)
    (message : Message) (world : World) :
    ((handle config env channel message).run world).2.effects =
      closedEffects ((process config env channel message).run world) := by
  simp only [handle, Async.run_bind, Async.run_attempt]
  cases (process config env channel message).run world with
  | mk outcome after => cases outcome <;> rfl

theorem process_of_unparseable
    {config : Config} {env : Env} {message : Message}
    (unparseable : env.parse message.content = none)
    (channel : Channel) :
    process config env channel message =
      park env channel message .unparseable := by
  simp only [process, unparseable]

theorem process_of_dispatched
    {config : Config} {env : Env} {channel : Channel} {message : Message}
    {event : Json} {world after : World} {outcome : DispatchOutcome}
    (parsed : env.parse message.content = some event)
    (dispatched : (dispatch config env channel event).run
      (world.push .dispatchCalled) = (.ok outcome, after)) :
    (process config env channel message).run world =
      (.ok (), (after.push (.dispatched outcome)).push .acked) := by
  simp only [process, parsed, Async.run_bind, record, Async.run_attempt,
    dispatched]
  rfl

theorem process_of_failed
    {config : Config} {env : Env} {channel : Channel} {message : Message}
    {event : Json} {world after : World} {failure : Failure}
    (parsed : env.parse message.content = some event)
    (failed : (dispatch config env channel event).run
      (world.push .dispatchCalled) = (.error failure, after)) :
    (process config env channel message).run world =
      (handleFailure config env channel message event failure).run
        after := by
  simp only [process, parsed, Async.run_bind, record, Async.run_attempt,
    failed]

/-- After `dispatch` the log has grown by the call alone. -/
theorem dispatch_effects
    {config : Config} {env : Env} {channel : Channel} {event : Json}
    {world after : World} {outcome : Except Failure DispatchOutcome}
    (ran : (dispatch config env channel event).run
      (world.push .dispatchCalled) = (outcome, after)) :
    after.effects = world.effects ++ [.dispatchCalled] := by
  have silent := dispatch_preserves_effects config env channel event
    (world.push .dispatchCalled)
  rw [ran] at silent
  exact silent

/-- The end of a handling that republishes one copy. -/
theorem republish_log
    {config : Config} {channel : Channel} {message : Message}
    {routingKey : String} {attempts : Nat}
    {deadReason : Option DeadReason} {world : World}
    {opening before : List Effect} (env : Env)
    (opened : opening = [] ∨ opening = [.dispatchCalled])
    (effects : world.effects = before ++ opening)
    (concluded : Conclusion config channel message
      (.published dlxExchange routingKey
        (republished message attempts deadReason))) :
    ∃ log, HandlingLog config channel message log ∧
      closedEffects
        ((do republish env message routingKey attempts deadReason
             ack : Handler Unit).run world) = before ++ log := by
  rw [republish_ack_apply]
  cases env.publish world.calls with
  | confirmed =>
      exact ⟨_, .acked opened concluded,
        by simp [closedEffects, World.push, effects]⟩
  | refused =>
      exact ⟨_, .lost opened, by simp [closedEffects, effects]⟩
  | unconfirmed =>
      exact ⟨_, .unconfirmed opened concluded,
        by simp [closedEffects, World.push, effects]⟩

/-- The branch of `handleFailure` that gives the message up. -/
theorem handleFailure_of_final
    {config : Config} {message : Message} {failure : Failure}
    (final : isFinal config message failure = true)
    (env : Env) (channel : Channel) (event : Json) :
    handleFailure config env channel message event failure = (do
      settle env channel event .failed (some failure.message)
      park env channel message
        (if failure.isPermanent then .permanent
          else .attemptsExhausted)) := by
  simp only [handleFailure, final, if_true]

/-- The branch that climbs one retry stage. -/
theorem handleFailure_of_not_final
    {config : Config} {message : Message} {failure : Failure}
    (notFinal : ¬ isFinal config message failure = true)
    (env : Env) (channel : Channel) (event : Json) :
    handleFailure config env channel message event failure = (do
      republish env message
        (retryRoutingKeyFor channel (attemptCount message + 1))
        (attemptCount message + 1) none
      ack) := by
  simp only [handleFailure, notFinal, Bool.false_eq_true, if_false]

theorem attempts_left_of_not_final
    {config : Config} {message : Message} {failure : Failure}
    (notFinal : ¬ isFinal config message failure = true) :
    attemptCount message + 1 < config.maxAttempts := by
  simp only [isFinal, Bool.or_eq_true, decide_eq_true_eq, not_or,
    Nat.not_le] at notFinal
  exact notFinal.2

theorem handleFailure_log
    {world : World} {before : List Effect}
    (config : Config) (env : Env) (channel : Channel)
    (message : Message) (event : Json) (failure : Failure)
    (opened : world.effects = before ++ [.dispatchCalled]) :
    ∃ log, HandlingLog config channel message log ∧
      closedEffects
        ((handleFailure config env channel message event failure).run
          world) = before ++ log := by
  by_cases final : isFinal config message failure = true
  · rw [handleFailure_of_final final]
    have silent := statement_preserves_effects env
      (settleStatement channel event .failed (some failure.message)) world
    rw [Async.run_bind]
    simp only [settle]
    cases settled : (statement env
        (settleStatement channel event .failed
          (some failure.message))).run world with
    | mk written after =>
        rw [settled, opened] at silent
        have unchanged : after.effects = before ++ [.dispatchCalled] :=
          silent
        cases written with
        | ok _ =>
            exact republish_log env (Or.inr rfl) unchanged (.parked _)
        | error _ =>
            exact ⟨_, .lost (Or.inr rfl),
              by simp [closedEffects, unchanged]⟩
  · rw [handleFailure_of_not_final final]
    exact republish_log env (Or.inr rfl) opened
      (.retried (attempts_left_of_not_final final))

/-- Every handling, in every environment, has one of the three logs. -/
theorem handle_log (config : Config) (env : Env) (channel : Channel)
    (message : Message) (world : World) :
    ∃ log, HandlingLog config channel message log ∧
      ((handle config env channel message).run world).2.effects =
        world.effects ++ log := by
  rw [handle_effects]
  cases parsed : env.parse message.content with
  | none =>
      rw [process_of_unparseable parsed]
      exact republish_log env (Or.inl rfl) (by simp)
        (.parked .unparseable)
  | some event =>
      cases ran : (dispatch config env channel event).run
          (world.push .dispatchCalled) with
      | mk outcome after =>
          have opened := dispatch_effects ran
          cases outcome with
          | ok outcome =>
              rw [process_of_dispatched parsed ran]
              exact ⟨_, .acked (Or.inr rfl) (.completed outcome),
                by simp [closedEffects, World.push, opened]⟩
          | error failure =>
              rw [process_of_failed parsed ran]
              exact handleFailure_log config env channel message event
                failure opened

/-! ## What the consumer makes of an error -/

/-- The reason a published copy carries. -/
def deadReasonOf : Effect → Option DeadReason
  | .published _ _ copy => copy.deadReason
  | _ => none

/--
However the failure of a send is handled, no copy is parked as permanent, and
while attempts are left the row is not settled.
-/
def Failure.Retried (failure : Failure) : Prop :=
  ∀ (config : Config) (env : Env) (channel : Channel) (message : Message)
    (json : Json) (found : World),
    (attemptCount message + 1 < config.maxAttempts →
      ((handleFailure config env channel message json failure).run
        found).2.db = found.db) ∧
    ∀ effect ∈ ((handleFailure config env channel message json failure).run
        found).2.effects,
      effect ∈ found.effects ∨ deadReasonOf effect ≠ some .permanent

/-- A copy and its ack leave the database alone. -/
theorem republish_ack_db (env : Env) (message : Message)
    (routingKey : String) (attempts : Nat) (deadReason : Option DeadReason) :
    Async.Preserves World.db
      (do republish env message routingKey attempts deadReason
          ack : Handler Unit) := by
  intro found
  rw [republish_ack_apply]
  cases env.publish found.calls <;> rfl

theorem republish_ack_reason (env : Env) (message : Message)
    (routingKey : String) (attempts : Nat) {deadReason : Option DeadReason}
    (other : deadReason ≠ some .permanent) (found : World) :
    ∀ effect ∈ ((do republish env message routingKey attempts deadReason
                    ack : Handler Unit).run found).2.effects,
      effect ∈ found.effects ∨ deadReasonOf effect ≠ some .permanent := by
  have copy : deadReasonOf (.published dlxExchange routingKey
      (republished message attempts deadReason)) ≠ some .permanent := other
  have acked : deadReasonOf .acked ≠ some .permanent := by decide
  intro effect member
  rw [republish_ack_apply] at member
  cases confirm : env.publish found.calls with
  | confirmed =>
      rw [confirm] at member
      rcases List.mem_append.mp member with earlier | last
      · rcases List.mem_append.mp earlier with before | sent
        · exact Or.inl before
        · cases List.mem_singleton.mp sent
          exact Or.inr copy
      · cases List.mem_singleton.mp last
        exact Or.inr acked
  | refused =>
      rw [confirm] at member
      exact Or.inl member
  | unconfirmed =>
      rw [confirm] at member
      rcases List.mem_append.mp member with before | sent
      · exact Or.inl before
      · cases List.mem_singleton.mp sent
        exact Or.inr copy

/-- An error that is not permanent is retried. -/
theorem retried_of_transient {failure : Failure}
    (transient : failure.isPermanent = false) : failure.Retried := by
  intro config env channel message json found
  by_cases final : isFinal config message failure = true
  · rw [handleFailure_of_final final]
    constructor
    · intro left
      rw [isFinal, transient, Bool.false_or, decide_eq_true_eq] at final
      exact absurd left (Nat.not_lt.mpr final)
    · intro effect member
      rw [transient] at member
      have silent := statement_preserves_effects env
        (settleStatement channel json .failed (some failure.message)) found
      rcases ran : (settle env channel json .failed
        (some failure.message)).run found with ⟨result, after⟩
      rw [settle] at ran
      rw [ran] at silent
      cases result with
      | error rejected =>
          rw [settle, Async.run_bind_of_error ran] at member
          exact Or.inl (silent ▸ member)
      | ok _ =>
          rw [settle, Async.run_bind_of_ok ran] at member
          rw [← silent]
          exact republish_ack_reason env message (deadRoutingKeyFor channel)
            (attemptCount message) (by decide) after effect member
  · rw [handleFailure_of_not_final final]
    constructor
    · intro _
      exact republish_ack_db env message _ _ none found
    · have unparked : (none : Option DeadReason) ≠ some .permanent := by
        decide
      exact republish_ack_reason env message _ _ unparked found

end WeatherNotify.Notifier

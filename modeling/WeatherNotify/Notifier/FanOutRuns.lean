import WeatherNotify.Notifier.FanOut
import WeatherNotify.Notifier.HandlerEffects
import WeatherNotify.Transition.Machine

/-!
# The retries of one event on web push

A run is the sequence of calls of `send` for one event.  They share the row's
`deliveredTo`; the subscriptions, the outcome of each push and everything else
is new in each call.

While the writes succeed `deliveredTo` lists the endpoints that accepted a
push, in order, so a later call leaves them out.  Whether a call is permanent
depends on that call alone, and not on what earlier ones have reached.
-/

namespace WeatherNotify.Notifier.WebPush

open WeatherNotify.Contracts
open WeatherNotify.Js
open WeatherNotify.Transition

/-! ## Runs -/

def machine (configured : Bool) (event : TriggerFiredEvent) :
    Machine World Answers where
  step world answers := some ((send configured answers event).run world).2

/-- How a call of a run ended. -/
def outcome (configured : Bool) (event : TriggerFiredEvent)
    (taken : Taken World Answers) : Except Failure Unit :=
  ((send configured taken.label event).run taken.source).1

/-- The endpoints that accepted a push, once for each time. -/
def received (attempts : List Attempt) : List String :=
  (attempts.filter fun attempt => attempt.thrown.isNone).map
    fun attempt => attempt.recipient.endpoint

/-- The pushes of a call of a run. -/
def newAttempts (taken : Taken World Answers) : List Attempt :=
  taken.target.attempts.drop taken.source.attempts.length

/-- The subscriptions a call of a run has deleted. -/
def newlyPruned (taken : Taken World Answers) : List String :=
  taken.target.pruned.drop taken.source.pruned.length

/-- The push failed with a status other than 404 and 410. -/
def Attempt.refused (attempt : Attempt) : Bool :=
  attempt.thrown.any fun thrown => !isGone thrown.statusCode

variable {configured : Bool} {answers : Answers} {event : TriggerFiredEvent}
  {payload : Json} {world : World} {recipients : List PushRecipient}

theorem received_append (earlier later : List Attempt) :
    received (earlier ++ later) = received earlier ++ received later := by
  rw [received, List.filter_append, List.map_append]
  rfl

theorem received_attempts (recipients : List PushRecipient) :
    received (recipients.map (answers.attempt payload)) =
      (recipients.filter answers.reaches).map PushRecipient.endpoint := by
  rw [received, List.filter_map, List.map_map]
  rfl

theorem reached_of_step {taken : Taken World Answers}
    (stepped : (machine configured event).step taken.source taken.label =
      some taken.target) :
    (send configured taken.label event).run taken.source =
      (outcome configured event taken, taken.target) :=
  Prod.ext rfl (Option.some.inj stepped)

/-! ## When a call is permanent -/

/--
A call with nobody to push to: it reads no subscription, or every pending one
is gone and deleted.
-/
def Exhausted (answers : Answers) (event : TriggerFiredEvent)
    (world : World) : Prop :=
  ∃ found, answers.pushSubscriptions event.userId = .ok found ∧
    (found.rows = [] ∨
      answers.deliveredDestinations = none ∧
        answers.pending event world found ≠ [] ∧
        ∀ recipient ∈ answers.pending event world found,
          answers.findsGone recipient = true ∧
            answers.removePushSubscription recipient = none)

/-- A recipient that neither escapes, nor fails, nor is reached. -/
theorem gone_iff {recipient : PushRecipient}
    (stays : answers.escapes recipient = false) :
    answers.fails recipient = false ∧ answers.reaches recipient = false ↔
      answers.findsGone recipient = true ∧
        answers.removePushSubscription recipient = none := by
  rw [Answers.escapes] at stays
  rw [Answers.fails, Answers.refuses, Answers.reaches]
  rw [Answers.findsGone] at stays ⊢
  cases pushed : answers.push recipient with
  | none => simp
  | some thrown =>
      rw [pushed] at stays
      cases gone : isGone thrown.statusCode with
      | false => simp [gone]
      | true => simpa [gone] using stays

theorem escapes_eq_false_of_ran {recipients : List PushRecipient}
    {tally counted : Tally} {after : World}
    (ran : (visitAll answers event payload recipients tally).run world =
      (.ok counted, after)) :
    ∀ recipient ∈ recipients, answers.escapes recipient = false := by
  intro recipient member
  apply Bool.eq_false_iff.mpr
  intro escaped
  rcases visitAll_escaped event payload ⟨recipient, member, escaped⟩ world
    tally with ⟨other, message, rejected, _⟩
  rw [ran] at rejected
  cases rejected

theorem looped_of_ran {tally counted : Tally} {after : World}
    (ran : (visitAll answers event payload recipients tally).run world =
      (.ok counted, after)) :
    Looped answers payload recipients world tally after counted := by
  rcases visitAll_looped event payload (escapes_eq_false_of_ran ran) world
    tally with ⟨other, final, again, looped⟩
  rw [ran] at again
  cases again
  exact looped

theorem escapes_of_ran {tally : Tally} {failure : Failure} {after : World}
    (ran : (visitAll answers event payload recipients tally).run world =
      (.error failure, after)) :
    failure.isPermanent = false ∧
      ∃ recipient ∈ recipients, answers.escapes recipient = true := by
  by_cases escaped :
      ∃ recipient ∈ recipients, answers.escapes recipient = true
  · rcases visitAll_escaped event payload escaped world tally with
      ⟨other, message, rejected, _⟩
    rw [ran] at rejected
    cases rejected
    exact ⟨rfl, escaped⟩
  · have stays : ∀ recipient ∈ recipients,
        answers.escapes recipient = false := by
      intro recipient member
      apply Bool.eq_false_iff.mpr
      exact fun holds => escaped ⟨recipient, member, holds⟩
    rcases visitAll_looped event payload stays world tally with
      ⟨other, counted, resolved, _⟩
    rw [ran] at resolved
    cases resolved

/-- A loop ends in a permanent error when all its recipients are gone. -/
theorem ending_permanent_iff {counted : Tally} {after : World}
    (ran : (visitAll answers event payload recipients ⟨0, none⟩).run world =
      (.ok counted, after)) :
    (∃ failure, counted.ending = .error failure ∧
        failure.isPermanent = true) ↔
      ∀ recipient ∈ recipients, answers.findsGone recipient = true ∧
        answers.removePushSubscription recipient = none := by
  have stays := escapes_eq_false_of_ran ran
  have looped := looped_of_ran ran
  have silent : counted.lastError = none ∧ counted.delivered = 0 ↔
      ∀ recipient ∈ recipients, answers.fails recipient = false ∧
        answers.reaches recipient = false := by
    rw [looped.lastError, looped.delivered]
    simp [forall_and]
  have gone : (∀ recipient ∈ recipients,
        answers.fails recipient = false ∧
          answers.reaches recipient = false) ↔
      ∀ recipient ∈ recipients, answers.findsGone recipient = true ∧
        answers.removePushSubscription recipient = none :=
    forall₂_congr fun recipient member => gone_iff (stays recipient member)
  rw [← gone, ← silent, Tally.ending]
  cases found : counted.lastError with
  | some failure =>
      rcases looped.transient failure found with earlier | transient
      · cases earlier
      · simp [transient]
  | none =>
      by_cases empty : counted.delivered = 0
      · simp [empty, Failure.isPermanent]
      · simp [empty]

/-- Whether a call is permanent is decided by what it reads and is told. -/
theorem permanent_iff (answers : Answers) (event : TriggerFiredEvent)
    (world : World) :
    (∃ failure, ((send true answers event).run world).1 = .error failure ∧
        failure.isPermanent = true) ↔ Exhausted answers event world := by
  have sent := send_sent answers event world
  generalize (send true answers event).run world = result at sent
  cases sent with
  | unread rejected =>
      constructor
      · rintro ⟨failure, ⟨⟩, permanent⟩
        cases permanent
      · rintro ⟨found, read, _⟩
        rw [rejected] at read
        cases read
  | @nobody found read none =>
      exact ⟨fun _ => ⟨found, read, Or.inl none⟩, fun _ => ⟨_, rfl, rfl⟩⟩
  | unlogged read some rejected =>
      constructor
      · rintro ⟨failure, ⟨⟩, permanent⟩
        cases permanent
      · rintro ⟨found, again, none | ⟨logged, _⟩⟩
        · cases read.symm.trans again
          exact absurd none some
        · rw [rejected] at logged
          cases logged
  | done read some logged settled =>
      constructor
      · rintro ⟨failure, ⟨⟩, _⟩
      · rintro ⟨found, again, none | ⟨_, waiting, _⟩⟩
        · cases read.symm.trans again
          exact absurd none some
        · cases read.symm.trans again
          exact absurd settled waiting
  | escaped read some logged waiting ran =>
      rcases escapes_of_ran ran with ⟨transient, recipient, member, escaped⟩
      constructor
      · rintro ⟨failure, ⟨⟩, permanent⟩
        rw [transient] at permanent
        cases permanent
      · rintro ⟨found, again, none | ⟨_, _, gone⟩⟩
        · cases read.symm.trans again
          exact absurd none some
        · cases read.symm.trans again
          rw [Answers.escapes, (gone recipient member).2] at escaped
          simp at escaped
  | @looped found tally after read some logged waiting ran =>
      show (∃ failure, tally.ending = .error failure ∧ _) ↔ _
      rw [ending_permanent_iff ran]
      constructor
      · intro gone
        exact ⟨found, read, Or.inr ⟨logged, waiting, gone⟩⟩
      · rintro ⟨other, again, none | ⟨_, _, gone⟩⟩
        · cases read.symm.trans again
          exact absurd none some
        · cases read.symm.trans again
          exact gone

/-- A permanent call reaches nobody. -/
theorem received_of_exhausted {taken : Taken World Answers}
    (stepped : (machine true event).step taken.source taken.label =
      some taken.target)
    (exhausted : Exhausted taken.label event taken.source) :
    received taken.target.attempts = received taken.source.attempts := by
  have sent := send_sent taken.label event taken.source
  rw [reached_of_step stepped] at sent
  rcases exhausted with ⟨found, read, none | ⟨logged, _, gone⟩⟩
  · generalize outcome true event taken = result at sent
    generalize taken.target = after at sent ⊢
    cases sent with
    | unread | nobody | unlogged | done => rfl
    | escaped again some | looped again some =>
        cases read.symm.trans again
        exact absurd none some
  · have attempts : taken.target.attempts = _ := sent.attempts read logged
    have reachedNone : (taken.label.attempted
        (taken.label.pending event taken.source found)).filter
          taken.label.reaches = [] := by
      apply List.filter_eq_nil_iff.mpr
      intro recipient member accepted
      have goneHere := (gone recipient
        ((taken.label.attempted_prefix _).subset member)).1
      rw [Answers.findsGone] at goneHere
      rw [Answers.reaches, Option.isNone_iff_eq_none] at accepted
      rw [accepted] at goneHere
      cases goneHere
    rw [attempts, received_append, received_attempts, reachedNone]
    exact List.append_nil _

/--
In every run: no call fails permanently once some endpoint has received the
event, and each failure after that is retried, if and only if no call begins
after a reception and has nobody left to push to.
-/
theorem never_permanent_after_reception_iff (event : TriggerFiredEvent)
    (world : World) (calls : List Answers) :
    (∀ taken ∈ (machine true event).transitions world calls,
        ∀ failure, outcome true event taken = .error failure →
          received taken.target.attempts ≠ [] →
            failure.isPermanent = false ∧ failure.Retried) ↔
      ∀ taken ∈ (machine true event).transitions world calls,
        received taken.source.attempts ≠ [] →
          ¬ Exhausted taken.label event taken.source := by
  apply forall₂_congr
  intro taken member
  have stepped := (machine true event).step_of_mem_transitions member
  have permanent := permanent_iff taken.label event taken.source
  constructor
  · intro transient some exhausted
    rcases permanent.mpr exhausted with ⟨failure, failed, isPermanent⟩
    rw [← received_of_exhausted stepped exhausted] at some
    have spared := (transient failure failed some).1
    rw [isPermanent] at spared
    cases spared
  · intro covered failure failed some
    have transient : failure.isPermanent = false := by
      apply Bool.eq_false_iff.mpr
      intro isPermanent
      have exhausted := permanent.mp ⟨failure, failed, isPermanent⟩
      rw [received_of_exhausted stepped exhausted] at some
      exact covered some exhausted
    exact ⟨transient, retried_of_transient transient⟩

/-- First the phone is reached and the laptop's service is down. -/
def phoneReached : Answers where
  pushSubscriptions := fun _ => .ok twoDevices
  deliveredDestinations := none
  push := fun recipient =>
    if recipient.id = "laptop" then
      some ⟨some 503, true, "service unavailable"⟩
    else none
  markDelivered := fun _ => none
  removePushSubscription := fun _ => none
  interference := fun _ db => db

/-- Then the laptop is gone. -/
def laptopGone : Answers :=
  { phoneReached with push := fun _ => some ⟨some 410, true, "Gone"⟩ }

def claimedWorld : World where
  db := ⟨["ann"], [], [{
    eventId := some "e1"
    triggerId := none
    userId := "ann"
    channel := .webPush
    status := .pending
    payload := .null
    error := none
    claimedAt := some 0
    deliveredTo := [] }]⟩
  attempts := []
  pruned := []

/-- The alert reached the phone, and the retry fails permanently. -/
theorem permanent_after_reception :
    ∃ taken ∈ (machine true sampleAlert).transitions claimedWorld
        [phoneReached, laptopGone],
      outcome true sampleAlert taken =
          .error (.permanent "All push subscriptions are invalid") ∧
        received taken.target.attempts = ["https://push/phone"] := by
  refine ⟨_, List.mem_of_getElem? (i := 1) rfl, ?_, ?_⟩
  · rfl
  · decide

/-! ## While the writes succeed -/

/-- The writes of a call succeed, and the row and its list stay to the call. -/
structure Answers.WritesSucceed (answers : Answers)
    (event : TriggerFiredEvent) : Prop where
  marks : ∀ recipient, answers.markDelivered recipient = none
  prunes : ∀ recipient, answers.removePushSubscription recipient = none
  keeps : ∀ before db,
    ((answers.interference before db).find? event.eventId .webPush).map
        NotificationRow.deliveredTo =
      (db.find? event.eventId .webPush).map NotificationRow.deliveredTo

/-- The row of the event lists what has been received. -/
def Synced (event : TriggerFiredEvent) (world : World) : Prop :=
  (world.db.find? event.eventId .webPush).map NotificationRow.deliveredTo =
    some (received world.attempts)

theorem Synced.deliveredDestinations (synced : Synced event world) :
    deliveredDestinations .webPush event.eventId world.db =
      received world.attempts := by
  rw [Notifier.deliveredDestinations, synced]
  rfl

theorem Synced.opened (writes : answers.WritesSucceed event)
    (synced : Synced event world) : Synced event (world.opened answers) :=
  (writes.keeps none world.db).trans synced

theorem synced_visit (writes : answers.WritesSucceed event)
    (recipient : PushRecipient) (tally : Tally) :
    Async.Keeps (Synced event)
      (visit answers event payload recipient tally) := by
  intro world synced
  have round := visit_round answers event payload recipient world tally
  generalize (visit answers event payload recipient tally).run world =
    result at round
  -- a refused push is not a reception
  have refusedLeaves : ∀ thrown, answers.push recipient = some thrown →
      received (world.attempted answers payload recipient).attempts =
        received world.attempts := by
    intro thrown refused
    rw [World.attempted, received_append, Answers.attempt, refused]
    exact List.append_nil _
  cases round with
  | marked accepted written =>
      have kept := writes.keeps (some recipient) world.db
      rw [synced] at kept
      rw [Synced, deliveredTo_markDelivered, kept]
      show _ = some (received (world.attempts ++ [_]))
      rw [received_append, Answers.attempt, accepted]
      rfl
  | unmarked accepted rejected =>
      rw [writes.marks] at rejected
      cases rejected
  | pruned refused | escaped refused | failed refused =>
      exact synced.trans (congrArg some (refusedLeaves _ refused).symm)

theorem synced_visitAll (writes : answers.WritesSucceed event)
    (recipients : List PushRecipient) (tally : Tally) :
    Async.Keeps (Synced event)
      (visitAll answers event payload recipients tally) := by
  induction recipients generalizing tally with
  | nil => exact Async.keeps_pure tally
  | cons recipient rest induction =>
      exact (synced_visit writes recipient tally).bind induction

theorem synced_of_ran {tally : Tally} {result : Except Failure Tally × World}
    (writes : answers.WritesSucceed event) (synced : Synced event world)
    (ran : (visitAll answers event payload recipients tally).run world =
      result) : Synced event result.2 := by
  rw [← ran]
  exact synced_visitAll writes recipients tally world synced

theorem synced_sent {result : Except Failure Unit × World}
    (writes : answers.WritesSucceed event) (synced : Synced event world)
    (sent : Sent answers event world result) : Synced event result.2 := by
  cases sent with
  | unread | nobody => exact synced
  | unlogged | done => exact synced.opened writes
  | escaped read some logged waiting ran
  | looped read some logged waiting ran =>
      exact synced_of_ran writes (synced.opened writes) ran

/-- A call pushes to distinct endpoints that have not received the event. -/
theorem received_sent {result : Except Failure Unit × World}
    (writes : answers.WritesSucceed event) (synced : Synced event world)
    (sent : Sent answers event world result)
    (distinct : (received world.attempts).Nodup) :
    (received result.2.attempts).Nodup := by
  have pushed : ∀ found, answers.pushSubscriptions event.userId = .ok found →
      answers.deliveredDestinations = none →
        (received result.2.attempts).Nodup := by
    intro found read logged
    rw [sent.attempts read logged, received_append, received_attempts]
    have chosen : ((answers.attempted
        (answers.pending event world found)).filter
          answers.reaches).Sublist (answers.pending event world found) :=
      List.filter_sublist.trans (answers.attempted_prefix _).sublist
    apply List.nodup_append.mpr
    refine ⟨distinct, ?_, ?_⟩
    · exact ((chosen.trans List.filter_sublist).map _).nodup
        found.distinctEndpoints
    · rintro endpoint before other after rfl
      rcases List.mem_map.mp after with ⟨recipient, member, rfl⟩
      have fresh := of_decide_eq_true
        (List.mem_filter.mp (chosen.subset member)).2
      rw [(synced.opened writes).deliveredDestinations] at fresh
      exact fresh before
  cases sent with
  | unread | nobody | unlogged | done => exact distinct
  | escaped read some logged | looped read some logged =>
      exact pushed _ read logged

theorem mem_pending_iff {found : Subscriptions} {recipient : PushRecipient}
    (writes : answers.WritesSucceed event) (synced : Synced event world) :
    recipient ∈ answers.pending event world found ↔
      recipient ∈ found.rows ∧
        recipient.endpoint ∉ received world.attempts := by
  rw [Answers.pending, (synced.opened writes).deliveredDestinations]
  show recipient ∈ found.rows.filter _ ↔ _
  rw [List.mem_filter, decide_eq_true_eq]
  rfl

/-- A loop without errors has reached or deleted everyone. -/
theorem covered_of_looped {found : Subscriptions} {tally : Tally}
    {after : World} (writes : answers.WritesSucceed event)
    (synced : Synced event world)
    (ran : (visitAll answers event payload
      (answers.pending event world found) ⟨0, none⟩).run
        (world.opened answers) = (.ok tally, after))
    (silent : tally.lastError = none) {recipient : PushRecipient}
    (member : recipient ∈ found.rows) :
    recipient.endpoint ∈ received after.attempts ∨
      recipient.id ∈ after.pruned.drop world.pruned.length := by
  have looped := looped_of_ran ran
  by_cases known : recipient.endpoint ∈ received world.attempts
  · apply Or.inl
    rw [looped.attempts, received_append]
    exact List.mem_append_left _ known
  have pending : recipient ∈ answers.pending event world found :=
    (mem_pending_iff writes synced).mpr ⟨member, known⟩
  have quiet := (looped.lastError.mp silent).2 recipient pending
  cases reached : answers.reaches recipient with
  | true =>
      apply Or.inl
      rw [looped.attempts, received_append, received_attempts]
      apply List.mem_append_right
      exact List.mem_map_of_mem (List.mem_filter.mpr ⟨pending, reached⟩)
  | false =>
      have stays := escapes_eq_false_of_ran ran recipient pending
      have gone := ((gone_iff stays).mp ⟨quiet, reached⟩).1
      have dropped : after.pruned.drop world.pruned.length =
          ((answers.pending event world found).filter
            answers.findsGone).map PushRecipient.id := by
        rw [looped.pruned]
        exact List.drop_left
      apply Or.inr
      rw [dropped]
      exact List.mem_map_of_mem (List.mem_filter.mpr ⟨pending, gone⟩)

theorem received_ne_nil_of_delivered {tally : Tally} {after : World}
    (ran : (visitAll answers event payload recipients ⟨0, none⟩).run world =
      (.ok tally, after))
    (some : tally.delivered ≠ 0) : received after.attempts ≠ [] := by
  have looped := looped_of_ran ran
  intro empty
  rw [looped.attempts, received_append, received_attempts] at empty
  have nobody := List.map_eq_nil_iff.mp (List.append_eq_nil_iff.mp empty).2
  have count := looped.delivered
  rw [List.countP_eq_length_filter, nobody] at count
  exact some count

theorem ending_eq_ok_iff (tally : Tally) :
    tally.ending = .ok () ↔ tally.lastError = none ∧ tally.delivered ≠ 0 := by
  rw [Tally.ending]
  cases tally.lastError with
  | some failure => simp
  | none => by_cases empty : tally.delivered = 0 <;> simp [empty]

/-- A call that returns has covered every subscription it read. -/
theorem covered_of_ok {result : Except Failure Unit × World}
    (writes : answers.WritesSucceed event) (synced : Synced event world)
    (sent : Sent answers event world result) (ok : result.1 = .ok ()) :
    (∀ found, answers.pushSubscriptions event.userId = .ok found →
      ∀ recipient ∈ found.rows,
        recipient.endpoint ∈ received result.2.attempts ∨
          recipient.id ∈ result.2.pruned.drop world.pruned.length) ∧
      received result.2.attempts ≠ [] := by
  cases sent with
  | unread | nobody | unlogged | escaped => cases ok
  | @done found read some logged settled =>
      have every : ∀ recipient ∈ found.rows,
          recipient.endpoint ∈ received world.attempts := by
        intro recipient member
        by_contra fresh
        have waiting : recipient ∈ answers.pending event world found :=
          (mem_pending_iff writes synced).mpr ⟨member, fresh⟩
        rw [settled] at waiting
        cases waiting
      constructor
      · intro other again recipient member
        cases read.symm.trans again
        exact Or.inl (every recipient member)
      · rcases List.exists_mem_of_ne_nil _ some with ⟨recipient, member⟩
        exact List.ne_nil_of_mem (every recipient member)
  | @looped found tally after read some logged waiting ran =>
      have clean := (ending_eq_ok_iff tally).mp ok
      constructor
      · intro other again recipient member
        cases read.symm.trans again
        exact covered_of_looped writes synced ran clean.1 member
      · exact received_ne_nil_of_delivered ran clean.2

/-- A call fails for a retry exactly if some push was refused. -/
theorem transient_iff {result : Except Failure Unit × World}
    {found : Subscriptions} (writes : answers.WritesSucceed event)
    (read : answers.pushSubscriptions event.userId = .ok found)
    (logged : answers.deliveredDestinations = none)
    (sent : Sent answers event world result) :
    (∃ failure, result.1 = .error failure ∧
        failure.isPermanent = false) ↔
      ∃ attempt ∈ result.2.attempts.drop world.attempts.length,
        attempt.refused = true := by
  cases sent with
  | unread rejected =>
      rw [read] at rejected
      cases rejected
  | nobody => simp [Failure.isPermanent]
  | unlogged _ _ rejected =>
      rw [logged] at rejected
      cases rejected
  | done => simp [World.opened]
  | escaped _ _ _ _ ran =>
      rcases (escapes_of_ran ran).2 with ⟨recipient, _, escaped⟩
      rw [Answers.escapes, writes.prunes] at escaped
      simp at escaped
  | @looped found tally after _ _ _ waiting ran =>
      have looped := looped_of_ran ran
      have attempts : after.attempts.drop world.attempts.length =
          (answers.pending event world found).map
            (answers.attempt (payloadOf event)) := by
        rw [looped.attempts]
        exact List.drop_left
      have fails : ∀ recipient, answers.fails recipient =
          answers.refuses recipient := by
        intro recipient
        rw [Answers.fails, writes.marks, Option.isSome_none, Bool.and_false,
          Bool.or_false]
      show (∃ failure, tally.ending = .error failure ∧ _) ↔
        ∃ attempt ∈ after.attempts.drop world.attempts.length, _
      have error : (∃ failure, tally.ending = .error failure ∧
          failure.isPermanent = false) ↔ tally.lastError ≠ none := by
        rw [Tally.ending]
        cases last : tally.lastError with
        | some failure =>
            rcases looped.transient failure last with earlier | transient
            · cases earlier
            · simp [transient]
        | none =>
            by_cases empty : tally.delivered = 0
            · simp [empty, Failure.isPermanent]
            · simp [empty]
      rw [error, ne_eq, looped.lastError, attempts]
      simp only [true_and, fails, not_forall, List.mem_map,
        exists_exists_and_eq_and, Bool.not_eq_false, exists_prop]
      rfl

/-- Before the first call: the row exists and lists nothing. -/
structure World.IsFresh (world : World) (event : TriggerFiredEvent) :
    Prop where
  unsent : world.attempts = []
  row : (world.db.find? event.eventId .webPush).map
    NotificationRow.deliveredTo = some []

/-- What is known between two calls. -/
structure Tracked (event : TriggerFiredEvent) (world : World) : Prop where
  synced : Synced event world
  distinct : (received world.attempts).Nodup

theorem tracked_send (configured : Bool)
    (writes : answers.WritesSucceed event) (tracked : Tracked event world) :
    Tracked event ((send configured answers event).run world).2 := by
  cases configured with
  | false => exact tracked
  | true =>
      have sent := send_sent answers event world
      exact ⟨synced_sent writes tracked.synced sent,
        received_sent writes tracked.synced sent tracked.distinct⟩

/--
While the row exists and the writes succeed, over all calls for one event:
no endpoint accepts a push twice, and `deliveredTo` lists those that accepted
one; a call that returns has reached or pruned every subscription it read, and
somebody has been reached; and a call whose reads resolve fails for a retry
exactly if some push failed with another status than 404 and 410.
-/
theorem push_reaches_each_device_once (configured : Bool)
    (event : TriggerFiredEvent) (world final : World) (calls : List Answers)
    (fresh : world.IsFresh event)
    (writes : ∀ answers ∈ calls, answers.WritesSucceed event)
    (ran : (machine configured event).run world calls = some final) :
    (received final.attempts).Nodup ∧
      (∀ endpoint,
        endpoint ∈ deliveredDestinations .webPush event.eventId final.db ↔
          endpoint ∈ received final.attempts) ∧
      ∀ taken ∈ (machine configured event).transitions world calls,
        (outcome configured event taken = .ok () →
          (∀ found, taken.label.pushSubscriptions event.userId = .ok found →
            ∀ recipient ∈ found.rows,
              recipient.endpoint ∈ received taken.target.attempts ∨
                recipient.id ∈ newlyPruned taken) ∧
          received taken.target.attempts ≠ []) ∧
        (∀ found, taken.label.pushSubscriptions event.userId = .ok found →
          taken.label.deliveredDestinations = none →
            ((∃ failure, outcome configured event taken = .error failure ∧
                failure.isPermanent = false) ↔
              ∃ attempt ∈ newAttempts taken, attempt.refused = true)) := by
  have guarded : ∀ taken ∈ (machine configured event).transitions world calls,
      taken.label.WritesSucceed event := by
    intro taken member
    exact writes _
      ((machine configured event).label_mem_of_mem_transitions member)
  have preserved : ∀ taken : Taken World Answers,
      (machine configured event).step taken.source taken.label =
          some taken.target →
        taken.label.WritesSucceed event → Tracked event taken.source →
          Tracked event taken.target := by
    intro taken stepped writes tracked
    have kept := tracked_send configured writes tracked
    rw [reached_of_step stepped] at kept
    exact kept
  have initial : Tracked event world := by
    have empty : received world.attempts = [] := by
      rw [fresh.unsent]
      rfl
    constructor
    · rw [Synced, empty]
      exact fresh.row
    · rw [empty]
      exact List.nodup_nil
  have tracked : Tracked event final :=
    Machine.run_invariant preserved initial guarded ran
  refine ⟨tracked.distinct, ?_, ?_⟩
  · intro endpoint
    rw [tracked.synced.deliveredDestinations]
  · intro taken member
    have stepped := (machine configured event).step_of_mem_transitions member
    have around := Machine.transitions_invariant preserved initial guarded
      member
    cases configured with
    | false =>
        have same : taken.target = taken.source :=
          (Option.some.inj stepped).symm
        constructor
        · intro ok
          cases ok
        · intro found read logged
          rw [newAttempts, same, List.drop_length]
          constructor
          · rintro ⟨failure, ⟨⟩, transient⟩
            cases transient
          · rintro ⟨attempt, absent, _⟩
            cases absent
    | true =>
        have sent := send_sent taken.label event taken.source
        rw [reached_of_step stepped] at sent
        constructor
        · intro ok
          exact covered_of_ok (guarded taken member) around.1.synced sent ok
        · intro found read logged
          exact transient_iff (guarded taken member) read logged sent

def laptopBack : Answers :=
  { phoneReached with push := fun _ => none }

/-- The retry leaves the phone out and reaches the laptop. -/
theorem push_reaches_each_device_once_on_retry :
    ∃ final, (machine true sampleAlert).run claimedWorld
        [phoneReached, laptopBack] = some final ∧
      received final.attempts =
        ["https://push/phone", "https://push/laptop"] ∧
      (received final.attempts).Nodup := by
  have writes : ∀ answers ∈ [phoneReached, laptopBack],
      answers.WritesSucceed sampleAlert := by
    intro answers member
    rcases List.mem_cons.mp member with rfl | later
    · exact ⟨fun _ => rfl, fun _ => rfl, fun _ _ => rfl⟩
    · cases List.mem_singleton.mp later
      exact ⟨fun _ => rfl, fun _ => rfl, fun _ _ => rfl⟩
  have ran : ∃ final, (machine true sampleAlert).run claimedWorld
        [phoneReached, laptopBack] = some final :=
    ⟨_, rfl⟩
  rcases ran with ⟨final, ran⟩
  refine ⟨final, ran, ?_, (push_reaches_each_device_once true sampleAlert
    claimedWorld final [phoneReached, laptopBack] ⟨rfl, by decide⟩ writes
    ran).1⟩
  cases ran
  decide

end WeatherNotify.Notifier.WebPush

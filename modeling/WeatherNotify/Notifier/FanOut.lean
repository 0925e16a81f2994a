import Mathlib.Data.List.Nodup
import Mathlib.Data.List.Perm.Subperm
import WeatherNotify.Notifier.WebPush

/-!
# One fan-out of the web push channel

What a round of the loop can do is said once; the loop is then read off its
rounds.  Only the write after an expired subscription escapes the loop, and it
takes the rest of the list with it.
-/

namespace WeatherNotify.Notifier.WebPush

open WeatherNotify.Contracts
open WeatherNotify.Js

variable {answers : Answers} {event : TriggerFiredEvent} {payload : Json}
  {recipient : PushRecipient} {recipients : List PushRecipient}
  {world : World} {tally : Tally}

/-! ## One round -/

namespace Answers

/-- The push is accepted. -/
def reaches (answers : Answers) (recipient : PushRecipient) : Bool :=
  (answers.push recipient).isNone

/-- The push service reports the subscription as gone. -/
def findsGone (answers : Answers) (recipient : PushRecipient) : Bool :=
  (answers.push recipient).any fun thrown => isGone thrown.statusCode

/-- The subscription is gone, and deleting it rejects. -/
def escapes (answers : Answers) (recipient : PushRecipient) : Bool :=
  answers.findsGone recipient &&
    (answers.removePushSubscription recipient).isSome

/-- The push is refused for another reason. -/
def refuses (answers : Answers) (recipient : PushRecipient) : Bool :=
  (answers.push recipient).any fun thrown => !isGone thrown.statusCode

/-- The round leaves an error to throw at the end. -/
def fails (answers : Answers) (recipient : PushRecipient) : Bool :=
  answers.refuses recipient ||
    answers.reaches recipient && (answers.markDelivered recipient).isSome

def attempt (answers : Answers) (payload : Json)
    (recipient : PushRecipient) : Attempt :=
  ⟨recipient, payload, answers.push recipient⟩

end Answers

/-- The world once a push has ended. -/
def World.attempted (world : World) (answers : Answers) (payload : Json)
    (recipient : PushRecipient) : World :=
  { world with
    attempts := world.attempts ++ [answers.attempt payload recipient] }

/-- Everything one round can do. -/
inductive Round (answers : Answers) (event : TriggerFiredEvent)
    (payload : Json) (recipient : PushRecipient) (world : World)
    (tally : Tally) : Except Failure Tally × World → Prop
  | marked (accepted : answers.push recipient = none)
      (written : answers.markDelivered recipient = none) :
      Round answers event payload recipient world tally
        (.ok { tally with delivered := tally.delivered + 1 },
          { world.attempted answers payload recipient with
            db := markDelivered .webPush event.eventId recipient.endpoint
              (answers.interference (some recipient) world.db) })
  | unmarked {message : String} (accepted : answers.push recipient = none)
      (rejected : answers.markDelivered recipient = some message) :
      Round answers event payload recipient world tally
        (.ok ⟨tally.delivered + 1, some (.unreachable message)⟩,
          { world.attempted answers payload recipient with
            db := answers.interference (some recipient) world.db })
  | pruned {thrown : Thrown} (refused : answers.push recipient = some thrown)
      (gone : isGone thrown.statusCode = true)
      (written : answers.removePushSubscription recipient = none) :
      Round answers event payload recipient world tally
        (.ok tally,
          { world.attempted answers payload recipient with
            pruned := world.pruned ++ [recipient.id] })
  | escaped {thrown : Thrown} {message : String}
      (refused : answers.push recipient = some thrown)
      (gone : isGone thrown.statusCode = true)
      (rejected : answers.removePushSubscription recipient = some message) :
      Round answers event payload recipient world tally
        (.error (.other message), world.attempted answers payload recipient)
  | failed {thrown : Thrown} (refused : answers.push recipient = some thrown)
      (alive : isGone thrown.statusCode = false) :
      Round answers event payload recipient world tally
        (.ok { tally with lastError := some (Rejection.push thrown).toError },
          world.attempted answers payload recipient)

theorem recover_of_gone {rejection : Rejection}
    (gone : isGone rejection.statusCode = true) :
    (recover answers recipient rejection tally).run world =
      match answers.removePushSubscription recipient with
      | none =>
          (.ok tally, { world with pruned := world.pruned ++ [recipient.id] })
      | some message => (.error (.other message), world) := by
  rw [recover, if_pos gone, Async.run_bind, removePushSubscription]
  cases answers.removePushSubscription recipient <;> rfl

theorem recover_of_alive {rejection : Rejection}
    (alive : isGone rejection.statusCode = false) :
    (recover answers recipient rejection tally).run world =
      (.ok { tally with lastError := some rejection.toError }, world) := by
  rw [recover, if_neg (by rw [alive]; exact Bool.false_ne_true)]
  rfl

theorem visit_round (answers : Answers) (event : TriggerFiredEvent)
    (payload : Json) (recipient : PushRecipient) (world : World)
    (tally : Tally) :
    Round answers event payload recipient world tally
      ((visit answers event payload recipient tally).run world) := by
  have first : (sendNotification answers payload recipient).run world =
      (.ok (answers.push recipient),
        world.attempted answers payload recipient) := rfl
  rw [visit, Async.run_bind_of_ok first]
  cases pushed : answers.push recipient with
  | none =>
      cases marked : answers.markDelivered recipient with
      | none =>
          have second : (tryMark answers event recipient).run
              (world.attempted answers payload recipient) =
              (.ok none, { world.attempted answers payload recipient with
                db := markDelivered .webPush event.eventId recipient.endpoint
                  (answers.interference (some recipient) world.db) }) := by
            simp only [tryMark, marked, World.attempted]
          rw [Async.run_bind_of_ok second]
          exact .marked pushed marked
      | some message =>
          have second : (tryMark answers event recipient).run
              (world.attempted answers payload recipient) =
              (.ok (some message),
                { world.attempted answers payload recipient with
                  db := answers.interference (some recipient) world.db }) := by
            simp only [tryMark, marked, World.attempted]
          rw [Async.run_bind_of_ok second, recover_of_alive rfl]
          exact .unmarked pushed marked
  | some thrown =>
      have status : (Rejection.push thrown).statusCode = thrown.statusCode :=
        rfl
      cases gone : isGone thrown.statusCode with
      | true =>
          rw [recover_of_gone (status ▸ gone)]
          cases removed : answers.removePushSubscription recipient with
          | none => exact .pruned pushed gone removed
          | some message => exact .escaped pushed gone removed
      | false =>
          rw [recover_of_alive (status ▸ gone)]
          exact .failed pushed gone

/-! ## The loop -/

namespace Answers

/-- The recipients the loop gets to. -/
def attempted (answers : Answers) : List PushRecipient → List PushRecipient
  | [] => []
  | recipient :: rest =>
      recipient ::
        if answers.escapes recipient then [] else answers.attempted rest

theorem attempted_prefix (recipients : List PushRecipient) :
    answers.attempted recipients <+: recipients := by
  induction recipients with
  | nil => exact List.prefix_rfl
  | cons recipient rest induction =>
      rw [attempted]
      split
      · exact ⟨rest, rfl⟩
      · exact (List.prefix_cons_inj recipient).mpr induction

/-- The loop gets to everyone unless it escapes before the last one. -/
theorem attempted_eq_self_iff :
    answers.attempted recipients = recipients ↔
      ∀ recipient ∈ recipients.dropLast,
        answers.escapes recipient = false := by
  induction recipients with
  | nil => simp [attempted]
  | cons recipient rest induction =>
      cases rest with
      | nil => simp [attempted]
      | cons next later =>
          rw [List.dropLast_cons_of_ne_nil (List.cons_ne_nil next later),
            List.forall_mem_cons, ← induction, attempted, List.cons_inj_right]
          cases escaped : answers.escapes recipient with
          | true => simp
          | false => simp

end Answers

/-- A loop that nothing escapes from. -/
structure Looped (answers : Answers) (payload : Json)
    (recipients : List PushRecipient) (world : World) (tally : Tally)
    (after : World) (counted : Tally) : Prop where
  attempts : after.attempts =
    world.attempts ++ recipients.map (answers.attempt payload)
  pruned : after.pruned = world.pruned ++
    (recipients.filter answers.findsGone).map PushRecipient.id
  delivered : counted.delivered =
    tally.delivered + recipients.countP answers.reaches
  lastError : counted.lastError = none ↔
    tally.lastError = none ∧
      ∀ recipient ∈ recipients, answers.fails recipient = false
  transient : ∀ failure, counted.lastError = some failure →
    tally.lastError = some failure ∨ failure.isPermanent = false

theorem Looped.nil : Looped answers payload [] world tally world tally where
  attempts := (List.append_nil _).symm
  pruned := (List.append_nil _).symm
  delivered := rfl
  lastError := by simp
  transient failure found := Or.inl found

/-- One round that does not escape, before the others. -/
theorem Looped.cons {rest : List PushRecipient} {next after : World}
    {counted final : Tally}
    (first : Looped answers payload [recipient] world tally next counted)
    (others : Looped answers payload rest next counted after final) :
    Looped answers payload (recipient :: rest) world tally after final where
  attempts := by
    rw [others.attempts, first.attempts, List.append_assoc]
    rfl
  pruned := by
    rw [others.pruned, first.pruned, List.append_assoc, ← List.map_append,
      ← List.filter_append]
    rfl
  delivered := by
    rw [others.delivered, first.delivered, Nat.add_assoc,
      ← List.countP_append]
    rfl
  lastError := by
    rw [others.lastError, first.lastError, and_assoc, List.forall_mem_cons]
    simp
  transient := by
    intro failure found
    rcases others.transient failure found with earlier | transient
    · exact first.transient failure earlier
    · exact Or.inr transient

/-- A round that does not escape is a loop of its own. -/
theorem Round.looped {result : Except Failure Tally × World}
    (round : Round answers event payload recipient world tally result)
    (stays : answers.escapes recipient = false) :
    ∃ next counted, result = (.ok counted, next) ∧
      Looped answers payload [recipient] world tally next counted := by
  cases round with
  | marked accepted written =>
      refine ⟨_, _, rfl, rfl, ?_, ?_, ?_, fun failure => Or.inl⟩
      · simp [Answers.findsGone, accepted, World.attempted]
      · simp [Answers.reaches, accepted]
      · simp [Answers.fails, Answers.refuses, accepted, written]
  | unmarked accepted rejected =>
      refine ⟨_, _, rfl, rfl, ?_, ?_, ?_, ?_⟩
      · simp [Answers.findsGone, accepted, World.attempted]
      · simp [Answers.reaches, accepted]
      · simp [Answers.fails, Answers.reaches, accepted, rejected]
      · rintro failure ⟨⟩
        exact Or.inr rfl
  | pruned refused gone written =>
      refine ⟨_, _, rfl, rfl, ?_, ?_, ?_, fun failure => Or.inl⟩
      · simp [Answers.findsGone, refused, gone]
      · simp [Answers.reaches, refused]
      · simp [Answers.fails, Answers.reaches, Answers.refuses, refused, gone]
  | escaped refused gone rejected =>
      simp [Answers.escapes, Answers.findsGone, refused, gone, rejected]
        at stays
  | failed refused alive =>
      refine ⟨_, _, rfl, rfl, ?_, ?_, ?_, ?_⟩
      · simp [Answers.findsGone, refused, alive, World.attempted]
      · simp [Answers.reaches, refused]
      · simp [Answers.fails, Answers.refuses, refused, alive]
      · rintro failure ⟨⟩
        exact Or.inr rfl

theorem Round.escapes {result : Except Failure Tally × World}
    (round : Round answers event payload recipient world tally result)
    (escaped : answers.escapes recipient = true) :
    ∃ message, result = (.error (.other message),
      world.attempted answers payload recipient) := by
  rw [Answers.escapes, Bool.and_eq_true] at escaped
  cases round with
  | marked accepted written | unmarked accepted rejected =>
      simp [Answers.findsGone, accepted] at escaped
  | pruned refused gone written => simp [written] at escaped
  | escaped => exact ⟨_, rfl⟩
  | failed refused alive =>
      simp [Answers.findsGone, refused, alive] at escaped

theorem visitAll_looped (event : TriggerFiredEvent) (payload : Json)
    (stays : ∀ recipient ∈ recipients, answers.escapes recipient = false)
    (world : World) (tally : Tally) :
    ∃ after counted,
      (visitAll answers event payload recipients tally).run world =
          (.ok counted, after) ∧
        Looped answers payload recipients world tally after counted := by
  induction recipients generalizing world tally with
  | nil => exact ⟨world, tally, rfl, Looped.nil⟩
  | cons recipient rest induction =>
      rcases (visit_round answers event payload recipient world tally).looped
        (stays recipient List.mem_cons_self) with
        ⟨next, counted, visited, first⟩
      rcases induction
        (fun other member => stays other (List.mem_cons_of_mem _ member))
        next counted with ⟨after, final, ran, others⟩
      refine ⟨after, final, ?_, first.cons others⟩
      rw [visitAll, Async.run_bind_of_ok visited]
      exact ran

/-- A loop with an escape rejects, and the rest is left. -/
theorem visitAll_escaped (event : TriggerFiredEvent) (payload : Json)
    (escaped : ∃ recipient ∈ recipients, answers.escapes recipient = true)
    (world : World) (tally : Tally) :
    ∃ after message,
      (visitAll answers event payload recipients tally).run world =
          (.error (.other message), after) ∧
        after.attempts = world.attempts ++
          (answers.attempted recipients).map (answers.attempt payload) := by
  induction recipients generalizing world tally with
  | nil =>
      rcases escaped with ⟨recipient, member, _⟩
      cases member
  | cons recipient rest induction =>
      have round := visit_round answers event payload recipient world tally
      cases here : answers.escapes recipient with
      | true =>
          rcases round.escapes here with ⟨message, visited⟩
          refine ⟨world.attempted answers payload recipient, message, ?_, ?_⟩
          · rw [visitAll, Async.run_bind_of_error visited]
          · rw [Answers.attempted, here]
            rfl
      | false =>
          have later : ∃ other ∈ rest, answers.escapes other = true := by
            rcases escaped with ⟨other, member, holds⟩
            rcases List.mem_cons.mp member with rfl | later
            · rw [here] at holds
              cases holds
            · exact ⟨other, later, holds⟩
          rcases round.looped here with ⟨next, counted, visited, first⟩
          rcases induction later next counted with
            ⟨after, message, ran, attempts⟩
          refine ⟨after, message, ?_, ?_⟩
          · rw [visitAll, Async.run_bind_of_ok visited]
            exact ran
          · rw [attempts, first.attempts, List.append_assoc,
              Answers.attempted, here]
            rfl

/-- In either case the loop attempts those it gets to, in order. -/
theorem visitAll_attempts (answers : Answers) (event : TriggerFiredEvent)
    (payload : Json) (recipients : List PushRecipient) (world : World)
    (tally : Tally) :
    ((visitAll answers event payload recipients tally).run
        world).2.attempts = world.attempts ++
      (answers.attempted recipients).map (answers.attempt payload) := by
  by_cases escaped :
      ∃ recipient ∈ recipients, answers.escapes recipient = true
  · rcases visitAll_escaped event payload escaped world tally with
      ⟨after, message, ran, attempts⟩
    rw [ran]
    exact attempts
  · have stays : ∀ recipient ∈ recipients,
        answers.escapes recipient = false := by
      intro recipient member
      apply Bool.eq_false_iff.mpr
      exact fun holds => escaped ⟨recipient, member, holds⟩
    rcases visitAll_looped event payload stays world tally with
      ⟨after, counted, ran, looped⟩
    have everyone : answers.attempted recipients = recipients :=
      Answers.attempted_eq_self_iff.mpr fun recipient member =>
        stays recipient ((List.dropLast_sublist _).subset member)
    rw [ran, everyone]
    exact looped.attempts

/-! ## The whole call -/

/-- The world once others have written and the log has been read. -/
def World.opened (world : World) (answers : Answers) : World :=
  { world with db := answers.interference none world.db }

/-- The subscriptions a call has to push to. -/
def Answers.pending (answers : Answers) (event : TriggerFiredEvent)
    (world : World) (found : Subscriptions) : List PushRecipient :=
  pendingOf found
    (Notifier.deliveredDestinations .webPush event.eventId
      (world.opened answers).db)

/-- How a loop ends the call. -/
def Tally.ending (tally : Tally) : Except Failure Unit :=
  match tally.lastError with
  | some failure => .error failure
  | none =>
      if tally.delivered = 0 then
        .error (.permanent "All push subscriptions are invalid")
      else .ok ()

theorem conclude_run (tally : Tally) (world : World) :
    tally.conclude.run world = (tally.ending, world) := by
  rw [Tally.conclude, Tally.ending]
  cases tally.lastError with
  | some failure => rfl
  | none =>
      show Async.run (if tally.delivered = 0 then _ else _) world = _
      split <;> rfl

/-- Everything one call can do. -/
inductive Sent (answers : Answers) (event : TriggerFiredEvent)
    (world : World) : Except Failure Unit × World → Prop
  | unread {message : String}
      (rejected : answers.pushSubscriptions event.userId = .error message) :
      Sent answers event world (.error (.unreachable message), world)
  | nobody {found : Subscriptions}
      (read : answers.pushSubscriptions event.userId = .ok found)
      (none : found.rows = []) :
      Sent answers event world
        (.error (.permanent "User has no push subscriptions"), world)
  | unlogged {found : Subscriptions} {message : String}
      (read : answers.pushSubscriptions event.userId = .ok found)
      (some : found.rows ≠ [])
      (rejected : answers.deliveredDestinations = .some message) :
      Sent answers event world
        (.error (.unreachable message), world.opened answers)
  | done {found : Subscriptions}
      (read : answers.pushSubscriptions event.userId = .ok found)
      (some : found.rows ≠ []) (logged : answers.deliveredDestinations = none)
      (settled : answers.pending event world found = []) :
      Sent answers event world (.ok (), world.opened answers)
  | escaped {found : Subscriptions} {failure : Failure} {after : World}
      (read : answers.pushSubscriptions event.userId = .ok found)
      (some : found.rows ≠ []) (logged : answers.deliveredDestinations = none)
      (waiting : answers.pending event world found ≠ [])
      (ran : (visitAll answers event (payloadOf event)
        (answers.pending event world found) ⟨0, none⟩).run
          (world.opened answers) = (.error failure, after)) :
      Sent answers event world (.error failure, after)
  | looped {found : Subscriptions} {tally : Tally} {after : World}
      (read : answers.pushSubscriptions event.userId = .ok found)
      (some : found.rows ≠ []) (logged : answers.deliveredDestinations = none)
      (waiting : answers.pending event world found ≠ [])
      (ran : (visitAll answers event (payloadOf event)
        (answers.pending event world found) ⟨0, none⟩).run
          (world.opened answers) = (.ok tally, after)) :
      Sent answers event world (tally.ending, after)

theorem send_sent (answers : Answers) (event : TriggerFiredEvent)
    (world : World) :
    Sent answers event world ((send true answers event).run world) := by
  rw [send, if_pos rfl]
  cases read : answers.pushSubscriptions event.userId with
  | error message =>
      have first : (pushSubscriptions answers event.userId).run world =
          (.error (.unreachable message), world) := by
        simp only [pushSubscriptions, read]
      rw [Async.run_bind_of_error first]
      exact .unread read
  | ok found =>
      have first : (pushSubscriptions answers event.userId).run world =
          (.ok found, world) := by
        simp only [pushSubscriptions, read]
      rw [Async.run_bind_of_ok first]
      by_cases none : found.rows = []
      · rw [if_pos none]
        exact .nobody read none
      rw [if_neg none]
      cases logged : answers.deliveredDestinations with
      | some message =>
          have second : (readDestinations answers event).run world =
              (.error (.unreachable message), world.opened answers) := by
            simp only [readDestinations, logged, World.opened]
          rw [Async.run_bind_of_error second]
          exact .unlogged read none logged
      | none =>
          have second : (readDestinations answers event).run world =
              (.ok (deliveredDestinations .webPush event.eventId
                (world.opened answers).db), world.opened answers) := by
            simp only [readDestinations, logged, World.opened]
          rw [Async.run_bind_of_ok second]
          have named : pendingOf found (deliveredDestinations .webPush
              event.eventId (world.opened answers).db) =
                answers.pending event world found := rfl
          simp only [named]
          by_cases settled : answers.pending event world found = []
          · rw [if_pos settled]
            exact .done read none logged settled
          rw [if_neg settled]
          rcases ran : (visitAll answers event (payloadOf event)
            (answers.pending event world found) ⟨0, .none⟩).run
              (world.opened answers) with ⟨result, after⟩
          cases result with
          | error failure =>
              rw [Async.run_bind_of_error ran]
              exact .escaped read none logged settled ran
          | ok tally =>
              rw [Async.run_bind_of_ok ran, conclude_run]
              exact .looped read none logged settled ran

/-! ## Who is attempted -/

/-- The pushes of one call, in order. -/
def attemptsOf (answers : Answers) (event : TriggerFiredEvent)
    (world : World) : List Attempt :=
  ((send true answers event).run world).2.attempts.drop
    world.attempts.length

theorem pending_nodup (answers : Answers) (event : TriggerFiredEvent)
    (world : World) (found : Subscriptions) :
    (answers.pending event world found).Nodup :=
  (List.Nodup.of_map _ found.distinctIds).filter _

/-- A call whose reads resolve attempts those its loop gets to. -/
theorem Sent.attempts {result : Except Failure Unit × World}
    {found : Subscriptions} (sent : Sent answers event world result)
    (read : answers.pushSubscriptions event.userId = .ok found)
    (logged : answers.deliveredDestinations = none) :
    result.2.attempts = world.attempts ++
      (answers.attempted (answers.pending event world found)).map
        (answers.attempt (payloadOf event)) := by
  have loop := visitAll_attempts answers event (payloadOf event)
    (answers.pending event world found) (world.opened answers) ⟨0, none⟩
  cases sent with
  | unread rejected =>
      rw [read] at rejected
      cases rejected
  | nobody again none =>
      cases read.symm.trans again
      rw [Answers.pending, pendingOf, none]
      exact (List.append_nil _).symm
  | unlogged again some rejected =>
      rw [logged] at rejected
      cases rejected
  | done again some _ settled =>
      cases read.symm.trans again
      rw [settled]
      exact (List.append_nil _).symm
  | escaped again some _ waiting ran =>
      cases read.symm.trans again
      rw [ran] at loop
      exact loop
  | looped again some _ waiting ran =>
      cases read.symm.trans again
      rw [ran] at loop
      exact loop

theorem attemptsOf_eq {found : Subscriptions}
    (read : answers.pushSubscriptions event.userId = .ok found)
    (logged : answers.deliveredDestinations = none) :
    attemptsOf answers event world =
      (answers.attempted (answers.pending event world found)).map
        (answers.attempt (payloadOf event)) := by
  have attempts := (send_sent answers event world).attempts read logged
  rw [attemptsOf, attempts, List.drop_left]

/-- How often one call pushes to a recipient. -/
def pushCount (answers : Answers) (event : TriggerFiredEvent)
    (world : World) (recipient : PushRecipient) : Nat :=
  (attemptsOf answers event world).countP fun attempt =>
    attempt.recipient = recipient

theorem pushCount_eq {found : Subscriptions}
    (read : answers.pushSubscriptions event.userId = .ok found)
    (logged : answers.deliveredDestinations = none)
    (recipient : PushRecipient) :
    pushCount answers event world recipient =
      (answers.attempted (answers.pending event world found)).count
        recipient := by
  rw [pushCount, attemptsOf_eq read logged, List.countP_map]
  apply List.countP_congr
  intro other _
  show decide (other = recipient) = true ↔ (other == recipient) = true
  rw [decide_eq_true_eq, beq_iff_eq]

/--
A call attempts every pending subscription exactly once if and only if no
subscription before the last one is gone while deleting it rejects.
-/
theorem every_pending_attempted_once_iff (answers : Answers)
    (event : TriggerFiredEvent) (world : World) (found : Subscriptions)
    (read : answers.pushSubscriptions event.userId = .ok found)
    (logged : answers.deliveredDestinations = none) :
    (∀ recipient ∈ answers.pending event world found,
        pushCount answers event world recipient = 1) ↔
      ∀ recipient ∈ (answers.pending event world found).dropLast,
        answers.escapes recipient = false := by
  have distinct := pending_nodup answers event world found
  have visited := answers.attempted_prefix (answers.pending event world found)
  rw [← Answers.attempted_eq_self_iff]
  constructor
  · intro once
    apply visited.sublist.eq_of_length_le
    apply (List.subperm_of_subset distinct ?_).length_le
    intro recipient member
    apply List.count_pos_iff.mp
    rw [← pushCount_eq read logged, once recipient member]
    exact Nat.one_pos
  · intro everyone recipient member
    rw [pushCount_eq read logged, everyone]
    exact List.count_eq_one_of_mem distinct member

/-! ## A device that has gone and one that has not -/

def sampleAlert : TriggerFiredEvent where
  eventId := "e1"
  userId := "ann"
  triggerName := "Frost"
  city := "Oslo"
  conditions := [⟨.temperature, .lt, 0, -3⟩]
  conditionLogic := .and
  test := none

def device (name : String) : PushRecipient where
  id := name
  endpoint := "https://push/" ++ name
  p256dh := "p"
  auth := "a"

def twoDevices : Subscriptions where
  rows := [device "phone", device "laptop"]
  distinctIds := by decide
  distinctEndpoints := by decide

/-- The phone is gone, and its row too; the laptop would be reached. -/
def phoneGone : Answers where
  pushSubscriptions := fun _ => .ok twoDevices
  deliveredDestinations := none
  push := fun recipient =>
    if recipient.id = "phone" then some ⟨some 410, true, "Gone"⟩ else none
  markDelivered := fun _ => none
  removePushSubscription := fun _ => some "Record to delete does not exist."
  interference := fun _ db => db

def freshWorld : World where
  db := ⟨["ann"], [], []⟩
  attempts := []
  pruned := []

/-- The laptop is pending and is not attempted at all. -/
theorem pending_device_not_attempted :
    device "laptop" ∈ phoneGone.pending sampleAlert freshWorld twoDevices ∧
      pushCount phoneGone sampleAlert freshWorld (device "laptop") = 0 := by
  decide

/-- With the laptop first, both are attempted. -/
theorem every_pending_attempted_once_iff_gone_last :
    pushCount { phoneGone with
        pushSubscriptions := fun _ =>
          .ok ⟨[device "laptop", device "phone"], by decide, by decide⟩ }
      sampleAlert freshWorld (device "phone") = 1 := by
  apply (every_pending_attempted_once_iff
    { phoneGone with
      pushSubscriptions := fun _ =>
        .ok ⟨[device "laptop", device "phone"], by decide, by decide⟩ }
    sampleAlert freshWorld
    ⟨[device "laptop", device "phone"], by decide, by decide⟩ rfl rfl).mpr
  · decide
  · decide

end WeatherNotify.Notifier.WebPush

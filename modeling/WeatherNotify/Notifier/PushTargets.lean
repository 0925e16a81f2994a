import WeatherNotify.Accounts.PushHosts
import WeatherNotify.Accounts.SubscriptionTable
import WeatherNotify.Notifier.FanOut

/-!
# Where web pushes go

The subscriptions that the API stores are the ones the notifier posts to.  The
requests of the API, the deletions by others and the fan-outs of the notifier
run interleaved; a fan-out reads the table once and works with what it read,
however old that is by the time it pushes.
-/

namespace WeatherNotify.Notifier.WebPush.Targets

open WeatherNotify.PushSubscriptions
  (PushSubscription Keyed Registered OwnEndpoints Recorded Request
    ServedByPushService Urls)
open WeatherNotify.Transition

variable {n m : Nat}

/-! ## The table as the notifier reads it -/

/-- The columns a fan-out selects. -/
def recipientOf (row : PushSubscription) : PushRecipient where
  id := row.id
  endpoint := row.endpoint
  p256dh := row.p256dh
  auth := row.auth

def recipientsOf (table : List PushSubscription) (userId : String) :
    List PushRecipient :=
  (table.filter fun row => row.userId = userId).map recipientOf

/-- `pushSubscriptions`; ids and endpoints of the table are unique. -/
def subscriptionsOf (table : List PushSubscription) (userId : String) :
    Option Subscriptions :=
  if distinct : ((recipientsOf table userId).map PushRecipient.id).Nodup ∧
      ((recipientsOf table userId).map PushRecipient.endpoint).Nodup then
    some ⟨recipientsOf table userId, distinct.1, distinct.2⟩
  else none

/-! ## The two applications side by side -/

/-- What a fan-out has read, for the event it delivers. -/
structure FanOut where
  event : TriggerFiredEvent
  found : Subscriptions

/-- `pushed` collects the attempts of all fan-outs, with their events. -/
structure State (n m : Nat) where
  api : PushSubscriptions.State n
  fanOuts : Fin m → Option FanOut
  pushed : List (TriggerFiredEvent × Attempt)

/-- No subscription is stored and no fan-out is under way. -/
def State.start (n m : Nat) : State n m where
  api := PushSubscriptions.State.start n
  fanOuts := fun _ => none
  pushed := []

inductive Label (n m : Nat) where
  | request (label : PushSubscriptions.Label n)
  /-- A dead endpoint is pruned. -/
  | delete (id : String)
  /-- The rows of a deleted account go with it. -/
  | deleteUser (userId : String)
  | read (fanOut : Fin m) (event : TriggerFiredEvent)
  | send (fanOut : Fin m) (configured : Bool) (answers : Answers)
      (world : World)

def State.filtered (state : State n m) (keep : PushSubscription → Bool) :
    State n m :=
  { state with
    api := { state.api with table := state.api.table.filter keep } }

/-- The attempts a call adds to those of its world. -/
def FanOut.attempts (fanOut : FanOut) (configured : Bool) (answers : Answers)
    (world : World) : List Attempt :=
  ((send configured
    { answers with pushSubscriptions := fun _ => .ok fanOut.found }
    fanOut.event).run world).2.attempts.drop world.attempts.length

/-- A body the pipe refuses reaches no method. -/
def step (urls : Urls) (state : State n m) : Label n m → Option (State n m)
  | .request label =>
      if ∀ request ∈ label.action.submits, request.Valid urls then
        (PushSubscriptions.step state.api label).map fun api =>
          { state with api := api }
      else some state
  | .delete id => some (state.filtered fun row => row.id ≠ id)
  | .deleteUser userId => some (state.filtered fun row => row.userId ≠ userId)
  | .read fanOut event =>
      (subscriptionsOf state.api.table event.userId).map fun found =>
        { state with
          fanOuts := Function.update state.fanOuts fanOut
            (some ⟨event, found⟩) }
  | .send fanOut configured answers world =>
      (state.fanOuts fanOut).map fun read =>
        { state with
          fanOuts := Function.update state.fanOuts fanOut none
          pushed := state.pushed ++
            (read.attempts configured answers world).map
              fun attempt => (read.event, attempt) }

def machine (urls : Urls) (n m : Nat) : Machine (State n m) (Label n m) where
  step := step urls

/-! ## Reads -/

theorem mem_recipientsOf {table : List PushSubscription} {userId : String}
    {recipient : PushRecipient} :
    recipient ∈ recipientsOf table userId ↔
      ∃ row ∈ table, row.userId = userId ∧ recipientOf row = recipient := by
  simp only [recipientsOf, List.mem_map, List.mem_filter, decide_eq_true_eq,
    and_assoc]

theorem rows_of_subscriptionsOf {table : List PushSubscription}
    {userId : String} {found : Subscriptions}
    (read : subscriptionsOf table userId = some found) :
    found.rows = recipientsOf table userId := by
  unfold subscriptionsOf at read
  split at read
  · cases read
    rfl
  · cases read

/-- As long as the keys are unique, every read succeeds. -/
theorem subscriptionsOf_isSome {table : List PushSubscription}
    (keyed : Keyed table) (userId : String) :
    (subscriptionsOf table userId).isSome = true := by
  have kept := keyed.filter fun row => row.userId = userId
  have distinct : ((recipientsOf table userId).map PushRecipient.id).Nodup ∧
      ((recipientsOf table userId).map PushRecipient.endpoint).Nodup := by
    unfold recipientsOf
    rw [List.map_map, List.map_map]
    exact ⟨kept.ids, kept.endpoints⟩
  rw [subscriptionsOf, dif_pos distinct]
  rfl

/-! ## What a fan-out attempts -/

/-- A call that has read its subscriptions pushes to no other. -/
theorem attempts_of_sent {answers : Answers} {event : TriggerFiredEvent}
    {world : World} {result : Except Failure Unit × World}
    {found : Subscriptions} (sent : Sent answers event world result)
    (read : answers.pushSubscriptions event.userId = .ok found) :
    ∃ visited, visited ⊆ found.rows ∧
      result.2.attempts = world.attempts ++
        visited.map (answers.attempt (payloadOf event)) := by
  cases logged : answers.deliveredDestinations with
  | none =>
      refine ⟨_, fun recipient member => ?_, sent.attempts read logged⟩
      have waiting := (answers.attempted_prefix _).subset member
      exact List.mem_of_mem_filter waiting
  | some message =>
      refine ⟨[], List.nil_subset _, ?_⟩
      rw [List.map_nil, List.append_nil]
      cases sent with
      | unread rejected => rfl
      | nobody again none => rfl
      | unlogged again some rejected => rfl
      | done again some resolved settled =>
          rw [logged] at resolved
          cases resolved
      | escaped again some resolved waiting ran =>
          rw [logged] at resolved
          cases resolved
      | looped again some resolved waiting ran =>
          rw [logged] at resolved
          cases resolved

theorem recipient_mem_of_attempts {fanOut : FanOut} {configured : Bool}
    {answers : Answers} {world : World} {attempt : Attempt}
    (member : attempt ∈ fanOut.attempts configured answers world) :
    attempt.recipient ∈ fanOut.found.rows := by
  unfold FanOut.attempts at member
  cases configured with
  | false =>
      -- without the keys the call rejects before it reads anything
      have nothing : attempt ∈
          world.attempts.drop world.attempts.length := member
      rw [List.drop_length] at nothing
      cases nothing
  | true =>
      have sent := send_sent
        { answers with pushSubscriptions := fun _ => .ok fanOut.found }
        fanOut.event world
      rcases attempts_of_sent sent rfl with ⟨visited, among, attempts⟩
      rw [attempts, List.drop_left] at member
      rcases List.mem_map.mp member with ⟨recipient, reached, rfl⟩
      exact among reached

/-! ## Every run -/

/-- What a fan-out has read was registered by the user it delivers to. -/
def Warranted (submitted : List Request) (reading : Option FanOut) : Prop :=
  ∀ read ∈ reading, ∀ recipient ∈ read.found.rows,
    Registered submitted read.event.userId recipient.endpoint

/-- What is stored, read or pushed to was registered by its user. -/
structure Guarded (urls : Urls) (state : State n m) : Prop where
  keyed : Keyed state.api.table
  recorded : Recorded state.api
  valid : ∀ request ∈ state.api.submitted, request.Valid urls
  stored : OwnEndpoints state.api.submitted state.api.table
  found : ∀ fanOut, Warranted state.api.submitted (state.fanOuts fanOut)
  pushed : ∀ entry ∈ state.pushed,
    Registered state.api.submitted entry.1.userId
      entry.2.recipient.endpoint

variable {urls : Urls} {source target : State n m}

theorem guarded_start (urls : Urls) (n m : Nat) :
    Guarded urls (State.start n m) where
  keyed := Keyed.nil
  recorded := PushSubscriptions.recorded_start n
  valid := List.forall_mem_nil _
  stored := List.forall_mem_nil _
  found _ read reading := by cases reading
  pushed := List.forall_mem_nil _

theorem Guarded.filtered (guarded : Guarded urls source)
    (keep : PushSubscription → Bool) :
    Guarded urls (source.filtered keep) where
  keyed := guarded.keyed.filter keep
  recorded := guarded.recorded
  valid := guarded.valid
  stored := guarded.stored.filter keep
  found := guarded.found
  pushed := guarded.pushed

/-- A request adds to what was submitted, and only what the pipe let in. -/
theorem Guarded.request (guarded : Guarded urls source)
    {label : PushSubscriptions.Label n} {api : PushSubscriptions.State n}
    (accepted : ∀ request ∈ label.action.submits, request.Valid urls)
    (stepped : PushSubscriptions.step source.api label = some api) :
    Guarded urls { source with api := api } := by
  rcases PushSubscriptions.advanced_of_step stepped with
    ⟨next, -, submitted, advanced⟩
  have grown : ∀ {userId endpoint : String},
      Registered source.api.submitted userId endpoint →
        Registered api.submitted userId endpoint := by
    intro userId endpoint registered
    rw [submitted]
    exact registered.append _
  exact
    { keyed := PushSubscriptions.keyed_step stepped guarded.keyed
      recorded := PushSubscriptions.recorded_step stepped guarded.recorded
      valid := by
        rw [submitted]
        exact List.forall_mem_append.mpr ⟨accepted, guarded.valid⟩
      stored := by
        rw [submitted]
        exact PushSubscriptions.ownEndpoints_of_advanced advanced
          (guarded.recorded label.request) guarded.stored
      found := fun fanOut read reading recipient member =>
        grown (guarded.found fanOut read reading recipient member)
      pushed := fun entry member => grown (guarded.pushed entry member) }

theorem Guarded.read (guarded : Guarded urls source) {fanOut : Fin m}
    {event : TriggerFiredEvent} {found : Subscriptions}
    (read : subscriptionsOf source.api.table event.userId = some found) :
    Guarded urls { source with
      fanOuts := Function.update source.fanOuts fanOut
        (some ⟨event, found⟩) } where
  keyed := guarded.keyed
  recorded := guarded.recorded
  valid := guarded.valid
  stored := guarded.stored
  found := by
    refine (Function.forall_update_iff source.fanOuts fun _ =>
      Warranted source.api.submitted).mpr
        ⟨?_, fun other _ => guarded.found other⟩
    rintro _ ⟨⟩ recipient member
    rw [rows_of_subscriptionsOf read] at member
    rcases mem_recipientsOf.mp member with ⟨row, stored, owner, rfl⟩
    exact owner ▸ guarded.stored row stored
  pushed := guarded.pushed

theorem Guarded.send (guarded : Guarded urls source) {fanOut : Fin m}
    {configured : Bool} {answers : Answers} {world : World} {read : FanOut}
    (reading : source.fanOuts fanOut = some read) :
    Guarded urls { source with
      fanOuts := Function.update source.fanOuts fanOut none
      pushed := source.pushed ++ (read.attempts configured answers world).map
        fun attempt => (read.event, attempt) } where
  keyed := guarded.keyed
  recorded := guarded.recorded
  valid := guarded.valid
  stored := guarded.stored
  found := by
    refine (Function.forall_update_iff source.fanOuts fun _ =>
      Warranted source.api.submitted).mpr
        ⟨?_, fun other _ => guarded.found other⟩
    rintro _ ⟨⟩
  pushed := by
    refine List.forall_mem_append.mpr ⟨guarded.pushed, ?_⟩
    intro entry member
    rcases List.mem_map.mp member with ⟨attempt, made, rfl⟩
    exact guarded.found fanOut read reading _
      (recipient_mem_of_attempts made)

theorem guarded_step {label : Label n m}
    (stepped : (machine urls n m).step source label = some target)
    (guarded : Guarded urls source) : Guarded urls target := by
  cases label with
  | request label =>
      change (if ∀ request ∈ label.action.submits, request.Valid urls then
        (PushSubscriptions.step source.api label).map fun api =>
          { source with api := api }
        else some source) = some target at stepped
      split at stepped
      next accepted =>
        rcases Option.map_eq_some_iff.mp stepped with ⟨api, moved, rfl⟩
        exact guarded.request accepted moved
      next =>
        cases stepped
        exact guarded
  | delete id =>
      cases stepped
      exact guarded.filtered _
  | deleteUser userId =>
      cases stepped
      exact guarded.filtered _
  | read fanOut event =>
      rcases Option.map_eq_some_iff.mp stepped with ⟨found, read, rfl⟩
      exact guarded.read read
  | send fanOut configured answers world =>
      rcases Option.map_eq_some_iff.mp stepped with ⟨read, reading, rfl⟩
      exact guarded.send reading

/--
In every run of the API beside the fan-outs each alert is posted to an
endpoint that its own user registered and whose host is a push service's or
below one, and the subscriptions of any user can be read in every state.
-/
theorem pushes_stay_at_push_services {final : State n m}
    (urls : Urls) (labels : List (Label n m))
    (reached : (machine urls n m).run (State.start n m) labels =
      some final) :
    (∀ userId, (subscriptionsOf final.api.table userId).isSome = true) ∧
      ∀ entry ∈ final.pushed,
        Registered final.api.submitted entry.1.userId
            entry.2.recipient.endpoint ∧
          ServedByPushService urls entry.2.recipient.endpoint := by
  have guarded : Guarded urls final :=
    Machine.run_preserves (Guarded urls) guarded_step
      (guarded_start urls n m) reached
  refine ⟨subscriptionsOf_isSome guarded.keyed, fun entry member => ?_⟩
  have registered := guarded.pushed entry member
  rcases registered with ⟨keys, submitted⟩
  exact ⟨⟨keys, submitted⟩,
    PushSubscriptions.servedByPushService_of_valid
      (guarded.valid _ submitted)⟩

/-! ## An endpoint of somebody else -/

/-- A host that only looks like a push service's. -/
def lookalike : String :=
  "https://push.apple.com.attacker.tld/send"

/-- The two texts of the example, read as URLs. -/
def sampleUrls : Urls where
  isUrl value := value = PushSubscriptions.endpoint || value = lookalike
  hostname value :=
    [(PushSubscriptions.endpoint, "fcm.googleapis.com"),
      (lookalike, "push.apple.com.attacker.tld")].lookup value

/-- The pipe refuses the lookalike; the other endpoint is registered. -/
def registrations (first second : Fin n) : List (Label n m) :=
  [.request ⟨first, .receive (.add "ann" ⟨lookalike, ⟨"p", "a"⟩⟩)⟩,
    .request ⟨second, .receive (.add "ann" ⟨PushSubscriptions.endpoint,
      ⟨"p", "a"⟩⟩)⟩,
    .request ⟨second, .execute⟩, .request ⟨second, .upsert "s1" 0⟩]

/-- Every push is accepted. -/
def accepting : Answers where
  pushSubscriptions := fun _ => .error "unread"
  deliveredDestinations := none
  push := fun _ => none
  markDelivered := fun _ => none
  removePushSubscription := fun _ => none
  interference := fun _ db => db

/-- The row is pruned between the read and the push. -/
def alerting (first second : Fin n) (fanOut : Fin m) : List (Label n m) :=
  registrations first second ++
    [.read fanOut sampleAlert, .delete "s1",
      .send fanOut true accepting freshWorld]

theorem alert_stays_at_push_services :
    ∃ final, (machine sampleUrls 2 1).run (State.start 2 1) (alerting 0 1 0) =
        some final ∧
      final.pushed.length = 1 ∧
        ∀ entry ∈ final.pushed,
          ServedByPushService sampleUrls entry.2.recipient.endpoint := by
  have pushed : ((machine sampleUrls 2 1).run (State.start 2 1)
      (alerting 0 1 0)).map (fun final => final.pushed.length) = some 1 := by
    decide +kernel
  rcases Option.map_eq_some_iff.mp pushed with ⟨final, reached, once⟩
  refine ⟨final, reached, once, fun entry member => ?_⟩
  have stays := pushes_stay_at_push_services sampleUrls (alerting 0 1 0)
    reached
  exact (stays.2 entry member).2

end WeatherNotify.Notifier.WebPush.Targets

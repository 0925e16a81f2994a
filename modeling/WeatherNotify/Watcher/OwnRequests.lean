import WeatherNotify.Triggers.Ownership
import WeatherNotify.Watcher.ApiView

/-!
# What a user sees of the others

A user's triggers, and the answers to this user's requests, are those of the
run in which nobody else has sent a request and no watcher has run.
-/

namespace WeatherNotify.Watcher.Firing

open WeatherNotify.Domain
open WeatherNotify.Transition
open WeatherNotify.Triggers

variable {n : Nat} {round : Rat → Rat} {zones : Zones}
variable {senders : Fin n → Option String} {state target : State n}

/-- Every request works on ids that belong to the user who sent it. -/
structure Attributable (senders : Fin n → Option String) (state : State n) :
    Prop where
  registered : Registered state
  belongs : ∀ slot user, senders slot = some user →
    (state.requests slot).BelongsTo user
      fun id => (id, user) ∈ state.owners
  idle : ∀ slot, senders slot = none → state.requests slot = .waiting

/-- The labels say whose requests they bring. -/
def Tells (senders : Fin n → Option String) (label : Label n) : Prop :=
  ∀ move, label.api = some move → ∀ user,
    move.opens = some (move.request, user) →
      senders move.request = some user

/-- An id has one owner, so a row that carries it has this owner. -/
theorem Registered.heldBy (registered : Registered state)
    {user id : String} (owned : (id, user) ∈ state.owners) :
    HeldBy state.api.table user id := by
  intro columns member same
  obtain ⟨row, stored, rfl⟩ := List.mem_map.mp member
  exact congrArg Prod.snd (List.inj_on_of_nodup_map registered.owners
    (registered.owned row stored) owned same)

theorem Attributable.attributed (attributable : Attributable senders state)
    {label : Triggers.Label n} {ids : List String}
    (tells : Tells senders (.request label ids))
    (fresh : Fresh state ids (state.requests label.request) label.action) :
    Attributed senders state.api label where
  belongs user sent :=
    (attributable.belongs label.request user sent).mono
      fun _ owned => attributable.registered.heldBy owned
  idle := attributable.idle label.request
  opened := tells label rfl
  unused userId dto id inserting drawn columns member := by
    obtain ⟨row, stored, rfl⟩ := List.mem_map.mp member
    rintro rfl
    have recorded : (row.id, userId) ∈
        ownerOf (state.requests label.request) label.action := by
      show _ ∈ ownerOf (state.api.requests label.request) label.action
      rw [inserting, drawn]
      exact List.mem_singleton_self _
    exact fresh.1 _ recorded
      (List.mem_map.mpr
        ⟨_, attributable.registered.owned row stored, rfl⟩)

theorem attributable_request (attributable : Attributable senders state)
    {label : Triggers.Label n} {ids : List String} {phase : Triggers.Phase}
    {table : List Triggers.TriggerRow}
    (tells : Tells senders (.request label ids))
    (fresh : Fresh state ids (state.requests label.request) label.action)
    (advanced : Triggers.advance round
      (state.triggers.map StoredTrigger.columns)
      (state.requests label.request) label.action = some (phase, table)) :
    Attributable senders { state with
      triggers := statement round state.triggers ids
        (state.requests label.request) label.action
      requests := Function.update state.requests label.request phase
      batches := state.batches ++
        batchOf ids (state.requests label.request) label.action
      owners := state.owners ++
        ownerOf (state.requests label.request) label.action } := by
  have attributed := attributable.attributed tells fresh
  refine ⟨registered_request attributable.registered fresh, ?_, ?_⟩
  · intro slot user sent
    show (Function.update state.requests label.request phase slot).BelongsTo
      user fun id => (id, user) ∈ state.owners ++ _
    rw [Function.update_apply]
    split
    case isTrue same =>
      rw [same] at sent
      have found : phase.BelongsTo user
          fun id => (id, user) ∈ state.owners := by
        refine (attributable.belongs label.request user sent).next
          (attributed.receives sent) ?_ advanced
        intro columns member own
        obtain ⟨row, stored, rfl⟩ := List.mem_map.mp member
        have owned := attributable.registered.owned row stored
        rwa [show row.userId = user from own] at owned
      exact found.mono fun _ owned => List.mem_append_left _ owned
    case isFalse =>
      exact (attributable.belongs slot user sent).mono
        fun _ owned => List.mem_append_left _ owned
  · intro slot unsent
    show Function.update state.requests label.request phase slot = _
    rw [Function.update_apply]
    split
    case isTrue same =>
      obtain ⟨user, sent⟩ := attributed.exists_sender advanced
      rw [same, sent] at unsent
      cases unsent
    case isFalse => exact attributable.idle slot unsent

theorem attributable_step {label : Label n} (tells : Tells senders label)
    (stepped : (machine round zones n).step state label = some target)
    (attributable : Attributable senders state) :
    Attributable senders target := by
  have registered := registered_step stepped attributable.registered
  cases stepped_of_step stepped with
  | request fresh advanced =>
      exact attributable_request attributable tells fresh advanced
  | updateProfile | findActive | processTrigger | skipped | committed
  | rejected | fail =>
      exact ⟨registered, attributable.belongs, attributable.idle⟩

/-! ## The run -/

/-- The steps of a user's own requests. -/
def Label.own (senders : Fin n → Option String) (user : String)
    (label : Label n) : Option (Triggers.Label n) :=
  label.api.filter fun move => senders move.request = some user

theorem own_step {user : String} {label : Label n}
    (tells : Tells senders label) (attributable : Attributable senders state)
    (stepped : (machine round zones n).step state label = some target) :
    (∀ move, label.own senders user = some move →
        (Triggers.machine n round).step (state.api.seenBy senders user) move =
          some (target.api.seenBy senders user)) ∧
      (label.own senders user = none →
        target.api.seenBy senders user = state.api.seenBy senders user) := by
  have shown := api_step stepped
  cases stepped_of_step stepped with
  | @request label ids phase table fresh advanced =>
      have attributed := attributable.attributed tells fresh
      have moved := shown.1 label rfl
      by_cases sent : senders label.request = some user
      · have own : Label.own senders user (.request label ids) =
            some label :=
          Option.filter_some_pos (decide_eq_true sent)
        rw [own]
        refine ⟨fun move same => ?_, fun missing => (by cases missing)⟩
        cases same
        exact step_seenBy attributed sent moved
      · have own : Label.own senders user (.request label ids) = none :=
          Option.filter_some_neg (decide_eq_false sent)
        rw [own]
        refine ⟨fun move same => (by cases same), fun _ => ?_⟩
        exact seenBy_step_of_ne attributed sent moved
  | updateProfile | findActive | processTrigger | skipped | committed
  | rejected | fail =>
      refine ⟨fun move same => (by cases same), fun _ => ?_⟩
      rw [shown.2 rfl]

theorem seenBy_empty (profiles : String → QuietHours) (clock : Int)
    (senders : Fin n → Option String) (user : String) :
    (State.empty n profiles clock).api.seenBy senders user =
      Triggers.State.start n [] :=
  congrArg (Triggers.State.mk []) (Machine.ownSlots_idle senders user _)

def annSlot : Fin 2 :=
  ⟨0, Nat.zero_lt_two⟩

def bobSlot : Fin 2 :=
  Fin.last 1

/-- One user creates a trigger, and another asks to delete it by its id. -/
def pryingRequests : List (Label 2) :=
  [.request ⟨annSlot, .receive (.create "ann" heatDto)⟩ [],
    .request ⟨annSlot, .verified true⟩ [],
    .request ⟨annSlot, .execute⟩ [],
    .request ⟨annSlot, .insert "t"⟩ ["c"],
    .request ⟨bobSlot, .receive (.delete "bob" "t")⟩ [],
    .request ⟨bobSlot, .execute⟩ []]

end WeatherNotify.Watcher.Firing

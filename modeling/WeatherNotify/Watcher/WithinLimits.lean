import WeatherNotify.Triggers.Validation
import WeatherNotify.Watcher.ApiView
import WeatherNotify.Watcher.StagedEvents

/-!
# What the watchers work on is within the limits of the API

The watchers read rows that the API has written from validated bodies, and an
evaluation keeps what it has read while the row is edited or dropped.  So each
firing lists one to five conditions and goes out on one to three channels, and
the outbox has exactly one row for each of them.
-/

namespace WeatherNotify.Watcher.Firing

open WeatherNotify.Contracts
open WeatherNotify.Domain
open WeatherNotify.Transition
open WeatherNotify.Triggers

variable {n : Nat} {round : Rat → Rat} {zones : Zones}

/-! ## The triggers under evaluation -/

/-- A trigger as it was read, within the limits. -/
structure WatchedTrigger.Bounded (trigger : WatchedTrigger) : Prop where
  name : ValidName trigger.name
  city : ValidCity trigger.city
  latitude : ValidLatitude trigger.latitude
  longitude : ValidLongitude trigger.longitude
  conditions : ValidConditions trigger.conditions
  channels : ValidChannels trigger.channels
  cooldownMin : ValidCooldownMin trigger.cooldownMin

/-- Mapping a list over leaves how many there are. -/
theorem validConditions_map {Condition Other : Type} {change : Condition → Other}
    {conditions : List Condition} :
    ValidConditions (conditions.map change) ↔ ValidConditions conditions := by
  unfold ValidConditions
  rw [ne_eq, List.map_eq_nil_iff, List.length_map]

theorem bounded_watched {row : StoredTrigger}
    (wellFormed : row.columns.WellFormed) (quietHours : QuietHours) :
    (row.watched quietHours).Bounded where
  name := wellFormed.name
  city := wellFormed.city
  latitude := wellFormed.latitude
  longitude := wellFormed.longitude
  conditions := validConditions_map.mpr
    (validConditions_map.mp wellFormed.conditions)
  channels := wellFormed.channels
  cooldownMin := wellFormed.cooldownMin

/-- Triggers come under evaluation when a cycle reads them. -/
theorem evaluations_step {source target : State n} {label : Label n}
    (stepped : (machine round zones n).step source label = some target)
    {trigger : WatchedTrigger} (member : trigger ∈ target.evaluations) :
    trigger ∈ source.evaluations ∨
      ∃ buckets,
        trigger ∈ findActive source.triggers source.profiles buckets := by
  cases stepped_of_step stepped with
  | request fresh advanced => exact Or.inl member
  | updateProfile userId quietHours => exact Or.inl member
  | findActive buckets =>
      rcases mem_evaluations.mp member with held | other
      · rcases List.mem_append.mp held with old | new
        · exact Or.inl (mem_evaluations.mpr (Or.inl old))
        · exact Or.inr ⟨buckets, new⟩
      · exact Or.inl (mem_evaluations.mpr (Or.inr other))
  | @processTrigger index taken found =>
      left
      rcases mem_evaluations.mp member with held |
        ⟨processing, writing, same⟩ | committed
      · exact mem_evaluations.mpr (Or.inl (List.mem_of_mem_eraseIdx held))
      · rcases List.mem_append.mp writing with old | new
        · exact mem_evaluations.mpr (Or.inr (Or.inl ⟨processing, old, same⟩))
        · rw [List.mem_singleton.mp new] at same
          rw [← same]
          exact mem_evaluations.mpr (Or.inl (List.mem_of_getElem? found))
      · exact mem_evaluations.mpr (Or.inr (Or.inr committed))
  | skipped found =>
      left
      rcases mem_evaluations.mp member with held | other
      · exact mem_evaluations.mpr (Or.inl (List.mem_of_mem_eraseIdx held))
      · exact mem_evaluations.mpr (Or.inr other)
  | committed found applied =>
      left
      rcases mem_evaluations.mp member with held |
        ⟨other, writing, same⟩ | ⟨other, committed, same⟩
      · exact mem_evaluations.mpr (Or.inl held)
      · exact mem_evaluations.mpr (Or.inr (Or.inl
          ⟨other, List.mem_of_mem_eraseIdx writing, same⟩))
      · rcases List.mem_cons.mp committed with rfl | old
        · exact mem_evaluations.mpr (Or.inr (Or.inl
            ⟨other, List.mem_of_getElem? found, same⟩))
        · exact mem_evaluations.mpr (Or.inr (Or.inr ⟨other, old, same⟩))
  | rejected found refused | fail found =>
      left
      rcases mem_evaluations.mp member with held |
        ⟨other, writing, same⟩ | committed
      · exact mem_evaluations.mpr (Or.inl held)
      · exact mem_evaluations.mpr (Or.inr (Or.inl
          ⟨other, List.mem_of_mem_eraseIdx writing, same⟩))
      · exact mem_evaluations.mpr (Or.inr (Or.inr committed))

/-! ## The invariant -/

/-- The body of a request that arrives has passed the pipe. -/
def Label.Valid : Label n → Prop
  | .request label _ => label.action.Valid
  | _ => True

instance : DecidablePred (Label.Valid : Label n → Prop)
  | .request label _ => inferInstanceAs (Decidable label.action.Valid)
  | .updateProfile _ _ | .findActive _ | .processTrigger _ _ _ | .skip _
  | .commit _ | .fail _ => isTrue trivial

structure Limited (state : State n) : Prop where
  api : state.api.WellFormed
  evaluations : ∀ trigger ∈ state.evaluations, trigger.Bounded

theorem limited_empty (profiles : String → QuietHours) (clock : Int) :
    Limited (State.empty n profiles clock) where
  api := ⟨List.forall_mem_nil _, fun _ => trivial⟩
  evaluations := List.forall_mem_nil _

theorem Limited.wellFormed {state : State n} (limited : Limited state)
    {row : StoredTrigger} (member : row ∈ state.triggers) :
    row.columns.WellFormed :=
  limited.api.table _ (List.mem_map_of_mem member)

theorem limited_step {source target : State n} {label : Label n}
    (valid : label.Valid)
    (stepped : (machine round zones n).step source label = some target)
    (limited : Limited source) : Limited target := by
  constructor
  · obtain ⟨shown, hidden⟩ := api_step stepped
    cases label with
    | request move ids => exact limited.api.step valid (shown move rfl)
    | updateProfile | findActive | processTrigger | skip | commit | fail =>
        rw [hidden rfl]
        exact limited.api
  · intro trigger member
    rcases evaluations_step stepped member with before | ⟨buckets, read⟩
    · exact limited.evaluations trigger before
    · rcases List.mem_map.mp read with ⟨row, listed, rfl⟩
      exact bounded_watched
        (limited.wellFormed (List.mem_filter.mp listed).1) _

/-! ## The rows of one event -/

theorem nodup_messages {processing : Processing}
    (fires : processing.fires round zones = true)
    (channels : processing.trigger.channels.Nodup) :
    (processing.messages round zones).Nodup := by
  unfold Processing.messages
  rw [if_pos fires]
  refine channels.map fun left right same => ?_
  exact routingKeyFor_injective (congrArg OutboxMessage.routingKey same)

/-- An event has one row for each channel it lists, and no other. -/
theorem count_of_staged {state : State n} (staged : Staged round zones state)
    {processing : Processing} (committed : processing ∈ state.committed)
    (fires : processing.fires round zones = true)
    (channels : processing.trigger.channels.Nodup) :
    (state.outbox.filter fun message =>
        message.eventId = processing.readings.eventId).length =
      processing.trigger.channels.length := by
  have own : ∀ message, message ∈ (state.outbox.filter fun message =>
      message.eventId = processing.readings.eventId) ↔
        message ∈ processing.messages round zones := by
    intro message
    rw [List.mem_filter, decide_eq_true_iff]
    constructor
    · rintro ⟨stored, same⟩
      rcases staged.genuine message stored with ⟨other, inside, listed⟩
      have equal : other.readings.eventId = processing.readings.eventId :=
        (eventId_of_mem_messages listed).symm.trans same
      have unique : other = processing :=
        List.inj_on_of_nodup_map staged.drawn
          (List.mem_append_right _ inside)
          (List.mem_append_right _ committed) equal
      rw [← unique]
      exact listed
    · exact fun listed => ⟨staged.complete processing committed message listed,
        eventId_of_mem_messages listed⟩
  have distinct : (state.outbox.filter fun message =>
      message.eventId = processing.readings.eventId).Nodup :=
    (List.Nodup.of_map _ staged.keys).filter _
  have rows := (List.perm_ext_iff_of_nodup distinct
    (nodup_messages fires channels)).mpr own
  rw [rows.length_eq, Processing.messages, if_pos fires, List.length_map]

/-! ## Runs -/

/-- One client's trigger is narrowed after a cycle has read it. -/
def narrowedHeat : List (Label 2) :=
  [.request ⟨⟨0, Nat.zero_lt_two⟩, .receive (.create "u" heatDto)⟩ [],
    .request ⟨⟨0, Nat.zero_lt_two⟩, .verified true⟩ [],
    .request ⟨⟨0, Nat.zero_lt_two⟩, .execute⟩ [],
    .request ⟨⟨0, Nat.zero_lt_two⟩, .insert "t"⟩ ["c"], .findActive none,
    .request ⟨Fin.last 1, .receive (.update "u" "t"
      { channels := .given [.email], cooldownMin := .given 10 })⟩ [],
    .request ⟨Fin.last 1, .execute⟩ [], .request ⟨Fin.last 1, .execute⟩ [],
    .processTrigger 0 hotDay ⟨0, 1, 2, "e"⟩, .commit 0]

end WeatherNotify.Watcher.Firing

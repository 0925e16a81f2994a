import Mathlib.Data.List.Nodup
import WeatherNotify.Accounts.SubscriptionKeys

/-!
# What the table of subscriptions keeps

Both keys of the table stay unique whatever the requests do, and every row
stands for an endpoint that its owner once submitted.  The keys a row carries
may be another's, its endpoint and owner never are.
-/

namespace WeatherNotify.PushSubscriptions

open WeatherNotify.Transition

variable {n : Nat} {table written : List PushSubscription}

/-! ## Unique keys -/

/-- No two rows share an id or an endpoint. -/
structure Keyed (table : List PushSubscription) : Prop where
  ids : (table.map PushSubscription.id).Nodup
  endpoints : (table.map PushSubscription.endpoint).Nodup

theorem Keyed.nil : Keyed [] :=
  ⟨List.nodup_nil, List.nodup_nil⟩

theorem Keyed.filter (keyed : Keyed table) (keep : PushSubscription → Bool) :
    Keyed (table.filter keep) where
  ids := keyed.ids.sublist (List.filter_sublist.map _)
  endpoints := keyed.endpoints.sublist (List.filter_sublist.map _)

/-- An overwrite changes neither key of a row. -/
theorem Keyed.updateKeys (keyed : Keyed table)
    (dto : CreatePushSubscriptionDto) : Keyed (updateKeys table dto) := by
  have kept : ∀ {Column : Type} (column : PushSubscription → Column),
      (∀ row : PushSubscription, column (row.updated dto.keys) = column row) →
        (PushSubscriptions.updateKeys table dto).map column =
          table.map column := by
    intro Column column unchanged
    rw [PushSubscriptions.updateKeys, List.map_map]
    apply List.map_congr_left
    intro row _
    rw [Function.comp_apply, apply_ite column, unchanged, ite_self]
  constructor
  · rw [kept PushSubscription.id fun _ => rfl]
    exact keyed.ids
  · rw [kept PushSubscription.endpoint fun _ => rfl]
    exact keyed.endpoints

theorem Keyed.insert (keyed : Keyed table) {row : PushSubscription}
    (id : ∀ other ∈ table, other.id ≠ row.id)
    (endpoint : Unregistered table row.endpoint) :
    Keyed (table ++ [row]) := by
  have extended : ∀ {Column : Type} (column : PushSubscription → Column),
      (table.map column).Nodup →
        (∀ other ∈ table, column other ≠ column row) →
          ((table ++ [row]).map column).Nodup := by
    intro Column column distinct fresh
    rw [List.map_append, List.map_singleton]
    refine List.nodup_append.mpr ⟨distinct, List.nodup_singleton _, ?_⟩
    intro value member new same
    rcases List.mem_map.mp member with ⟨other, stored, rfl⟩
    rw [List.mem_singleton.mp same]
    exact fresh other stored
  exact ⟨extended _ keyed.ids id, extended _ keyed.endpoints endpoint⟩

theorem Keyed.upsert (keyed : Keyed table) {userId id : String}
    {createdAt : Nat} {dto : CreatePushSubscriptionDto}
    {saved : PushSubscription}
    (accepted : upsert table userId id createdAt dto =
      some (saved, written)) :
    Keyed written := by
  unfold PushSubscriptions.upsert at accepted
  cases found : findUnique table dto.endpoint with
  | some row =>
      rw [found] at accepted
      cases accepted
      exact keyed.updateKeys dto
  | none =>
      rw [found] at accepted
      dsimp only at accepted
      split at accepted
      · cases accepted
      next fresh =>
        cases accepted
        refine keyed.insert (fun other member same => fresh ?_)
          (unregistered_of_findUnique found)
        exact List.any_eq_true.mpr ⟨other, member, decide_eq_true same⟩

theorem keyed_of_advance {phase next : Phase} {action : Action}
    (keyed : Keyed table)
    (moved : advance table phase action = some (next, written)) :
    Keyed written := by
  unfold advance at moved
  split at moved
  case h_1 | h_7 =>
    cases moved
    exact keyed
  case h_2 userId dto =>
    split at moved
    · cases moved
      exact keyed
    · split at moved <;> cases moved <;> exact keyed
  case h_3 userId dto id createdAt =>
    split at moved
    · cases moved
      exact keyed
    next saved stored accepted =>
      cases moved
      exact keyed.upsert accepted
  case h_4 userId dto =>
    cases moved
    exact keyed.filter _
  case h_5 | h_6 | h_8 => cases moved

theorem keyed_step {source target : State n} {label : Label n}
    (stepped : step source label = some target)
    (keyed : Keyed source.table) : Keyed target.table := by
  rcases Option.map_eq_some_iff.mp stepped with ⟨⟨next, written⟩, moved, rfl⟩
  exact keyed_of_advance keyed moved

/-! ## Owners and their endpoints -/

/-- The user has asked for alerts at the endpoint. -/
def Registered (submitted : List Request) (userId endpoint : String) : Prop :=
  ∃ keys, Request.add userId ⟨endpoint, keys⟩ ∈ submitted

theorem Registered.append {submitted : List Request}
    {userId endpoint : String}
    (registered : Registered submitted userId endpoint)
    (arrived : List Request) :
    Registered (arrived ++ submitted) userId endpoint :=
  registered.imp fun _ member => List.mem_append_right _ member

/-- Every row stands for an endpoint its owner registered. -/
def OwnEndpoints (submitted : List Request)
    (table : List PushSubscription) : Prop :=
  ∀ row ∈ table, Registered submitted row.userId row.endpoint

theorem OwnEndpoints.filter {submitted : List Request}
    (own : OwnEndpoints submitted table) (keep : PushSubscription → Bool) :
    OwnEndpoints submitted (table.filter keep) :=
  fun row member => own row (List.mem_of_mem_filter member)

theorem ownEndpoints_of_advanced {phase next : Phase} {action : Action}
    {submitted : List Request}
    (advanced : Advanced table phase action next written)
    (recorded : ∀ pending ∈ phase.registration, pending ∈ submitted)
    (own : OwnEndpoints submitted table) :
    OwnEndpoints (action.submits ++ submitted) written := by
  have kept : OwnEndpoints (action.submits ++ submitted) table :=
    fun row member => (own row member).append _
  cases advanced with
  | arrived request => exact kept
  | admitted userId dto => exact kept
  | ended _ _ response other => exact kept
  | rejected userId id createdAt dto unused => exact kept
  | inserted userId id createdAt dto response unused =>
      intro row member
      rcases List.mem_append.mp member with old | new
      · exact kept row old
      · rw [List.mem_singleton.mp new]
        exact ⟨dto.keys, recorded _ rfl⟩
  | overwritten userId id createdAt dto response =>
      -- the update half touches neither the owner nor the endpoint
      intro row member
      rcases List.mem_map.mp member with ⟨old, stored, rfl⟩
      split
      · exact kept old stored
      · exact kept old stored
  | removed userId dto => exact kept.filter _

end WeatherNotify.PushSubscriptions

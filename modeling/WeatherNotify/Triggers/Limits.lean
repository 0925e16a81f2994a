import Mathlib.Data.Fintype.Basic
import WeatherNotify.Transition.Quota
import WeatherNotify.Triggers.Requests

/-!
# The trigger limit

A creation counts first and inserts later.  The rows of a user stay within the
limit as long as no count passes while the user's rows and the insertions
already admitted fill the quota together.
-/

namespace WeatherNotify.Triggers

open WeatherNotify.Transition

variable {n : Nat} {round : Rat → Rat}

/-- The user whose insertion a phase has admitted. -/
def Phase.reserves : Phase → Option String
  | .inserting userId _ => some userId
  | _ => none

/-- The user's rows together with the user's admitted insertions. -/
def State.load (state : State n) (userId : String) : Nat :=
  Transition.load TriggerRow.userId Phase.reserves state.table state.requests
    userId

/-- The user whose rows the phase is about to count. -/
def Phase.counts : Phase → Option String
  | .counting userId _ => some userId
  | _ => none

/-- The count that admits an insertion leaves room for those on their way. -/
def CountsInFlight (taken : Taken (State n) (Label n)) : Prop :=
  ∀ userId ∈ (taken.source.requests taken.label.request).counts,
    taken.label.action = .execute →
      countForUser taken.source.table userId < maxTriggersPerUser →
        taken.source.load userId < maxTriggersPerUser

instance (taken : Taken (State n) (Label n)) :
    Decidable (CountsInFlight taken) :=
  inferInstanceAs (Decidable (∀ userId ∈ (_ : Option String), _))

def WithinLimit (state : State n) : Prop :=
  ∀ userId, state.load userId ≤ maxTriggersPerUser

theorem reserves_of_not_isInserting {phase : Phase}
    (plain : phase.isInserting = false) : phase.reserves = none := by
  cases phase with
  | inserting owner dto => cases plain
  | _ => rfl

/-- The inserted row is the user's. -/
theorem table_of_create {table written : List TriggerRow} {owner id : String}
    {dto : CreateTriggerDto}
    (inserted : create round table owner id dto = some written) :
    ∃ row, written = table ++ [row] ∧ row.userId = owner := by
  unfold create at inserted
  split at inserted
  · cases inserted
  · rcases Option.map_eq_some_iff.mp inserted with ⟨row, created, rfl⟩
    refine ⟨row, rfl, ?_⟩
    unfold createdRow at created
    split at created
    · cases created
    · cases created
      rfl

theorem owned_update {table written : List TriggerRow} {id : String}
    {dto : UpdateTriggerDto}
    (changed : update round table id dto = some written) (userId : String) :
    owned TriggerRow.userId written userId =
      owned TriggerRow.userId table userId := by
  unfold update at changed
  split at changed
  · cases changed
  · split at changed
    · cases changed
      unfold owned
      rw [List.countP_map]
      refine List.countP_congr fun row _ => ?_
      simp only [Function.comp_apply]
      split <;> rfl
    · cases changed

theorem owned_delete_le {table written : List TriggerRow} {id : String}
    (removed : delete table id = some written) (userId : String) :
    owned TriggerRow.userId written userId ≤
      owned TriggerRow.userId table userId := by
  unfold delete at removed
  split at removed
  · cases removed
    exact owned_filter_le _ _ _
  · cases removed

/-- A count that passes admits an insertion; no other statement does. -/
theorem covered_of_advanced {table written : List TriggerRow}
    {phase next : Phase} {action : Action}
    (advanced : Advanced round table phase action next written)
    (userId : String) :
    (∃ dto, phase = .counting userId dto ∧ action = .execute ∧
        written = table ∧ countForUser table userId < maxTriggersPerUser) ∨
      Covered TriggerRow.userId Phase.reserves table written phase next
        userId := by
  cases advanced with
  | read plain =>
      exact Or.inr (covered_of_none (reserves_of_not_isInserting plain) le_rfl)
  | @counted owner dto below =>
      by_cases same : owner = userId
      · subst same
        exact Or.inl ⟨dto, rfl, rfl, rfl, below⟩
      · exact Or.inr (covered_of_other rfl same)
  | created inserted =>
      rcases table_of_create inserted with ⟨row, rfl, rfl⟩
      right
      apply covered_of_inserted
      · rfl
      · rfl
  | updated changed =>
      exact Or.inr (covered_of_none rfl (owned_update changed userId).le)
  | deleted removed =>
      exact Or.inr (covered_of_none rfl (owned_delete_le removed userId))
  | cleared => exact Or.inr (covered_of_none rfl (owned_filter_le _ _ _))

theorem withinLimit_step (taken : Taken (State n) (Label n))
    (stepped : (machine n round).step taken.source taken.label =
      some taken.target)
    (counts : CountsInFlight taken) (within : WithinLimit taken.source) :
    WithinLimit taken.target := by
  rcases advanced_of_step stepped with ⟨next, requests, advanced⟩
  intro userId
  have before := within userId
  unfold State.load at before ⊢
  rw [requests]
  refine load_update_le_quota before ?_
  rcases covered_of_advanced advanced userId with
    ⟨dto, counting, execute, written, below⟩ | covered
  · have counted : userId ∈
        (taken.source.requests taken.label.request).counts := by
      rw [counting]
      exact rfl
    exact Or.inl ⟨written, counts userId counted execute below⟩
  · exact Or.inr covered

theorem withinLimit_start (n : Nat) : WithinLimit (State.start n []) := by
  intro userId
  have empty : (State.start n []).load userId = 0 :=
    load_nil (fun _ => rfl) userId
  rw [empty]
  exact Nat.zero_le _

end WeatherNotify.Triggers

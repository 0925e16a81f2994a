import Mathlib.Data.List.Count
import WeatherNotify.Transition.Machine

/-!
# Steps paid for by a potential

One party's steps each cost something of a potential that no other step
refunds.  However the steps of the others are placed between them, the party
then takes no more steps than the potential was worth at the start.
-/

namespace WeatherNotify.Transition.Machine

universe u v

variable {State : Type u} {Label : Type v} {machine : Machine State Label}

/-- What the party has spent and what is left is covered by the start. -/
theorem countP_add_potential_le {own : Label → Bool}
    {potential : State → Nat}
    (pays : ∀ {source target : State} {label : Label},
      machine.step source label = some target →
        (if own label then 1 else 0) + potential target ≤ potential source)
    {state final : State} {labels : List Label}
    (reached : machine.run state labels = some final) :
    labels.countP own + potential final ≤ potential state := by
  induction labels generalizing state with
  | nil =>
      cases reached
      exact Nat.le_of_eq (Nat.zero_add _)
  | cons label rest induction =>
      rcases Option.bind_eq_some_iff.mp reached with ⟨next, taken, later⟩
      have first := pays taken
      have others := induction later
      rw [List.countP_cons]
      omega

/-- When every step costs something, runs are no longer than the potential. -/
theorem length_add_potential_le {potential : State → Nat}
    (pays : ∀ {source target : State} {label : Label},
      machine.step source label = some target →
        potential target < potential source)
    {state final : State} {labels : List Label}
    (reached : machine.run state labels = some final) :
    labels.length + potential final ≤ potential state := by
  rw [← List.countP_true]
  apply countP_add_potential_le _ reached
  intro source target label taken
  rw [if_pos rfl, Nat.add_comm]
  exact pays taken

end WeatherNotify.Transition.Machine

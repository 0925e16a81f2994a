import WeatherNotify.Transition.Machine

/-!
# One machine inside another

A machine that does more than another may still show it: through a view, under
which each of its steps is a step of the other or none, or through a relation,
under which each of its steps is answered by a run of the other.  Either way a
whole run of the first shows a whole run of the second, and what holds along
the runs of the second holds of what is seen of the first.
-/

namespace WeatherNotify.Transition.Machine

universe u v w x

variable {State : Type u} {Label : Type v} {Shown : Type w} {Move : Type x}
variable {machine : Machine State Label} {other : Machine Shown Move}

/--
Steps that show a move or nothing make runs that show runs, where an invariant
and what is known of the steps of the run may be used.
-/
theorem run_view_of (Kept : State → Prop) (guard : Taken State Label → Prop)
    (view : State → Shown) (shows : Label → Option Move)
    (kept : ∀ taken : Taken State Label,
      machine.step taken.source taken.label = some taken.target →
        guard taken → Kept taken.source → Kept taken.target)
    (moves : ∀ taken : Taken State Label,
      machine.step taken.source taken.label = some taken.target →
        guard taken → Kept taken.source →
          (∀ move, shows taken.label = some move →
            other.step (view taken.source) move =
              some (view taken.target)) ∧
          (shows taken.label = none →
            view taken.target = view taken.source))
    {state final : State} {labels : List Label} (initial : Kept state)
    (guarded : ∀ taken ∈ machine.transitions state labels, guard taken)
    (reached : machine.run state labels = some final) :
    other.run (view state) (labels.filterMap shows) = some (view final) := by
  induction labels generalizing state with
  | nil =>
      cases reached
      rfl
  | cons label rest induction =>
      obtain ⟨next, stepped, later⟩ := Option.bind_eq_some_iff.mp reached
      rcases (machine.forall_transitions_cons stepped rest).mp guarded with
        ⟨first, others⟩
      have initialNext := kept ⟨state, label, next⟩ stepped first initial
      rcases moves ⟨state, label, next⟩ stepped first initial with
        ⟨moved, still⟩
      cases shown : shows label with
      | none =>
          rw [List.filterMap_cons_none shown, ← still shown]
          exact induction initialNext others later
      | some move =>
          rw [List.filterMap_cons_some shown, run_cons, moved move shown]
          exact induction initialNext others later

/-- Steps that show a move or nothing make runs that show runs. -/
theorem run_view (view : State → Shown) (shows : Label → Option Move)
    (moves : ∀ {source target : State} {label : Label},
      machine.step source label = some target →
        (∀ move, shows label = some move →
          other.step (view source) move = some (view target)) ∧
        (shows label = none → view target = view source))
    {state final : State} {labels : List Label}
    (reached : machine.run state labels = some final) :
    other.run (view state) (labels.filterMap shows) = some (view final) :=
  run_view_of (fun _ => True) (fun _ => True) view shows
    (fun _ _ _ kept => kept) (fun _ stepped _ _ => moves stepped) trivial
    (fun _ _ => trivial) reached

/-- Steps that are answered by runs make runs that are. -/
theorem run_simulates {Related : State → Shown → Prop}
    {guard : Taken State Label → Prop}
    (answered : ∀ taken : Taken State Label,
      machine.step taken.source taken.label = some taken.target →
        guard taken → ∀ shown, Related taken.source shown →
          ∃ moves next, other.run shown moves = some next ∧
            Related taken.target next)
    {state final : State} {labels : List Label} {shown : Shown}
    (initial : Related state shown)
    (guarded : ∀ taken ∈ machine.transitions state labels, guard taken)
    (reached : machine.run state labels = some final) :
    ∃ moves last, other.run shown moves = some last ∧
      Related final last := by
  induction labels generalizing state shown with
  | nil =>
      cases reached
      exact ⟨[], shown, rfl, initial⟩
  | cons label rest induction =>
      obtain ⟨next, stepped, later⟩ := Option.bind_eq_some_iff.mp reached
      rcases (machine.forall_transitions_cons stepped rest).mp guarded with
        ⟨first, others⟩
      obtain ⟨moves, middle, moved, related⟩ :=
        answered ⟨state, label, next⟩ stepped first shown initial
      obtain ⟨further, last, finished, relatedLast⟩ :=
        induction related others later
      refine ⟨moves ++ further, last, ?_, relatedLast⟩
      rw [run_append, moved]
      exact finished

end WeatherNotify.Transition.Machine

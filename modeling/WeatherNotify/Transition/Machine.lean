import Mathlib.Data.List.Basic

/-!
# Labelled machines and what holds along their runs

A machine is a partial step function whose label carries every choice of the
environment: which party moves, what an external call answered, what the
clock read.  A run is therefore a list of labels, and replaying one is a
computation.

Safety statements are made about the transitions a run takes.  The two rules
below reduce such a statement to one step: an invariant has to survive a
single transition, possibly only one that meets a guard which every
transition of the run is known to meet.
-/

namespace WeatherNotify.Transition

universe u v

/-- A step function; `none` means that the label is not enabled. -/
structure Machine (State : Type u) (Label : Type v) where
  step : State → Label → Option State

/-- One taken step together with the states around it. -/
structure Taken (State : Type u) (Label : Type v) where
  source : State
  label : Label
  target : State

namespace Machine

variable {State : Type u} {Label : Type v}

/-- Replay a list of labels. -/
def run (machine : Machine State Label) :
    State → List Label → Option State
  | state, [] => some state
  | state, label :: rest =>
      (machine.step state label).bind fun next => machine.run next rest

/-- The steps a replay takes, in order, up to the first refused label. -/
def transitions (machine : Machine State Label) :
    State → List Label → List (Taken State Label)
  | _, [] => []
  | state, label :: rest =>
      match machine.step state label with
      | none => []
      | some next => ⟨state, label, next⟩ :: machine.transitions next rest

variable (machine : Machine State Label)

@[simp]
theorem run_nil (state : State) :
    machine.run state [] = some state :=
  rfl

@[simp]
theorem run_cons (state : State) (label : Label) (rest : List Label) :
    machine.run state (label :: rest) =
      (machine.step state label).bind
        fun next => machine.run next rest :=
  rfl

theorem run_append (state : State) (first second : List Label) :
    machine.run state (first ++ second) =
      (machine.run state first).bind
        fun middle => machine.run middle second := by
  induction first generalizing state with
  | nil => rfl
  | cons label rest induction =>
      rw [List.cons_append, run_cons, run_cons, Option.bind_assoc]
      exact Option.bind_congr fun next _ => induction next

@[simp]
theorem transitions_nil (state : State) :
    machine.transitions state [] = [] :=
  rfl

theorem transitions_cons_of_step
    {state next : State} {label : Label}
    (taken : machine.step state label = some next)
    (rest : List Label) :
    machine.transitions state (label :: rest) =
      ⟨state, label, next⟩ :: machine.transitions next rest := by
  simp only [transitions, taken]

theorem transitions_append
    {state middle : State} {first : List Label}
    (reached : machine.run state first = some middle)
    (second : List Label) :
    machine.transitions state (first ++ second) =
      machine.transitions state first ++
        machine.transitions middle second := by
  induction first generalizing state with
  | nil =>
      cases reached
      rfl
  | cons label rest induction =>
      obtain ⟨next, taken, later⟩ := Option.bind_eq_some_iff.mp reached
      rw [List.cons_append,
        transitions_cons_of_step machine taken,
        transitions_cons_of_step machine taken,
        induction later, List.cons_append]

/-- What every step does, said of the first one and of the rest. -/
theorem forall_transitions_cons
    {guard : Taken State Label → Prop}
    {state next : State} {label : Label}
    (taken : machine.step state label = some next)
    (rest : List Label) :
    (∀ other ∈ machine.transitions state (label :: rest), guard other) ↔
      guard ⟨state, label, next⟩ ∧
        ∀ other ∈ machine.transitions next rest, guard other := by
  rw [transitions_cons_of_step machine taken, List.forall_mem_cons]

/-- The same for the steps of two runs, one after the other. -/
theorem forall_transitions_append
    {guard : Taken State Label → Prop}
    {state middle : State} {first : List Label}
    (reached : machine.run state first = some middle)
    (second : List Label) :
    (∀ other ∈ machine.transitions state (first ++ second), guard other) ↔
      (∀ other ∈ machine.transitions state first, guard other) ∧
        ∀ other ∈ machine.transitions middle second, guard other := by
  rw [transitions_append machine reached, List.forall_mem_append]

/--
A transition occurs in a run exactly when some initial part of the run leads
to its source and its label is the next one.
-/
theorem mem_transitions_iff
    {state : State} {labels : List Label} {taken : Taken State Label} :
    taken ∈ machine.transitions state labels ↔
      ∃ before after,
        labels = before ++ taken.label :: after ∧
          machine.run state before = some taken.source ∧
          machine.step taken.source taken.label = some taken.target := by
  induction labels generalizing state with
  | nil =>
      simp only [transitions_nil, List.not_mem_nil, List.nil_eq,
        List.append_eq_nil_iff, reduceCtorEq, and_false, false_and,
        exists_false]
  | cons label rest induction =>
      constructor
      · intro member
        cases stepped : machine.step state label with
        | none => simp [transitions, stepped] at member
        | some next =>
            rw [transitions_cons_of_step machine stepped] at member
            rcases List.mem_cons.mp member with equal | later
            · subst equal
              exact ⟨[], rest, rfl, rfl, stepped⟩
            · obtain ⟨before, after, split, reached, final⟩ :=
                induction.mp later
              refine ⟨label :: before, after, ?_, ?_, final⟩
              · rw [split, List.cons_append]
              · rw [run_cons, stepped]
                exact reached
      · rintro ⟨before, after, split, reached, final⟩
        cases before with
        | nil =>
            cases reached
            simp only [List.nil_append, List.cons.injEq] at split
            rw [split.1, transitions_cons_of_step machine final]
            exact List.mem_cons_self
        | cons first between =>
            simp only [List.cons_append, List.cons.injEq] at split
            obtain ⟨next, stepped, later⟩ :=
              Option.bind_eq_some_iff.mp reached
            rw [split.1, transitions_cons_of_step machine stepped]
            exact List.mem_cons_of_mem _
              (induction.mpr ⟨between, after, split.2, later, final⟩)

theorem step_of_mem_transitions
    {state : State} {labels : List Label} {taken : Taken State Label}
    (member : taken ∈ machine.transitions state labels) :
    machine.step taken.source taken.label = some taken.target := by
  obtain ⟨_, _, _, _, final⟩ := (machine.mem_transitions_iff).mp member
  exact final

/-- A run takes its steps under its own labels. -/
theorem label_mem_of_mem_transitions
    {state : State} {labels : List Label} {taken : Taken State Label}
    (member : taken ∈ machine.transitions state labels) :
    taken.label ∈ labels := by
  rcases (machine.mem_transitions_iff).mp member with ⟨_, _, split, _⟩
  rw [split]
  exact List.mem_append_right _ List.mem_cons_self

/-! ## Invariant rules -/

variable {machine}

/--
An invariant that every guarded step preserves holds at the end of a run all
of whose steps meet the guard.
-/
theorem run_invariant
    {Inv : State → Prop} {guard : Taken State Label → Prop}
    (preserved : ∀ taken : Taken State Label,
      machine.step taken.source taken.label = some taken.target →
        guard taken → Inv taken.source → Inv taken.target)
    {state final : State} {labels : List Label}
    (initial : Inv state)
    (guarded : ∀ taken ∈ machine.transitions state labels, guard taken)
    (reached : machine.run state labels = some final) :
    Inv final := by
  induction labels generalizing state with
  | nil =>
      cases reached
      exact initial
  | cons label rest induction =>
      obtain ⟨next, stepped, later⟩ := Option.bind_eq_some_iff.mp reached
      rcases (machine.forall_transitions_cons stepped rest).mp guarded with
        ⟨first, others⟩
      exact induction
        (preserved ⟨state, label, next⟩ stepped first initial) others later

/-- The rule without a guard. -/
theorem run_preserves
    (Inv : State → Prop)
    (preserved : ∀ {source target : State} {label : Label},
      machine.step source label = some target → Inv source → Inv target)
    {state final : State} {labels : List Label}
    (initial : Inv state)
    (reached : machine.run state labels = some final) :
    Inv final := by
  have guarded : ∀ taken ∈ machine.transitions state labels, True :=
    fun _ _ => trivial
  exact run_invariant (fun _ stepped _ => preserved stepped) initial guarded
    reached

/-- The same rule for the two states around each step of the run. -/
theorem transitions_invariant
    {Inv : State → Prop} {guard : Taken State Label → Prop}
    (preserved : ∀ taken : Taken State Label,
      machine.step taken.source taken.label = some taken.target →
        guard taken → Inv taken.source → Inv taken.target)
    {state : State} {labels : List Label}
    (initial : Inv state)
    (guarded : ∀ taken ∈ machine.transitions state labels, guard taken)
    {taken : Taken State Label}
    (member : taken ∈ machine.transitions state labels) :
    Inv taken.source ∧ Inv taken.target := by
  obtain ⟨before, after, split, reached, final⟩ :=
    (machine.mem_transitions_iff).mp member
  have earlier : ∀ other ∈ machine.transitions state before,
      guard other := by
    rw [split] at guarded
    exact ((machine.forall_transitions_append reached _).mp guarded).1
  have atSource : Inv taken.source :=
    run_invariant preserved initial earlier reached
  exact ⟨atSource,
    preserved taken final (guarded taken member) atSource⟩

/--
When a step from a good state is good exactly if it meets the guard, and a
step that meets it leads to a good state, the steps of a run are all good
exactly if they all meet the guard.
-/
theorem forall_transitions_iff
    (Inv : State → Prop) {good guard : Taken State Label → Prop}
    (exact : ∀ taken : Taken State Label,
      machine.step taken.source taken.label = some taken.target →
        Inv taken.source → (good taken ↔ guard taken))
    (preserved : ∀ taken : Taken State Label,
      machine.step taken.source taken.label = some taken.target →
        guard taken → Inv taken.source → Inv taken.target)
    {state : State} (initial : Inv state) (labels : List Label) :
    (∀ taken ∈ machine.transitions state labels, good taken) ↔
      ∀ taken ∈ machine.transitions state labels, guard taken := by
  induction labels generalizing state with
  | nil => simp
  | cons label rest induction =>
      cases stepped : machine.step state label with
      | none => simp [transitions, stepped]
      | some next =>
          rw [machine.forall_transitions_cons stepped,
            machine.forall_transitions_cons stepped,
            exact ⟨state, label, next⟩ stepped initial]
          exact and_congr_right fun first =>
            induction (preserved ⟨state, label, next⟩ stepped first initial)

/--
When a step from a good state leads to a good state exactly if it meets the
guard, a run stays in good states exactly if all its steps do.
-/
theorem transitions_forall_iff
    (Inv : State → Prop) {guard : Taken State Label → Prop}
    (preserved : ∀ taken : Taken State Label,
      machine.step taken.source taken.label = some taken.target →
        Inv taken.source → (Inv taken.target ↔ guard taken))
    {state : State} (initial : Inv state) (labels : List Label) :
    (∀ taken ∈ machine.transitions state labels, Inv taken.target) ↔
      ∀ taken ∈ machine.transitions state labels, guard taken :=
  machine.forall_transitions_iff Inv preserved
    (fun taken stepped met good => (preserved taken stepped good).mpr met)
    initial labels

/-- An invariant holds wherever the run takes a step. -/
theorem source_preserves
    (Inv : State → Prop)
    (preserved : ∀ {source target : State} {label : Label},
      machine.step source label = some target → Inv source → Inv target)
    {state : State} {labels : List Label} (initial : Inv state)
    {taken : Taken State Label}
    (member : taken ∈ machine.transitions state labels) :
    Inv taken.source := by
  obtain ⟨_, _, _, reached, _⟩ := (machine.mem_transitions_iff).mp member
  exact run_preserves Inv preserved initial reached

/-! ## Recorded events -/

/-- What the steps of a run put on record, in order. -/
def history {Event : Type*} (machine : Machine State Label)
    (record : Taken State Label → List Event) (state : State)
    (labels : List Label) : List Event :=
  (machine.transitions state labels).flatMap record

/--
A statement about the record and the state that every guarded step carries on
holds at the end of a guarded run for the record of the run.
-/
theorem history_invariant {Event : Type*}
    {record : Taken State Label → List Event}
    (Inv : List Event → State → Prop) {guard : Taken State Label → Prop}
    (preserved : ∀ (taken : Taken State Label) (events : List Event),
      machine.step taken.source taken.label = some taken.target →
        guard taken → Inv events taken.source →
          Inv (events ++ record taken) taken.target)
    {state final : State} {labels : List Label} {events : List Event}
    (initial : Inv events state)
    (guarded : ∀ taken ∈ machine.transitions state labels, guard taken)
    (reached : machine.run state labels = some final) :
    Inv (events ++ machine.history record state labels) final := by
  induction labels generalizing state events with
  | nil =>
      cases reached
      rw [history, transitions_nil, List.flatMap_nil, List.append_nil]
      exact initial
  | cons label rest induction =>
      obtain ⟨next, stepped, later⟩ := Option.bind_eq_some_iff.mp reached
      rcases (machine.forall_transitions_cons stepped rest).mp guarded with
        ⟨first, others⟩
      rw [history, transitions_cons_of_step machine stepped,
        List.flatMap_cons, ← List.append_assoc]
      exact induction
        (preserved ⟨state, label, next⟩ events stepped first initial) others
        later

end Machine

end WeatherNotify.Transition

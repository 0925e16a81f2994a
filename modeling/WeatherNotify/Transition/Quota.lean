import WeatherNotify.Transition.Machine
import WeatherNotify.Transition.Tally

/-!
# Quotas and two machines side by side

A quota on what a user owns is checked by a count that runs before the
insertion it admits.  What bounds the rows is therefore not the rows alone but
the user's load: the rows together with the insertions already admitted.  A
step that admits nothing never raises a load.

The second part runs two machines side by side, each step moving one of them.
-/

namespace WeatherNotify.Transition

universe u v

/-! ## Loads -/

section Loads

variable {Party : Type u} {Row Phase : Type v} {User : Type*}
variable [Fintype Party] [DecidableEq User]
variable (owner : Row → User) (reserves : Phase → Option User)

def owned (table : List Row) (user : User) : Nat :=
  table.countP fun row => owner row = user

/-- One while the phase stands for an admitted insertion of the user. -/
def reservation (user : User) (phase : Phase) : Nat :=
  if reserves phase = some user then 1 else 0

/-- The admitted insertions of the user that have not run yet. -/
def reserved (phases : Party → Phase) (user : User) : Nat :=
  tally (fun _ => reservation reserves user) phases

def load (table : List Row) (phases : Party → Phase) (user : User) : Nat :=
  owned owner table user + reserved reserves phases user

/-- The load moves with the rows and with the phase of the mover. -/
theorem load_update [DecidableEq Party] (table written : List Row)
    (phases : Party → Phase) (mover : Party) (next : Phase) (user : User) :
    load owner reserves written (Function.update phases mover next) user +
        (owned owner table user + reservation reserves user (phases mover)) =
      load owner reserves table phases user +
        (owned owner written user + reservation reserves user next) := by
  have moved := tally_update (fun _ : Party => reservation reserves user)
    phases mover next
  unfold load reserved
  omega

/-- What a statement leaves the user is covered by what the user had. -/
def Covered (table written : List Row) (phase next : Phase) (user : User) :
    Prop :=
  owned owner written user + reservation reserves user next ≤
    owned owner table user + reservation reserves user phase

variable {owner reserves}

theorem reservation_le_one (user : User) (phase : Phase) :
    reservation reserves user phase ≤ 1 := by
  unfold reservation
  split <;> omega

theorem reservation_of_none {phase : Phase} (idle : reserves phase = none)
    (user : User) : reservation reserves user phase = 0 := by
  unfold reservation
  rw [idle]
  rfl

theorem reservation_of_some {phase : Phase} {admitted : User}
    (admits : reserves phase = some admitted) (user : User) :
    reservation reserves user phase = if admitted = user then 1 else 0 := by
  unfold reservation
  rw [admits]
  simp only [Option.some.injEq]

theorem owned_concat (table : List Row) (row : Row) (user : User) :
    owned owner (table ++ [row]) user =
      owned owner table user + if owner row = user then 1 else 0 := by
  simp [owned, List.countP_append, List.countP_cons]

/-! ## Statements of a request -/

/-- A statement that reserves nothing and adds no row is covered. -/
theorem covered_of_none {table written : List Row} {phase next : Phase}
    (idle : reserves next = none) {user : User}
    (fewer : owned owner written user ≤ owned owner table user) :
    Covered owner reserves table written phase next user := by
  unfold Covered
  rw [reservation_of_none idle]
  omega

/-- An insertion turns the reservation of its user into a row. -/
theorem covered_of_inserted {table : List Row} {row : Row}
    {phase next : Phase} (admits : reserves phase = some (owner row))
    (idle : reserves next = none) (user : User) :
    Covered owner reserves table (table ++ [row]) phase next user := by
  unfold Covered
  rw [owned_concat, reservation_of_none idle, reservation_of_some admits]
  exact le_rfl

/-- An admission is covered for everybody but the user it admits. -/
theorem covered_of_other {table : List Row} {phase next : Phase}
    {admitted user : User} (admits : reserves next = some admitted)
    (other : admitted ≠ user) :
    Covered owner reserves table table phase next user := by
  unfold Covered
  rw [reservation_of_some admits, if_neg other]
  omega

/-- One more reservation fits a quota the load has not reached. -/
theorem load_update_le_quota [DecidableEq Party] {table written : List Row}
    {phases : Party → Phase} {mover : Party} {next : Phase} {user : User}
    {quota : Nat} (within : load owner reserves table phases user ≤ quota)
    (step : (written = table ∧ load owner reserves table phases user < quota) ∨
      Covered owner reserves table written (phases mover) next user) :
    load owner reserves written (Function.update phases mover next) user ≤
      quota := by
  have moved := load_update owner reserves table written phases mover next user
  have single : reservation reserves user next ≤ 1 :=
    reservation_le_one user next
  rcases step with ⟨rfl, room⟩ | covered
  · omega
  · unfold Covered at covered
    omega

/-- Without rows and reservations there is no load. -/
theorem load_nil {phases : Party → Phase}
    (idle : ∀ party, reserves (phases party) = none) (user : User) :
    load owner reserves [] phases user = 0 := by
  refine Nat.add_eq_zero_iff.mpr ⟨rfl, tally_eq_zero fun party => ?_⟩
  exact reservation_of_none (idle party) user

theorem owned_le_load (table : List Row) (phases : Party → Phase)
    (user : User) :
    owned owner table user ≤ load owner reserves table phases user :=
  Nat.le_add_right _ _

theorem owned_filter_le (table : List Row) (keep : Row → Bool) (user : User) :
    owned owner (table.filter keep) user ≤ owned owner table user :=
  List.filter_sublist.countP_le

end Loads

/-! ## Two machines -/

section Parallel

variable {State₁ State₂ : Type u} {Label₁ Label₂ : Type v}

/-- Each step moves one of the machines. -/
def parallel (left : Machine State₁ Label₁) (right : Machine State₂ Label₂) :
    Machine (State₁ × State₂) (Label₁ ⊕ Label₂) where
  step state
    | .inl label => (left.step state.1 label).map fun next => (next, state.2)
    | .inr label => (right.step state.2 label).map fun next => (state.1, next)

variable {left : Machine State₁ Label₁} {right : Machine State₂ Label₂}

/-- A guard for each machine, asked of the one that moves. -/
def eitherGuard (guard₁ : Taken State₁ Label₁ → Prop)
    (guard₂ : Taken State₂ Label₂ → Prop)
    (taken : Taken (State₁ × State₂) (Label₁ ⊕ Label₂)) : Prop :=
  match taken.label with
  | .inl label => guard₁ ⟨taken.source.1, label, taken.target.1⟩
  | .inr label => guard₂ ⟨taken.source.2, label, taken.target.2⟩

instance {guard₁ : Taken State₁ Label₁ → Prop}
    {guard₂ : Taken State₂ Label₂ → Prop}
    [DecidablePred guard₁] [DecidablePred guard₂] :
    DecidablePred (eitherGuard guard₁ guard₂)
  | ⟨source, .inl label, target⟩ =>
      inferInstanceAs (Decidable (guard₁ ⟨source.1, label, target.1⟩))
  | ⟨source, .inr label, target⟩ =>
      inferInstanceAs (Decidable (guard₂ ⟨source.2, label, target.2⟩))

/-- A property of each machine. -/
def Both (Inv₁ : State₁ → Prop) (Inv₂ : State₂ → Prop)
    (state : State₁ × State₂) : Prop :=
  Inv₁ state.1 ∧ Inv₂ state.2

/-- What each machine preserves by itself holds of both side by side. -/
theorem parallel_invariant {Inv₁ : State₁ → Prop} {Inv₂ : State₂ → Prop}
    {guard₁ : Taken State₁ Label₁ → Prop}
    {guard₂ : Taken State₂ Label₂ → Prop}
    (leftPreserves : ∀ taken : Taken State₁ Label₁,
      left.step taken.source taken.label = some taken.target →
        guard₁ taken → Inv₁ taken.source → Inv₁ taken.target)
    (rightPreserves : ∀ taken : Taken State₂ Label₂,
      right.step taken.source taken.label = some taken.target →
        guard₂ taken → Inv₂ taken.source → Inv₂ taken.target)
    {start final : State₁ × State₂} {labels : List (Label₁ ⊕ Label₂)}
    (initial : Both Inv₁ Inv₂ start)
    (guarded : ∀ taken ∈ (parallel left right).transitions start labels,
      eitherGuard guard₁ guard₂ taken)
    (reached : (parallel left right).run start labels = some final) :
    Both Inv₁ Inv₂ final := by
  refine Machine.run_invariant ?_ initial guarded reached
  intro taken stepped guards invariants
  unfold eitherGuard at guards
  cases label : taken.label with
  | inl first =>
      rw [label] at stepped guards
      rcases Option.map_eq_some_iff.mp stepped with ⟨next, moved, target⟩
      rw [← target] at guards ⊢
      exact ⟨leftPreserves ⟨taken.source.1, first, next⟩ moved guards
        invariants.1, invariants.2⟩
  | inr second =>
      rw [label] at stepped guards
      rcases Option.map_eq_some_iff.mp stepped with ⟨next, moved, target⟩
      rw [← target] at guards ⊢
      exact ⟨invariants.1,
        rightPreserves ⟨taken.source.2, second, next⟩ moved guards
          invariants.2⟩

end Parallel

end WeatherNotify.Transition

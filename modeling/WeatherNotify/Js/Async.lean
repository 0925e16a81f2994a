import Mathlib.Logic.Function.Basic

/-!
# Sequential asynchronous code with failures

An awaited computation over a mutable world either resolves or rejects, and
what it did to the world before rejecting stays done.  `attempt` reifies the
outcome, which is what a `try`/`catch` around an `await` observes.
-/

namespace WeatherNotify.Js

universe u

/-- A computation over a world `σ` that may reject with `ε`. -/
structure Async (σ ε α : Type u) : Type u where
  run : σ → Except ε α × σ

namespace Async

variable {σ ε α β : Type u}

instance : Monad (Async σ ε) where
  pure value := ⟨fun world => (.ok value, world)⟩
  bind first next := ⟨fun world =>
    match first.run world with
    | (.ok value, after) => (next value).run after
    | (.error failure, after) => (.error failure, after)⟩

/-- Reject. -/
def reject (failure : ε) : Async σ ε α :=
  ⟨fun world => (.error failure, world)⟩

/-- Observe the outcome of a computation instead of propagating it. -/
def attempt (body : Async σ ε α) : Async σ ε (Except ε α) :=
  ⟨fun world => (.ok (body.run world).1, (body.run world).2)⟩

@[simp]
theorem run_pure (value : α) (world : σ) :
    (pure value : Async σ ε α).run world = (.ok value, world) :=
  rfl

@[simp]
theorem run_reject (failure : ε) (world : σ) :
    (reject failure : Async σ ε α).run world = (.error failure, world) :=
  rfl

@[simp]
theorem run_attempt (body : Async σ ε α) (world : σ) :
    body.attempt.run world = (.ok (body.run world).1, (body.run world).2) :=
  rfl

theorem run_bind (first : Async σ ε α) (next : α → Async σ ε β)
    (world : σ) :
    (first >>= next).run world =
      match first.run world with
      | (.ok value, after) => (next value).run after
      | (.error failure, after) => (.error failure, after) :=
  rfl

theorem run_bind_of_ok
    {first : Async σ ε α} {world after : σ} {value : α}
    (resolved : first.run world = (.ok value, after))
    (next : α → Async σ ε β) :
    (first >>= next).run world = (next value).run after := by
  simp only [run_bind, resolved]

theorem run_bind_of_error
    {first : Async σ ε α} {world after : σ} {failure : ε}
    (rejected : first.run world = (.error failure, after))
    (next : α → Async σ ε β) :
    (first >>= next).run world = (.error failure, after) := by
  simp only [run_bind, rejected]

/-! ## Observations that a computation leaves alone -/

/-- Whatever the outcome, the observation of the world is the same after. -/
def Preserves {γ : Type u} (observe : σ → γ) (body : Async σ ε α) : Prop :=
  ∀ world, observe (body.run world).2 = observe world

variable {γ : Type u} {observe : σ → γ}

theorem preserves_pure (value : α) :
    Preserves observe (pure value : Async σ ε α) :=
  fun _ => rfl

theorem preserves_reject (failure : ε) :
    Preserves observe (reject failure : Async σ ε α) :=
  fun _ => rfl

theorem Preserves.attempt {body : Async σ ε α}
    (kept : Preserves observe body) :
    Preserves observe body.attempt :=
  fun world => kept world

theorem Preserves.bind
    {first : Async σ ε α} {next : α → Async σ ε β}
    (keptFirst : Preserves observe first)
    (keptNext : ∀ value, Preserves observe (next value)) :
    Preserves observe (first >>= next) := by
  intro world
  have before := keptFirst world
  rw [run_bind]
  split
  next value after resolved =>
    rw [resolved] at before
    exact (keptNext value after).trans before
  next failure after rejected =>
    rw [rejected] at before
    exact before

/-! ## Properties of the world that a computation keeps -/

/-- Whatever the outcome, the property holds after if it held before. -/
def Keeps (Inv : σ → Prop) (body : Async σ ε α) : Prop :=
  ∀ world, Inv world → Inv (body.run world).2

variable {Inv : σ → Prop}

theorem keeps_pure (value : α) :
    Keeps Inv (pure value : Async σ ε α) :=
  fun _ holds => holds

theorem keeps_reject (failure : ε) :
    Keeps Inv (reject failure : Async σ ε α) :=
  fun _ holds => holds

theorem Keeps.attempt {body : Async σ ε α} (kept : Keeps Inv body) :
    Keeps Inv body.attempt :=
  fun world => kept world

theorem Keeps.bind
    {first : Async σ ε α} {next : α → Async σ ε β}
    (keptFirst : Keeps Inv first) (keptNext : ∀ value, Keeps Inv (next value)) :
    Keeps Inv (first >>= next) := by
  intro world holds
  have before := keptFirst world holds
  rw [run_bind]
  split
  next value after resolved =>
    rw [resolved] at before
    exact keptNext value after before
  next failure after rejected =>
    rw [rejected] at before
    exact before

end Async

end WeatherNotify.Js

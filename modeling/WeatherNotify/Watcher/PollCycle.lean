import WeatherNotify.Common.RedisLock
import WeatherNotify.Watcher.Pool

/-!
# Poll cycles of one shard

Any number of `runCycle` calls of one shard, in any processes, under the cycle
lock.  A cycle releases its lock when its pool has settled; nothing stops the
workers that are still running by then.
-/

namespace WeatherNotify.Watcher.PollCycle

open WeatherNotify.Common
open WeatherNotify.Transition

variable {Trigger Key : Type} {n : Nat}

/-! ## Cycles -/

/-- Where one call of `runCycle` stands. -/
inductive Cycle (Trigger : Type) where
  | waiting
  | skipped
  | loading
  | polling (pool : Pool Trigger)
  | releasing (pool : Pool Trigger)
  | released (pool : Pool Trigger)
  deriving DecidableEq, Repr

namespace Cycle

/-- The pool a cycle has started, if it has. -/
def pool? : Cycle Trigger → Option (Pool Trigger)
  | .polling pool | .releasing pool | .released pool => some pool
  | _ => none

/-- The pool a cycle awaits. -/
def awaited? : Cycle Trigger → Option (Pool Trigger)
  | .polling pool => some pool
  | _ => none

/-- The cycle has acquired the lock and not released it. -/
def locked : Cycle Trigger → Bool
  | .loading | .polling _ | .releasing _ => true
  | _ => false

/-- The pool is awaited until it settles. -/
def awaiting (pool : Pool Trigger) : Cycle Trigger :=
  if pool.settled then .releasing pool else .polling pool

/-- A worker step; the workers do not notice what became of their cycle. -/
def work (cycle : Cycle Trigger) (action : Action) :
    Option (Cycle Trigger) :=
  match cycle with
  | .polling pool => (pool.step action).map awaiting
  | .releasing pool => (pool.step action).map releasing
  | .released pool => (pool.step action).map released
  | _ => none

/-- The answer to a renewal, also one that was sent before the pool settled. -/
def renew (cycle : Cycle Trigger) (renewed : Bool) :
    Option (Cycle Trigger) :=
  match cycle with
  | .polling pool => some (.polling (pool.renew renewed))
  | .releasing pool => some (.releasing (pool.renew renewed))
  | .released pool => some (.released (pool.renew renewed))
  | _ => none

end Cycle

structure State (Trigger : Type) (n : Nat) where
  lock : LockKey (Fin n)
  cycles : Fin n → Cycle Trigger

inductive Label (Trigger : Type) (n : Nat) where
  | acquire (cycle : Fin n)
  | loaded (cycle : Fin n) (triggers : List Trigger)
  | loadFails (cycle : Fin n)
  | work (cycle : Fin n) (action : Action)
  | renew (cycle : Fin n) (renewed : Bool)
  | release (cycle : Fin n)
  | expire
  deriving DecidableEq, Repr

def State.moveTo (state : State Trigger n) (cycle : Fin n)
    (phase : Cycle Trigger) : State Trigger n :=
  { state with cycles := Function.update state.cycles cycle phase }

section Step

variable [DecidableEq Key] (concurrency : Nat) (locationKey : Trigger → Key)

def step (state : State Trigger n) :
    Label Trigger n → Option (State Trigger n)
  | .acquire cycle =>
      match state.cycles cycle with
      | .waiting =>
          match state.lock.acquireLock cycle with
          | (true, lock) =>
              some { state.moveTo cycle .loading with lock := lock }
          | (false, _) => some (state.moveTo cycle .skipped)
      | _ => none
  | .loaded cycle triggers =>
      match state.cycles cycle with
      | .loading =>
          some (state.moveTo cycle (.awaiting
            (.start concurrency (groupByLocation locationKey triggers))))
      | _ => none
  | .loadFails cycle =>
      match state.cycles cycle with
      | .loading =>
          some (state.moveTo cycle (.releasing (.start concurrency [])))
      | _ => none
  | .work cycle action =>
      ((state.cycles cycle).work action).map (state.moveTo cycle)
  | .renew cycle renewed =>
      -- Redis says yes to the stored token only; an outage says no to any
      if renewed && !state.lock.extendLock cycle then none
      else ((state.cycles cycle).renew renewed).map (state.moveTo cycle)
  | .release cycle =>
      match state.cycles cycle with
      | .releasing pool =>
          some { state.moveTo cycle (.released pool) with
            lock := state.lock.releaseLock cycle }
      | _ => none
  | .expire => some { state with lock := none }

def machine : Machine (State Trigger n) (Label Trigger n) where
  step := step concurrency locationKey

end Step

/-- No cycle has begun. -/
def State.idle (Trigger : Type) (n : Nat) : State Trigger n where
  lock := none
  cycles _ := .waiting

/-! ## What one step can do -/

section Stepped

variable [DecidableEq Key] (concurrency : Nat) (locationKey : Trigger → Key)

inductive Stepped (state : State Trigger n) :
    Label Trigger n → State Trigger n → Prop where
  | acquired {cycle : Fin n} (found : state.cycles cycle = .waiting)
      (free : state.lock = none) :
      Stepped state (.acquire cycle)
        { state.moveTo cycle .loading with lock := some cycle }
  | skipped {cycle : Fin n} (found : state.cycles cycle = .waiting) :
      Stepped state (.acquire cycle) (state.moveTo cycle .skipped)
  | loaded {cycle : Fin n} {triggers : List Trigger}
      (found : state.cycles cycle = .loading) :
      Stepped state (.loaded cycle triggers)
        (state.moveTo cycle (.awaiting
          (.start concurrency (groupByLocation locationKey triggers))))
  | loadFails {cycle : Fin n} (found : state.cycles cycle = .loading) :
      Stepped state (.loadFails cycle)
        (state.moveTo cycle (.releasing (.start concurrency [])))
  | worked {cycle : Fin n} {action : Action} {phase : Cycle Trigger}
      (works : (state.cycles cycle).work action = some phase) :
      Stepped state (.work cycle action) (state.moveTo cycle phase)
  | renewed {cycle : Fin n} {renewed : Bool} {phase : Cycle Trigger}
      (answered : (state.cycles cycle).renew renewed = some phase) :
      Stepped state (.renew cycle renewed) (state.moveTo cycle phase)
  | released {cycle : Fin n} {pool : Pool Trigger}
      (found : state.cycles cycle = .releasing pool) :
      Stepped state (.release cycle)
        { state.moveTo cycle (.released pool) with
          lock := state.lock.releaseLock cycle }
  | expired : Stepped state .expire { state with lock := none }

variable {concurrency locationKey}

theorem stepped_of_step {state next : State Trigger n}
    {label : Label Trigger n}
    (taken : step concurrency locationKey state label = some next) :
    Stepped concurrency locationKey state label next := by
  cases label with
  | acquire cycle =>
      simp only [step] at taken
      split at taken
      next found =>
        cases held : state.lock with
        | none =>
            rw [held] at taken
            cases taken
            exact .acquired found held
        | some holder =>
            rw [held] at taken
            cases taken
            exact .skipped found
      next => cases taken
  | loaded cycle triggers | loadFails cycle | release cycle =>
      simp only [step] at taken
      split at taken
      next found =>
        cases taken
        constructor
        exact found
      next => cases taken
  | work cycle action =>
      obtain ⟨phase, works, rfl⟩ := Option.map_eq_some_iff.mp taken
      exact .worked works
  | renew cycle renewed =>
      simp only [step] at taken
      split at taken
      next => cases taken
      next =>
        obtain ⟨phase, answered, rfl⟩ := Option.map_eq_some_iff.mp taken
        exact .renewed answered
  | expire =>
      cases taken
      exact .expired

end Stepped

/-! ## A cycle awaits its pool -/

/-- A cycle that gives up its lock has a settled pool. -/
def Cycle.Awaited : Cycle Trigger → Prop
  | .releasing pool | .released pool => pool.settled = true
  | _ => True

theorem Cycle.awaited_awaiting (pool : Pool Trigger) :
    (Cycle.awaiting pool).Awaited := by
  unfold Cycle.awaiting
  split
  next settled => exact settled
  next => trivial

theorem Cycle.awaited_work {cycle next : Cycle Trigger} {action : Action}
    (worked : cycle.work action = some next) (awaited : cycle.Awaited) :
    next.Awaited := by
  cases cycle with
  | polling pool =>
      obtain ⟨after, taken, rfl⟩ := Option.map_eq_some_iff.mp worked
      exact Cycle.awaited_awaiting after
  | releasing pool | released pool =>
      obtain ⟨after, taken, rfl⟩ := Option.map_eq_some_iff.mp worked
      exact Pool.settled_step taken awaited
  | waiting | skipped | loading => cases worked

theorem Cycle.awaited_renew {cycle next : Cycle Trigger} {renewed : Bool}
    (answered : cycle.renew renewed = some next)
    (awaited : cycle.Awaited) : next.Awaited := by
  cases cycle with
  | polling pool | releasing pool | released pool =>
      cases answered
      exact awaited
  | waiting | skipped | loading => cases answered

theorem awaited_moveTo {state : State Trigger n}
    (awaited : ∀ cycle, (state.cycles cycle).Awaited) {mover : Fin n}
    {phase : Cycle Trigger} (moved : phase.Awaited) (cycle : Fin n) :
    ((state.moveTo mover phase).cycles cycle).Awaited := by
  by_cases same : cycle = mover
  · subst same
    simpa only [State.moveTo, Function.update_self] using moved
  · simpa only [State.moveTo, Function.update_of_ne same]
      using awaited cycle

section Runs

variable [DecidableEq Key] {concurrency : Nat} {locationKey : Trigger → Key}

theorem settled_start_nil :
    (Pool.start concurrency ([] : List (List Trigger))).settled = true := by
  simp [Pool.settled, Pool.start]

theorem awaited_step {state next : State Trigger n}
    {label : Label Trigger n}
    (taken : step concurrency locationKey state label = some next)
    (awaited : ∀ cycle, (state.cycles cycle).Awaited) :
    ∀ cycle, (next.cycles cycle).Awaited := by
  cases stepped_of_step taken with
  | acquired | skipped => exact awaited_moveTo awaited trivial
  | loaded => exact awaited_moveTo awaited (Cycle.awaited_awaiting _)
  | loadFails => exact awaited_moveTo awaited settled_start_nil
  | @worked mover _ _ works =>
      exact awaited_moveTo awaited (Cycle.awaited_work works (awaited mover))
  | @renewed mover _ _ answered =>
      exact awaited_moveTo awaited
        (Cycle.awaited_renew answered (awaited mover))
  | @released mover pool found =>
      have settled := awaited mover
      rw [found] at settled
      exact awaited_moveTo awaited settled
  | expired => exact awaited

/-- `runCycle` finishes only after `pollLocations` has. -/
theorem settled_of_released {labels : List (Label Trigger n)}
    {final : State Trigger n}
    (reached : (machine concurrency locationKey).run
      (State.idle Trigger n) labels = some final)
    {cycle : Fin n} {pool : Pool Trigger}
    (released : final.cycles cycle = .released pool) :
    pool.settled = true := by
  have awaited : ∀ other, (final.cycles other).Awaited :=
    Machine.run_preserves (fun state => ∀ other, (state.cycles other).Awaited)
      awaited_step (fun _ => trivial) reached
  have settled := awaited cycle
  rw [released] at settled
  exact settled

end Runs

end WeatherNotify.Watcher.PollCycle

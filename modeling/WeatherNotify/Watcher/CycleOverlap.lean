import WeatherNotify.Watcher.PollCycle

/-!
# Cycles that overlap

With renewals succeeding and the lock not expiring, the workers of two cycles
stay apart exactly as long as no worker throws while a sibling still has work.
-/

namespace WeatherNotify.Watcher.PollCycle

open WeatherNotify.Common
open WeatherNotify.Transition

variable {Trigger Key : Type} {n : Nat}

/-! ## Cycles kept apart -/

/-- A failed renewal, or the expiry of the lock. -/
def Label.disturbs : Label Trigger n → Bool
  | .renew _ false | .expire => true
  | _ => false

/-- Renewals succeed and the lock does not expire. -/
def Undisturbed (taken : Taken (State Trigger n) (Label Trigger n)) : Prop :=
  taken.label.disturbs = false

/-- The cycle and the worker that throws in it. -/
def Label.thrower : Label Trigger n → Option (Fin n × Nat)
  | .work cycle action => action.thrower.map fun worker => (cycle, worker)
  | _ => none

/-- When a worker of an awaited pool throws, no sibling has work left. -/
def ThrowsLast (taken : Taken (State Trigger n) (Label Trigger n)) : Prop :=
  ∀ thrown ∈ taken.label.thrower,
    ∀ pool ∈ (taken.source.cycles thrown.1).awaited?,
      pool.OthersIdle thrown.2

instance (taken : Taken (State Trigger n) (Label Trigger n)) :
    Decidable (ThrowsLast taken) :=
  inferInstanceAs (Decidable (∀ thrown ∈ taken.label.thrower,
    ∀ pool ∈ (taken.source.cycles thrown.1).awaited?,
      pool.OthersIdle thrown.2))

/-- The cycle has released its lock and worked no further than `pool`. -/
def RestsAt (cycle : Fin n) (pool : Pool Trigger)
    (state : State Trigger n) : Prop :=
  ∃ next, state.cycles cycle = .released next ∧
    next.polled = pool.polled ∧ next.written = pool.written

/-- A cycle that has released its lock polls and writes nothing more. -/
def StopsAtRelease
    (taken : Taken (State Trigger n) (Label Trigger n)) : Prop :=
  ∀ cycle pool, taken.source.cycles cycle = .released pool →
    RestsAt cycle pool taken.target

/-- Some worker of the cycle has a location or a trigger to process. -/
def Processing (state : State Trigger n) (cycle : Fin n) : Prop :=
  ∃ pool, (state.cycles cycle).pool? = some pool ∧
    ∃ worker ∈ pool.workers, worker.busy pool.queue = true

/-- An awaited pool has not settled; a pool no longer awaited is idle. -/
def Cycle.Sound : Cycle Trigger → Prop
  | .polling pool => pool.settled = false
  | .releasing pool | .released pool => pool.Idle
  | _ => True

/-- The lock is with the cycle inside it, and every cycle is sound. -/
structure Apart (state : State Trigger n) : Prop where
  holds : ∀ cycle, (state.cycles cycle).locked = true →
    state.lock = some cycle
  sound : ∀ cycle, (state.cycles cycle).Sound

theorem apart_idle : Apart (State.idle Trigger n) where
  holds _ locked := by cases locked
  sound _ := trivial

theorem Cycle.sound_awaiting {pool : Pool Trigger}
    (idle : pool.settled = true → pool.Idle) :
    (Cycle.awaiting pool).Sound := by
  unfold Cycle.awaiting
  split
  next settled => exact idle settled
  next unsettled => exact Bool.eq_false_iff.mpr unsettled

namespace Apart

variable {state : State Trigger n}

/-- One cycle moves on; the lock ends up with whoever is inside it. -/
theorem moveTo (apart : Apart state) {cycle : Fin n}
    {phase : Cycle Trigger} {lock : LockKey (Fin n)}
    (sound : phase.Sound)
    (holds : phase.locked = true → lock = some cycle)
    (others : ∀ other, other ≠ cycle →
      (state.cycles other).locked = true → lock = some other) :
    Apart { state.moveTo cycle phase with lock := lock } where
  holds other locked := by
    by_cases same : other = cycle
    · subst same
      simp only [State.moveTo, Function.update_self] at locked
      exact holds locked
    · simp only [State.moveTo, Function.update_of_ne same] at locked
      exact others other same locked
  sound other := by
    by_cases same : other = cycle
    · subst same
      simpa only [State.moveTo, Function.update_self] using sound
    · simpa only [State.moveTo, Function.update_of_ne same]
        using apart.sound other

/-- A move inside the lock, or one that never touches it. -/
theorem moveWithin (apart : Apart state) {cycle : Fin n}
    {phase : Cycle Trigger} (sound : phase.Sound)
    (locked : phase.locked = true →
      (state.cycles cycle).locked = true) :
    Apart (state.moveTo cycle phase) :=
  apart.moveTo sound (fun inside => apart.holds cycle (locked inside))
    fun other _ => apart.holds other

theorem acquired (apart : Apart state) (free : state.lock = none)
    (cycle : Fin n) :
    Apart { state.moveTo cycle .loading with lock := some cycle } := by
  refine apart.moveTo trivial (fun _ => rfl) fun other _ locked => ?_
  have holder := apart.holds other locked
  rw [free] at holder
  cases holder

theorem released (apart : Apart state) {cycle : Fin n}
    {pool : Pool Trigger} (found : state.cycles cycle = .releasing pool) :
    Apart { state.moveTo cycle (.released pool) with
      lock := state.lock.releaseLock cycle } := by
  have idle := apart.sound cycle
  have holder := apart.holds cycle (by rw [found]; rfl)
  rw [found] at idle
  refine apart.moveTo idle (fun locked => by cases locked)
    fun other different locked => ?_
  have second := apart.holds other locked
  rw [holder] at second
  exact (different (Option.some.inj second).symm).elim

/-- The workers of two cycles never process at the same time. -/
theorem processing_unique (apart : Apart state) {left right : Fin n}
    (leftBusy : Processing state left)
    (rightBusy : Processing state right) : left = right := by
  have holder : ∀ {cycle : Fin n}, Processing state cycle →
      state.lock = some cycle := by
    rintro cycle ⟨pool, found, worker, member, busy⟩
    refine apart.holds cycle ?_
    have sound := apart.sound cycle
    cases phase : state.cycles cycle with
    | polling other => rfl
    | releasing other | released other =>
        rw [phase] at found sound
        cases found
        rw [sound worker member] at busy
        cases busy
    | waiting | skipped | loading =>
        rw [phase] at found
        cases found
  have leftHolds := holder leftBusy
  rw [holder rightBusy] at leftHolds
  exact (Option.some.inj leftHolds).symm

end Apart

/-- A worker step of a cycle. -/
theorem Cycle.sound_work {cycle next : Cycle Trigger} {action : Action}
    (sound : cycle.Sound) (worked : cycle.work action = some next)
    (last : ∀ worker ∈ action.thrower, ∀ pool ∈ cycle.awaited?,
      pool.OthersIdle worker) :
    next.Sound ∧ (next.locked = true → cycle.locked = true) := by
  cases cycle with
  | polling pool =>
      obtain ⟨after, taken, rfl⟩ := Option.map_eq_some_iff.mp worked
      refine ⟨Cycle.sound_awaiting fun settles => ?_, fun _ => rfl⟩
      exact Pool.idle_of_settles sound taken settles
        fun worker thrown => last worker thrown pool rfl
  | releasing pool =>
      obtain ⟨after, taken, rfl⟩ := Option.map_eq_some_iff.mp worked
      exact ⟨(Pool.idle_step sound taken).1, fun _ => rfl⟩
  | released pool =>
      obtain ⟨after, taken, rfl⟩ := Option.map_eq_some_iff.mp worked
      exact ⟨(Pool.idle_step sound taken).1, fun locked => by cases locked⟩
  | waiting | skipped | loading => cases worked

/-- A renewal changes neither the workers nor the queue. -/
theorem Cycle.sound_renew {cycle next : Cycle Trigger} {renewed : Bool}
    (sound : cycle.Sound) (answered : cycle.renew renewed = some next) :
    next.Sound ∧ next.locked = cycle.locked := by
  cases cycle with
  | polling pool | releasing pool | released pool =>
      cases answered
      exact ⟨sound, rfl⟩
  | waiting | skipped | loading => cases answered

section Runs

variable [DecidableEq Key] {concurrency : Nat} {locationKey : Trigger → Key}

/-- A pool that has settled from the start has no workers. -/
theorem idle_start_of_settled {groups : List (List Trigger)}
    (settled : (Pool.start concurrency groups).settled = true) :
    (Pool.start concurrency groups).Idle := by
  intro worker member
  obtain ⟨group, _, rfl⟩ := List.mem_map.mp member
  simp only [Pool.settled, Bool.or_eq_true, List.any_eq_true,
    List.all_eq_true] at settled
  rcases settled with ⟨other, otherMember, rejected⟩ | returned
  · obtain ⟨_, _, rfl⟩ := List.mem_map.mp otherMember
    cases rejected
  · cases returned _ member

theorem apart_step {state next : State Trigger n}
    {label : Label Trigger n}
    (taken : step concurrency locationKey state label = some next)
    (undisturbed : Undisturbed ⟨state, label, next⟩)
    (throwsLast : ThrowsLast ⟨state, label, next⟩)
    (apart : Apart state) :
    Apart next := by
  cases stepped_of_step taken with
  | @acquired cycle found free => exact apart.acquired free cycle
  | skipped found =>
      exact apart.moveWithin trivial fun locked => by cases locked
  | loaded found =>
      refine apart.moveWithin
        (Cycle.sound_awaiting idle_start_of_settled) fun _ => ?_
      rw [found]
      rfl
  | loadFails found =>
      refine apart.moveWithin
        (idle_start_of_settled settled_start_nil) fun _ => ?_
      rw [found]
      rfl
  | @worked cycle action phase works =>
      obtain ⟨sound, locked⟩ := Cycle.sound_work (apart.sound cycle) works
        fun worker thrown => throwsLast (cycle, worker) (by
          rw [Label.thrower, Option.mem_def.mp thrown]
          rfl)
      exact apart.moveWithin sound locked
  | @renewed cycle _ _ answered =>
      obtain ⟨sound, locked⟩ :=
        Cycle.sound_renew (apart.sound cycle) answered
      exact apart.moveWithin sound fun inside => locked ▸ inside
  | released found => exact apart.released found
  | expired => cases undisturbed

/-- What a step can do to a cycle that has released its lock. -/
theorem cycles_of_step {state next : State Trigger n}
    {label : Label Trigger n}
    (taken : step concurrency locationKey state label = some next)
    {cycle : Fin n} {pool : Pool Trigger}
    (found : state.cycles cycle = .released pool) :
    (∃ action after, label = .work cycle action ∧
        pool.step action = some after ∧
          next.cycles cycle = .released after) ∨
      ∃ held, next.cycles cycle = .released { pool with held := held } := by
  -- unless it is this cycle that moves, nothing changes for it
  have elsewhere : ∀ {mover : Fin n} (phase : Cycle Trigger),
      mover ≠ cycle →
        (state.moveTo mover phase).cycles cycle = .released pool := by
    intro mover phase different
    simp only [State.moveTo, Function.update_of_ne (Ne.symm different),
      found]
  have moverNe : ∀ {mover : Fin n} {phase : Cycle Trigger},
      state.cycles mover = phase → (∀ other, phase ≠ .released other) →
        mover ≠ cycle := by
    rintro mover phase there standing rfl
    exact standing pool (there.symm.trans found)
  cases stepped_of_step taken with
  | acquired there | skipped there | loaded there | loadFails there
  | released there =>
      exact Or.inr ⟨pool.held, elsewhere _
        (moverNe there fun _ same => by cases same)⟩
  | @worked mover action phase works =>
      by_cases same : mover = cycle
      · subst same
        rw [found] at works
        obtain ⟨after, moved, rfl⟩ := Option.map_eq_some_iff.mp works
        refine Or.inl ⟨action, after, rfl, moved, ?_⟩
        simp only [State.moveTo, Function.update_self]
      · exact Or.inr ⟨pool.held, elsewhere phase same⟩
  | @renewed mover renewed phase answered =>
      by_cases same : mover = cycle
      · subst same
        rw [found] at answered
        cases answered
        refine Or.inr ⟨pool.held && renewed, ?_⟩
        simp only [State.moveTo, Function.update_self, Pool.renew]
      · exact Or.inr ⟨pool.held, elsewhere phase same⟩
  | expired => exact Or.inr ⟨pool.held, found⟩

theorem stopsAtRelease_of_apart {taken : Taken (State Trigger n)
    (Label Trigger n)}
    (stepped : step concurrency locationKey taken.source taken.label =
      some taken.target)
    (apart : Apart taken.source) :
    StopsAtRelease taken := by
  intro cycle pool found
  have idle := apart.sound cycle
  rw [found] at idle
  rcases cycles_of_step stepped found with
    ⟨action, after, _, worked, moved⟩ | ⟨held, moved⟩
  · obtain ⟨_, polled, written⟩ := Pool.idle_step idle worked
    exact ⟨after, moved, polled, written⟩
  · exact ⟨_, moved, rfl, rfl⟩

/-! ## A throw beside a busy sibling -/

/-- Every pool started so far holds its lock and has triggers to work on. -/
def Stocked (state : State Trigger n) : Prop :=
  ∀ cycle pool, (state.cycles cycle).pool? = some pool → pool.Supplied

theorem stocked_idle : Stocked (State.idle Trigger n) :=
  fun _ _ found => by cases found

theorem Stocked.moveTo {state : State Trigger n} (stocked : Stocked state)
    {cycle : Fin n} {phase : Cycle Trigger} {lock : LockKey (Fin n)}
    (supplied : ∀ pool, phase.pool? = some pool → pool.Supplied) :
    Stocked { state.moveTo cycle phase with lock := lock } := by
  intro other pool found
  by_cases same : other = cycle
  · subst same
    simp only [State.moveTo, Function.update_self] at found
    exact supplied pool found
  · simp only [State.moveTo, Function.update_of_ne same] at found
    exact stocked other pool found

@[simp]
theorem Cycle.pool?_awaiting (pool : Pool Trigger) :
    (Cycle.awaiting pool).pool? = some pool := by
  unfold Cycle.awaiting
  split <;> rfl

theorem Cycle.pool?_work {cycle next : Cycle Trigger} {action : Action}
    (worked : cycle.work action = some next) :
    ∃ pool after, cycle.pool? = some pool ∧
      pool.step action = some after ∧ next.pool? = some after := by
  cases cycle with
  | polling pool =>
      obtain ⟨after, taken, rfl⟩ := Option.map_eq_some_iff.mp worked
      exact ⟨pool, after, rfl, taken, Cycle.pool?_awaiting after⟩
  | releasing pool | released pool =>
      obtain ⟨after, taken, rfl⟩ := Option.map_eq_some_iff.mp worked
      exact ⟨pool, after, rfl, taken, rfl⟩
  | waiting | skipped | loading => cases worked

theorem Cycle.pool?_renew {cycle next : Cycle Trigger} {renewed : Bool}
    (answered : cycle.renew renewed = some next) :
    ∃ pool, cycle.pool? = some pool ∧
      next.pool? = some (pool.renew renewed) := by
  cases cycle with
  | polling pool | releasing pool | released pool =>
      cases answered
      exact ⟨pool, rfl, rfl⟩
  | waiting | skipped | loading => cases answered

theorem stocked_step {state next : State Trigger n}
    {label : Label Trigger n}
    (taken : step concurrency locationKey state label = some next)
    (undisturbed : label.disturbs = false)
    (stocked : Stocked state) :
    Stocked next := by
  cases stepped_of_step taken with
  | acquired | skipped =>
      exact stocked.moveTo fun _ found => by cases found
  | @loaded cycle triggers found =>
      refine stocked.moveTo fun pool started => ?_
      rw [Cycle.pool?_awaiting] at started
      cases started
      exact Pool.Supplied.start (groupByLocation_nonempty triggers)
  | loadFails =>
      refine stocked.moveTo fun pool started => ?_
      cases started
      exact Pool.Supplied.start fun _ member => by cases member
  | @worked cycle action phase works =>
      obtain ⟨pool, after, before, moved, reached⟩ :=
        Cycle.pool?_work works
      refine stocked.moveTo fun other found => ?_
      rw [reached] at found
      cases found
      exact (stocked cycle pool before).step moved
  | @renewed cycle renewed phase answered =>
      obtain ⟨pool, before, reached⟩ := Cycle.pool?_renew answered
      cases renewed with
      | false => cases undisturbed
      | true =>
          refine stocked.moveTo fun other found => ?_
          rw [reached, Pool.renew, Bool.and_true] at found
          cases found
          exact stocked cycle pool before
  | @released cycle pool found =>
      refine stocked.moveTo fun other same => ?_
      cases same
      exact stocked cycle pool (by rw [found]; rfl)
  | expired => cases undisturbed

/-- The workers of a cycle that has released run on as before. -/
theorem run_work (concurrency : Nat) (locationKey : Trigger → Key)
    {cycle : Fin n} {actions : List Action}
    {pool final : Pool Trigger} {state : State Trigger n}
    (found : state.cycles cycle = .released pool)
    (ran : Pool.machine.run pool actions = some final) :
    ∃ last, (machine concurrency locationKey).run state
        (actions.map (.work cycle)) = some last ∧
      last.cycles cycle = .released final := by
  induction actions generalizing pool state with
  | nil =>
      cases ran
      exact ⟨state, rfl, found⟩
  | cons action rest induction =>
      obtain ⟨after, taken, later⟩ := Option.bind_eq_some_iff.mp ran
      have worked : pool.step action = some after := taken
      have moved : (machine concurrency locationKey).step state
          (.work cycle action) =
            some (state.moveTo cycle (.released after)) := by
        simp only [machine, step, found, Cycle.work, worked,
          Option.map_some]
      have there :
          (state.moveTo cycle (.released after)).cycles cycle =
            .released after := by
        simp only [State.moveTo, Function.update_self]
      obtain ⟨last, reached, released⟩ := induction there later
      refine ⟨last, ?_, released⟩
      rw [List.map_cons, Machine.run_cons, moved, Option.bind_some, reached]

theorem Label.work_of_thrower {label : Label Trigger n} {cycle : Fin n}
    {worker : Nat} (throws : (cycle, worker) ∈ label.thrower) :
    ∃ action, label = .work cycle action ∧
      action.thrower = some worker := by
  cases label with
  | work mover action =>
      obtain ⟨thrower, thrown, same⟩ := Option.map_eq_some_iff.mp throws
      cases same
      exact ⟨action, rfl, thrown⟩
  | acquire | loaded | loadFails | renew | release | expire => cases throws

theorem Cycle.polling_of_awaited {cycle : Cycle Trigger}
    {pool : Pool Trigger} (awaited : pool ∈ cycle.awaited?) :
    cycle = .polling pool := by
  cases cycle with
  | polling other =>
      cases awaited
      rfl
  | waiting | skipped | loading | releasing | released => cases awaited

theorem undisturbed_of_labels {state : State Trigger n}
    {labels : List (Label Trigger n)}
    (calm : ∀ label ∈ labels, label.disturbs = false) :
    ∀ taken ∈ (machine concurrency locationKey).transitions state labels,
      Undisturbed taken :=
  fun _ member => calm _ (Machine.label_mem_of_mem_transitions _ member)

theorem RestsAt.step {taken : Taken (State Trigger n) (Label Trigger n)}
    {cycle : Fin n} {pool : Pool Trigger}
    (stops : StopsAtRelease taken) (rests : RestsAt cycle pool taken.source) :
    RestsAt cycle pool taken.target := by
  obtain ⟨middle, there, polled, written⟩ := rests
  obtain ⟨next, after, nextPolled, nextWritten⟩ := stops cycle middle there
  exact ⟨next, after, nextPolled.trans polled, nextWritten.trans written⟩

/-- A pool that can still poll or write does so after the release. -/
theorem exists_not_stopsAtRelease
    (concurrency : Nat) (locationKey : Trigger → Key)
    {state : State Trigger n} {cycle : Fin n}
    {pool final : Pool Trigger} {actions : List Action}
    (found : state.cycles cycle = .released pool)
    (ran : Pool.machine.run pool actions = some final)
    (worked : final.polled ≠ pool.polled ∨
      final.written ≠ pool.written) :
    ∃ later ∈ (machine concurrency locationKey).transitions state
      (actions.map (.work cycle)), ¬ StopsAtRelease later := by
  by_contra none
  have stops : ∀ later ∈ (machine concurrency locationKey).transitions
      state (actions.map (.work cycle)), StopsAtRelease later := by
    intro later member
    by_contra works
    exact none ⟨later, member, works⟩
  obtain ⟨last, reached, released⟩ :=
    run_work concurrency locationKey found ran
  obtain ⟨next, there, polled, written⟩ : RestsAt cycle pool last :=
    Machine.run_invariant (fun _ _ => RestsAt.step)
      ⟨pool, found, rfl, rfl⟩ stops reached
  rw [released] at there
  cases there
  rcases worked with polls | writes
  · exact polls polled
  · exact writes written

/--
A throw beside a busy sibling settles the pool; once the lock is released the
sibling polls or writes.
-/
theorem violation_of_not_throwsLast
    {taken : Taken (State Trigger n) (Label Trigger n)}
    (stepped : step concurrency locationKey taken.source taken.label =
      some taken.target)
    (stocked : Stocked taken.source) (early : ¬ ThrowsLast taken) :
    ∃ after,
      (∀ later ∈ (machine concurrency locationKey).transitions
        taken.target after, Undisturbed later) ∧
      ∃ later ∈ (machine concurrency locationKey).transitions
        taken.target after, ¬ StopsAtRelease later := by
  simp only [ThrowsLast, Pool.OthersIdle, not_forall, Bool.not_eq_false]
    at early
  obtain ⟨⟨cycle, worker⟩, throws, pool, awaited, sibling, other, different,
    there, busy⟩ := early
  obtain ⟨action, label, thrown⟩ := Label.work_of_thrower throws
  have polling := Cycle.polling_of_awaited awaited
  rw [label] at stepped
  obtain ⟨phase, worked, moved⟩ := Option.map_eq_some_iff.mp stepped
  rw [polling] at worked
  obtain ⟨next, threw, rfl⟩ := Option.map_eq_some_iff.mp worked
  have supplied : next.Supplied :=
    (stocked cycle pool (by rw [polling]; rfl)).step threw
  have settled : next.settled = true := Pool.settled_of_thrower threw thrown
  have standing : next.workers[sibling]? = some other ∧
      next.queue = pool.queue := by
    rw [Pool.step_of_thrower threw thrown]
    exact ⟨(pool.setWorker_of_ne different _).trans there, rfl⟩
  obtain ⟨actions, final, ran, works⟩ :=
    supplied.works standing.1 (standing.2 ▸ busy)
  -- the cycle, now releasing, gives up the lock and the sibling goes on
  have releasing : taken.target.cycles cycle = .releasing next := by
    rw [← moved]
    simp only [State.moveTo, Function.update_self, Cycle.awaiting, settled,
      if_true]
  have released : (machine concurrency locationKey).step taken.target
      (.release cycle) =
        some { taken.target.moveTo cycle (.released next) with
          lock := taken.target.lock.releaseLock cycle } := by
    simp only [machine, step, releasing]
  have after : ({ taken.target.moveTo cycle (.released next) with
      lock := taken.target.lock.releaseLock cycle } :
        State Trigger n).cycles cycle = .released next := by
    simp only [State.moveTo, Function.update_self]
  obtain ⟨later, member, violates⟩ :=
    exists_not_stopsAtRelease concurrency locationKey after ran works
  refine ⟨.release cycle :: actions.map (.work cycle), ?_, later, ?_,
    violates⟩
  · refine undisturbed_of_labels fun other mentioned => ?_
    rcases List.mem_cons.mp mentioned with rfl | working
    · rfl
    · obtain ⟨action, _, rfl⟩ := List.mem_map.mp working
      rfl
  · rw [Machine.transitions_cons_of_step _ released]
    exact List.mem_cons_of_mem _ member

/-! ## The lock and the workers -/

/--
While the lock neither expires nor fails to renew, a run in which no worker
throws beside a busy sibling has every cycle stop at its release, and never
two cycles processing at once.  A single throw beside a busy sibling can be
continued to a cycle that works after its release.
-/
theorem cycles_stop_at_release
    (concurrency : Nat) (locationKey : Trigger → Key)
    (labels : List (Label Trigger n)) {final : State Trigger n}
    (reached : (machine concurrency locationKey).run
      (State.idle Trigger n) labels = some final)
    (undisturbed : ∀ taken ∈ (machine concurrency locationKey).transitions
      (State.idle Trigger n) labels, Undisturbed taken) :
    ((∀ taken ∈ (machine concurrency locationKey).transitions
        (State.idle Trigger n) labels, ThrowsLast taken) →
      (∀ taken ∈ (machine concurrency locationKey).transitions
        (State.idle Trigger n) labels, StopsAtRelease taken) ∧
      ∀ left right, Processing final left → Processing final right →
        left = right) ∧
    ∀ taken ∈ (machine concurrency locationKey).transitions
        (State.idle Trigger n) labels, ¬ ThrowsLast taken →
      ∃ after,
        (∀ later ∈ (machine concurrency locationKey).transitions
          taken.target after, Undisturbed later) ∧
        ∃ later ∈ (machine concurrency locationKey).transitions
          taken.target after, ¬ StopsAtRelease later := by
  constructor
  · intro throwsLast
    have preserved : ∀ taken : Taken (State Trigger n) (Label Trigger n),
        (machine concurrency locationKey).step taken.source taken.label =
            some taken.target →
          Undisturbed taken ∧ ThrowsLast taken →
            Apart taken.source → Apart taken.target :=
      fun _ stepped guard => apart_step stepped guard.1 guard.2
    have guarded : ∀ taken ∈ (machine concurrency locationKey).transitions
        (State.idle Trigger n) labels,
        Undisturbed taken ∧ ThrowsLast taken :=
      fun taken member => ⟨undisturbed taken member, throwsLast taken member⟩
    constructor
    · intro taken member
      have apart := (Machine.transitions_invariant preserved apart_idle
        guarded member).1
      exact stopsAtRelease_of_apart
        (Machine.step_of_mem_transitions _ member) apart
    · intro left right leftBusy rightBusy
      have apart : Apart final :=
        Machine.run_invariant preserved apart_idle guarded reached
      exact apart.processing_unique leftBusy rightBusy
  · intro taken member early
    have stocked : Stocked taken.source :=
      (Machine.transitions_invariant
        (fun _ stepped guard => stocked_step stepped guard)
        stocked_idle undisturbed member).1
    exact violation_of_not_throwsLast
      (Machine.step_of_mem_transitions _ member) stocked early

end Runs

/--
Two workers and three locations: the write of the first worker is rejected,
the cycle releases its lock, the next cycle starts, and only then does the
second worker write its trigger and ask for the third location.
-/
def abandonedLabels (first second : Fin n) : List (Label Nat n) :=
  [.acquire first, .loaded first [0, 1, 2], .work first (.fetched 0 true),
    .work first (.fetched 1 true), .work first (.wrote 0 .rejected),
    .release first, .acquire second, .loaded second [0, 1, 2],
    .work first (.wrote 1 .recorded)]

/-- The abandoned worker works on beside the workers of the next cycle. -/
theorem abandoned_worker_overlaps_next_cycle :
    (∀ taken ∈ (machine 2 id).transitions (State.idle Nat 2)
      (abandonedLabels 0 1), Undisturbed taken) ∧
    (∃ taken ∈ (machine 2 id).transitions (State.idle Nat 2)
      (abandonedLabels 0 1), ¬ StopsAtRelease taken) ∧
    ∃ final, (machine 2 id).run (State.idle Nat 2) (abandonedLabels 0 1) =
        some final ∧ Processing final 0 ∧ Processing final 1 := by
  refine ⟨undisturbed_of_labels (by decide), ?_, ?_⟩
  · refine ⟨_, List.mem_of_getElem? (i := 8) rfl, fun stops => ?_⟩
    obtain ⟨next, there, _, written⟩ := stops 0 _ rfl
    cases there
    cases written
  · exact ⟨_, rfl, ⟨_, rfl, .fetching [2], by decide, rfl⟩,
      ⟨_, rfl, .fetching [0], by decide, rfl⟩⟩

/-- One worker that throws alone: the next cycle has the triggers to itself. -/
def aloneLabels (first second : Fin n) : List (Label Nat n) :=
  [.acquire first, .loaded first [0, 1], .work first (.fetched 0 true),
    .work first (.wrote 0 .rejected), .release first, .acquire second,
    .loaded second [0, 1], .work second (.fetched 0 true)]

theorem lone_thrower_stops :
    ∃ final, (machine 1 id).run (State.idle Nat 2) (aloneLabels 0 1) =
        some final ∧
      (∀ taken ∈ (machine 1 id).transitions (State.idle Nat 2)
        (aloneLabels 0 1), StopsAtRelease taken) ∧
      ∀ left right, Processing final left → Processing final right →
        left = right := by
  obtain ⟨final, reached⟩ : ∃ final, (machine 1 id).run
      (State.idle Nat 2) (aloneLabels 0 1) = some final := ⟨_, rfl⟩
  refine ⟨final, reached, (cycles_stop_at_release 1 id _ reached
    (undisturbed_of_labels (by decide))).1 ?_⟩
  decide

end WeatherNotify.Watcher.PollCycle

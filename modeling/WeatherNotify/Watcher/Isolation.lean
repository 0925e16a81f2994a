import Mathlib.Algebra.Field.Rat
import Mathlib.Data.List.Pairwise
import WeatherNotify.Transition.Potential
import WeatherNotify.Watcher.Schedule

/-!
# What one failing trigger costs the others

Every schedule of a cycle that keeps its lock comes to an end, and until
something throws it loses no trigger.  A throw ends its worker, and with it the
awaited pool: whether the other triggers are written by then depends on which
triggers throw and on how the locations are spread over the workers.
-/

namespace WeatherNotify.Watcher

open WeatherNotify.Transition

variable {Trigger Key : Type}

/-! ## Every schedule ends -/

/-- An upper bound on the calls a worker makes for what it has in hand. -/
def Worker.weight : Worker Trigger → Nat
  | .fetching group => 2 * group.length + 1
  | .writing _ rest => 2 * rest.length + 2
  | .flushing _ rest => 2 * rest.length + 1
  | .returned | .rejected => 0

/-- The same bound for the whole pool. -/
def Pool.weight (pool : Pool Trigger) : Nat :=
  (pool.workers.map Worker.weight).sum +
    (pool.queue.map fun group => 2 * group.length + 2).sum

theorem Pool.weight_setWorker {pool : Pool Trigger} {worker : Nat}
    {status : Worker Trigger}
    (found : pool.workers[worker]? = some status)
    (other : Worker Trigger) :
    (pool.setWorker worker other).weight + status.weight =
      pool.weight + other.weight := by
  obtain ⟨before, after, split, replaced⟩ := pool.split_workers found
  have queue : (pool.setWorker worker other).queue = pool.queue := rfl
  simp only [Pool.weight, split, replaced, queue, List.map_append,
    List.map_cons, List.sum_append, List.sum_cons]
  omega

theorem Pool.weight_resume {pool : Pool Trigger} {worker : Nat}
    {status : Worker Trigger}
    (found : pool.workers[worker]? = some status) :
    (pool.resume worker).weight + status.weight ≤ pool.weight := by
  rcases pool.resume_cases worker with ⟨resumed, _⟩ |
    ⟨group, rest, _, queued, resumed⟩
  · rw [resumed, Pool.weight_setWorker found]
    exact Nat.le_refl _
  · have moved := Pool.weight_setWorker found (.fetching group)
    rw [resumed]
    simp only [Pool.weight, Pool.setWorker, queued, List.map_cons,
      List.sum_cons, Worker.weight] at moved ⊢
    omega

theorem Pool.weight_proceed {pool : Pool Trigger} {worker : Nat}
    {status : Worker Trigger}
    (found : pool.workers[worker]? = some status) (todo : List Trigger) :
    (pool.proceed worker todo).weight + status.weight ≤
      pool.weight + 2 * todo.length := by
  cases todo with
  | nil => exact Pool.weight_resume found
  | cons trigger rest =>
      have moved := Pool.weight_setWorker found (.writing trigger rest)
      simp only [Pool.proceed, Worker.weight, List.length_cons] at moved ⊢
      omega

/-- Each call that resolves leaves fewer to come. -/
theorem Pool.Stepped.weight_lt {pool next : Pool Trigger} {action : Action}
    (stepped : pool.Stepped action next) : next.weight < pool.weight := by
  cases stepped with
  | @fetched worker group found =>
      have moved := Pool.weight_proceed found group
      simp only [Worker.weight] at moved
      omega
  | @unfetched worker group found =>
      have moved := Pool.weight_resume found
      simp only [Worker.weight] at moved
      omega
  | @recorded worker trigger rest found =>
      have same : (pool.wrote trigger).weight = pool.weight := rfl
      have there : (pool.wrote trigger).workers[worker]? =
          some (.writing trigger rest) := found
      have moved := Pool.weight_proceed there rest
      simp only [Worker.weight] at moved
      omega
  | @fired worker trigger rest found =>
      have same : (pool.wrote trigger).weight = pool.weight := rfl
      have there : (pool.wrote trigger).workers[worker]? =
          some (.writing trigger rest) := found
      have moved := Pool.weight_setWorker there (.flushing trigger rest)
      simp only [Worker.weight] at moved
      omega
  | @flushed worker trigger rest found =>
      have moved := Pool.weight_proceed found rest
      simp only [Worker.weight] at moved
      omega
  | unwritten found | unflushed found =>
      have moved := Pool.weight_setWorker found .rejected
      simp only [Worker.weight] at moved
      omega

namespace Scenario

variable {scenario : Scenario Trigger}

theorem Advanced.weight_lt {pool next : Pool Trigger} {worker : Nat}
    (advanced : scenario.Advanced pool worker next) :
    next.weight < pool.weight := by
  rcases advanced.stepped with ⟨action, _, stepped⟩
  exact stepped.weight_lt

/-- A schedule is no longer than the calls there are to make. -/
theorem length_add_weight_le {pool final : Pool Trigger}
    {schedule : List Nat}
    (reached : scenario.machine.run pool schedule = some final) :
    schedule.length + final.weight ≤ pool.weight :=
  Machine.length_add_potential_le
    (fun taken => (advanced_of_advance taken).weight_lt) reached

/-! ## Holding a trigger back -/

/-- The worker has stopped, or is at the trigger held back. -/
def Waits (held : Trigger → Prop) : Worker Trigger → Prop
  | .returned | .rejected => True
  | .writing trigger _ => held trigger
  | .fetching _ | .flushing _ _ => False

theorem exists_advance (scenario : Scenario Trigger)
    {pool : Pool Trigger} {worker : Nat} {status : Worker Trigger}
    (found : pool.workers[worker]? = some status)
    (running : status ≠ .returned ∧ status ≠ .rejected) :
    ∃ next, scenario.advance pool worker = some next := by
  cases status with
  | fetching group =>
      simp only [advance, Pool.step, found]
      exact ⟨_, rfl⟩
  | writing trigger rest =>
      simp only [advance, Pool.step, found]
      cases (scenario.behaviour trigger).result with
      | recorded | fired | rejected => exact ⟨_, rfl⟩
  | flushing trigger rest =>
      simp only [advance, Pool.step, found]
      exact ⟨_, rfl⟩
  | returned => exact (running.1 rfl).elim
  | rejected => exact (running.2 rfl).elim

/-- Only the trigger in hand is written. -/
theorem Advanced.written {pool next : Pool Trigger} {worker : Nat}
    (advanced : scenario.Advanced pool worker next) :
    next.written = pool.written ∨
      ∃ trigger rest,
        pool.workers[worker]? = some (.writing trigger rest) ∧
          next.written = pool.written ++ [trigger] := by
  cases advanced with
  | fetched | unfetched | flushed =>
      exact Or.inl (Pool.written_proceed _ _ _)
  | recorded found harmless =>
      exact Or.inr ⟨_, _, found, Pool.written_proceed _ _ _⟩
  | fired found written => exact Or.inr ⟨_, _, found, rfl⟩
  | unwritten | unflushed => exact Or.inl rfl

theorem Advanced.written_subset {pool next : Pool Trigger} {worker : Nat}
    (advanced : scenario.Advanced pool worker next) :
    pool.written ⊆ next.written := by
  rcases advanced.written with same | ⟨_, _, _, appended⟩
  · rw [same]
    exact List.Subset.refl _
  · rw [appended]
    exact List.subset_append_left _ _

/--
Any triggers can be held back while everything else runs until all workers
have stopped or wait at one of them.
-/
theorem exists_waiting_schedule (scenario : Scenario Trigger)
    (held : Trigger → Prop) (pool : Pool Trigger) :
    ∃ schedule final, scenario.machine.run pool schedule = some final ∧
      (∀ worker ∈ final.workers, Waits held worker) ∧
      ∀ trigger, held trigger → trigger ∉ pool.written →
        trigger ∉ final.written := by
  induction size : pool.weight using Nat.strongRecOn
    generalizing pool with
  | _ size induction =>
      by_cases waiting : ∀ worker ∈ pool.workers, Waits held worker
      · exact ⟨[], pool, rfl, waiting, fun _ _ fresh => fresh⟩
      · simp only [not_forall] at waiting
        obtain ⟨status, member, moves⟩ := waiting
        obtain ⟨worker, found⟩ := List.mem_iff_getElem?.mp member
        have running : status ≠ .returned ∧ status ≠ .rejected := by
          constructor <;> rintro rfl <;> exact moves trivial
        obtain ⟨next, taken⟩ := exists_advance scenario found running
        have advanced := advanced_of_advance taken
        obtain ⟨schedule, final, reached, waits, fresh⟩ :=
          induction next.weight (size ▸ advanced.weight_lt) next rfl
        refine ⟨worker :: schedule, final, ?_, waits,
          fun trigger back unwritten => fresh trigger back ?_⟩
        · rw [Machine.run_cons]
          exact Option.bind_eq_some_iff.mpr ⟨next, taken, reached⟩
        · rcases advanced.written with same | ⟨other, rest, there, appended⟩
          · rw [same]
            exact unwritten
          · rw [appended, List.mem_append, List.mem_singleton]
            rintro (earlier | rfl)
            · exact unwritten earlier
            · rw [found] at there
              cases there
              exact moves back

/-! ## Isolation -/

section Isolation

variable (scenario) (concurrency : Nat) (groups : List (List Trigger))

/--
However the calls resolve, when the pool settles every trigger that does not
throw and whose location was fetched has been written.
-/
def Isolated : Prop :=
  ∀ schedule final,
    scenario.machine.run (.start concurrency groups) schedule =
        some final →
      final.settled = true →
        ∀ trigger ∈ scenario.fetched groups,
          scenario.throws trigger = false → trigger ∈ final.written

/-- Locations with a successful fetch are processed one at a time. -/
def OneByOne : Prop :=
  concurrency ≤ 1 ∨ (groups.filter scenario.fetchOk).length ≤ 1

/--
Among the triggers of the fetched locations none throws, or all do, or they
are processed one at a time and those that throw come last.
-/
def Isolable : Prop :=
  (∀ trigger ∈ scenario.fetched groups, scenario.throws trigger = false) ∨
    (∀ trigger ∈ scenario.fetched groups, scenario.throws trigger = true) ∨
    scenario.OneByOne concurrency groups ∧
      (scenario.fetched groups).Pairwise fun earlier later =>
        scenario.throws earlier = true → scenario.throws later = true

instance : Decidable (scenario.OneByOne concurrency groups) :=
  inferInstanceAs (Decidable (_ ∨ _))

instance : Decidable (scenario.Isolable concurrency groups) :=
  inferInstanceAs (Decidable (_ ∨ _ ∨ _ ∧ _))

/-- Every trigger that does not throw is written. -/
def Saved (pool : Pool Trigger) : Prop :=
  ∀ trigger ∈ scenario.fetched groups,
    scenario.throws trigger = false → trigger ∈ pool.written

end Isolation

variable {concurrency : Nat} {groups : List (List Trigger)}

theorem serial_start (oneByOne : scenario.OneByOne concurrency groups) :
    scenario.Serial (.start concurrency groups) := by
  rcases oneByOne with single | single
  · left
    simp only [Pool.start, List.length_map, List.length_take]
    omega
  · right
    have fetching : ((groups.take concurrency).map
        Worker.fetching).countP scenario.holding =
          (groups.take concurrency).countP scenario.fetchOk := by
      rw [List.countP_map]
      rfl
    simp only [load, Pool.start, fetching]
    rw [← List.countP_append, List.take_append_drop,
      List.countP_eq_length_filter]
    exact single

/-- A worker is at a trigger that throws. -/
def AtThrower (scenario : Scenario Trigger) (pool : Pool Trigger)
    (worker : Nat) : Prop :=
  ∃ trigger rest, scenario.throws trigger = true ∧
    (pool.workers[worker]? = some (.writing trigger rest) ∨
      pool.workers[worker]? = some (.flushing trigger rest))

/-- When a trigger throws last, everything else is written. -/
theorem saved_of_atThrower {pool : Pool Trigger} {worker : Nat}
    (isolable : scenario.Isolable concurrency groups)
    (placed : scenario.Placed groups concurrency pool)
    (accounted : scenario.Accounted groups concurrency pool)
    (atThrower : scenario.AtThrower pool worker) :
    scenario.Saved groups pool := by
  obtain ⟨thrower, rest, throws, position⟩ := atThrower
  have inHand : pool.workers[worker]? = some (.writing thrower rest) →
      thrower ∈ scenario.unwritten pool := by
    intro found
    refine List.mem_append_left _ (List.mem_flatMap.mpr
      ⟨_, List.mem_of_getElem? found, List.mem_cons_self⟩)
  have written : pool.workers[worker]? = some (.flushing thrower rest) →
      thrower ∈ pool.written :=
    fun found => placed.fired thrower rest (List.mem_of_getElem? found)
  rcases isolable with none | all | ⟨oneByOne, last⟩
  · have member : thrower ∈ scenario.fetched groups := by
      rw [accounted.perm.mem_iff, List.mem_append]
      rcases position with writing | flushing
      · exact Or.inr (inHand writing)
      · exact Or.inl (written flushing)
    rw [none thrower member] at throws
    cases throws
  · intro trigger member harmless
    rw [all trigger member] at harmless
    cases harmless
  · obtain ⟨serial, order⟩ := accounted.order (serial_start oneByOne)
    intro trigger member harmless
    rw [order] at last member
    obtain ⟨_, later, across⟩ := List.pairwise_append.mp last
    rcases List.mem_append.mp member with done | left
    · exact done
    · exfalso
      have spoiled : scenario.throws trigger = true := by
        rcases position with writing | flushing
        · obtain ⟨before, after, split, _⟩ := pool.split_workers writing
          obtain ⟨first, second⟩ := serial.siblings split (Or.inl rfl)
          rw [unwritten_of_split scenario split, first] at left later
          rcases List.mem_cons.mp left with rfl | behind
          · exact throws
          · exact (List.pairwise_cons.mp later).1 trigger behind throws
        · exact across thrower (written flushing) trigger left throws
      rw [harmless] at spoiled
      cases spoiled

theorem Advanced.rejected {pool next : Pool Trigger} {worker : Nat}
    (advanced : scenario.Advanced pool worker next)
    (rejected : next.workers.any Worker.isRejected = true) :
    pool.workers.any Worker.isRejected = true ∨
      scenario.AtThrower pool worker := by
  cases advanced with
  | fetched | unfetched | flushed =>
      exact Or.inl (Pool.rejected_of_proceed rejected)
  | @recorded trigger rest found harmless =>
      have earlier := Pool.rejected_of_proceed rejected
      exact Or.inl earlier
  | @fired trigger rest found written =>
      have earlier := Pool.rejected_of_setWorker rfl rejected
      exact Or.inl earlier
  | @unwritten trigger rest found thrown =>
      exact Or.inr ⟨trigger, rest, thrown, Or.inl found⟩
  | @unflushed trigger rest found thrown =>
      exact Or.inr ⟨trigger, rest, thrown, Or.inr found⟩

/-- With every worker returned there is nothing left to write. -/
theorem saved_of_returned (positive : 1 ≤ concurrency)
    {pool : Pool Trigger}
    (placed : scenario.Placed groups concurrency pool)
    (accounted : scenario.Accounted groups concurrency pool)
    (returned : ∀ worker ∈ pool.workers, worker = .returned) :
    scenario.Saved groups pool := by
  intro trigger member _
  rw [accounted.perm.mem_iff, List.mem_append] at member
  rcases member with done | left
  · exact done
  · exfalso
    rcases List.mem_append.mp left with held | queued
    · obtain ⟨worker, workerMember, there⟩ := List.mem_flatMap.mp held
      rw [returned worker workerMember] at there
      cases there
    · cases workers : pool.workers with
      | nil =>
          have crew := placed.crew
          rw [workers, List.length_nil] at crew
          have empty : groups = [] := List.length_eq_zero_iff.mp (by omega)
          obtain ⟨group, groupMember, _⟩ := List.mem_flatten.mp queued
          have there := placed.parts.queued group
            (List.mem_filter.mp groupMember).1
          rw [empty] at there
          cases there
      | cons worker rest =>
          have member : worker ∈ pool.workers := by
            rw [workers]
            exact List.mem_cons_self
          have drained := placed.drained (returned worker member ▸ member)
          rw [drained] at queued
          cases queued

/-- Everything is saved, or nobody has thrown and nothing is lost. -/
def Safe (scenario : Scenario Trigger) (groups : List (List Trigger))
    (concurrency : Nat) (pool : Pool Trigger) : Prop :=
  scenario.Placed groups concurrency pool ∧
    (scenario.Saved groups pool ∨
      scenario.Accounted groups concurrency pool ∧
        pool.workers.any Worker.isRejected = false)

theorem safe_start :
    scenario.Safe groups concurrency (.start concurrency groups) := by
  refine ⟨Placed.start, Or.inr ⟨Accounted.start, ?_⟩⟩
  rw [Bool.eq_false_iff]
  intro rejected
  obtain ⟨worker, member, thrown⟩ := List.any_eq_true.mp rejected
  obtain ⟨group, _, rfl⟩ := List.mem_map.mp member
  cases thrown

theorem safe_advance (isolable : scenario.Isolable concurrency groups)
    {pool next : Pool Trigger} {worker : Nat}
    (taken : scenario.machine.step pool worker = some next)
    (safe : scenario.Safe groups concurrency pool) :
    scenario.Safe groups concurrency next := by
  have advanced := advanced_of_advance taken
  obtain ⟨placed, saved | ⟨accounted, standing⟩⟩ := safe
  · refine ⟨placed.advance advanced, Or.inl ?_⟩
    exact fun trigger member harmless =>
      advanced.written_subset (saved trigger member harmless)
  · refine ⟨placed.advance advanced, ?_⟩
    by_cases atThrower : scenario.AtThrower pool worker
    · have saved := saved_of_atThrower isolable placed accounted atThrower
      exact Or.inl fun trigger member harmless =>
        advanced.written_subset (saved trigger member harmless)
    · refine Or.inr ⟨?_, ?_⟩
      · rcases accounted.advance advanced with kept |
          ⟨trigger, rest, throws, _, position⟩
        · exact kept
        · exact (atThrower ⟨trigger, rest, throws, position⟩).elim
      · rw [Bool.eq_false_iff]
        intro rejected
        rcases advanced.rejected rejected with earlier | thrower
        · rw [standing] at earlier
          cases earlier
        · exact atThrower thrower

theorem isolated_of_isolable (positive : 1 ≤ concurrency)
    (isolable : scenario.Isolable concurrency groups) :
    scenario.Isolated concurrency groups := by
  intro schedule final reached settled
  obtain ⟨placed, saved | ⟨accounted, standing⟩⟩ :
      scenario.Safe groups concurrency final :=
    Machine.run_preserves _ (safe_advance isolable) safe_start reached
  · exact saved
  · refine saved_of_returned positive placed accounted fun worker member => ?_
    simp only [Pool.settled, standing, Bool.false_or, List.all_eq_true]
      at settled
    have returned := settled worker member
    cases worker with
    | returned => rfl
    | fetching | writing | flushing | rejected => cases returned

/-! ## Losing a trigger -/

/-- Two elements of a list without repetitions come in one order only. -/
theorem not_sublist_of_sublist {list : List Trigger} (distinct : list.Nodup)
    {first second : Trigger} (forwards : [first, second].Sublist list) :
    ¬ [second, first].Sublist list := by
  intro backwards
  induction list with
  | nil => cases forwards
  | cons head tail induction =>
      obtain ⟨fresh, rest⟩ := List.nodup_cons.mp distinct
      cases forwards with
      | cons _ later =>
          cases backwards with
          | cons _ other => exact induction rest later other
          | cons_cons _ other => exact fresh (later.subset (by simp))
      | cons_cons _ later =>
          cases backwards with
          | cons _ other => exact fresh (other.subset (by simp))
          | cons_cons _ other => exact fresh (later.subset (by simp))

/-- The thrower is ahead of the trigger, or in the hands of a sibling. -/
def Endangers (scenario : Scenario Trigger) (concurrency : Nat)
    (groups : List (List Trigger)) (thrower trigger : Trigger) : Prop :=
  [thrower, trigger].Sublist (scenario.fetched groups) ∨
    2 ≤ min concurrency groups.length ∧
      ∀ group ∈ groups, scenario.fetchOk group = true →
        trigger ∈ group → thrower ∉ group

/-- Whatever a run does, it loses no trigger unless a worker has thrown. -/
theorem tracked_of_run {schedule : List Nat} {final : Pool Trigger}
    (reached : scenario.machine.run (.start concurrency groups) schedule =
      some final) :
    scenario.Placed groups concurrency final ∧
      (scenario.Accounted groups concurrency final ∨
        final.workers.any Worker.isRejected = true) := by
  refine Machine.run_preserves (fun pool =>
    scenario.Placed groups concurrency pool ∧
      (scenario.Accounted groups concurrency pool ∨
        pool.workers.any Worker.isRejected = true)) ?_
    ⟨Placed.start, Or.inl Accounted.start⟩ reached
  rintro pool next worker taken ⟨placed, tracked⟩
  have advanced := advanced_of_advance taken
  refine ⟨placed.advance advanced, ?_⟩
  rcases tracked with accounted | rejected
  · rcases accounted.advance advanced with kept |
      ⟨trigger, rest, _, rfl, position⟩
    · exact Or.inl kept
    · have bound : worker < pool.workers.length := by
        rcases position with found | found
        · exact (List.getElem?_eq_some_iff.mp found).1
        · exact (List.getElem?_eq_some_iff.mp found).1
      exact Or.inr (List.any_eq_true.mpr ⟨.rejected,
        List.mem_of_getElem? (List.getElem?_set_self bound), rfl⟩)
  · obtain ⟨_, _, stepped⟩ := advanced.stepped
    exact Or.inr (stepped.rejected_mono rejected)

section Waiting

variable {pool : Pool Trigger} {thrower trigger : Trigger}

/-- Nobody has thrown, so whoever waits has returned or is at the trigger. -/
theorem returned_or_writing_of_waits
    (standing : pool.workers.any Worker.isRejected = false)
    (waits : ∀ worker ∈ pool.workers, Waits (fun other => other = trigger)
      worker)
    {worker : Worker Trigger} (member : worker ∈ pool.workers) :
    worker = .returned ∨ ∃ rest, worker = .writing trigger rest := by
  have waiting := waits worker member
  cases worker with
  | returned => exact Or.inl rfl
  | writing other rest =>
      cases waiting
      exact Or.inr ⟨rest, rfl⟩
  | rejected =>
      have thrown : pool.workers.any Worker.isRejected = true :=
        List.any_eq_true.mpr ⟨.rejected, member, rfl⟩
      rw [standing] at thrown
      cases thrown
  | fetching | flushing => cases waiting

/-- A written trigger that throws would have its worker flushing. -/
theorem thrower_unwritten_of_waits
    (throws : scenario.throws thrower = true)
    (accounted : scenario.Accounted groups concurrency pool)
    (waits : ∀ worker ∈ pool.workers, Waits (fun other => other = trigger)
      worker)
    (member : thrower ∈ scenario.fetched groups) :
    thrower ∈ scenario.unwritten pool := by
  rw [accounted.perm.mem_iff, List.mem_append] at member
  rcases member with written | left
  · obtain ⟨_, rest, flushing⟩ := accounted.spent thrower written throws
    exact (waits _ flushing).elim
  · exact left

/-- With an empty queue the thrower is behind the trigger in some hand. -/
theorem group_of_waits (different : thrower ≠ trigger)
    (placed : scenario.Placed groups concurrency pool)
    (status : ∀ worker ∈ pool.workers, worker = .returned ∨
      ∃ rest, worker = .writing trigger rest)
    (drained : pool.queue = [])
    (left : thrower ∈ scenario.unwritten pool) :
    ∃ group ∈ groups, scenario.fetchOk group = true ∧
      [trigger, thrower].Sublist group := by
  rw [unwritten, drained] at left
  have held : thrower ∈ pool.workers.flatMap scenario.inHand := by
    simpa [fetched] using left
  obtain ⟨worker, member, there⟩ := List.mem_flatMap.mp held
  rcases status worker member with rfl | ⟨rest, rfl⟩
  · cases there
  · have behind := (List.mem_cons.mp there).resolve_left different
    obtain ⟨group, groupMember, ok, part⟩ := placed.parts.workers _ member
    exact ⟨group, groupMember, ok,
      ((List.singleton_sublist.mpr behind).cons_cons trigger).trans
        part.sublist⟩

/-- Two workers cannot both be at the one trigger. -/
theorem worker_alone_of_writing
    (distinct : (scenario.unwritten pool).Nodup)
    (writing : ∀ worker ∈ pool.workers,
      ∃ rest, worker = .writing trigger rest)
    (crew : 0 < pool.workers.length) :
    ∃ rest, pool.workers = [.writing trigger rest] := by
  cases workers : pool.workers with
  | nil =>
      rw [workers] at crew
      cases crew
  | cons worker siblings =>
      rw [workers] at writing
      obtain ⟨rest, rfl⟩ := writing worker List.mem_cons_self
      cases siblings with
      | nil => exact ⟨rest, rfl⟩
      | cons sibling others =>
          obtain ⟨more, rfl⟩ := writing sibling
            (List.mem_cons_of_mem _ List.mem_cons_self)
          rw [unwritten, workers] at distinct
          simp [inHand] at distinct

/-- Nobody has thrown and everyone waits for one trigger: what is where. -/
theorem order_of_waiting
    (distinct : (scenario.fetched groups).Nodup)
    (throws : scenario.throws thrower = true)
    (harmless : scenario.throws trigger = false)
    (placed : scenario.Placed groups concurrency pool)
    (accounted : scenario.Accounted groups concurrency pool)
    (standing : pool.workers.any Worker.isRejected = false)
    (waits : ∀ worker ∈ pool.workers, Waits (fun other => other = trigger)
      worker)
    (member : thrower ∈ scenario.fetched groups)
    (positive : 0 < min concurrency groups.length) :
    [trigger, thrower].Sublist (scenario.fetched groups) ∧
      (2 ≤ min concurrency groups.length →
        ∃ group ∈ groups, scenario.fetchOk group = true ∧
          trigger ∈ group ∧ thrower ∈ group) := by
  have different : thrower ≠ trigger := by
    rintro rfl
    rw [harmless] at throws
    cases throws
  have left := thrower_unwritten_of_waits throws accounted waits member
  have status : ∀ worker ∈ pool.workers, worker = .returned ∨
      ∃ rest, worker = .writing trigger rest :=
    fun _ => returned_or_writing_of_waits standing waits
  by_cases returned : .returned ∈ pool.workers
  · obtain ⟨group, groupMember, ok, inGroup⟩ :=
      group_of_waits different placed status (placed.drained returned) left
    refine ⟨inGroup.trans (List.sublist_flatten_of_mem
      (List.mem_filter.mpr ⟨groupMember, ok⟩)), fun _ => ?_⟩
    exact ⟨group, groupMember, ok, inGroup.subset (by simp),
      inGroup.subset (by simp)⟩
  · -- every worker is at the one trigger, so there is only one worker
    have writing : ∀ worker ∈ pool.workers,
        ∃ rest, worker = .writing trigger rest := by
      intro worker workerMember
      rcases status worker workerMember with rfl | found
      · exact (returned workerMember).elim
      · exact found
    have once : (scenario.unwritten pool).Nodup :=
      (accounted.perm.nodup_iff.mp distinct).of_append_right
    have crew := placed.crew
    obtain ⟨rest, alone⟩ := worker_alone_of_writing once writing (by omega)
    rw [alone, List.length_singleton] at crew
    have serial : scenario.Serial (.start concurrency groups) := by
      left
      simp only [Pool.start, List.length_map, List.length_take]
      omega
    have order := (accounted.order serial).2
    have line : scenario.unwritten pool =
        trigger :: (rest ++ scenario.fetched pool.queue) := by
      simp [unwritten, alone, inHand]
    rw [line] at left order
    have behind := (List.mem_cons.mp left).resolve_left different
    refine ⟨?_, fun two => by omega⟩
    rw [order]
    exact ((List.singleton_sublist.mpr behind).cons_cons
      trigger).trans (List.sublist_append_right _ _)

end Waiting

/-- A trigger that does not throw is lost if a thrower endangers it. -/
theorem not_isolated_of_endangers (positive : 1 ≤ concurrency)
    (distinct : (scenario.fetched groups).Nodup)
    {thrower trigger : Trigger}
    (throwerMember : thrower ∈ scenario.fetched groups)
    (throws : scenario.throws thrower = true)
    (member : trigger ∈ scenario.fetched groups)
    (harmless : scenario.throws trigger = false)
    (endangers : scenario.Endangers concurrency groups thrower trigger) :
    ¬ scenario.Isolated concurrency groups := by
  intro isolated
  obtain ⟨schedule, final, reached, waits, fresh⟩ :=
    scenario.exists_waiting_schedule (fun other => other = trigger)
      (.start concurrency groups)
  have lost : trigger ∉ final.written :=
    fresh trigger rfl fun written => by cases written
  obtain ⟨placed, tracked⟩ := tracked_of_run reached
  by_cases rejected : final.workers.any Worker.isRejected = true
  · have settled : final.settled = true := by
      rw [Pool.settled, rejected, Bool.true_or]
    exact lost (isolated schedule final reached settled trigger member
      harmless)
  · have accounted := tracked.resolve_right rejected
    have crew : 0 < min concurrency groups.length := by
      obtain ⟨group, groupMember, _⟩ := List.mem_flatten.mp member
      have := List.length_pos_of_mem (List.mem_filter.mp groupMember).1
      omega
    obtain ⟨behind, together⟩ := order_of_waiting distinct throws harmless
      placed accounted (Bool.eq_false_iff.mpr rejected) waits throwerMember
      crew
    rcases endangers with ahead | ⟨two, apart⟩
    · exact not_sublist_of_sublist distinct ahead behind
    · obtain ⟨group, groupMember, ok, triggerThere, throwerThere⟩ :=
        together two
      exact apart group groupMember ok triggerThere throwerThere

/-- A trigger is in one location only. -/
theorem group_unique {others : List (List Trigger)}
    (distinct : others.flatten.Nodup) {left right : List Trigger}
    (leftMember : left ∈ others) (rightMember : right ∈ others)
    {trigger : Trigger} (inLeft : trigger ∈ left)
    (inRight : trigger ∈ right) : left = right := by
  by_contra different
  have apart := (List.nodup_flatten.mp distinct).2
  have symmetric : Std.Symm (@List.Disjoint Trigger) :=
    ⟨fun _ _ disjoint => disjoint.symm⟩
  exact apart.forall leftMember rightMember different inLeft inRight

/-- Beside any location there is another one with a trigger of its own. -/
theorem exists_other_group {others : List (List Trigger)}
    (distinct : others.flatten.Nodup)
    (nonempty : ∀ group ∈ others, group ≠ [])
    (several : 2 ≤ others.length) (group : List Trigger) :
    ∃ other ∈ others, other ≠ group ∧ ∃ trigger, trigger ∈ other := by
  match others, several with
  | first :: second :: rest, _ =>
      have apart : first ≠ second := by
        rintro rfl
        obtain ⟨trigger, there⟩ := List.exists_mem_of_ne_nil first
          (nonempty first List.mem_cons_self)
        have disjoint := (List.pairwise_cons.mp
          (List.nodup_flatten.mp distinct).2).1 first List.mem_cons_self
        exact disjoint there there
      have member : second ∈ first :: second :: rest := by simp
      by_cases same : first = group
      · exact ⟨second, member, fun equal => apart (same.trans equal.symm),
          List.exists_mem_of_ne_nil second (nonempty second member)⟩
      · exact ⟨first, List.mem_cons_self, same,
          List.exists_mem_of_ne_nil first
            (nonempty first List.mem_cons_self)⟩

/-- Beyond the isolable cases some thrower endangers some other trigger. -/
theorem exists_endangers (distinct : groups.flatten.Nodup)
    (nonempty : ∀ group ∈ groups, group ≠ [])
    (mixed : ¬ scenario.Isolable concurrency groups) :
    ∃ thrower ∈ scenario.fetched groups, ∃ trigger ∈ scenario.fetched groups,
      scenario.throws thrower = true ∧ scenario.throws trigger = false ∧
        scenario.Endangers concurrency groups thrower trigger := by
  simp only [Isolable, not_or, not_forall, not_and, Bool.not_eq_false,
    Bool.not_eq_true] at mixed
  obtain ⟨⟨thrower, throwerMember, throws⟩, ⟨trigger, member, harmless⟩,
    disorder⟩ := mixed
  by_cases oneByOne : scenario.OneByOne concurrency groups
  · have unsorted := disorder oneByOne
    rw [List.pairwise_iff_forall_sublist] at unsorted
    simp only [not_forall, Bool.not_eq_true] at unsorted
    obtain ⟨earlier, later, ahead, first, second⟩ := unsorted
    exact ⟨earlier, ahead.subset (by simp), later, ahead.subset (by simp),
      first, second, Or.inl ahead⟩
  · simp only [OneByOne, not_or, Nat.not_le] at oneByOne
    have crew : 2 ≤ min concurrency groups.length := by
      have := List.length_filter_le scenario.fetchOk groups
      omega
    have sublist : (groups.filter scenario.fetchOk).flatten.Nodup :=
      distinct.sublist List.filter_sublist.flatten
    -- two triggers of different locations, one of which throws
    have endangers : ∀ {left right : List Trigger} {first second : Trigger},
        left ∈ groups.filter scenario.fetchOk →
        right ∈ groups.filter scenario.fetchOk → left ≠ right →
        first ∈ left → second ∈ right →
          scenario.Endangers concurrency groups first second := by
      intro left right first second leftMember rightMember different
        inLeft inRight
      refine Or.inr ⟨crew, fun group groupMember ok there both => ?_⟩
      have fetched := List.mem_filter.mpr ⟨groupMember, ok⟩
      exact different
        ((group_unique sublist leftMember fetched inLeft both).trans
          (group_unique sublist fetched rightMember there inRight))
    obtain ⟨home, homeMember, there⟩ := List.mem_flatten.mp throwerMember
    obtain ⟨house, houseMember, inHouse⟩ := List.mem_flatten.mp member
    by_cases same : home = house
    · subst same
      obtain ⟨other, otherMember, different, third, inOther⟩ :=
        exists_other_group sublist
          (fun group groupMember =>
            nonempty group (List.mem_filter.mp groupMember).1)
          oneByOne.2 home
      have thirdMember : third ∈ scenario.fetched groups :=
        List.mem_flatten.mpr ⟨other, otherMember, inOther⟩
      cases thirdThrows : scenario.throws third with
      | true =>
          exact ⟨third, thirdMember, trigger, member, thirdThrows, harmless,
            endangers otherMember houseMember different inOther inHouse⟩
      | false =>
          exact ⟨thrower, throwerMember, third, thirdMember, throws,
            thirdThrows, endangers homeMember otherMember
              (Ne.symm different) there inOther⟩
    · exact ⟨thrower, throwerMember, trigger, member, throws, harmless,
        endangers homeMember houseMember same there inHouse⟩

theorem isolable_of_isolated (positive : 1 ≤ concurrency)
    (distinct : groups.flatten.Nodup)
    (nonempty : ∀ group ∈ groups, group ≠ [])
    (isolated : scenario.Isolated concurrency groups) :
    scenario.Isolable concurrency groups := by
  by_contra mixed
  obtain ⟨thrower, throwerMember, trigger, member, throws, harmless,
    endangers⟩ := exists_endangers distinct nonempty mixed
  exact not_isolated_of_endangers positive
    (distinct.sublist List.filter_sublist.flatten) throwerMember throws
    member harmless endangers isolated

/-- A pool can always be driven until it settles. -/
theorem exists_settling_schedule (scenario : Scenario Trigger)
    (pool : Pool Trigger) :
    ∃ schedule final, scenario.machine.run pool schedule = some final ∧
      final.settled = true := by
  obtain ⟨schedule, final, reached, waits, _⟩ :=
    scenario.exists_waiting_schedule (fun _ => False) pool
  refine ⟨schedule, final, reached, ?_⟩
  by_cases rejected : final.workers.any Worker.isRejected = true
  · rw [Pool.settled, rejected, Bool.true_or]
  · simp only [Pool.settled, Bool.or_eq_true]
    refine Or.inr (List.all_eq_true.mpr fun worker member => ?_)
    have stopped := waits worker member
    cases worker with
    | returned => rfl
    | rejected =>
        exact (rejected (List.any_eq_true.mpr ⟨_, member, rfl⟩)).elim
    | fetching | writing | flushing => cases stopped

end Scenario

/-! ## The cycle over the active triggers -/

/--
A cycle that keeps its lock settles under every schedule.  It writes every
trigger that does not throw and whose location was fetched, whatever the
schedule, exactly if none of the fetched triggers throws, or all of them do,
or they are processed one at a time with the throwing ones last.
-/
theorem poll_isolates_failures_iff [DecidableEq Key]
    (scenario : Scenario Trigger) (locationKey : Trigger → Key)
    (triggers : List Trigger) (distinct : triggers.Nodup)
    (concurrency : Nat) (positive : 1 ≤ concurrency) :
    (scenario.Isolated concurrency (groupByLocation locationKey triggers) ↔
      scenario.Isolable concurrency
        (groupByLocation locationKey triggers)) ∧
    ∀ schedule reached,
      scenario.machine.run
          (.start concurrency (groupByLocation locationKey triggers))
          schedule = some reached →
        schedule.length ≤ (Pool.start concurrency
          (groupByLocation locationKey triggers)).weight ∧
        ∃ rest final, scenario.machine.run reached rest = some final ∧
          final.settled = true := by
  refine ⟨⟨?_, ?_⟩, fun schedule reached ran => ⟨?_, ?_⟩⟩
  · exact Scenario.isolable_of_isolated positive
      ((groupByLocation_perm triggers).nodup_iff.mpr distinct)
      (groupByLocation_nonempty triggers)
  · exact Scenario.isolated_of_isolable positive
  · have bound := Scenario.length_add_weight_le ran
    omega
  · exact scenario.exists_settling_schedule reached

/-- The write of trigger 0 is rejected, the others record. -/
def zeroRejected : Scenario Nat where
  fetchOk _ := true
  behaviour trigger := if trigger = 0 then .writeRejected else .records

/--
Two locations, two workers: the write at the first location is rejected while
the second one waits for the weather, and the cycle is over.
-/
theorem rejected_write_loses_other_location :
    ¬ ∀ (scenario : Scenario Nat) (triggers : List Nat)
        (concurrency : Nat), triggers.Nodup → 1 ≤ concurrency →
          scenario.Isolated concurrency (groupByLocation id triggers) := by
  intro isolated
  have lost := isolated zeroRejected [0, 1] 2 (by decide) (by decide)
    [0, 0] _ rfl rfl 1 (by decide) rfl
  revert lost
  decide

/-- One worker that meets the failing trigger last has written the other. -/
theorem rejected_write_last_isolated :
    zeroRejected.Isolated 1 (groupByLocation id [1, 0]) :=
  (poll_isolates_failures_iff zeroRejected id [1, 0] (by decide) 1
    (by decide)).1.mpr (by decide)

end WeatherNotify.Watcher

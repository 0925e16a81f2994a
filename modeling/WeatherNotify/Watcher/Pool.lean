import Mathlib.Data.List.Flatten
import Mathlib.Data.List.Perm.Basic
import WeatherNotify.Transition.Machine

/-!
# The worker pool of a poll cycle

`pollLocations` with its workers, one resolved call at a time.  Between two
calls a worker runs without interruption: when the last write of a location
resolves, the same step takes the next location off the queue and asks the
weather provider for it.  Workers are told apart by their index; the outcome
of the call that resolves is part of the step.

The pool is joined with `Promise.all`, so it is settled by the first worker
that throws, whatever the others are doing.
-/

namespace WeatherNotify.Watcher

open WeatherNotify.Transition

variable {Trigger Key : Type}

/-! ## Grouping -/

section Grouping

variable [DecidableEq Key] (locationKey : Trigger → Key)

/-- Put a trigger into its bucket, or open one at the end. -/
def addToBucket (trigger : Trigger) :
    List (Key × List Trigger) → List (Key × List Trigger)
  | [] => [(locationKey trigger, [trigger])]
  | (key, bucket) :: rest =>
      if key = locationKey trigger then (key, bucket ++ [trigger]) :: rest
      else (key, bucket) :: addToBucket trigger rest

/-- The locations in the order in which they first appear. -/
def groupByLocation (triggers : List Trigger) : List (List Trigger) :=
  (triggers.foldl (fun buckets trigger =>
    addToBucket locationKey trigger buckets) []).map Prod.snd

end Grouping

/-! ## Workers -/

/-- What a worker waits for. -/
inductive Worker (Trigger : Type) where
  | fetching (group : List Trigger)
  | writing (trigger : Trigger) (rest : List Trigger)
  | flushing (trigger : Trigger) (rest : List Trigger)
  | returned
  | rejected
  deriving DecidableEq, Repr

def Worker.isReturned : Worker Trigger → Bool
  | .returned => true
  | _ => false

def Worker.isRejected : Worker Trigger → Bool
  | .rejected => true
  | _ => false

/--
The pool.  `polled` and `written` are ghosts: the locations taken off the queue
and asked for, and the triggers whose observation or firing was committed.
-/
structure Pool (Trigger : Type) where
  queue : List (List Trigger)
  workers : List (Worker Trigger)
  held : Bool
  polled : List (List Trigger)
  written : List Trigger
  deriving DecidableEq, Repr

/-- How the write of a trigger ends. -/
inductive WriteResult where
  | recorded
  | fired
  | rejected
  deriving DecidableEq, Repr

inductive Action where
  | fetched (worker : Nat) (ok : Bool)
  | wrote (worker : Nat) (result : WriteResult)
  | flushed (worker : Nat) (ok : Bool)
  deriving DecidableEq, Repr

namespace Pool

/-- The workers run to their first call while the pool is set up. -/
def start (concurrency : Nat) (groups : List (List Trigger)) :
    Pool Trigger where
  queue := groups.drop concurrency
  workers := (groups.take concurrency).map .fetching
  held := true
  polled := groups.take concurrency
  written := []

def setWorker (pool : Pool Trigger) (worker : Nat)
    (status : Worker Trigger) : Pool Trigger :=
  { pool with workers := pool.workers.set worker status }

/-- A worker at the head of its loop. -/
def resume (pool : Pool Trigger) (worker : Nat) : Pool Trigger :=
  if pool.held then
    match pool.queue with
    | [] => pool.setWorker worker .returned
    | group :: rest =>
        { pool.setWorker worker (.fetching group) with
          queue := rest
          polled := pool.polled ++ [group] }
  else pool.setWorker worker .returned

/-- A worker with the rest of a location in hand. -/
def proceed (pool : Pool Trigger) (worker : Nat) :
    List Trigger → Pool Trigger
  | [] => pool.resume worker
  | trigger :: rest => pool.setWorker worker (.writing trigger rest)

def wrote (pool : Pool Trigger) (trigger : Trigger) : Pool Trigger :=
  { pool with written := pool.written ++ [trigger] }

def step (pool : Pool Trigger) : Action → Option (Pool Trigger)
  | .fetched worker ok =>
      match pool.workers[worker]? with
      | some (.fetching group) =>
          some (if ok then pool.proceed worker group else pool.resume worker)
      | _ => none
  | .wrote worker result =>
      match pool.workers[worker]? with
      | some (.writing trigger rest) =>
          match result with
          | .recorded => some ((pool.wrote trigger).proceed worker rest)
          | .fired =>
              some ((pool.wrote trigger).setWorker worker
                (.flushing trigger rest))
          | .rejected => some (pool.setWorker worker .rejected)
      | _ => none
  | .flushed worker ok =>
      match pool.workers[worker]? with
      | some (.flushing _ rest) =>
          some (if ok then pool.proceed worker rest
            else pool.setWorker worker .rejected)
      | _ => none

/-- The flag that a failed renewal clears for good. -/
def renew (pool : Pool Trigger) (renewed : Bool) : Pool Trigger :=
  { pool with held := pool.held && renewed }

/-- `Promise.all` has settled. -/
def settled (pool : Pool Trigger) : Bool :=
  pool.workers.any Worker.isRejected || pool.workers.all Worker.isReturned

def machine : Machine (Pool Trigger) Action where
  step := step

end Pool

/-! ## What one step can do -/

/-- Every step of the pool, with the call that resolved. -/
inductive Pool.Stepped (pool : Pool Trigger) :
    Action → Pool Trigger → Prop where
  | fetched {worker : Nat} {group : List Trigger}
      (found : pool.workers[worker]? = some (.fetching group)) :
      Pool.Stepped pool (.fetched worker true) (pool.proceed worker group)
  | unfetched {worker : Nat} {group : List Trigger}
      (found : pool.workers[worker]? = some (.fetching group)) :
      Pool.Stepped pool (.fetched worker false) (pool.resume worker)
  | recorded {worker : Nat} {trigger : Trigger} {rest : List Trigger}
      (found : pool.workers[worker]? = some (.writing trigger rest)) :
      Pool.Stepped pool (.wrote worker .recorded)
        ((pool.wrote trigger).proceed worker rest)
  | fired {worker : Nat} {trigger : Trigger} {rest : List Trigger}
      (found : pool.workers[worker]? = some (.writing trigger rest)) :
      Pool.Stepped pool (.wrote worker .fired)
        ((pool.wrote trigger).setWorker worker (.flushing trigger rest))
  | unwritten {worker : Nat} {trigger : Trigger} {rest : List Trigger}
      (found : pool.workers[worker]? = some (.writing trigger rest)) :
      Pool.Stepped pool (.wrote worker .rejected)
        (pool.setWorker worker .rejected)
  | flushed {worker : Nat} {trigger : Trigger} {rest : List Trigger}
      (found : pool.workers[worker]? = some (.flushing trigger rest)) :
      Pool.Stepped pool (.flushed worker true) (pool.proceed worker rest)
  | unflushed {worker : Nat} {trigger : Trigger} {rest : List Trigger}
      (found : pool.workers[worker]? = some (.flushing trigger rest)) :
      Pool.Stepped pool (.flushed worker false)
        (pool.setWorker worker .rejected)

theorem Pool.stepped_of_step {pool next : Pool Trigger} {action : Action}
    (taken : pool.step action = some next) :
    Pool.Stepped pool action next := by
  cases action with
  | fetched worker ok =>
      simp only [Pool.step] at taken
      split at taken
      next found =>
        cases taken
        cases ok with
        | true => exact .fetched found
        | false => exact .unfetched found
      next => cases taken
  | wrote worker result =>
      simp only [Pool.step] at taken
      split at taken
      next found =>
        cases result with
        | recorded =>
            cases taken
            exact .recorded found
        | fired =>
            cases taken
            exact .fired found
        | rejected =>
            cases taken
            exact .unwritten found
      next => cases taken
  | flushed worker ok =>
      simp only [Pool.step] at taken
      split at taken
      next found =>
        cases taken
        cases ok with
        | true => exact .flushed found
        | false => exact .unflushed found
      next => cases taken

/-- A worker at the head of its loop returns or takes the next location. -/
theorem Pool.resume_cases (pool : Pool Trigger) (worker : Nat) :
    (pool.resume worker = pool.setWorker worker .returned ∧
        (pool.held = true → pool.queue = [])) ∨
      ∃ group rest, pool.held = true ∧ pool.queue = group :: rest ∧
        pool.resume worker =
          { pool.setWorker worker (.fetching group) with
            queue := rest
            polled := pool.polled ++ [group] } := by
  unfold Pool.resume
  split
  next held =>
    split
    next empty => exact Or.inl ⟨rfl, fun _ => empty⟩
    next group rest found => exact Or.inr ⟨group, rest, held, found, rfl⟩
  next lost => exact Or.inl ⟨rfl, fun held => (lost held).elim⟩

/-- With triggers left in hand the worker writes the first of them. -/
theorem Pool.proceed_cases (pool : Pool Trigger) (worker : Nat)
    (todo : List Trigger) :
    todo = [] ∧ pool.proceed worker todo = pool.resume worker ∨
      ∃ trigger rest, todo = trigger :: rest ∧
        pool.proceed worker todo =
          pool.setWorker worker (.writing trigger rest) := by
  cases todo with
  | nil => exact Or.inl ⟨rfl, rfl⟩
  | cons trigger rest => exact Or.inr ⟨trigger, rest, rfl, rfl⟩

@[simp]
theorem Pool.written_resume (pool : Pool Trigger) (worker : Nat) :
    (pool.resume worker).written = pool.written := by
  rcases pool.resume_cases worker with ⟨resumed, _⟩ |
    ⟨_, _, _, _, resumed⟩
  · rw [resumed]
    rfl
  · rw [resumed]
    rfl

@[simp]
theorem Pool.written_proceed (pool : Pool Trigger) (worker : Nat)
    (todo : List Trigger) :
    (pool.proceed worker todo).written = pool.written := by
  cases todo with
  | nil => exact pool.written_resume worker
  | cons trigger rest => rfl

theorem Pool.setWorker_of_ne (pool : Pool Trigger) {worker sibling : Nat}
    (different : sibling ≠ worker) (status : Worker Trigger) :
    (pool.setWorker worker status).workers[sibling]? =
      pool.workers[sibling]? :=
  List.getElem?_set_ne (Ne.symm different)

/-- A worker that moves on leaves its siblings where they are. -/
theorem Pool.proceed_of_ne (pool : Pool Trigger) {worker sibling : Nat}
    (different : sibling ≠ worker) (todo : List Trigger) :
    (pool.proceed worker todo).workers[sibling]? =
      pool.workers[sibling]? := by
  rcases pool.proceed_cases worker todo with ⟨_, proceeded⟩ |
    ⟨trigger, rest, _, proceeded⟩
  · rw [proceeded]
    rcases pool.resume_cases worker with ⟨resumed, _⟩ |
      ⟨group, rest, _, _, resumed⟩
    · rw [resumed]
      exact pool.setWorker_of_ne different _
    · rw [resumed]
      exact pool.setWorker_of_ne different _
  · rw [proceeded]
    exact pool.setWorker_of_ne different _

/-- The worker whose call resolves. -/
def Action.worker : Action → Nat
  | .fetched worker _ | .wrote worker _ | .flushed worker _ => worker

theorem Pool.Stepped.of_ne {pool next : Pool Trigger} {action : Action}
    (stepped : pool.Stepped action next) {sibling : Nat}
    (different : sibling ≠ action.worker) :
    next.workers[sibling]? = pool.workers[sibling]? := by
  cases stepped with
  | fetched | flushed => exact pool.proceed_of_ne different _
  | unfetched => exact pool.proceed_of_ne different []
  | @recorded worker trigger rest found =>
      exact (pool.wrote trigger).proceed_of_ne different rest
  | @fired worker trigger rest found =>
      exact (pool.wrote trigger).setWorker_of_ne different _
  | unwritten | unflushed => exact pool.setWorker_of_ne different _

/-- A worker that has returned or thrown makes no further call. -/
theorem Pool.Stepped.running {pool next : Pool Trigger} {action : Action}
    (stepped : pool.Stepped action next) :
    ∃ status, pool.workers[action.worker]? = some status ∧
      status ≠ .returned ∧ status ≠ .rejected := by
  cases stepped with
  | fetched found | unfetched found | recorded found | fired found
  | unwritten found | flushed found | unflushed found =>
      exact ⟨_, found, by simp, by simp⟩

theorem Pool.Stepped.rejected_mono {pool next : Pool Trigger}
    {action : Action} (stepped : pool.Stepped action next)
    (rejected : pool.workers.any Worker.isRejected = true) :
    next.workers.any Worker.isRejected = true := by
  obtain ⟨thrower, member, thrown⟩ := List.any_eq_true.mp rejected
  obtain ⟨sibling, there⟩ := List.mem_iff_getElem?.mp member
  obtain ⟨status, found, _, standing⟩ := stepped.running
  have different : sibling ≠ action.worker := by
    rintro rfl
    rw [found] at there
    cases there
    cases thrower with
    | rejected => exact standing rfl
    | fetching | writing | flushing | returned => cases thrown
  rw [← stepped.of_ne different] at there
  exact List.any_eq_true.mpr ⟨thrower, List.mem_of_getElem? there, thrown⟩

/-- A settled pool stays settled. -/
theorem Pool.settled_step {pool next : Pool Trigger} {action : Action}
    (taken : pool.step action = some next) (settled : pool.settled = true) :
    next.settled = true := by
  have stepped := Pool.stepped_of_step taken
  simp only [Pool.settled, Bool.or_eq_true] at settled ⊢
  rcases settled with rejected | returned
  · exact Or.inl (stepped.rejected_mono rejected)
  · obtain ⟨status, found, running, _⟩ := stepped.running
    have finished := List.all_eq_true.mp returned status
      (List.mem_of_getElem? found)
    cases status with
    | returned => exact (running rfl).elim
    | fetching | writing | flushing | rejected => cases finished

/-! ## Work left -/

/-- A worker that will still poll a location or write a trigger. -/
def Worker.busy (queue : List (List Trigger)) : Worker Trigger → Bool
  | .fetching _ | .writing _ _ => true
  | .flushing _ rest => !(rest.isEmpty && queue.isEmpty)
  | .returned | .rejected => false

/-- No worker of the pool has work left. -/
def Pool.Idle (pool : Pool Trigger) : Prop :=
  ∀ worker ∈ pool.workers, worker.busy pool.queue = false

/-- No worker but this one has work left. -/
def Pool.OthersIdle (pool : Pool Trigger) (worker : Nat) : Prop :=
  ∀ sibling other, sibling ≠ worker →
    pool.workers[sibling]? = some other → other.busy pool.queue = false

instance (pool : Pool Trigger) (worker : Nat) :
    Decidable (pool.OthersIdle worker) :=
  decidable_of_iff
    (∀ sibling : Fin pool.workers.length, sibling.val ≠ worker →
      (pool.workers.get sibling).busy pool.queue = false) <| by
    constructor
    · intro finite sibling other different found
      obtain ⟨bound, rfl⟩ := List.getElem?_eq_some_iff.mp found
      exact finite ⟨sibling, bound⟩ different
    · intro idle sibling different
      exact idle sibling _ different (List.getElem?_eq_getElem _)

/-- The worker whose call was rejected and who throws. -/
def Action.thrower : Action → Option Nat
  | .wrote worker .rejected | .flushed worker false => some worker
  | _ => none

/-- The workers of a pool after one of them moved. -/
theorem Pool.mem_setWorker {pool : Pool Trigger} {worker : Nat}
    {status other : Worker Trigger}
    (member : other ∈ (pool.setWorker worker status).workers) :
    other = status ∨ ∃ sibling, sibling ≠ worker ∧
      pool.workers[sibling]? = some other := by
  obtain ⟨sibling, there⟩ := List.mem_iff_getElem?.mp member
  by_cases same : sibling = worker
  · subst same
    simp only [Pool.setWorker, List.getElem?_set, if_true] at there
    split at there
    · exact Or.inl (Option.some.inj there).symm
    · cases there
  · rw [pool.setWorker_of_ne same] at there
    exact Or.inr ⟨sibling, same, there⟩

/-- A worker and its siblings in the order in which the pool lists them. -/
theorem Pool.split_workers {pool : Pool Trigger} {worker : Nat}
    {status : Worker Trigger}
    (found : pool.workers[worker]? = some status) :
    ∃ before after, pool.workers = before ++ status :: after ∧
      ∀ other, (pool.setWorker worker other).workers =
        before ++ other :: after := by
  obtain ⟨bound, rfl⟩ := List.getElem?_eq_some_iff.mp found
  have replaced : ∀ other, (pool.setWorker worker other).workers =
      pool.workers.take worker ++
        other :: pool.workers.drop (worker + 1) := by
    intro other
    simp only [Pool.setWorker, List.set_eq_take_append_cons_drop, bound,
      if_true]
  refine ⟨_, _, ?_, replaced⟩
  rw [← replaced, Pool.setWorker, List.set_getElem_self]

theorem Pool.idle_setWorker {pool : Pool Trigger} {worker : Nat}
    {status : Worker Trigger} (finished : status.busy pool.queue = false)
    (others : pool.OthersIdle worker) :
    (pool.setWorker worker status).Idle := by
  intro other member
  rcases Pool.mem_setWorker member with rfl | ⟨sibling, different, there⟩
  · exact finished
  · exact others sibling other different there

/-- A pool without work left polls and writes nothing more. -/
theorem Pool.idle_step {pool next : Pool Trigger} {action : Action}
    (idle : pool.Idle) (taken : pool.step action = some next) :
    next.Idle ∧ next.polled = pool.polled ∧
      next.written = pool.written := by
  have at_rest : ∀ {worker : Nat} {status : Worker Trigger},
      pool.workers[worker]? = some status →
        status.busy pool.queue = false :=
    fun found => idle _ (List.mem_of_getElem? found)
  have others : ∀ worker, pool.OthersIdle worker :=
    fun _ _ _ _ found => at_rest found
  cases Pool.stepped_of_step taken with
  | fetched found | unfetched found | recorded found | fired found
  | unwritten found => cases at_rest found
  | @flushed worker trigger rest found =>
      have nothing := at_rest found
      simp only [Worker.busy, Bool.not_eq_false', Bool.and_eq_true,
        List.isEmpty_iff] at nothing
      obtain ⟨rfl, empty⟩ := nothing
      rcases pool.resume_cases worker with ⟨resumed, _⟩ |
        ⟨group, rest, _, found, _⟩
      · rw [show pool.proceed worker [] = pool.resume worker from rfl,
          resumed]
        exact ⟨Pool.idle_setWorker rfl (others worker), rfl, rfl⟩
      · rw [empty] at found
        cases found
  | unflushed found =>
      exact ⟨Pool.idle_setWorker rfl (others _), rfl, rfl⟩

theorem Pool.rejected_of_setWorker {pool : Pool Trigger} {worker : Nat}
    {status : Worker Trigger} (standing : status.isRejected = false)
    (rejected :
      (pool.setWorker worker status).workers.any Worker.isRejected = true) :
    pool.workers.any Worker.isRejected = true := by
  obtain ⟨other, member, thrown⟩ := List.any_eq_true.mp rejected
  rcases Pool.mem_setWorker member with rfl | ⟨sibling, _, there⟩
  · rw [standing] at thrown
    cases thrown
  · exact List.any_eq_true.mpr ⟨other, List.mem_of_getElem? there, thrown⟩

theorem Pool.rejected_of_resume {pool : Pool Trigger} {worker : Nat}
    (rejected :
      (pool.resume worker).workers.any Worker.isRejected = true) :
    pool.workers.any Worker.isRejected = true := by
  rcases pool.resume_cases worker with ⟨resumed, _⟩ |
    ⟨group, rest, _, _, resumed⟩
  · rw [resumed] at rejected
    exact Pool.rejected_of_setWorker rfl rejected
  · rw [resumed] at rejected
    have standing :
        Worker.isRejected (.fetching group : Worker Trigger) = false := rfl
    exact Pool.rejected_of_setWorker standing rejected

theorem Pool.rejected_of_proceed {pool : Pool Trigger} {worker : Nat}
    {todo : List Trigger}
    (rejected :
      (pool.proceed worker todo).workers.any Worker.isRejected = true) :
    pool.workers.any Worker.isRejected = true := by
  rcases pool.proceed_cases worker todo with ⟨_, proceeded⟩ |
    ⟨trigger, rest, _, proceeded⟩
  · rw [proceeded] at rejected
    exact Pool.rejected_of_resume rejected
  · rw [proceeded] at rejected
    exact Pool.rejected_of_setWorker rfl rejected

/-- Only a rejected call makes a worker throw. -/
theorem Pool.rejected_of_step {pool next : Pool Trigger} {action : Action}
    (taken : pool.step action = some next)
    (harmless : action.thrower = none)
    (rejected : next.workers.any Worker.isRejected = true) :
    pool.workers.any Worker.isRejected = true := by
  cases Pool.stepped_of_step taken with
  | fetched found => exact Pool.rejected_of_proceed rejected
  | unfetched found => exact Pool.rejected_of_resume rejected
  | @recorded worker trigger rest found =>
      have earlier := Pool.rejected_of_proceed rejected
      exact earlier
  | @fired worker trigger rest found =>
      have earlier := Pool.rejected_of_setWorker rfl rejected
      exact earlier
  | flushed found => exact Pool.rejected_of_proceed rejected
  | unwritten found | unflushed found => cases harmless

/-- A worker that throws leaves the others and the queue as they were. -/
theorem Pool.step_of_thrower {pool next : Pool Trigger} {action : Action}
    {worker : Nat} (taken : pool.step action = some next)
    (thrown : action.thrower = some worker) :
    next = pool.setWorker worker .rejected := by
  cases Pool.stepped_of_step taken with
  | unwritten found | unflushed found =>
      cases thrown
      rfl
  | fetched | unfetched | recorded | fired | flushed => cases thrown

theorem Pool.settled_of_thrower {pool next : Pool Trigger}
    {action : Action} {worker : Nat}
    (taken : pool.step action = some next)
    (thrown : action.thrower = some worker) :
    next.settled = true := by
  have there : ∀ status : Worker Trigger,
      pool.workers[worker]? = some status →
        (pool.setWorker worker .rejected).settled = true := by
    intro status found
    have bound := (List.getElem?_eq_some_iff.mp found).1
    have member : Worker.rejected ∈
        (pool.setWorker worker .rejected).workers :=
      List.mem_of_getElem? (List.getElem?_set_self bound)
    simp only [Pool.settled, Bool.or_eq_true]
    exact Or.inl (List.any_eq_true.mpr ⟨_, member, rfl⟩)
  cases Pool.stepped_of_step taken with
  | unwritten found | unflushed found =>
      cases thrown
      exact there _ found
  | fetched | unfetched | recorded | fired | flushed => cases thrown

/-- A pool that settles while only the thrower has work left is idle. -/
theorem Pool.idle_of_settles {pool next : Pool Trigger} {action : Action}
    (running : pool.settled = false)
    (taken : pool.step action = some next)
    (settles : next.settled = true)
    (last : ∀ worker ∈ action.thrower, pool.OthersIdle worker) :
    next.Idle := by
  cases thrown : action.thrower with
  | some worker =>
      rw [Pool.step_of_thrower taken thrown]
      exact Pool.idle_setWorker rfl (last worker thrown)
  | none =>
      simp only [Pool.settled, Bool.or_eq_false_iff] at running
      simp only [Pool.settled, Bool.or_eq_true] at settles
      rcases settles with rejected | returned
      · rw [Pool.rejected_of_step taken thrown rejected] at running
        cases running.1
      · intro worker member
        have finished := List.all_eq_true.mp returned worker member
        cases worker <;> first | rfl | cases finished

/-! ## Facts about every location and every worker -/

/-- The lock is held, and the queue and the workers are as said. -/
structure Pool.Throughout (location : List Trigger → Prop)
    (status : Worker Trigger → Prop) (pool : Pool Trigger) : Prop where
  held : pool.held = true
  queued : ∀ group ∈ pool.queue, location group
  workers : ∀ worker ∈ pool.workers, status worker

namespace Pool.Throughout

variable {pool : Pool Trigger} {location : List Trigger → Prop}
  {status : Worker Trigger → Prop}

theorem start {concurrency : Nat} {groups : List (List Trigger)}
    (fetching : ∀ group, location group → status (.fetching group))
    (all : ∀ group ∈ groups, location group) :
    (Pool.start concurrency groups).Throughout location status where
  held := rfl
  queued group member := all group (List.mem_of_mem_drop member)
  workers worker member := by
    obtain ⟨group, groupMember, rfl⟩ := List.mem_map.mp member
    exact fetching group (all group (List.mem_of_mem_take groupMember))

theorem setWorker (throughout : pool.Throughout location status)
    {worker : Nat} {other : Worker Trigger} (fits : status other) :
    (pool.setWorker worker other).Throughout location status where
  held := throughout.held
  queued := throughout.queued
  workers one member := by
    rcases Pool.mem_setWorker member with rfl | ⟨sibling, _, there⟩
    · exact fits
    · exact throughout.workers one (List.mem_of_getElem? there)

theorem wrote (throughout : pool.Throughout location status)
    (trigger : Trigger) :
    (pool.wrote trigger).Throughout location status :=
  ⟨throughout.held, throughout.queued, throughout.workers⟩

theorem resume (throughout : pool.Throughout location status)
    (fetching : ∀ group, location group → status (.fetching group))
    (returned : status .returned) (worker : Nat) :
    (pool.resume worker).Throughout location status := by
  rcases pool.resume_cases worker with ⟨resumed, _⟩ |
    ⟨group, rest, _, found, resumed⟩
  · rw [resumed]
    exact throughout.setWorker returned
  · rw [resumed]
    have queued := throughout.queued
    rw [found] at queued
    have started : (pool.setWorker worker (.fetching group)).Throughout
        location status :=
      throughout.setWorker (fetching group (queued group List.mem_cons_self))
    exact ⟨throughout.held,
      fun other member => queued other (List.mem_cons_of_mem _ member),
      started.workers⟩

theorem proceed (throughout : pool.Throughout location status)
    (fetching : ∀ group, location group → status (.fetching group))
    (returned : status .returned) (worker : Nat) {todo : List Trigger}
    (writing : ∀ trigger rest, todo = trigger :: rest →
      status (.writing trigger rest)) :
    (pool.proceed worker todo).Throughout location status := by
  cases todo with
  | nil => exact throughout.resume fetching returned worker
  | cons trigger rest =>
      exact throughout.setWorker (writing trigger rest rfl)

end Pool.Throughout

/-! ## Work left gets done -/

def Worker.Nonempty (worker : Worker Trigger) : Prop :=
  ∀ group, worker = .fetching group → group ≠ []

/-- The lock is held, and no location is without triggers. -/
def Pool.Supplied (pool : Pool Trigger) : Prop :=
  pool.Throughout (fun group => group ≠ []) Worker.Nonempty

namespace Pool.Supplied

variable {pool : Pool Trigger}

theorem fetching (group : List Trigger) (nonempty : group ≠ []) :
    (Worker.fetching group).Nonempty := by
  intro other same
  cases same
  exact nonempty

theorem start {concurrency : Nat} {groups : List (List Trigger)}
    (nonempty : ∀ group ∈ groups, group ≠ []) :
    (Pool.start concurrency groups).Supplied :=
  Pool.Throughout.start fetching nonempty

theorem step (supplied : pool.Supplied) {next : Pool Trigger}
    {action : Action} (taken : pool.step action = some next) :
    next.Supplied := by
  have returned : (.returned : Worker Trigger).Nonempty :=
    fun _ same => by cases same
  cases Pool.stepped_of_step taken with
  | fetched | flushed =>
      exact supplied.proceed fetching returned _
        fun _ _ _ _ same => by cases same
  | unfetched => exact supplied.resume fetching returned _
  | recorded =>
      exact (supplied.wrote _).proceed fetching returned _
        fun _ _ _ _ same => by cases same
  | fired =>
      exact (supplied.wrote _).setWorker fun _ same => by cases same
  | unwritten | unflushed =>
      exact supplied.setWorker fun _ same => by cases same

/-- A worker in the middle of a location can write its next trigger. -/
theorem writes_next {worker : Nat} {trigger : Trigger}
    {rest : List Trigger}
    (found : pool.workers[worker]? = some (.writing trigger rest)) :
    ∃ next, pool.step (.wrote worker .recorded) = some next ∧
      next.written ≠ pool.written := by
  refine ⟨(pool.wrote trigger).proceed worker rest,
    by simp only [Pool.step, found], ?_⟩
  have appended : ((pool.wrote trigger).proceed worker rest).written =
      pool.written ++ [trigger] :=
    Pool.written_proceed _ worker rest
  rw [appended]
  simp

/-- A worker with work left can be driven until it polls or writes. -/
theorem works (supplied : pool.Supplied) {worker : Nat}
    {status : Worker Trigger}
    (found : pool.workers[worker]? = some status)
    (busy : status.busy pool.queue = true) :
    ∃ actions final, Pool.machine.run pool actions = some final ∧
      (final.polled ≠ pool.polled ∨ final.written ≠ pool.written) := by
  -- one call brings the worker to its next trigger, a second one writes it
  have twice : ∀ (first : Action) (trigger : Trigger)
      (rest : List Trigger),
      pool.step first =
          some (pool.setWorker worker (.writing trigger rest)) →
        ∃ actions final, Pool.machine.run pool actions = some final ∧
          (final.polled ≠ pool.polled ∨
            final.written ≠ pool.written) := by
    intro first trigger rest stepped
    have bound := (List.getElem?_eq_some_iff.mp found).1
    have there : (pool.setWorker worker
        (.writing trigger rest)).workers[worker]? =
          some (.writing trigger rest) := by
      simp only [Pool.setWorker, List.getElem?_set_self bound]
    obtain ⟨final, wrote, changed⟩ := writes_next there
    refine ⟨[first, .wrote worker .recorded], final, ?_, Or.inr changed⟩
    simp only [Machine.run_cons, Pool.machine, stepped, wrote,
      Option.bind_some, Machine.run_nil]
  cases status with
  | fetching group =>
      cases group with
      | nil =>
          exact (supplied.workers _ (List.mem_of_getElem? found) [] rfl
            rfl).elim
      | cons trigger rest =>
          refine twice (.fetched worker true) trigger rest ?_
          simp only [Pool.step, found, if_true, Pool.proceed]
  | writing trigger rest =>
      obtain ⟨final, wrote, changed⟩ := writes_next found
      refine ⟨[.wrote worker .recorded], final, ?_, Or.inr changed⟩
      simp only [Machine.run_cons, Pool.machine, wrote, Option.bind_some,
        Machine.run_nil]
  | flushing trigger rest =>
      cases rest with
      | cons second rest =>
          refine twice (.flushed worker true) second rest ?_
          simp only [Pool.step, found, if_true, Pool.proceed]
      | nil =>
          have polls : pool.queue ≠ [] := by
            intro empty
            simp [Worker.busy, empty] at busy
          rcases pool.resume_cases worker with ⟨_, drained⟩ |
            ⟨group, queue, _, _, resumed⟩
          · exact (polls (drained supplied.held)).elim
          · refine ⟨[.flushed worker true], pool.resume worker, ?_,
              Or.inl ?_⟩
            · simp only [Machine.run_cons, Pool.machine, Pool.step, found,
                if_true, Pool.proceed, Option.bind_some, Machine.run_nil]
            · rw [resumed]
              simp
  | returned | rejected => cases busy

end Pool.Supplied

/-! ## Locations partition the triggers -/

section Grouping

variable [DecidableEq Key] {locationKey : Trigger → Key}

theorem addToBucket_nonempty {trigger : Trigger}
    {buckets : List (Key × List Trigger)}
    (nonempty : ∀ bucket ∈ buckets, bucket.2 ≠ []) :
    ∀ bucket ∈ addToBucket locationKey trigger buckets,
      bucket.2 ≠ [] := by
  induction buckets with
  | nil => simp [addToBucket]
  | cons first rest induction =>
      obtain ⟨key, bucket⟩ := first
      unfold addToBucket
      split
      · intro other member
        rcases List.mem_cons.mp member with rfl | later
        · simp
        · exact nonempty other (List.mem_cons_of_mem _ later)
      · intro other member
        rcases List.mem_cons.mp member with rfl | later
        · exact nonempty _ List.mem_cons_self
        · exact induction
            (fun one oneMember =>
              nonempty one (List.mem_cons_of_mem _ oneMember))
            other later

theorem addToBucket_perm (trigger : Trigger)
    (buckets : List (Key × List Trigger)) :
    ((addToBucket locationKey trigger buckets).map Prod.snd).flatten.Perm
      ((buckets.map Prod.snd).flatten ++ [trigger]) := by
  induction buckets with
  | nil => exact List.Perm.refl _
  | cons first rest induction =>
      obtain ⟨key, bucket⟩ := first
      unfold addToBucket
      split
      · simp only [List.map_cons, List.flatten_cons, List.append_assoc]
        exact List.Perm.append_left bucket List.perm_append_comm
      · simp only [List.map_cons, List.flatten_cons, List.append_assoc]
        exact List.Perm.append_left bucket induction

theorem groupByLocation_nonempty (triggers : List Trigger) :
    ∀ group ∈ groupByLocation locationKey triggers, group ≠ [] := by
  have kept : ∀ buckets : List (Key × List Trigger),
      (∀ bucket ∈ buckets, bucket.2 ≠ []) →
        ∀ bucket ∈ triggers.foldl (fun buckets trigger =>
          addToBucket locationKey trigger buckets) buckets,
          bucket.2 ≠ [] := by
    induction triggers with
    | nil => exact fun _ nonempty => nonempty
    | cons trigger rest induction =>
        exact fun buckets nonempty =>
          induction _ (addToBucket_nonempty nonempty)
  intro group member
  obtain ⟨bucket, bucketMember, rfl⟩ := List.mem_map.mp member
  exact kept [] (by simp) bucket bucketMember

/-- The locations hold the triggers, each as often as it was read. -/
theorem groupByLocation_perm (triggers : List Trigger) :
    (groupByLocation locationKey triggers).flatten.Perm triggers := by
  have added : ∀ buckets : List (Key × List Trigger),
      ((triggers.foldl (fun buckets trigger =>
          addToBucket locationKey trigger buckets) buckets).map
            Prod.snd).flatten.Perm
        ((buckets.map Prod.snd).flatten ++ triggers) := by
    induction triggers with
    | nil =>
        intro buckets
        simp
    | cons trigger rest induction =>
        intro buckets
        refine (induction _).trans ?_
        refine ((addToBucket_perm trigger buckets).append_right rest).trans ?_
        rw [List.append_assoc]
        rfl
  exact added []

end Grouping

end WeatherNotify.Watcher

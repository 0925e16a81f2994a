import Mathlib.Tactic.NormNum
import WeatherNotify.Watcher.Evaluation

/-!
# A cycle evaluates every trigger exactly once

The locations taken off the queue and those left on it are the groups, in
order.  A call of `pollLocation` that has not returned is the one its worker
is in, and what it has processed and what the worker has in hand make up its
location; so nothing is left when all workers have returned.
-/

namespace WeatherNotify.Watcher

open WeatherNotify.Transition
open WeatherNotify.Triggers

variable {Trigger Snapshot : Type}

/-! ## Steps of the pool -/

namespace Pool

variable {pool next : Pool Trigger} {worker : Nat} {action : Action}

theorem workers_setWorker_self {status : Worker Trigger}
    (found : pool.workers[worker]? = some status) (other : Worker Trigger) :
    (pool.setWorker worker other).workers[worker]? = some other :=
  List.getElem?_set_self (List.getElem?_eq_some_iff.mp found).1

/-- What taking the next location, or returning, does to the queue. -/
structure Takes (pool next : Pool Trigger) (worker : Nat) : Prop where
  held : next.held = pool.held
  queued : next.polled ++ next.queue = pool.polled ++ pool.queue
  size : next.workers.length = pool.workers.length
  fresh : ∃ taken, next.polled = pool.polled ++ taken ∧
    ∀ group ∈ taken, next.workers[worker]? = some (.fetching group)
  drained : pool.held = true →
    (∀ status ∈ pool.workers, status = .returned → pool.queue = []) →
      ∀ status ∈ next.workers, status = .returned → next.queue = []

theorem takes_setWorker (pool : Pool Trigger) (worker : Nat)
    {status : Worker Trigger} (running : status ≠ .returned) :
    Takes pool (pool.setWorker worker status) worker where
  held := rfl
  queued := rfl
  size := List.length_set
  fresh := ⟨[], (List.append_nil _).symm, by simp⟩
  drained := by
    intro _ empty other member finished
    rcases mem_setWorker member with rfl | ⟨sibling, _, there⟩
    · exact absurd finished running
    · exact empty other (List.mem_of_getElem? there) finished

theorem takes_resume {status : Worker Trigger}
    (found : pool.workers[worker]? = some status) :
    Takes pool (pool.resume worker) worker := by
  rcases pool.resume_cases worker with ⟨resumed, empty⟩ |
    ⟨group, rest, _, queued, resumed⟩
  · rw [resumed]
    exact ⟨rfl, rfl, List.length_set, ⟨[], (List.append_nil _).symm, by simp⟩,
      fun held _ _ _ _ => empty held⟩
  · have there := workers_setWorker_self found (.fetching group)
    rw [resumed]
    refine ⟨rfl, ?_, List.length_set, ⟨[group], rfl, ?_⟩, ?_⟩
    · show pool.polled ++ [group] ++ rest = pool.polled ++ pool.queue
      rw [queued, List.append_assoc]
      rfl
    · intro other member
      cases List.mem_singleton.mp member
      exact there
    · intro _ drained other member finished
      rcases mem_setWorker member with rfl | ⟨sibling, _, elsewhere⟩
      · cases finished
      · have none := drained other (List.mem_of_getElem? elsewhere) finished
        rw [queued] at none
        cases none

theorem takes_proceed {status : Worker Trigger}
    (found : pool.workers[worker]? = some status) (todo : List Trigger) :
    Takes pool (pool.proceed worker todo) worker := by
  cases todo with
  | nil => exact takes_resume found
  | cons trigger rest =>
      exact takes_setWorker pool worker nofun

/-- Writing is not taking. -/
theorem Takes.of_wrote {trigger : Trigger}
    (takes : Takes (pool.wrote trigger) next worker) :
    Takes pool next worker :=
  ⟨takes.held, takes.queued, takes.size, takes.fresh, takes.drained⟩

theorem Stepped.takes (stepped : pool.Stepped action next) :
    Takes pool next action.worker := by
  cases stepped with
  | fetched found => exact takes_proceed found _
  | unfetched found => exact takes_resume found
  | @recorded worker trigger rest found =>
      have there : (pool.wrote trigger).workers[worker]? =
          some (.writing trigger rest) := found
      exact (takes_proceed there rest).of_wrote
  | @fired worker trigger rest found =>
      have running : Worker.flushing trigger rest ≠ .returned := nofun
      exact (takes_setWorker (pool.wrote trigger) worker running).of_wrote
  | flushed found => exact takes_proceed found _
  | unwritten | unflushed => exact takes_setWorker pool _ nofun

end Pool

/-! ## One call of `pollLocation` -/

namespace Poll

variable {poll : Poll Trigger Snapshot}

/-- A call that has returned: processed as a whole, or not at all. -/
def Complete (poll : Poll Trigger Snapshot) : Prop :=
  match poll.snapshot with
  | some snapshot =>
      poll.processed = poll.group.map fun trigger => (trigger, snapshot)
  | none => poll.processed = []

/-- A call that a worker with this status is in. -/
def AtWork (poll : Poll Trigger Snapshot) : Worker Trigger → Prop
  | .fetching group =>
      poll.group = group ∧ poll.snapshot = none ∧ poll.processed = []
  | .writing _ rest | .flushing _ rest => ∃ snapshot,
      poll.snapshot = some snapshot ∧
        poll.processed ++ rest.map (fun trigger => (trigger, snapshot)) =
          poll.group.map fun trigger => (trigger, snapshot)
  | .returned | .rejected => False

theorem worker_proceed (poll : Poll Trigger Snapshot) (todo : List Trigger) :
    (poll.proceed todo).worker = poll.worker := by
  unfold proceed
  split <;> rfl

theorem group_proceed (poll : Poll Trigger Snapshot) (todo : List Trigger) :
    (poll.proceed todo).group = poll.group := by
  unfold proceed
  split <;> rfl

/-- The call has returned with its work done, or is where its worker is. -/
def Settles (poll : Poll Trigger Snapshot) (pool : Pool Trigger)
    (worker : Nat) : Prop :=
  poll.returned = true ∧ poll.Complete ∨
    poll.returned = false ∧
      ∃ status, pool.workers[worker]? = some status ∧ poll.AtWork status

/-- With the rest of the location in hand, the loop goes on or ends. -/
theorem settles_proceed {pool : Pool Trigger} {worker : Nat}
    {status : Worker Trigger} {todo : List Trigger} {snapshot : Snapshot}
    (found : pool.workers[worker]? = some status)
    (fetched : poll.snapshot = some snapshot) (running : poll.returned = false)
    (left : poll.processed ++ todo.map (fun trigger => (trigger, snapshot)) =
      poll.group.map fun trigger => (trigger, snapshot)) :
    (poll.proceed todo).Settles (pool.proceed worker todo) worker := by
  cases todo with
  | nil =>
      rw [List.map_nil, List.append_nil] at left
      apply Or.inl
      constructor
      · rfl
      · show (poll.leave).Complete
        unfold Complete leave
        rw [fetched]
        exact left
  | cons trigger rest =>
      have moved : poll.proceed (trigger :: rest) =
          { poll with
            processed := poll.processed ++ [(trigger, snapshot)] } := by
        unfold proceed
        rw [fetched]
      rw [moved]
      apply Or.inr
      refine ⟨running, .writing trigger rest,
        Pool.workers_setWorker_self found _, snapshot, fetched, ?_⟩
      rw [List.append_assoc]
      exact left

end Poll

namespace Resolution

variable {resolution : Resolution Snapshot} {pool next : Pool Trigger}

theorem worker_follow (resolution : Resolution Snapshot)
    (status : Worker Trigger) (poll : Poll Trigger Snapshot) :
    (resolution.follow status poll).worker = poll.worker := by
  unfold follow
  split
  case h_1 => exact Poll.worker_proceed _ _
  case h_2 => rfl
  case h_3 => exact Poll.worker_proceed _ _
  case h_4 => exact Poll.worker_proceed _ _
  case h_5 => rfl

theorem group_follow (resolution : Resolution Snapshot)
    (status : Worker Trigger) (poll : Poll Trigger Snapshot) :
    (resolution.follow status poll).group = poll.group := by
  unfold follow
  split
  case h_1 => exact Poll.group_proceed _ _
  case h_2 => rfl
  case h_3 => exact Poll.group_proceed _ _
  case h_4 => exact Poll.group_proceed _ _
  case h_5 => rfl

/-- The call of the worker that moves keeps up with it. -/
theorem settles_follow {status : Worker Trigger}
    (taken : pool.step resolution.action = some next)
    (harmless : resolution.action.thrower = none)
    (found : pool.workers[resolution.action.worker]? = some status)
    {poll : Poll Trigger Snapshot} (atWork : poll.AtWork status)
    (running : poll.returned = false) :
    (resolution.follow status poll).Settles next
      resolution.action.worker := by
  have stepped := Pool.stepped_of_step taken
  cases resolution with
  | fetched worker answer =>
      cases answer with
      | some snapshot =>
          cases stepped with
          | @fetched _ group there =>
              cases found.symm.trans there
              rcases atWork with ⟨same, _, empty⟩
              have left : (poll.answered snapshot).processed ++
                  group.map (fun trigger => (trigger, snapshot)) =
                    (poll.answered snapshot).group.map
                      fun trigger => (trigger, snapshot) := by
                show poll.processed ++ _ = poll.group.map _
                rw [empty, same]
                rfl
              exact Poll.settles_proceed there rfl running left
      | none =>
          cases stepped with
          | @unfetched _ group there =>
              cases found.symm.trans there
              rcases atWork with ⟨_, unknown, empty⟩
              apply Or.inl
              constructor
              · rfl
              · show (poll.leave).Complete
                unfold Poll.Complete Poll.leave
                rw [unknown]
                exact empty
  | wrote worker result =>
      cases stepped with
      | @recorded _ trigger rest there =>
          cases found.symm.trans there
          rcases atWork with ⟨snapshot, fetched, left⟩
          have same : (pool.wrote trigger).workers[worker]? =
              some (.writing trigger rest) := there
          exact Poll.settles_proceed same fetched running left
      | @fired _ trigger rest there =>
          cases found.symm.trans there
          have same : (pool.wrote trigger).workers[worker]? =
              some (.writing trigger rest) := there
          exact Or.inr ⟨running, .flushing trigger rest,
            Pool.workers_setWorker_self same _, atWork⟩
      | unwritten => cases harmless
  | flushed worker ok =>
      cases stepped with
      | @flushed _ trigger rest there =>
          cases found.symm.trans there
          rcases atWork with ⟨snapshot, fetched, left⟩
          exact Poll.settles_proceed there fetched running left
      | unflushed => cases harmless

end Resolution

/-! ## The cycle -/

namespace Evaluation

variable {evaluation next final : Evaluation Trigger Snapshot}
  {resolution : Resolution Snapshot} {groups : List (List Trigger)}

theorem step_eq (stepped : evaluation.step resolution = some next) :
    ∃ status pool,
      evaluation.pool.workers[resolution.action.worker]? = some status ∧
        evaluation.pool.step resolution.action = some pool ∧
        next = {
          pool := pool
          polls := evaluation.polls.map (fun poll =>
              if poll.worker = resolution.action.worker ∧
                  poll.returned = false then resolution.follow status poll
              else poll) ++
            entered evaluation.pool pool resolution.action.worker } := by
  rcases Option.bind_eq_some_iff.mp stepped with ⟨status, found, later⟩
  rcases Option.bind_eq_some_iff.mp later with ⟨pool, taken, same⟩
  exact ⟨status, pool, found, taken, (Option.some.inj same).symm⟩

/-- What is known of a cycle in which nothing throws. -/
structure Sound (groups : List (List Trigger)) (size : Nat)
    (evaluation : Evaluation Trigger Snapshot) : Prop where
  held : evaluation.pool.held = true
  queued : evaluation.pool.polled ++ evaluation.pool.queue = groups
  size : evaluation.pool.workers.length = size
  drained : ∀ status ∈ evaluation.pool.workers, status = .returned →
    evaluation.pool.queue = []
  standing : evaluation.pool.workers.any Worker.isRejected = false
  polled : evaluation.polls.map Poll.group = evaluation.pool.polled
  settles : ∀ poll ∈ evaluation.polls,
    poll.Settles evaluation.pool poll.worker

theorem sound_start (concurrency : Rat) (groups : List (List Trigger)) :
    Sound groups (min (workerCount concurrency) groups.length)
      (start concurrency groups : Evaluation Trigger Snapshot) where
  held := rfl
  queued := List.take_append_drop _ _
  size := by
    show ((groups.take _).map _).length = _
    rw [List.length_map, List.length_take]
  drained := by
    rintro status member rfl
    rcases List.mem_map.mp member with ⟨group, _, same⟩
    cases same
  standing := by
    apply List.any_eq_false.mpr
    intro status member
    rcases List.mem_map.mp member with ⟨group, _, rfl⟩
    exact Bool.false_ne_true
  polled := by
    show ((groups.take _).mapIdx Poll.enter).map Poll.group = groups.take _
    apply List.ext_getElem?
    intro worker
    rw [List.getElem?_map, List.getElem?_mapIdx, Option.map_map]
    exact Option.map_id_apply
  settles := by
    intro poll member
    rcases List.mem_mapIdx.mp member with ⟨worker, bound, rfl⟩
    apply Or.inr
    refine ⟨rfl, .fetching _, ?_, rfl, rfl, rfl⟩
    show ((groups.take _).map Worker.fetching)[worker]? = _
    rw [List.getElem?_map, List.getElem?_eq_getElem bound]
    rfl

theorem sound_step {size : Nat} (sound : Sound groups size evaluation)
    (stepped : evaluation.step resolution = some next)
    (harmless : resolution.action.thrower = none) :
    Sound groups size next := by
  rcases step_eq stepped with ⟨status, pool, found, taken, rfl⟩
  have moved := Pool.stepped_of_step taken
  have takes := moved.takes
  rcases takes.fresh with ⟨newly, grown, fetching⟩
  have opened : (entered evaluation.pool pool resolution.action.worker :
        List (Poll Trigger Snapshot)) =
      newly.map (Poll.enter resolution.action.worker) := by
    rw [entered, grown, List.drop_left]
  constructor
  · exact takes.held.trans sound.held
  · exact takes.queued.trans sound.queued
  · exact takes.size.trans sound.size
  · exact takes.drained sound.held sound.drained
  · apply Bool.eq_false_iff.mpr
    intro rejected
    have earlier := Pool.rejected_of_step taken harmless rejected
    rw [sound.standing] at earlier
    cases earlier
  · show (evaluation.polls.map _ ++ entered _ _ _).map Poll.group =
      pool.polled
    rw [opened, List.map_append, List.map_map, grown, ← sound.polled,
      List.map_map]
    congr 1
    · apply List.map_congr_left
      intro poll _
      show Poll.group (if _ then _ else poll) = poll.group
      split
      case isTrue => exact resolution.group_follow status poll
      case isFalse => rfl
    · exact List.map_id _
  · intro poll member
    rcases List.mem_append.mp member with earlier | new
    · rcases List.mem_map.mp earlier with ⟨before, beforeMember, rfl⟩
      have settled := sound.settles before beforeMember
      by_cases own : before.worker = resolution.action.worker ∧
          before.returned = false
      · rw [if_pos own, resolution.worker_follow, own.1]
        rcases settled with ⟨returned, _⟩ | ⟨_, other, there, atWork⟩
        · rw [own.2] at returned
          cases returned
        · rw [own.1, found] at there
          cases there
          exact Resolution.settles_follow taken harmless found atWork own.2
      · rw [if_neg own]
        rcases settled with done | ⟨running, other, there, atWork⟩
        · exact Or.inl done
        · have elsewhere : before.worker ≠ resolution.action.worker :=
            fun same => own ⟨same, running⟩
          refine Or.inr ⟨running, other, ?_, atWork⟩
          show pool.workers[before.worker]? = _
          rw [moved.of_ne elsewhere]
          exact there
    · rw [opened] at new
      rcases List.mem_map.mp new with ⟨group, groupMember, rfl⟩
      exact Or.inr ⟨rfl, .fetching group, fetching group groupMember, rfl,
        rfl, rfl⟩

/-- A location is asked for, or its triggers are being processed. -/
def inFlight (evaluation : Evaluation Trigger Snapshot) : Nat :=
  evaluation.pool.workers.countP fun status =>
    !status.isReturned && !status.isRejected

theorem inFlight_le {size : Nat} (sound : Sound groups size evaluation) :
    evaluation.inFlight ≤ size := by
  rw [← sound.size]
  exact List.countP_le_length

/-- Once the pool has settled every location has been taken and is done. -/
theorem Sound.finished {concurrency : Rat} (positive : 1 ≤ concurrency)
    (sound : Sound groups (min (workerCount concurrency) groups.length)
      evaluation)
    (settled : evaluation.pool.settled = true) :
    evaluation.polls.map Poll.group = groups ∧
      ∀ poll ∈ evaluation.polls, poll.returned = true ∧ poll.Complete := by
  have returned : ∀ status ∈ evaluation.pool.workers, status = .returned := by
    rw [Pool.settled, sound.standing, Bool.false_or] at settled
    intro status member
    have finished := List.all_eq_true.mp settled status member
    cases status with
    | returned => rfl
    | fetching | writing | flushing | rejected => cases finished
  constructor
  · have workers : 1 ≤ workerCount concurrency := by
      have floor : (1 : Int) ≤ ⌊concurrency⌋ := Int.le_floor.mpr (by
        rw [Int.cast_one]
        exact positive)
      rw [workerCount]
      omega
    have empty : evaluation.pool.queue = [] := by
      rcases List.eq_nil_or_concat groups with none | ⟨_, _, some⟩
      · exact (List.append_eq_nil_iff.mp (sound.queued.trans none)).2
      · have occupied : 0 < evaluation.pool.workers.length := by
          rw [sound.size, some, List.concat_eq_append, List.length_append]
          exact lt_min workers (Nat.succ_pos _)
        rcases List.exists_mem_of_length_pos occupied with ⟨status, member⟩
        exact sound.drained status member (returned status member)
    have queued := sound.queued
    rw [empty, List.append_nil] at queued
    rw [sound.polled, queued]
  · intro poll member
    rcases sound.settles poll member with done | ⟨_, status, there, atWork⟩
    · exact done
    · rw [returned status (List.mem_of_getElem? there)] at atWork
      exact atWork.elim

theorem step_of_pool (resolution : Resolution Snapshot)
    {status : Worker Trigger} {pool : Pool Trigger}
    (found : evaluation.pool.workers[resolution.action.worker]? = some status)
    (taken : evaluation.pool.step resolution.action = some pool) :
    ∃ next, machine.step evaluation resolution = some next := by
  show ∃ next, evaluation.step resolution = some next
  rw [step]
  simp only [found, taken, Option.bind_eq_bind, Option.bind_some]
  exact ⟨_, rfl⟩

/-- An unsettled pool has a call that can resolve without throwing. -/
theorem exists_step {size : Nat} (sound : Sound groups size evaluation)
    (running : evaluation.pool.settled = false) :
    ∃ (resolution : Resolution Snapshot) (next : Evaluation Trigger Snapshot),
      resolution.action.thrower = none ∧
        machine.step evaluation resolution = some next := by
  rw [Pool.settled, sound.standing, Bool.false_or] at running
  rcases List.all_eq_false.mp running with ⟨status, member, unfinished⟩
  rcases List.mem_iff_getElem?.mp member with ⟨worker, found⟩
  cases status with
  | fetching group =>
      have taken : evaluation.pool.step (.fetched worker false) =
          some (evaluation.pool.resume worker) := by
        simp only [Pool.step, found, Bool.false_eq_true, if_false]
      rcases step_of_pool (.fetched worker none) found taken with ⟨next, stepped⟩
      exact ⟨_, next, rfl, stepped⟩
  | writing trigger rest =>
      have taken : evaluation.pool.step (.wrote worker .recorded) =
          some ((evaluation.pool.wrote trigger).proceed worker rest) := by
        simp only [Pool.step, found]
      rcases step_of_pool (.wrote worker .recorded) found taken with ⟨next, stepped⟩
      exact ⟨_, next, rfl, stepped⟩
  | flushing trigger rest =>
      have taken : evaluation.pool.step (.flushed worker true) =
          some (evaluation.pool.proceed worker rest) := by
        simp only [Pool.step, found, if_true]
      rcases step_of_pool (.flushed worker true) found taken with ⟨next, stepped⟩
      exact ⟨_, next, rfl, stepped⟩
  | returned => exact absurd rfl unfinished
  | rejected =>
      have thrown := List.any_eq_false.mp sound.standing _ member
      exact absurd rfl thrown

/-! ## Every run ends -/

/-- Each call that resolves leaves fewer to come. -/
theorem weight_lt (stepped : machine.step evaluation resolution = some next) :
    next.pool.weight < evaluation.pool.weight := by
  rcases step_eq stepped with ⟨status, pool, found, taken, rfl⟩
  exact (Pool.stepped_of_step taken).weight_lt

/-- What the provider has been asked for. -/
def requests (evaluation : Evaluation TriggerRow Snapshot) :
    List (Option (Rat × Rat)) :=
  evaluation.polls.map Poll.request

theorem workerCount_le {concurrency : Rat} (positive : 0 ≤ concurrency) :
    (workerCount concurrency : Rat) ≤ concurrency := by
  have floor : (0 : Int) ≤ ⌊concurrency⌋ := Int.floor_nonneg.mpr positive
  have same : ((workerCount concurrency : Int) : Rat) = ⌊concurrency⌋ :=
    congrArg Int.cast (Int.toNat_of_nonneg floor)
  rw [← Int.cast_natCast, same]
  exact Int.floor_le concurrency

/--
A cycle that keeps its lock and in which nothing throws: the groups are one
for each location key, each with the triggers of the key in input order; the
locations are taken in that order, at most `concurrency` of them at a time;
the cycle can always go on until it has settled, within a bounded number of
calls; and then every key has been asked for once, with the coordinates of its
first trigger, and every location that was fetched has had its triggers
processed once each with what was answered for it.
-/
theorem cycle_evaluates_every_trigger_once (round : Rat → Rat)
    (concurrency : Rat) (positive : 1 ≤ concurrency)
    (triggers : List TriggerRow) (resolutions : List (Resolution Snapshot))
    (harmless : ∀ resolution ∈ resolutions,
      resolution.action.thrower = none)
    (final : Evaluation TriggerRow Snapshot)
    (reached : machine.run
      (start concurrency (groupByLocation (locationOf round) triggers))
      resolutions = some final) :
    ∃ keys : List String, keys.Nodup ∧
      (∀ key, key ∈ keys ↔
        ∃ trigger ∈ triggers, locationOf round trigger = key) ∧
      groupByLocation (locationOf round) triggers = keys.map (fun key =>
        triggers.filter fun trigger => locationOf round trigger = key) ∧
      (groupByLocation (locationOf round) triggers).flatten.Perm triggers ∧
      final.polls.map Poll.group <+:
        groupByLocation (locationOf round) triggers ∧
      (final.inFlight : Rat) ≤ concurrency ∧
      (final.pool.settled = false →
        ∃ (resolution : Resolution Snapshot)
          (next : Evaluation TriggerRow Snapshot),
          resolution.action.thrower = none ∧
            machine.step final resolution = some next) ∧
      resolutions.length ≤ (Pool.start (workerCount concurrency)
        (groupByLocation (locationOf round) triggers)).weight ∧
      (final.pool.settled = true →
        final.polls.map Poll.group =
            groupByLocation (locationOf round) triggers ∧
          final.requests = keys.map (fun key =>
            (triggers.find? fun trigger =>
              locationOf round trigger = key).map
                fun row => (row.latitude, row.longitude)) ∧
          ∀ poll ∈ final.polls, poll.returned = true ∧ poll.Complete) := by
  rcases groupByLocation_eq (locationOf round) triggers with
    ⟨keys, distinct, occurring, groups⟩
  have guarded : ∀ taken ∈ machine.transitions
      (start concurrency (groupByLocation (locationOf round) triggers))
      resolutions, taken.label.action.thrower = none := by
    intro taken member
    exact harmless _ (machine.label_mem_of_mem_transitions member)
  have sound := Machine.run_invariant
    (fun taken stepped harmless sound => sound_step sound stepped harmless)
    (sound_start concurrency (groupByLocation (locationOf round) triggers))
    guarded reached
  refine ⟨keys, distinct, occurring, groups, groupByLocation_perm triggers,
    ?_, ?_, exists_step sound, ?_, ?_⟩
  · rw [sound.polled]
    exact ⟨_, sound.queued⟩
  · have most := (inFlight_le sound).trans (min_le_left _ _)
    have nonnegative : (0 : Rat) ≤ concurrency :=
      le_trans zero_le_one positive
    exact le_trans (Nat.cast_le.mpr most) (workerCount_le nonnegative)
  · have bound := Machine.length_add_potential_le
      (fun stepped => weight_lt stepped) reached
    exact le_trans (Nat.le_add_right _ _) bound
  · intro settled
    rcases sound.finished positive settled with ⟨taken, done⟩
    refine ⟨taken, ?_, done⟩
    have asked : final.requests = (final.polls.map Poll.group).map
        fun group => group.head?.map fun row =>
          (row.latitude, row.longitude) := by
      rw [List.map_map]
      rfl
    rw [asked, taken, groups, List.map_map]
    apply List.map_congr_left
    intro key _
    show (List.head? (triggers.filter _)).map _ = _
    rw [List.head?_filter]

/-- An active trigger on the meridian of Greenwich. -/
def meridianRow (id : String) (latitude : Rat) : TriggerRow where
  id := id
  userId := "ann"
  name := "Heat"
  city := "Greenwich"
  latitude := latitude
  longitude := 0
  conditionLogic := .and
  conditions := conditionRows [⟨.temperature, .gt, 30⟩]
  channels := [.email]
  cooldownMin := 60
  isActive := true
  locationBucket := 0

/-- Two triggers share a location; the fetch of the other one fails. -/
def threeRows : List TriggerRow :=
  [meridianRow "t1" (51477 / 1000), meridianRow "t2" 48,
    meridianRow "t3" (51478 / 1000)]

def oneWorkerRun : List (Resolution Nat) :=
  [.fetched 0 (some 7), .wrote 0 .recorded, .wrote 0 .recorded,
    .fetched 0 none]

theorem cycle_evaluates_every_trigger_once_one_worker :
    ∃ final, machine.run
        (start (3 / 2) (groupByLocation (locationOf id) threeRows))
        oneWorkerRun = some final ∧
      final.pool.settled = true ∧
      final.polls.map Poll.group =
        groupByLocation (locationOf id) threeRows := by
  have reached : ∃ final : Evaluation TriggerRow Nat, machine.run
        (start (3 / 2) (groupByLocation (locationOf id) threeRows))
        oneWorkerRun = some final ∧ final.pool.settled = true :=
    ⟨{ pool := {
        queue := []
        workers := [.returned]
        held := true
        polled := [[meridianRow "t1" (51477 / 1000),
          meridianRow "t3" (51478 / 1000)], [meridianRow "t2" 48]]
        written := [meridianRow "t1" (51477 / 1000),
          meridianRow "t3" (51478 / 1000)] }
       polls := [
        ⟨0, [meridianRow "t1" (51477 / 1000),
            meridianRow "t3" (51478 / 1000)], some 7,
          [(meridianRow "t1" (51477 / 1000), 7),
            (meridianRow "t3" (51478 / 1000), 7)], true⟩,
        ⟨0, [meridianRow "t2" 48], none, [], true⟩] },
      by decide +kernel, by decide⟩
  rcases reached with ⟨final, reached, settled⟩
  refine ⟨final, reached, settled, ?_⟩
  rcases cycle_evaluates_every_trigger_once id (3 / 2) (by norm_num) threeRows
    oneWorkerRun (by decide) final reached with
    ⟨_, _, _, _, _, _, _, _, _, done⟩
  exact (done settled).1

end Evaluation

end WeatherNotify.Watcher

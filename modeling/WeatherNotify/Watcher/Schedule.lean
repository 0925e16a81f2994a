import Mathlib.Data.List.Nodup
import Mathlib.Data.List.Perm.Lattice
import WeatherNotify.Watcher.Pool

/-!
# Schedules of a poll cycle

A cycle that keeps its lock, over locations whose fetches and triggers whose
writes have a fixed outcome.  What is left open is the order in which the calls
of the workers resolve, so a run is a list of worker indices.

While nothing has thrown, the triggers of the fetched locations are exactly
those written and those some worker or the queue still holds; with one such
location in progress at a time they are so in order.
-/

namespace WeatherNotify.Watcher

open WeatherNotify.Transition

variable {Trigger : Type}

/-! ## Fixed outcomes -/

/-- How the processing of a trigger goes. -/
inductive Behaviour where
  | records
  | fires
  | writeRejected
  | flushRejected
  deriving DecidableEq, Repr

def Behaviour.throws : Behaviour → Bool
  | .writeRejected | .flushRejected => true
  | .records | .fires => false

/-- What becomes of the observation or the firing. -/
def Behaviour.result : Behaviour → WriteResult
  | .records => .recorded
  | .fires | .flushRejected => .fired
  | .writeRejected => .rejected

/-- The outcome of every fetch and of every trigger. -/
structure Scenario (Trigger : Type) where
  fetchOk : List Trigger → Bool
  behaviour : Trigger → Behaviour

namespace Scenario

variable (scenario : Scenario Trigger)

def throws (trigger : Trigger) : Bool :=
  (scenario.behaviour trigger).throws

/-- The call of one worker resolves. -/
def advance (pool : Pool Trigger) (worker : Nat) : Option (Pool Trigger) :=
  match pool.workers[worker]? with
  | some (.fetching group) =>
      pool.step (.fetched worker (scenario.fetchOk group))
  | some (.writing trigger _) =>
      pool.step (.wrote worker (scenario.behaviour trigger).result)
  | some (.flushing trigger _) =>
      pool.step (.flushed worker
        (decide (scenario.behaviour trigger ≠ .flushRejected)))
  | _ => none

def machine : Machine (Pool Trigger) Nat where
  step := scenario.advance

/-- The triggers of the locations whose fetch succeeds, in polling order. -/
def fetched (groups : List (List Trigger)) : List Trigger :=
  (groups.filter scenario.fetchOk).flatten

/-! ## One call -/

inductive Advanced (pool : Pool Trigger) (worker : Nat) :
    Pool Trigger → Prop where
  | fetched {group : List Trigger}
      (found : pool.workers[worker]? = some (.fetching group))
      (ok : scenario.fetchOk group = true) :
      Advanced pool worker (pool.proceed worker group)
  | unfetched {group : List Trigger}
      (found : pool.workers[worker]? = some (.fetching group))
      (failed : scenario.fetchOk group = false) :
      Advanced pool worker (pool.proceed worker [])
  | recorded {trigger : Trigger} {rest : List Trigger}
      (found : pool.workers[worker]? = some (.writing trigger rest))
      (harmless : scenario.throws trigger = false) :
      Advanced pool worker ((pool.wrote trigger).proceed worker rest)
  | fired {trigger : Trigger} {rest : List Trigger}
      (found : pool.workers[worker]? = some (.writing trigger rest))
      (written : scenario.behaviour trigger ≠ .writeRejected) :
      Advanced pool worker
        ((pool.wrote trigger).setWorker worker (.flushing trigger rest))
  | unwritten {trigger : Trigger} {rest : List Trigger}
      (found : pool.workers[worker]? = some (.writing trigger rest))
      (thrown : scenario.throws trigger = true) :
      Advanced pool worker (pool.setWorker worker .rejected)
  | flushed {trigger : Trigger} {rest : List Trigger}
      (found : pool.workers[worker]? = some (.flushing trigger rest))
      (flushes : scenario.behaviour trigger ≠ .flushRejected) :
      Advanced pool worker (pool.proceed worker rest)
  | unflushed {trigger : Trigger} {rest : List Trigger}
      (found : pool.workers[worker]? = some (.flushing trigger rest))
      (thrown : scenario.throws trigger = true) :
      Advanced pool worker (pool.setWorker worker .rejected)

variable {scenario}

theorem advanced_of_advance {pool next : Pool Trigger} {worker : Nat}
    (taken : scenario.advance pool worker = some next) :
    scenario.Advanced pool worker next := by
  unfold advance at taken
  split at taken
  next group found =>
    simp only [Pool.step, found, Option.some.injEq] at taken
    subst taken
    cases ok : scenario.fetchOk group with
    | true => exact .fetched found ok
    | false => exact .unfetched found ok
  next trigger rest found =>
    simp only [Pool.step, found] at taken
    cases behaviour : scenario.behaviour trigger with
    | records =>
        simp only [behaviour, Behaviour.result] at taken
        cases taken
        exact .recorded found (by rw [throws, behaviour]; rfl)
    | fires | flushRejected =>
        simp only [behaviour, Behaviour.result] at taken
        cases taken
        exact .fired found (by rw [behaviour]; decide)
    | writeRejected =>
        simp only [behaviour, Behaviour.result] at taken
        cases taken
        exact .unwritten found (by rw [throws, behaviour]; rfl)
  next trigger rest found =>
    simp only [Pool.step, found, Option.some.injEq, decide_eq_true_eq]
      at taken
    subst taken
    split
    next flushes => exact .flushed found flushes
    next rejected =>
      refine .unflushed found ?_
      rw [throws, not_not.mp rejected]
      rfl
  next => cases taken

/-! ## What is left to write -/

section Unwritten

variable (scenario)

/-- The triggers a worker has taken and not written. -/
def inHand : Worker Trigger → List Trigger
  | .fetching group => if scenario.fetchOk group then group else []
  | .writing trigger rest => trigger :: rest
  | .flushing _ rest => rest
  | .returned | .rejected => []

/-- The triggers of fetched locations nobody has written or thrown at yet. -/
def unwritten (pool : Pool Trigger) : List Trigger :=
  pool.workers.flatMap scenario.inHand ++ scenario.fetched pool.queue

/-- The worker is at a location whose fetch succeeds. -/
def holding : Worker Trigger → Bool
  | .fetching group => scenario.fetchOk group
  | .writing _ _ | .flushing _ _ => true
  | .returned | .rejected => false

/-- How many such locations are in progress or queued. -/
def load (pool : Pool Trigger) : Nat :=
  pool.workers.countP scenario.holding + pool.queue.countP scenario.fetchOk

/-- At most one location with a successful fetch is in progress at a time. -/
def Serial (pool : Pool Trigger) : Prop :=
  pool.workers.length ≤ 1 ∨ scenario.load pool ≤ 1

end Unwritten

theorem fetched_cons (group : List Trigger) (queue : List (List Trigger)) :
    scenario.fetched (group :: queue) =
      scenario.inHand (.fetching group) ++ scenario.fetched queue := by
  simp only [fetched, inHand, List.filter_cons]
  split <;> simp

theorem flatMap_inHand_of_countP {workers : List (Worker Trigger)}
    (idle : workers.countP scenario.holding = 0) :
    workers.flatMap scenario.inHand = [] := by
  rw [List.flatMap_eq_nil_iff]
  intro status member
  have free := List.countP_eq_zero.mp idle status member
  cases status with
  | fetching group =>
      rw [holding, Bool.not_eq_true] at free
      simp only [inHand, free, Bool.false_eq_true, if_false]
  | writing | flushing => simp [holding] at free
  | returned | rejected => rfl

/-- Beside a location in progress, or about to be, no sibling holds one. -/
theorem Serial.siblings {pool : Pool Trigger} (serial : scenario.Serial pool)
    {before after : List (Worker Trigger)} {status : Worker Trigger}
    (split : pool.workers = before ++ status :: after)
    (taken : scenario.holding status = true ∨
      ∃ group rest, pool.queue = group :: rest ∧
        scenario.fetchOk group = true) :
    before.flatMap scenario.inHand = [] ∧
      after.flatMap scenario.inHand = [] := by
  rcases serial with single | single
  · rw [split] at single
    simp only [List.length_append, List.length_cons] at single
    have first : before = [] := List.length_eq_zero_iff.mp (by omega)
    have second : after = [] := List.length_eq_zero_iff.mp (by omega)
    subst first second
    exact ⟨rfl, rfl⟩
  · simp only [load, split, List.countP_append, List.countP_cons] at single
    rcases taken with holding | ⟨group, rest, queued, ok⟩
    · rw [holding, if_pos rfl] at single
      exact ⟨flatMap_inHand_of_countP (by omega),
        flatMap_inHand_of_countP (by omega)⟩
    · rw [queued, List.countP_cons, if_pos ok] at single
      exact ⟨flatMap_inHand_of_countP (by omega),
        flatMap_inHand_of_countP (by omega)⟩

theorem unwritten_of_split (scenario : Scenario Trigger)
    {pool : Pool Trigger}
    {before after : List (Worker Trigger)} {status : Worker Trigger}
    (split : pool.workers = before ++ status :: after) :
    scenario.unwritten pool =
      before.flatMap scenario.inHand ++ (scenario.inHand status ++
        (after.flatMap scenario.inHand ++
          scenario.fetched pool.queue)) := by
  simp only [unwritten, split, List.flatMap_append, List.flatMap_cons,
    List.append_assoc]

variable (scenario) in
/-- The pool moves on after writing some triggers. -/
structure Follows (pool : Pool Trigger) (wrote : List Trigger)
    (next : Pool Trigger) : Prop where
  perm : (scenario.unwritten pool).Perm (wrote ++ scenario.unwritten next)
  order : scenario.Serial pool →
    scenario.unwritten pool = wrote ++ scenario.unwritten next
  load : scenario.load next ≤ scenario.load pool
  workers : next.workers.length = pool.workers.length

theorem holding_of_inHand {status : Worker Trigger}
    (something : scenario.inHand status ≠ []) :
    scenario.holding status = true := by
  cases status with
  | fetching group =>
      by_contra failed
      simp only [holding] at failed
      simp [inHand, failed] at something
  | writing | flushing => rfl
  | returned | rejected => exact (something rfl).elim

/-- A worker that keeps to what it has in hand. -/
theorem follows_setWorker {pool : Pool Trigger} {worker : Nat}
    {status other : Worker Trigger} {wrote : List Trigger}
    (found : pool.workers[worker]? = some status)
    (hand : scenario.inHand status = wrote ++ scenario.inHand other)
    (held : scenario.holding other = true →
      scenario.holding status = true) :
    scenario.Follows pool wrote (pool.setWorker worker other) := by
  obtain ⟨before, after, split, replaced⟩ := pool.split_workers found
  have earlier := unwritten_of_split scenario split
  have later := unwritten_of_split scenario (replaced other)
  rw [hand] at earlier
  refine ⟨?_, fun serial => ?_, ?_, ?_⟩
  · rw [earlier, later, List.append_assoc]
    exact List.perm_append_comm_assoc _ _ _
  · rw [earlier, later]
    rcases wrote.eq_nil_or_concat with rfl | ⟨_, _, rfl⟩
    · rfl
    · obtain ⟨first, second⟩ := serial.siblings split
        (Or.inl (holding_of_inHand (by rw [hand]; simp)))
      rw [first]
      simp only [List.nil_append, List.append_assoc]
      rfl
  · simp only [load, split, replaced, List.countP_append,
      List.countP_cons]
    have queue : (pool.setWorker worker other).queue = pool.queue := rfl
    rw [queue]
    split
    next holds => simp only [held holds, if_true]; omega
    next => omega
  · rw [replaced, split]
    simp

/-- A worker that is done with its location takes the next one, if any. -/
theorem follows_resume {pool : Pool Trigger} {worker : Nat}
    {status : Worker Trigger}
    (found : pool.workers[worker]? = some status) :
    scenario.Follows pool (scenario.inHand status)
      (pool.resume worker) := by
  rcases pool.resume_cases worker with ⟨resumed, _⟩ |
    ⟨group, rest, _, queued, resumed⟩
  · rw [resumed]
    exact follows_setWorker found (List.append_nil _).symm
      fun held => by cases held
  · rw [resumed]
    obtain ⟨before, after, split, replaced⟩ := pool.split_workers found
    have earlier := unwritten_of_split scenario split
    have later : scenario.unwritten
        { pool.setWorker worker (.fetching group) with
          queue := rest
          polled := pool.polled ++ [group] } =
        before.flatMap scenario.inHand ++
          (scenario.inHand (.fetching group) ++
            (after.flatMap scenario.inHand ++ scenario.fetched rest)) :=
      unwritten_of_split scenario (replaced (.fetching group))
    rw [queued, fetched_cons] at earlier
    refine ⟨?_, fun serial => ?_, ?_, ?_⟩
    · rw [earlier, later]
      refine (List.perm_append_comm_assoc _ _ _).trans
        (List.Perm.append_left _ (List.Perm.append_left _ ?_))
      exact List.perm_append_comm_assoc _ _ _
    · rw [earlier, later]
      by_cases ok : scenario.fetchOk group = true
      · obtain ⟨first, second⟩ := serial.siblings split
          (Or.inr ⟨group, rest, queued, ok⟩)
        rw [first, second]
        rfl
      · have nothing : scenario.inHand (.fetching group) = [] := by
          rw [inHand, if_neg ok]
        rw [nothing]
        rcases (scenario.inHand status).eq_nil_or_concat with
          empty | ⟨_, _, some⟩
        · rw [empty]
          rfl
        · obtain ⟨first, _⟩ := serial.siblings split
            (Or.inl (holding_of_inHand (by rw [some]; simp)))
          rw [first]
          rfl
    · have fetching : scenario.holding (.fetching group) =
          scenario.fetchOk group := rfl
      simp only [load, replaced, split, queued, List.countP_append,
        List.countP_cons, fetching]
      omega
    · simp [Pool.setWorker]

theorem follows_proceed {pool : Pool Trigger} {worker : Nat}
    {status : Worker Trigger} {wrote todo : List Trigger}
    (found : pool.workers[worker]? = some status)
    (hand : scenario.inHand status = wrote ++ todo) :
    scenario.Follows pool wrote (pool.proceed worker todo) := by
  cases todo with
  | nil =>
      rw [List.append_nil] at hand
      rw [← hand]
      exact follows_resume found
  | cons trigger rest =>
      refine follows_setWorker found hand fun _ => ?_
      exact holding_of_inHand (by rw [hand]; simp)

/-! ## Where the triggers are -/

variable {groups : List (List Trigger)}

variable (scenario groups) in
/-- A worker works through the end of a location of the cycle. -/
def PartOf : Worker Trigger → Prop
  | .fetching group => group ∈ groups
  | .writing trigger rest | .flushing trigger rest =>
      ∃ group ∈ groups, scenario.fetchOk group = true ∧
        trigger :: rest <:+ group
  | .returned | .rejected => True

variable {concurrency : Nat}

variable (scenario groups concurrency) in
/-- Everything in the pool is part of the cycle. -/
structure Placed (pool : Pool Trigger) : Prop where
  crew : pool.workers.length = min concurrency groups.length
  parts : pool.Throughout (fun group => group ∈ groups)
    (scenario.PartOf groups)
  drained : .returned ∈ pool.workers → pool.queue = []
  fired : ∀ trigger rest, .flushing trigger rest ∈ pool.workers →
    trigger ∈ pool.written

namespace Placed

variable {pool : Pool Trigger}

theorem start :
    scenario.Placed groups concurrency (.start concurrency groups) where
  crew := by simp [Pool.start]
  parts := Pool.Throughout.start (fun _ member => member)
    fun _ member => member
  drained member := by
    obtain ⟨_, _, same⟩ := List.mem_map.mp member
    cases same
  fired _ _ member := by
    obtain ⟨_, _, same⟩ := List.mem_map.mp member
    cases same

theorem setWorker (placed : scenario.Placed groups concurrency pool)
    {worker : Nat} {status : Worker Trigger}
    (part : scenario.PartOf groups status)
    (drained : status = .returned → pool.queue = [])
    (fired : ∀ trigger rest, status = .flushing trigger rest →
      trigger ∈ pool.written) :
    scenario.Placed groups concurrency (pool.setWorker worker status) where
  crew := (List.length_set ..).trans placed.crew
  parts := placed.parts.setWorker part
  drained member := by
    rcases Pool.mem_setWorker member with same | ⟨sibling, _, there⟩
    · exact drained same.symm
    · exact placed.drained (List.mem_of_getElem? there)
  fired trigger rest member := by
    rcases Pool.mem_setWorker member with same | ⟨sibling, _, there⟩
    · exact fired trigger rest same.symm
    · exact placed.fired trigger rest (List.mem_of_getElem? there)

theorem wrote (placed : scenario.Placed groups concurrency pool)
    (trigger : Trigger) :
    scenario.Placed groups concurrency (pool.wrote trigger) where
  crew := placed.crew
  parts := placed.parts.wrote trigger
  drained := placed.drained
  fired other rest member :=
    List.mem_append_left _ (placed.fired other rest member)

theorem resume (placed : scenario.Placed groups concurrency pool)
    (worker : Nat) :
    scenario.Placed groups concurrency (pool.resume worker) := by
  have parts : (pool.resume worker).Throughout
      (fun group => group ∈ groups) (scenario.PartOf groups) :=
    placed.parts.resume (fun _ member => member) trivial worker
  rcases pool.resume_cases worker with ⟨resumed, empty⟩ |
    ⟨group, rest, _, found, resumed⟩
  · rw [resumed]
    exact placed.setWorker trivial (fun _ => empty placed.parts.held)
      fun _ _ same => by cases same
  · rw [resumed] at parts ⊢
    refine ⟨(List.length_set ..).trans placed.crew, parts,
      fun member => ?_, fun trigger todo member => ?_⟩
    · rcases Pool.mem_setWorker member with same | ⟨sibling, _, there⟩
      · cases same
      · have empty := placed.drained (List.mem_of_getElem? there)
        rw [found] at empty
        cases empty
    · rcases Pool.mem_setWorker member with same | ⟨sibling, _, there⟩
      · cases same
      · exact placed.fired trigger todo (List.mem_of_getElem? there)

theorem proceed (placed : scenario.Placed groups concurrency pool)
    (worker : Nat) {todo : List Trigger}
    (part : ∃ group ∈ groups, scenario.fetchOk group = true ∧
      todo <:+ group) :
    scenario.Placed groups concurrency (pool.proceed worker todo) := by
  cases todo with
  | nil => exact placed.resume worker
  | cons trigger rest =>
      exact placed.setWorker part (fun same => by cases same)
        fun _ _ same => by cases same

theorem advance (placed : scenario.Placed groups concurrency pool)
    {next : Pool Trigger} {worker : Nat}
    (advanced : scenario.Advanced pool worker next) :
    scenario.Placed groups concurrency next := by
  have partOf : ∀ {status : Worker Trigger},
      pool.workers[worker]? = some status →
        scenario.PartOf groups status :=
    fun found => placed.parts.workers _ (List.mem_of_getElem? found)
  have shorter : ∀ {trigger : Trigger} {rest : List Trigger},
      (∃ group ∈ groups, scenario.fetchOk group = true ∧
        trigger :: rest <:+ group) →
      ∃ group ∈ groups, scenario.fetchOk group = true ∧ rest <:+ group := by
    rintro trigger rest ⟨group, member, ok, part⟩
    exact ⟨group, member, ok, (List.suffix_cons trigger rest).trans part⟩
  cases advanced with
  | fetched found ok =>
      exact placed.proceed worker ⟨_, partOf found, ok, List.suffix_rfl⟩
  | unfetched found failed => exact placed.resume worker
  | recorded found harmless =>
      exact (placed.wrote _).proceed worker (shorter (partOf found))
  | @fired trigger rest found written =>
      have part : scenario.PartOf groups (.writing trigger rest) :=
        partOf found
      refine (placed.wrote trigger).setWorker part
        (fun same => by cases same) fun other todo same => ?_
      cases same
      exact List.mem_append_right _ List.mem_cons_self
  | unwritten found thrown | unflushed found thrown =>
      exact placed.setWorker trivial (fun same => by cases same)
        fun _ _ same => by cases same
  | flushed found flushes =>
      exact placed.proceed worker (shorter (partOf found))

end Placed

/-! ## Nothing gets lost before the first throw -/

/-- A call that resolves is a step of the pool. -/
theorem Advanced.stepped {pool next : Pool Trigger} {worker : Nat}
    (advanced : scenario.Advanced pool worker next) :
    ∃ action : Action, action.worker = worker ∧
      pool.Stepped action next := by
  cases advanced with
  | fetched found ok => exact ⟨_, rfl, .fetched found⟩
  | unfetched found failed => exact ⟨_, rfl, .unfetched found⟩
  | recorded found harmless => exact ⟨_, rfl, .recorded found⟩
  | fired found written => exact ⟨_, rfl, .fired found⟩
  | unwritten found thrown => exact ⟨_, rfl, .unwritten found⟩
  | flushed found flushes => exact ⟨_, rfl, .flushed found⟩
  | unflushed found thrown => exact ⟨_, rfl, .unflushed found⟩

theorem Advanced.of_ne {pool next : Pool Trigger} {worker sibling : Nat}
    (advanced : scenario.Advanced pool worker next)
    (different : sibling ≠ worker) :
    next.workers[sibling]? = pool.workers[sibling]? := by
  obtain ⟨action, rfl, stepped⟩ := advanced.stepped
  exact stepped.of_ne different

variable (scenario groups concurrency) in
/--
The triggers of the fetched locations are those written and those unwritten,
in order if locations are processed one at a time.  A trigger that will throw
and is written is about to do so.
-/
structure Accounted (pool : Pool Trigger) : Prop where
  perm : (scenario.fetched groups).Perm
    (pool.written ++ scenario.unwritten pool)
  order : scenario.Serial (.start concurrency groups) →
    scenario.Serial pool ∧
      scenario.fetched groups = pool.written ++ scenario.unwritten pool
  spent : ∀ trigger ∈ pool.written, scenario.throws trigger = true →
    scenario.behaviour trigger = .flushRejected ∧
      ∃ rest, .flushing trigger rest ∈ pool.workers

namespace Accounted

variable {pool next : Pool Trigger}

theorem start :
    scenario.Accounted groups concurrency (.start concurrency groups) := by
  have everything : scenario.unwritten (.start concurrency groups) =
      scenario.fetched groups := by
    have taken : ((groups.take concurrency).map Worker.fetching).flatMap
        scenario.inHand = scenario.fetched (groups.take concurrency) := by
      induction groups.take concurrency with
      | nil => rfl
      | cons group rest induction =>
          rw [List.map_cons, List.flatMap_cons, induction, fetched_cons]
    simp only [unwritten, Pool.start, taken]
    simp only [fetched, ← List.flatten_append, ← List.filter_append,
      List.take_append_drop]
  refine ⟨?_, fun serial => ⟨serial, everything.symm⟩, fun _ member => ?_⟩
  · rw [everything]
    exact List.Perm.refl _
  · cases member

/-- A written trigger that is about to throw keeps its worker. -/
theorem spent_of_ne (accounted : scenario.Accounted groups concurrency pool)
    {worker : Nat} (advanced : scenario.Advanced pool worker next)
    (elsewhere : ∀ trigger rest,
      pool.workers[worker]? = some (.flushing trigger rest) →
        scenario.behaviour trigger ≠ .flushRejected)
    {trigger : Trigger} (written : trigger ∈ pool.written)
    (throws : scenario.throws trigger = true) :
    scenario.behaviour trigger = .flushRejected ∧
      ∃ rest, .flushing trigger rest ∈ next.workers := by
  obtain ⟨rejects, rest, member⟩ := accounted.spent trigger written throws
  obtain ⟨sibling, there⟩ := List.mem_iff_getElem?.mp member
  have different : sibling ≠ worker := by
    rintro rfl
    exact elsewhere trigger rest there rejects
  rw [← advanced.of_ne different] at there
  exact ⟨rejects, rest, List.mem_of_getElem? there⟩

/-- A step that writes what it takes away from the unwritten triggers. -/
theorem follow (accounted : scenario.Accounted groups concurrency pool)
    {worker : Nat} (advanced : scenario.Advanced pool worker next)
    (elsewhere : ∀ trigger rest,
      pool.workers[worker]? = some (.flushing trigger rest) →
        scenario.behaviour trigger ≠ .flushRejected)
    {wrote : List Trigger} (follows : scenario.Follows pool wrote next)
    (appended : next.written = pool.written ++ wrote)
    (spent : ∀ trigger ∈ wrote, scenario.throws trigger = true →
      scenario.behaviour trigger = .flushRejected ∧
        ∃ rest, .flushing trigger rest ∈ next.workers) :
    scenario.Accounted groups concurrency next where
  perm := by
    rw [appended, List.append_assoc]
    exact accounted.perm.trans (List.Perm.append_left _ follows.perm)
  order initial := by
    obtain ⟨serial, inOrder⟩ := accounted.order initial
    refine ⟨?_, ?_⟩
    · rcases serial with single | single
      · exact Or.inl (follows.workers ▸ single)
      · exact Or.inr (Nat.le_trans follows.load single)
    · rw [inOrder, follows.order serial, appended, List.append_assoc]
  spent trigger written throws := by
    rw [appended, List.mem_append] at written
    rcases written with earlier | now
    · exact accounted.spent_of_ne advanced elsewhere earlier throws
    · exact spent trigger now throws

/-- A call resolves without anyone throwing, or the trigger at hand throws. -/
theorem advance (accounted : scenario.Accounted groups concurrency pool)
    {worker : Nat} (advanced : scenario.Advanced pool worker next) :
    scenario.Accounted groups concurrency next ∨
      ∃ trigger rest, scenario.throws trigger = true ∧
        next = pool.setWorker worker .rejected ∧
        (pool.workers[worker]? = some (.writing trigger rest) ∨
          pool.workers[worker]? = some (.flushing trigger rest)) := by
  have standing : ∀ {status : Worker Trigger},
      pool.workers[worker]? = some status →
      (∀ trigger rest, status ≠ .flushing trigger rest) →
        ∀ trigger rest,
          pool.workers[worker]? = some (.flushing trigger rest) →
            scenario.behaviour trigger ≠ .flushRejected := by
    intro status found other trigger rest flushing
    rw [found] at flushing
    exact (other trigger rest (Option.some.inj flushing)).elim
  have nothing : ∀ {after : Pool Trigger}, ∀ trigger ∈ ([] : List Trigger),
      scenario.throws trigger = true →
        scenario.behaviour trigger = .flushRejected ∧
          ∃ rest, .flushing trigger rest ∈ after.workers :=
    fun _ member => by cases member
  cases moved : advanced with
  | fetched found ok =>
      refine Or.inl (accounted.follow advanced
        (standing found fun _ _ same => by cases same)
        (follows_proceed found ?_) ?_ nothing)
      · simp only [inHand, ok, if_true, List.nil_append]
      · simp
  | unfetched found failed =>
      refine Or.inl (accounted.follow advanced
        (standing found fun _ _ same => by cases same)
        (follows_proceed found ?_) ?_ nothing)
      · simp [inHand, failed]
      · simp
  | @recorded trigger rest found harmless =>
      have follows : scenario.Follows (pool.wrote trigger) [trigger]
          ((pool.wrote trigger).proceed worker rest) :=
        follows_proceed found rfl
      refine Or.inl (accounted.follow advanced
        (standing found fun _ _ same => by cases same)
        ⟨follows.perm, follows.order, follows.load, follows.workers⟩ ?_
        fun other member throws => ?_)
      · simp [Pool.wrote]
      · cases List.mem_singleton.mp member
        rw [harmless] at throws
        cases throws
  | @fired trigger rest found written =>
      have follows : scenario.Follows (pool.wrote trigger) [trigger]
          ((pool.wrote trigger).setWorker worker
            (.flushing trigger rest)) :=
        follows_setWorker found rfl fun _ => rfl
      refine Or.inl (accounted.follow advanced
        (standing found fun _ _ same => by cases same)
        ⟨follows.perm, follows.order, follows.load, follows.workers⟩ rfl
        fun other member throws => ?_)
      cases List.mem_singleton.mp member
      have bound := (List.getElem?_eq_some_iff.mp found).1
      refine ⟨?_, rest,
        List.mem_of_getElem? (List.getElem?_set_self bound)⟩
      rw [Scenario.throws] at throws
      cases behaviour : scenario.behaviour trigger with
      | flushRejected => rfl
      | writeRejected => exact (written behaviour).elim
      | records | fires =>
          rw [behaviour] at throws
          cases throws
  | @flushed trigger rest found flushes =>
      refine Or.inl (accounted.follow advanced ?_
        (follows_proceed found rfl) ?_ nothing)
      · intro other todo flushing
        rw [found] at flushing
        cases flushing
        exact flushes
      · simp
  | @unwritten trigger rest found thrown =>
      exact Or.inr ⟨trigger, rest, thrown, rfl, Or.inl found⟩
  | @unflushed trigger rest found thrown =>
      exact Or.inr ⟨trigger, rest, thrown, rfl, Or.inr found⟩

end Accounted

end Scenario

end WeatherNotify.Watcher

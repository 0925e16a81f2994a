import Mathlib.Algebra.Order.Floor.Ring
import Mathlib.Data.Rat.Floor
import WeatherNotify.Transition.Potential
import WeatherNotify.Triggers.Repository
import WeatherNotify.Watcher.Isolation

/-!
# What a cycle asks for and what it evaluates

The pool of a cycle together with the local variables of its workers: each
call of `pollLocation` has its location, the snapshot the provider answered
and the triggers evaluated with it so far.  A step belongs to one worker and
changes the call that worker is in; a worker that leaves one call enters the
next.
-/

namespace WeatherNotify.Watcher

open WeatherNotify.Domain
open WeatherNotify.Transition
open WeatherNotify.Triggers

variable {Trigger Key Snapshot : Type}

/-! ## The calls of `pollLocation` -/

/--
One call; `returned` once it has.  `processed` lists the calls of
`processTrigger` it has made.
-/
structure Poll (Trigger Snapshot : Type) where
  worker : Nat
  group : List Trigger
  snapshot : Option Snapshot
  processed : List (Trigger × Snapshot)
  returned : Bool
  deriving DecidableEq, Repr

namespace Poll

/-- A call that waits for the provider. -/
def enter (worker : Nat) (group : List Trigger) : Poll Trigger Snapshot where
  worker := worker
  group := group
  snapshot := none
  processed := []
  returned := false

/-- The provider failed: the call returns. -/
def leave (poll : Poll Trigger Snapshot) : Poll Trigger Snapshot :=
  { poll with returned := true }

/-- The head of the loop, with these triggers left. -/
def proceed (poll : Poll Trigger Snapshot) (todo : List Trigger) :
    Poll Trigger Snapshot :=
  match todo, poll.snapshot with
  | trigger :: _, some snapshot =>
      { poll with processed := poll.processed ++ [(trigger, snapshot)] }
  | _, _ => poll.leave

def answered (poll : Poll Trigger Snapshot) (snapshot : Snapshot) :
    Poll Trigger Snapshot :=
  { poll with snapshot := some snapshot }

end Poll

/-- A call of the outside that resolves, with what it answers. -/
inductive Resolution (Snapshot : Type) where
  | fetched (worker : Nat) (answer : Option Snapshot)
  | wrote (worker : Nat) (result : WriteResult)
  | flushed (worker : Nat) (ok : Bool)

namespace Resolution

def action : Resolution Snapshot → Action
  | .fetched worker answer => .fetched worker answer.isSome
  | .wrote worker result => .wrote worker result
  | .flushed worker ok => .flushed worker ok

/-- What the worker's call of `pollLocation` does with it. -/
def follow (resolution : Resolution Snapshot) (status : Worker Trigger)
    (poll : Poll Trigger Snapshot) : Poll Trigger Snapshot :=
  match resolution, status with
  | .fetched _ (some snapshot), .fetching group =>
      (poll.answered snapshot).proceed group
  | .fetched _ none, _ => poll.leave
  | .wrote _ .recorded, .writing _ rest => poll.proceed rest
  | .flushed _ true, .flushing _ rest => poll.proceed rest
  | _, _ => poll

end Resolution

/-! ## The cycle -/

structure Evaluation (Trigger Snapshot : Type) where
  pool : Pool Trigger
  polls : List (Poll Trigger Snapshot)
  deriving DecidableEq, Repr

namespace Evaluation

/-- `Array.from` drops the fraction of its length. -/
def workerCount (concurrency : Rat) : Nat :=
  ⌊concurrency⌋.toNat

def start (concurrency : Rat) (groups : List (List Trigger)) :
    Evaluation Trigger Snapshot where
  pool := Pool.start (workerCount concurrency) groups
  polls := (groups.take (workerCount concurrency)).mapIdx Poll.enter

/-- The calls a worker enters in a step: one if it took a location. -/
def entered (pool next : Pool Trigger) (worker : Nat) :
    List (Poll Trigger Snapshot) :=
  (next.polled.drop pool.polled.length).map (Poll.enter worker)

def step (evaluation : Evaluation Trigger Snapshot)
    (resolution : Resolution Snapshot) :
    Option (Evaluation Trigger Snapshot) := do
  let worker := resolution.action.worker
  let status ← evaluation.pool.workers[worker]?
  let next ← evaluation.pool.step resolution.action
  return {
    pool := next
    polls := evaluation.polls.map (fun poll =>
        if poll.worker = worker ∧ poll.returned = false then
          resolution.follow status poll
        else poll) ++ entered evaluation.pool next worker }

def machine : Machine (Evaluation Trigger Snapshot) (Resolution Snapshot) where
  step := step

end Evaluation

/-! ## The active triggers of a cycle -/

/-- What `groupByLocation` groups by. -/
def locationOf (round : Rat → Rat) (row : TriggerRow) : String :=
  locationKey round row.latitude row.longitude

/-- The arguments of `getSnapshot`. -/
def Poll.request (poll : Poll TriggerRow Snapshot) : Option (Rat × Rat) :=
  poll.group.head?.map fun row => (row.latitude, row.longitude)

/-! ## Groups are the locations -/

section Grouping

variable [DecidableEq Key] {locationKey : Trigger → Key}

theorem keys_addToBucket (trigger : Trigger)
    (buckets : List (Key × List Trigger)) :
    (addToBucket locationKey trigger buckets).map Prod.fst =
      if locationKey trigger ∈ buckets.map Prod.fst then
        buckets.map Prod.fst
      else buckets.map Prod.fst ++ [locationKey trigger] := by
  induction buckets with
  | nil => rfl
  | cons first rest induction =>
      rcases first with ⟨key, bucket⟩
      rw [addToBucket]
      by_cases same : key = locationKey trigger
      · rw [if_pos same, if_pos]
        · rfl
        · exact same ▸ List.mem_cons_self
      · rw [if_neg same, List.map_cons, induction, List.map_cons]
        by_cases known : locationKey trigger ∈ rest.map Prod.fst
        · rw [if_pos known, if_pos (List.mem_cons_of_mem _ known)]
        · have unknown : locationKey trigger ∉ key :: rest.map Prod.fst := by
            rw [List.mem_cons]
            rintro (here | later)
            · exact same here.symm
            · exact known later
          rw [if_neg known, if_neg unknown]
          rfl

/-- A bucket is as before, or it has the trigger at its end. -/
theorem mem_addToBucket {trigger : Trigger}
    {buckets : List (Key × List Trigger)}
    (distinct : (buckets.map Prod.fst).Nodup) {key : Key}
    {bucket : List Trigger}
    (member : (key, bucket) ∈ addToBucket locationKey trigger buckets) :
    key ≠ locationKey trigger ∧ (key, bucket) ∈ buckets ∨
      key = locationKey trigger ∧
        ((∃ earlier, (key, earlier) ∈ buckets ∧
            bucket = earlier ++ [trigger]) ∨
          key ∉ buckets.map Prod.fst ∧ bucket = [trigger]) := by
  induction buckets with
  | nil =>
      cases List.mem_singleton.mp member
      exact Or.inr ⟨rfl, Or.inr ⟨List.not_mem_nil, rfl⟩⟩
  | cons first rest induction =>
      rcases first with ⟨other, earlier⟩
      rcases List.nodup_cons.mp distinct with ⟨fresh, others⟩
      rw [addToBucket] at member
      split at member
      case isTrue same =>
        rcases List.mem_cons.mp member with here | later
        · cases here
          exact Or.inr ⟨same, Or.inl ⟨earlier, List.mem_cons_self, rfl⟩⟩
        · apply Or.inl
          constructor
          · rintro rfl
            have known := List.mem_map_of_mem (f := Prod.fst) later
            exact fresh (same ▸ known)
          · exact List.mem_cons_of_mem _ later
      case isFalse different =>
        rcases List.mem_cons.mp member with here | later
        · cases here
          exact Or.inl ⟨different, List.mem_cons_self⟩
        · rcases induction others later with
            ⟨elsewhere, kept⟩ | ⟨same, ⟨before, kept, grown⟩ | ⟨new, alone⟩⟩
          · exact Or.inl ⟨elsewhere, List.mem_cons_of_mem _ kept⟩
          · exact Or.inr ⟨same,
              Or.inl ⟨before, List.mem_cons_of_mem _ kept, grown⟩⟩
          · refine Or.inr ⟨same, Or.inr ⟨?_, alone⟩⟩
            rintro known
            rcases List.mem_cons.mp known with here | there
            · exact different (here.symm.trans same)
            · exact new there

/-- The buckets of the triggers read so far. -/
structure Bucketed (locationKey : Trigger → Key) (seen : List Trigger)
    (buckets : List (Key × List Trigger)) : Prop where
  distinct : (buckets.map Prod.fst).Nodup
  keys : ∀ key, key ∈ buckets.map Prod.fst ↔
    ∃ trigger ∈ seen, locationKey trigger = key
  groups : ∀ key bucket, (key, bucket) ∈ buckets →
    bucket = seen.filter fun trigger => locationKey trigger = key

theorem Bucketed.add {seen : List Trigger}
    {buckets : List (Key × List Trigger)}
    (bucketed : Bucketed locationKey seen buckets) (trigger : Trigger) :
    Bucketed locationKey (seen ++ [trigger])
      (addToBucket locationKey trigger buckets) where
  distinct := by
    rw [keys_addToBucket]
    split
    case isTrue => exact bucketed.distinct
    case isFalse fresh =>
      apply List.nodup_append.mpr
      refine ⟨bucketed.distinct, List.nodup_singleton _, ?_⟩
      rintro key known other new rfl
      cases List.mem_singleton.mp new
      exact fresh known
  keys := by
    intro key
    have before := bucketed.keys key
    rw [keys_addToBucket]
    constructor
    · intro member
      have cases : key ∈ buckets.map Prod.fst ∨ locationKey trigger = key := by
        split at member
        case isTrue => exact Or.inl member
        case isFalse =>
          rcases List.mem_append.mp member with known | new
          · exact Or.inl known
          · exact Or.inr (List.mem_singleton.mp new).symm
      rcases cases with known | same
      · rcases before.mp known with ⟨other, otherMember, same⟩
        exact ⟨other, List.mem_append_left _ otherMember, same⟩
      · exact ⟨trigger, List.mem_append_right _ List.mem_cons_self, same⟩
    · rintro ⟨other, otherMember, rfl⟩
      rcases List.mem_append.mp otherMember with earlier | new
      · have known := before.mpr ⟨other, earlier, rfl⟩
        split
        case isTrue => exact known
        case isFalse => exact List.mem_append_left _ known
      · cases List.mem_singleton.mp new
        split
        case isTrue known => exact known
        case isFalse => exact List.mem_append_right _ List.mem_cons_self
  groups := by
    intro key bucket member
    rw [List.filter_append]
    rcases mem_addToBucket bucketed.distinct member with
      ⟨different, kept⟩ | ⟨rfl, ⟨earlier, kept, rfl⟩ | ⟨fresh, rfl⟩⟩
    · have skipped : [trigger].filter (fun trigger =>
          decide (locationKey trigger = key)) = [] :=
        List.filter_eq_nil_iff.mpr (by simpa using Ne.symm different)
      rw [skipped, List.append_nil]
      exact bucketed.groups key bucket kept
    · rw [← bucketed.groups _ earlier kept]
      simp
    · have none : seen.filter (fun other =>
          decide (locationKey other = locationKey trigger)) = [] := by
        apply List.filter_eq_nil_iff.mpr
        intro other otherMember same
        exact fresh ((bucketed.keys _).mpr
          ⟨other, otherMember, of_decide_eq_true same⟩)
      rw [none]
      simp

/-- One group for each key that occurs, with its triggers in input order. -/
theorem groupByLocation_eq (locationKey : Trigger → Key)
    (triggers : List Trigger) :
    ∃ keys : List Key, keys.Nodup ∧
      (∀ key, key ∈ keys ↔ ∃ trigger ∈ triggers, locationKey trigger = key) ∧
      groupByLocation locationKey triggers = keys.map fun key =>
        triggers.filter fun trigger => locationKey trigger = key := by
  have added : ∀ (later seen : List Trigger)
      (buckets : List (Key × List Trigger)),
      Bucketed locationKey seen buckets →
        Bucketed locationKey (seen ++ later) (later.foldl
          (fun buckets trigger => addToBucket locationKey trigger buckets)
          buckets) := by
    intro later
    induction later with
    | nil =>
        intro seen buckets bucketed
        rw [List.append_nil]
        exact bucketed
    | cons trigger rest induction =>
        intro seen buckets bucketed
        have next := induction _ _ (bucketed.add trigger)
        rw [List.append_assoc] at next
        exact next
  have opening : Bucketed locationKey [] [] :=
    ⟨List.nodup_nil, by simp, by simp⟩
  have bucketed := added triggers [] [] opening
  refine ⟨_, bucketed.distinct, bucketed.keys, ?_⟩
  rw [groupByLocation, List.map_map]
  apply List.map_congr_left
  rintro ⟨key, bucket⟩ member
  exact bucketed.groups key bucket member

end Grouping

end WeatherNotify.Watcher

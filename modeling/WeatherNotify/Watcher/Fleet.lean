import WeatherNotify.Common.RemoteCall
import WeatherNotify.Common.TimedLock
import WeatherNotify.Watcher.FiringHistory
import WeatherNotify.Watcher.Sharding

/-!
# A fleet of watchers over one trigger table

Any number of watchers run their cycles side by side, each over the shard it is
configured with; a redeploy has two of them on one shard.  A cycle takes the
lock of its shard, reads the active triggers of the shard once, evaluates or
skips each, and hands the lock back, which may also happen while evaluations
are still under way.  The lock runs out unless it is renewed, and every call to
Redis may fail, with or without its effect.

Which cycle read a trigger that is under way, and under which token, is on
record for the statements only.
-/

namespace WeatherNotify.Watcher.Fleet

open WeatherNotify.Common
open WeatherNotify.Domain
open WeatherNotify.Transition

def cycleLockTtlSec : Int := 120

/-- Where a cycle stands; `idle` is between two ticks. -/
inductive Phase (Token : Type) where
  | idle
  | reading (token : Token)
  | polling (token : Token)
  deriving DecidableEq

/-- The token under which a cycle works. -/
def Phase.token? {Token : Type} : Phase Token → Option Token
  | .idle => none
  | .reading token | .polling token => some token

/-- The token of a cycle that has its triggers still to read. -/
def Phase.reading? {Token : Type} : Phase Token → Option Token
  | .reading token => some token
  | _ => none

/-- A cycle goes on with the token it gets, and ends without one. -/
def Phase.afterAcquire {Token : Type} (call : RemoteCall) :
    Except String (Option Token) → Phase Token
  | .ok (some token) => if call.resolves then .reading token else .idle
  | _ => .idle

/-- A trigger under way, with the cycle that read it. -/
structure Duty (m : Nat) (Token : Type) where
  watcher : Fin m
  token : Token
  id : String
  deriving DecidableEq

structure State (n m : Nat) (Token : Type) where
  firing : Firing.State n
  now : Int
  locks : Expiring String Token
  generated : List Token
  cycles : Fin m → Phase Token
  duties : List (Duty m Token)

inductive Label (n m : Nat) (Token : Type) where
  | tick (elapsed : Nat)
  | request (label : Triggers.Label n) (ids : List String)
  | updateProfile (userId : String) (quietHours : QuietHours)
  | acquireLock (watcher : Fin m) (token : Token) (call : RemoteCall)
  | findActive (watcher : Fin m)
  | extendLock (watcher : Fin m) (call : RemoteCall)
  | releaseLock (watcher : Fin m) (call : RemoteCall)
  | processTrigger (duty : Duty m Token) (index : Nat)
      (snapshot : WeatherSnapshot) (readings : Firing.Readings)
  | skip (duty : Duty m Token) (index : Nat)
  | commit (duty : Duty m Token) (index : Nat)
  | fail (duty : Duty m Token) (index : Nat)

variable {n m : Nat} {Token : Type}

/-- Nothing stored, no lock taken and no cycle under way. -/
def State.start (n m : Nat) (profiles : String → QuietHours) (clock : Int)
    (now : Int) : State n m Token where
  firing := .empty n profiles clock
  now := now
  locks := .empty
  generated := []
  cycles _ := .idle
  duties := []

/-- The trigger at a place in the hands of the cycles is that of the duty. -/
def State.Holds (state : State n m Token) (duty : Duty m Token)
    (index : Nat) : Prop :=
  duty ∈ state.duties ∧
    (state.firing.inHand[index]?).map Firing.WatchedTrigger.id =
      some duty.id

/-- The same for a transaction under way. -/
def State.Writes (state : State n m Token) (duty : Duty m Token)
    (index : Nat) : Prop :=
  duty ∈ state.duties ∧
    (state.firing.writing[index]?).map (fun processing =>
      processing.trigger.id) = some duty.id

section Step

variable [DecidableEq Token] (round : Rat → Rat) (zones : Zones)
  {count : Nat} (index : Fin m → Fin count)

instance (state : State n m Token) (duty : Duty m Token) (index : Nat) :
    Decidable (state.Holds duty index) :=
  inferInstanceAs (Decidable (_ ∧ _))

instance (state : State n m Token) (duty : Duty m Token) (index : Nat) :
    Decidable (state.Writes duty index) :=
  inferInstanceAs (Decidable (_ ∧ _))

/-- The lock key of a watcher's shard. -/
def lockKey (watcher : Fin m) : String :=
  cycleLockKey (shard (index watcher))

/-- What the lock of a watcher's shard stores. -/
def State.stored (state : State n m Token) (watcher : Fin m) : Option Token :=
  state.locks.get state.now (lockKey index watcher)

/-- A step on the trigger table. -/
def State.onTable (state : State n m Token) (label : Firing.Label n) :
    Option (State n m Token) :=
  (Firing.step round zones state.firing label).map fun firing =>
    { state with firing := firing }

/-- A call on the lock of a watcher's shard, if it reaches Redis. -/
def State.lockCall (state : State n m Token) (watcher : Fin m)
    (call : RemoteCall) (key : TimedLock.Key Token) : State n m Token :=
  { state with
    locks :=
      if call.reaches then
        Function.update state.locks (lockKey index watcher) key
      else state.locks }

def State.goTo (state : State n m Token) (watcher : Fin m)
    (phase : Phase Token) : State n m Token :=
  { state with cycles := Function.update state.cycles watcher phase }

/-- The duty is done or given up. -/
def State.conclude (state : State n m Token) (duty : Duty m Token) :
    State n m Token :=
  { state with duties := state.duties.erase duty }

def step (state : State n m Token) :
    Label n m Token → Option (State n m Token)
  | .tick elapsed => some { state with now := state.now + elapsed }
  | .request label ids => state.onTable round zones (.request label ids)
  | .updateProfile userId quietHours =>
      state.onTable round zones (.updateProfile userId quietHours)
  | .acquireLock watcher token call =>
      match state.cycles watcher with
      | .idle =>
          if token ∈ state.generated then none
          else
            let called := TimedLock.acquireLock
              (state.locks (lockKey index watcher)) state.now token
              cycleLockTtlSec
            some { (state.lockCall index watcher call called.2).goTo watcher
                (.afterAcquire call called.1) with
              generated := token :: state.generated }
      | _ => none
  | .findActive watcher =>
      match state.cycles watcher with
      | .reading token =>
          let buckets := shardBuckets (shard (index watcher))
          let read := Firing.findActive state.firing.triggers
            state.firing.profiles buckets
          (state.onTable round zones (.findActive buckets)).map fun next =>
            { next.goTo watcher (.polling token) with
              duties := state.duties ++
                read.map fun trigger => ⟨watcher, token, trigger.id⟩ }
      | _ => none
  | .extendLock watcher call =>
      match state.cycles watcher with
      | .polling token =>
          let called := TimedLock.extendLock
            (state.locks (lockKey index watcher)) state.now token
            cycleLockTtlSec
          some (state.lockCall index watcher call called.2)
      | _ => none
  | .releaseLock watcher call =>
      match (state.cycles watcher).token? with
      | some token =>
          let called := TimedLock.releaseLock
            (state.locks (lockKey index watcher)) state.now token
          some ((state.lockCall index watcher call called.2).goTo watcher
            .idle)
      | none => none
  | .processTrigger duty index snapshot readings =>
      if state.Holds duty index then
        state.onTable round zones (.processTrigger index snapshot readings)
      else none
  | .skip duty index =>
      if state.Holds duty index then
        (state.onTable round zones (.skip index)).map (·.conclude duty)
      else none
  | .commit duty index =>
      if state.Writes duty index then
        (state.onTable round zones (.commit index)).map (·.conclude duty)
      else none
  | .fail duty index =>
      if state.Writes duty index then
        (state.onTable round zones (.fail index)).map (·.conclude duty)
      else none

def machine : Machine (State n m Token) (Label n m Token) where
  step := step round zones index

end Step

/-! ## What one step can do -/

section Steps

variable {round : Rat → Rat} {zones : Zones} {count : Nat}
  {index : Fin m → Fin count}

/-- Every step, with what it does to the table, the duties and the reads. -/
inductive Stepped [DecidableEq Token] (round : Rat → Rat) (zones : Zones)
    (index : Fin m → Fin count) (state next : State n m Token) : Prop where
  | calm (firing : next.firing = state.firing)
      (duties : next.duties = state.duties)
      (generated : state.generated ⊆ next.generated)
      (reading : ∀ watcher, ∀ token ∈ (next.cycles watcher).reading?,
        token ∈ (state.cycles watcher).reading?)
  | acquired {watcher : Fin m} {token : Token}
      (fresh : token ∉ state.generated)
      (firing : next.firing = state.firing)
      (duties : next.duties = state.duties)
      (generated : next.generated = token :: state.generated)
      (cycles : next.cycles =
        Function.update state.cycles watcher (.reading token))
  | read {watcher : Fin m} {token : Token}
      (reading : state.cycles watcher = .reading token)
      (moved : Firing.step round zones state.firing
        (.findActive (shardBuckets (shard (index watcher)))) =
          some next.firing)
      (duties : next.duties = state.duties ++
        (Firing.findActive state.firing.triggers state.firing.profiles
          (shardBuckets (shard (index watcher)))).map
            fun trigger => ⟨watcher, token, trigger.id⟩)
      (generated : next.generated = state.generated)
      (cycles : next.cycles =
        Function.update state.cycles watcher (.polling token))
  | tabled {label : Firing.Label n}
      (moved : Firing.step round zones state.firing label =
        some next.firing)
      (reads : ∀ buckets, label ≠ .findActive buckets)
      (same : ∀ id, next.firing.underWay id = state.firing.underWay id)
      (duties : next.duties = state.duties)
      (generated : next.generated = state.generated)
      (cycles : next.cycles = state.cycles)
  | concluded {label : Firing.Label n}
      {duty : Duty m Token} (member : duty ∈ state.duties)
      (moved : Firing.step round zones state.firing label =
        some next.firing)
      (reads : ∀ buckets, label ≠ .findActive buckets)
      (fewer : ∀ id, next.firing.underWay id +
        (if duty.id = id then 1 else 0) = state.firing.underWay id)
      (duties : next.duties = state.duties.erase duty)
      (generated : next.generated = state.generated)
      (cycles : next.cycles = state.cycles)

theorem reading_goTo (state : State n m Token) (watcher : Fin m)
    {phase : Phase Token} (quiet : phase.reading? = none) (other : Fin m)
    {token : Token}
    (member : token ∈ ((state.goTo watcher phase).cycles other).reading?) :
    token ∈ (state.cycles other).reading? := by
  rcases eq_or_ne other watcher with rfl | different
  · simp only [State.goTo, Function.update_self, quiet] at member
    cases member
  · simpa only [State.goTo, Function.update_of_ne different] using member

theorem afterAcquire_cases (call : RemoteCall) (key : TimedLock.Key Token)
    (now : Int) (token : Token) (ttlSec : Int) :
    Phase.afterAcquire call
        (TimedLock.acquireLock key now token ttlSec).1 = .idle ∨
      Phase.afterAcquire call
        (TimedLock.acquireLock key now token ttlSec).1 = .reading token := by
  unfold TimedLock.acquireLock
  split
  · exact Or.inl rfl
  · split
    · exact Or.inl rfl
    · cases resolves : call.resolves
      · exact Or.inl (if_neg (Bool.eq_false_iff.mp resolves))
      · exact Or.inr (if_pos resolves)

theorem onTable_eq_some {state next : State n m Token}
    {label : Firing.Label n}
    (taken : state.onTable round zones label = some next) :
    ∃ firing, Firing.step round zones state.firing label = some firing ∧
      next = { state with firing := firing } := by
  obtain ⟨firing, moved, same⟩ := Option.map_eq_some_iff.mp taken
  exact ⟨firing, moved, same.symm⟩

theorem underWay_findActive {state next : Firing.State n}
    {buckets : Option (List Int)}
    (moved : Firing.step round zones state (.findActive buckets) = some next)
    (id : String) :
    next.underWay id = state.underWay id +
      (Firing.findActive state.triggers state.profiles buckets).countP
        fun trigger => trigger.id = id := by
  cases Firing.stepped_of_step moved with
  | findActive =>
      simp only [Firing.State.underWay, List.countP_append]
      omega

/-- Evaluating a trigger keeps it under way. -/
theorem underWay_processTrigger {state next : Firing.State n}
    {place : Nat} {snapshot : WeatherSnapshot} {readings : Firing.Readings}
    (moved : Firing.step round zones state
      (.processTrigger place snapshot readings) = some next) (id : String) :
    next.underWay id = state.underWay id := by
  cases Firing.stepped_of_step moved with
  | processTrigger found =>
      have taken := Firing.countP_eraseIdx found
        fun trigger => decide (trigger.id = id)
      simp only [Firing.State.underWay, List.countP_append,
        List.countP_singleton]
      omega

theorem underWay_skip {state next : Firing.State n} {place : Nat}
    {id : String}
    (held : (state.inHand[place]?).map Firing.WatchedTrigger.id = some id)
    (moved : Firing.step round zones state (.skip place) = some next)
    (other : String) :
    next.underWay other + (if id = other then 1 else 0) =
      state.underWay other := by
  cases Firing.stepped_of_step moved with
  | skipped found =>
      have taken := Firing.countP_eraseIdx found
        fun trigger => decide (trigger.id = other)
      rw [found] at held
      cases held
      simp only [decide_eq_true_eq] at taken
      simp only [Firing.State.underWay]
      omega

/-- A transaction is over once it has committed, been rejected or failed. -/
theorem underWay_written {state next : Firing.State n} {place : Nat}
    {id : String} {label : Firing.Label n}
    (ends : label = .commit place ∨ label = .fail place)
    (written : (state.writing[place]?).map (fun processing =>
      processing.trigger.id) = some id)
    (moved : Firing.step round zones state label = some next)
    (other : String) :
    next.underWay other + (if id = other then 1 else 0) =
      state.underWay other := by
  have fewer : ∀ {processing : Firing.Processing},
      state.writing[place]? = some processing →
        next.inHand = state.inHand →
          next.writing = state.writing.eraseIdx place →
            next.underWay other + (if id = other then 1 else 0) =
              state.underWay other := by
    intro processing found held kept
    rw [found] at written
    cases written
    rw [← Firing.underWay_eraseIdx other found, Firing.State.underWay, held,
      kept]
    rfl
  rcases ends with rfl | rfl
  · cases Firing.stepped_of_step moved with
    | committed found applied => exact fewer found rfl rfl
    | rejected found refused => exact fewer found rfl rfl
  · cases Firing.stepped_of_step moved with
    | fail found => exact fewer found rfl rfl

theorem stepped_of_step [DecidableEq Token] {state next : State n m Token}
    {label : Label n m Token}
    (taken : step round zones index state label = some next) :
    Stepped round zones index state next := by
  cases label with
  | tick elapsed =>
      cases taken
      exact .calm rfl rfl (List.Subset.refl _) fun _ _ member => member
  | request label ids =>
      obtain ⟨firing, moved, rfl⟩ := onTable_eq_some taken
      refine .tabled moved (fun _ => nofun) (fun id => ?_) rfl rfl rfl
      cases Firing.stepped_of_step moved with
      | request fresh advanced => rfl
  | updateProfile userId quietHours =>
      obtain ⟨firing, moved, rfl⟩ := onTable_eq_some taken
      refine .tabled moved (fun _ => nofun) (fun id => ?_) rfl rfl rfl
      cases Firing.stepped_of_step moved with
      | updateProfile => rfl
  | acquireLock watcher token call =>
      simp only [step] at taken
      split at taken
      case h_1 idle =>
        split at taken
        case isTrue => cases taken
        case isFalse fresh =>
          cases taken
          rcases afterAcquire_cases call
              (state.locks (lockKey index watcher)) state.now token
              cycleLockTtlSec with none | obtained
          · rw [none]
            exact .calm rfl rfl (List.subset_cons_self _ _)
              fun other _ member => reading_goTo _ watcher rfl other member
          · rw [obtained]
            exact .acquired fresh rfl rfl rfl rfl
      case h_2 => cases taken
  | findActive watcher =>
      simp only [step] at taken
      split at taken
      case h_1 token reading =>
        obtain ⟨next, tabled, rfl⟩ := Option.map_eq_some_iff.mp taken
        obtain ⟨firing, moved, rfl⟩ := onTable_eq_some tabled
        exact .read reading moved rfl rfl rfl
      case h_2 => cases taken
  | extendLock watcher call =>
      simp only [step] at taken
      split at taken
      case h_1 token polling =>
        cases taken
        exact .calm rfl rfl (List.Subset.refl _) fun _ _ member => member
      case h_2 => cases taken
  | releaseLock watcher call =>
      simp only [step] at taken
      split at taken
      case h_1 token working =>
        cases taken
        exact .calm rfl rfl (List.Subset.refl _) fun other _ member =>
          reading_goTo _ watcher rfl other member
      case h_2 => cases taken
  | processTrigger duty place snapshot readings =>
      obtain ⟨_, tabled⟩ := Option.ite_none_right_eq_some.mp taken
      obtain ⟨firing, moved, rfl⟩ := onTable_eq_some tabled
      exact .tabled moved (fun _ => nofun) (underWay_processTrigger moved) rfl
        rfl rfl
  | skip duty place =>
      obtain ⟨holds, concluded⟩ := Option.ite_none_right_eq_some.mp taken
      obtain ⟨next, tabled, rfl⟩ := Option.map_eq_some_iff.mp concluded
      obtain ⟨firing, moved, rfl⟩ := onTable_eq_some tabled
      exact .concluded holds.1 moved (fun _ => nofun)
        (underWay_skip holds.2 moved) rfl rfl rfl
  | commit duty place =>
      obtain ⟨writes, concluded⟩ := Option.ite_none_right_eq_some.mp taken
      obtain ⟨next, tabled, rfl⟩ := Option.map_eq_some_iff.mp concluded
      obtain ⟨firing, moved, rfl⟩ := onTable_eq_some tabled
      exact .concluded writes.1 moved (fun _ => nofun)
        (underWay_written (Or.inl rfl) writes.2 moved) rfl rfl rfl
  | fail duty place =>
      obtain ⟨writes, concluded⟩ := Option.ite_none_right_eq_some.mp taken
      obtain ⟨next, tabled, rfl⟩ := Option.map_eq_some_iff.mp concluded
      obtain ⟨firing, moved, rfl⟩ := onTable_eq_some tabled
      exact .concluded writes.1 moved (fun _ => nofun)
        (underWay_written (Or.inr rfl) writes.2 moved) rfl rfl rfl

end Steps

end WeatherNotify.Watcher.Fleet

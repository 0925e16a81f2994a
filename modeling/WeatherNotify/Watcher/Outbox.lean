import WeatherNotify.Common.RedisLock
import WeatherNotify.Transition.Machine

/-!
# The transactional outbox and its relay

Firings stage rows, relay passes hand them to the broker, and a daily sweep
deletes what was handed over long ago.  Every pass is one call of `flush`;
any number of them overlap one statement at a time, the lock may expire under
a pass, any call may fail before or after taking effect, and a pass may crash
anywhere.

The ghosts remember every row ever inserted, every `(eventId, routingKey)`
staged by a committed firing, the keys the broker accepted, and the ids of the
rows whose publish resolved.
-/

namespace WeatherNotify.Watcher.Outbox

open WeatherNotify.Common
open WeatherNotify.Transition

/-! ## Rows and statements -/

/-- An `OutboxEvent` row; its payload travels along unread. -/
structure OutboxRow where
  id : Nat
  eventId : String
  routingKey : String
  createdAt : Int
  publishedAt : Option Int
  deriving DecidableEq, Repr

/-- The unique index. -/
def OutboxRow.key (row : OutboxRow) : String × String :=
  (row.eventId, row.routingKey)

def OutboxRow.isPending (row : OutboxRow) : Bool :=
  row.publishedAt.isNone

/-- The rows a `createMany` with `skipDuplicates` really inserts. -/
def skipDuplicates (stored : List OutboxRow) :
    List OutboxRow → List OutboxRow
  | [] => []
  | row :: rest =>
      if stored.any fun other => other.key == row.key then
        skipDuplicates stored rest
      else row :: skipDuplicates (stored ++ [row]) rest

/--
`batch` is an answer of `findPending`: pending rows, oldest first, as many as
there are up to the limit, and none older left out.  Rows created at the same
instant may come in any order.
-/
def FindPending (limit : Nat) (rows batch : List OutboxRow) : Prop :=
  (∀ row ∈ batch, row ∈ rows ∧ row.isPending = true) ∧
    batch.Nodup ∧
    batch.length = min limit (rows.countP OutboxRow.isPending) ∧
    batch.Pairwise (fun older newer => older.createdAt ≤ newer.createdAt) ∧
    ∀ row ∈ rows, row.isPending = true → row ∉ batch →
      ∀ taken ∈ batch, taken.createdAt ≤ row.createdAt

instance (limit : Nat) (rows batch : List OutboxRow) :
    Decidable (FindPending limit rows batch) :=
  inferInstanceAs (Decidable (_ ∧ _))

def markPublished (ids : List Nat) (now : Int) (rows : List OutboxRow) :
    List OutboxRow :=
  rows.map fun row =>
    if row.id ∈ ids then { row with publishedAt := some now } else row

def prunePublished (before : Int) (rows : List OutboxRow) :
    List OutboxRow :=
  rows.filter fun row => !row.publishedAt.any (· < before)

def retentionHours : Int := 24

/-! ## Passes -/

/-- Where one call of `flush` stands. -/
inductive Pass where
  | waiting
  | reading
  | publishing (rest : List OutboxRow) (published : List Nat)
  | marking (published : List Nat)
  | releasing
  | finished
  deriving DecidableEq, Repr

namespace Pass

/-- The loop of `publishPending` over what is left of the batch. -/
def next (rest : List OutboxRow) (published : List Nat) : Pass :=
  match rest with
  | [] => .marking published
  | row :: rest => .publishing (row :: rest) published

/-- The rows a pass still means to publish. -/
def batch : Pass → List OutboxRow
  | .publishing rest _ => rest
  | _ => []

/-- The ids a pass will mark. -/
def published : Pass → List Nat
  | .publishing _ published | .marking published => published
  | _ => []

end Pass

structure State (n : Nat) where
  rows : List OutboxRow
  lock : LockKey (Fin n)
  passes : Fin n → Pass
  inserted : List OutboxRow
  staged : List (String × String)
  accepted : List (String × String)
  resolved : List Nat

inductive Label (n : Nat) where
  | commitFire (rows : List OutboxRow)
  | acquire (pass : Fin n)
  | acquireFails (pass : Fin n)
  | expire
  | findPending (pass : Fin n) (batch : List OutboxRow)
  | findPendingFails (pass : Fin n)
  | publishResolves (pass : Fin n)
  | publishRejects (pass : Fin n) (accepted : Bool)
  | markPublished (pass : Fin n) (now : Int)
  | markPublishedFails (pass : Fin n) (applied : Option Int)
  | release (pass : Fin n)
  | releaseFails (pass : Fin n)
  | prune (now : Int)
  | crash (pass : Fin n)
  deriving DecidableEq, Repr

variable {n : Nat}

def State.moveTo (state : State n) (pass : Fin n) (phase : Pass) : State n :=
  { state with passes := Function.update state.passes pass phase }

/-- Rows of a firing: pending, under ids never used before. -/
def Fresh (inserted rows : List OutboxRow) : Prop :=
  (∀ row ∈ rows, row.isPending = true ∧
      row.id ∉ inserted.map OutboxRow.id) ∧
    (rows.map OutboxRow.id).Nodup

instance (inserted rows : List OutboxRow) :
    Decidable (Fresh inserted rows) :=
  inferInstanceAs (Decidable (_ ∧ _))

/-- The transaction of a firing, as far as the outbox is concerned. -/
def State.commitFire (state : State n) (rows : List OutboxRow) : State n :=
  let inserted := skipDuplicates state.rows rows
  { state with
    rows := state.rows ++ inserted
    inserted := state.inserted ++ inserted
    staged := state.staged ++ rows.map OutboxRow.key }

/-- The broker took a message of `row`. -/
def State.accept (state : State n) (row : OutboxRow) : State n :=
  { state with accepted := state.accepted ++ [row.key] }

def State.resolve (state : State n) (row : OutboxRow) : State n :=
  { state.accept row with resolved := state.resolved ++ [row.id] }

section Step

variable (limit : Nat)

def step (state : State n) : Label n → Option (State n)
  | .commitFire rows =>
      if Fresh state.inserted rows then some (state.commitFire rows)
      else none
  | .acquire pass =>
      match state.passes pass with
      | .waiting =>
          match state.lock.acquireLock pass with
          | (true, lock) =>
              some { state.moveTo pass .reading with lock := lock }
          | (false, _) => some (state.moveTo pass .finished)
      | _ => none
  | .acquireFails pass =>
      match state.passes pass with
      | .waiting => some (state.moveTo pass .finished)
      | _ => none
  | .expire => some { state with lock := none }
  | .findPending pass batch =>
      match state.passes pass with
      | .reading =>
          if FindPending limit state.rows batch then
            some (state.moveTo pass
              (if batch.isEmpty then .releasing else .publishing batch []))
          else none
      | _ => none
  | .findPendingFails pass =>
      match state.passes pass with
      | .reading => some (state.moveTo pass .releasing)
      | _ => none
  | .publishResolves pass =>
      match state.passes pass with
      | .publishing (row :: rest) published =>
          some ((state.moveTo pass
            (.next rest (published ++ [row.id]))).resolve row)
      | _ => none
  | .publishRejects pass accepted =>
      match state.passes pass with
      | .publishing (row :: _) published =>
          let stopped := state.moveTo pass (.marking published)
          -- the broker may have taken the message and lost the confirm
          some (if accepted then stopped.accept row else stopped)
      | _ => none
  | .markPublished pass now =>
      match state.passes pass with
      | .marking published =>
          some { state.moveTo pass .releasing with
            rows := Outbox.markPublished published now state.rows }
      | _ => none
  | .markPublishedFails pass applied =>
      match state.passes pass with
      | .marking published =>
          let stopped := state.moveTo pass .releasing
          some { stopped with
            rows := match applied with
              | none => state.rows
              | some now => Outbox.markPublished published now state.rows }
      | _ => none
  | .release pass =>
      match state.passes pass with
      | .releasing =>
          some { state.moveTo pass .finished with
            lock := state.lock.releaseLock pass }
      | _ => none
  | .releaseFails pass =>
      match state.passes pass with
      | .releasing => some (state.moveTo pass .finished)
      | _ => none
  | .prune now =>
      some { state with
        rows :=
          prunePublished (now - retentionHours * 3600000) state.rows }
  | .crash pass => some (state.moveTo pass .finished)

def machine : Machine (State n) (Label n) where
  step := step limit

end Step

/-- Nothing staged and no pass begun. -/
def State.empty (n : Nat) : State n where
  rows := []
  lock := none
  passes _ := .waiting
  inserted := []
  staged := []
  accepted := []
  resolved := []

/-! ## What one step can do -/

/-- Every step, with the phase that enabled it and the state it leads to. -/
inductive Stepped (limit : Nat) (state : State n) :
    Label n → State n → Prop where
  | commitFire {rows : List OutboxRow}
      (fresh : Fresh state.inserted rows) :
      Stepped limit state (.commitFire rows) (state.commitFire rows)
  | acquired {pass : Fin n}
      (found : state.passes pass = .waiting)
      (free : state.lock = none) :
      Stepped limit state (.acquire pass)
        { state.moveTo pass .reading with lock := some pass }
  | busy {pass holder : Fin n}
      (found : state.passes pass = .waiting)
      (held : state.lock = some holder) :
      Stepped limit state (.acquire pass) (state.moveTo pass .finished)
  | acquireFails {pass : Fin n}
      (found : state.passes pass = .waiting) :
      Stepped limit state (.acquireFails pass)
        (state.moveTo pass .finished)
  | expire :
      Stepped limit state .expire { state with lock := none }
  | drained {pass : Fin n}
      (found : state.passes pass = .reading)
      (answer : FindPending limit state.rows []) :
      Stepped limit state (.findPending pass [])
        (state.moveTo pass .releasing)
  | findPending {pass : Fin n} {batch : List OutboxRow}
      (found : state.passes pass = .reading)
      (answer : FindPending limit state.rows batch)
      (nonempty : batch ≠ []) :
      Stepped limit state (.findPending pass batch)
        (state.moveTo pass (.publishing batch []))
  | findPendingFails {pass : Fin n}
      (found : state.passes pass = .reading) :
      Stepped limit state (.findPendingFails pass)
        (state.moveTo pass .releasing)
  | publishResolves {pass : Fin n} {row : OutboxRow}
      {rest : List OutboxRow} {published : List Nat}
      (found : state.passes pass = .publishing (row :: rest) published) :
      Stepped limit state (.publishResolves pass)
        ((state.moveTo pass
          (.next rest (published ++ [row.id]))).resolve row)
  | publishRejects {pass : Fin n} {row : OutboxRow}
      {rest : List OutboxRow} {published : List Nat}
      (found : state.passes pass = .publishing (row :: rest) published)
      (accepted : Bool) :
      Stepped limit state (.publishRejects pass accepted)
        (if accepted then (state.moveTo pass (.marking published)).accept row
        else state.moveTo pass (.marking published))
  | markPublished {pass : Fin n} {published : List Nat} {now : Int}
      (found : state.passes pass = .marking published) :
      Stepped limit state (.markPublished pass now)
        { state.moveTo pass .releasing with
          rows := Outbox.markPublished published now state.rows }
  | markLost {pass : Fin n} {published : List Nat}
      (found : state.passes pass = .marking published) :
      Stepped limit state (.markPublishedFails pass none)
        (state.moveTo pass .releasing)
  | markUnreported {pass : Fin n} {published : List Nat} {now : Int}
      (found : state.passes pass = .marking published) :
      Stepped limit state (.markPublishedFails pass (some now))
        { state.moveTo pass .releasing with
          rows := Outbox.markPublished published now state.rows }
  | release {pass : Fin n}
      (found : state.passes pass = .releasing) :
      Stepped limit state (.release pass)
        { state.moveTo pass .finished with
          lock := state.lock.releaseLock pass }
  | releaseFails {pass : Fin n}
      (found : state.passes pass = .releasing) :
      Stepped limit state (.releaseFails pass)
        (state.moveTo pass .finished)
  | prune (now : Int) :
      Stepped limit state (.prune now)
        { state with
          rows :=
            prunePublished (now - retentionHours * 3600000) state.rows }
  | crash (pass : Fin n) :
      Stepped limit state (.crash pass) (state.moveTo pass .finished)

theorem stepped_of_step {limit : Nat} {state next : State n}
    {label : Label n} (taken : step limit state label = some next) :
    Stepped limit state label next := by
  cases label with
  | commitFire rows =>
      simp only [step] at taken
      split at taken
      next fresh =>
        cases taken
        exact .commitFire fresh
      next => cases taken
  | acquire pass =>
      simp only [step] at taken
      split at taken
      next found =>
        cases held : state.lock with
        | none =>
            rw [held] at taken
            cases taken
            exact .acquired found held
        | some holder =>
            rw [held] at taken
            cases taken
            exact .busy found held
      next => cases taken
  | findPending pass batch =>
      simp only [step] at taken
      split at taken
      next found =>
        split at taken
        next answer =>
          cases taken
          cases batch with
          | nil => exact .drained found answer
          | cons row rest => exact .findPending found answer (by simp)
        next => cases taken
      next => cases taken
  | publishRejects pass accepted =>
      simp only [step] at taken
      split at taken
      next found =>
        cases taken
        exact .publishRejects found accepted
      next => cases taken
  | markPublishedFails pass applied =>
      simp only [step] at taken
      split at taken
      next found =>
        cases taken
        cases applied with
        | none => exact .markLost found
        | some now => exact .markUnreported found
      next => cases taken
  | expire =>
      cases taken
      exact .expire
  | prune now =>
      cases taken
      exact .prune now
  | crash pass =>
      cases taken
      exact .crash pass
  | acquireFails pass | findPendingFails pass | publishResolves pass
  | markPublished pass now | release pass | releaseFails pass =>
      simp only [step] at taken
      split at taken
      next found =>
        cases taken
        constructor
        exact found
      next => cases taken

end WeatherNotify.Watcher.Outbox

import WeatherNotify.Notifier.Consumer
import WeatherNotify.Transition.Machine

/-!
# Consumers racing for one delivery

Any number of handlings of copies of one event on one channel, interleaved
one statement at a time.  `claim` is the three statements the repository
issues, with the cutoff and the stamp read from the clock before the first of
them; the send takes as long as it takes; what a failed dispatch leads to is
decided by the copy's own attempt count.

The row shows only what the protocol acts on.  Two fields are ghosts: the
consumer whose claim succeeded last, and the number of sends that completed.
-/

namespace WeatherNotify.Notifier.Lease

open WeatherNotify.Contracts
open WeatherNotify.Transition

/-! ## The row and its statements -/

/-- The `(eventId, channel)` row as the lease protocol sees it. -/
structure Row where
  status : NotifStatus
  claimedAt : Option Int
  deriving DecidableEq, Repr

def Row.leasedAt (stamp : Int) : Row :=
  { status := .pending, claimedAt := some stamp }

/-- `releaseClaim` on an existing row. -/
def Row.released (row : Row) : Row :=
  if row.status = .pending then { row with claimedAt := none } else row

/-- `settle` on the row, creating it without a lease when it is missing. -/
def settled (status : NotifStatus) : Option Row → Row
  | none => { status := status, claimedAt := none }
  | some row => { row with status := status }

/-- Whether a claim that starts at `clock` could own the row. -/
def claimableAt (clock : Int) : Option Row → Bool
  | none => true
  | some row => claimable (clock - claimLeaseMs) row.status row.claimedAt

/-! ## Handlings -/

/-- Where one handling stands; each phase waits for one statement or call. -/
inductive Phase where
  | waiting
  | started (leaseCutoff : Int)
  | inserting (leaseCutoff stamp : Int)
  | takingOver (leaseCutoff stamp : Int)
  | readingBack (stamp : Int)
  | sending (stamp : Int)
  | releasing (stamp : Int) (permanent : Bool)
  | settlingSent (stamp : Int)
  | settlingFailed
  | retrying
  | finished
  deriving DecidableEq, Repr

namespace Phase

/-- The stamp a handling holds the row under, until it settles or releases. -/
def lease : Phase → Option Int
  | .sending stamp | .releasing stamp _ | .settlingSent stamp => some stamp
  | _ => none

/-- The cutoff a handling will take the row over with. -/
def cutoff : Phase → Option Int
  | .started leaseCutoff | .inserting leaseCutoff _
  | .takingOver leaseCutoff _ => some leaseCutoff
  | _ => none

/-- The handling has seen the create collide with an existing row. -/
def sawRow : Phase → Bool
  | .takingOver _ _ | .readingBack _ => true
  | _ => false

/-- `handleFailure`, up to its first call. -/
def afterFailure (maxAttempts attempts : Nat) (permanent : Bool) : Phase :=
  if permanent || maxAttempts ≤ attempts + 1 then .settlingFailed
  else .retrying

end Phase

structure State (n : Nat) where
  clock : Int
  row : Option Row
  phase : Fin n → Phase
  owner : Option (Fin n)
  sends : Nat

inductive Label (n : Nat) where
  | tick (elapsed : Nat)
  | readCutoff (consumer : Fin n)
  | readStamp (consumer : Fin n)
  | insert (consumer : Fin n)
  | takeOver (consumer : Fin n)
  | readBack (consumer : Fin n)
  | sendResolves (consumer : Fin n)
  | sendRejects (consumer : Fin n) (permanent : Bool)
  | release (consumer : Fin n)
  | settleSent (consumer : Fin n)
  | settleFailed (consumer : Fin n)
  | republish (consumer : Fin n)
  | databaseFails (consumer : Fin n)
  deriving DecidableEq, Repr

variable {n : Nat}

def State.moveTo (state : State n) (consumer : Fin n) (phase : Phase) :
    State n :=
  { state with phase := Function.update state.phase consumer phase }

/-- The claim of `consumer` succeeded under `stamp`. -/
def State.granted (state : State n) (consumer : Fin n) (stamp : Int)
    (row : Option Row) : State n :=
  { state.moveTo consumer (.sending stamp) with
    row := row, owner := some consumer }

section Step

variable (maxAttempts : Nat) (attempts : Fin n → Nat)

/-- What the handling does when its pending database call rejects. -/
def afterDatabaseFailure (consumer : Fin n) : Phase → Option Phase
  | .inserting _ _ | .takingOver _ _ | .readingBack _ | .settlingSent _ =>
      some (.afterFailure maxAttempts (attempts consumer) false)
  -- a failed release is logged and swallowed
  | .releasing _ permanent =>
      some (.afterFailure maxAttempts (attempts consumer) permanent)
  | .settlingFailed => some .finished
  | _ => none

def step (state : State n) : Label n → Option (State n)
  | .tick elapsed => some { state with clock := state.clock + elapsed }
  | .readCutoff consumer =>
      match state.phase consumer with
      | .waiting =>
          some (state.moveTo consumer
            (.started (state.clock - claimLeaseMs)))
      | _ => none
  | .readStamp consumer =>
      match state.phase consumer with
      | .started leaseCutoff =>
          some (state.moveTo consumer (.inserting leaseCutoff state.clock))
      | _ => none
  | .insert consumer =>
      match state.phase consumer with
      | .inserting leaseCutoff stamp =>
          match state.row with
          | none => some (state.granted consumer stamp (Row.leasedAt stamp))
          | some _ =>
              some (state.moveTo consumer (.takingOver leaseCutoff stamp))
      | _ => none
  | .takeOver consumer =>
      match state.phase consumer with
      | .takingOver leaseCutoff stamp =>
          match state.row with
          | none => some (state.moveTo consumer (.readingBack stamp))
          | some row =>
              if claimable leaseCutoff row.status row.claimedAt then
                some (state.granted consumer stamp (Row.leasedAt stamp))
              else some (state.moveTo consumer (.readingBack stamp))
      | _ => none
  | .readBack consumer =>
      match state.phase consumer with
      | .readingBack stamp =>
          match state.row with
          | none => some (state.granted consumer stamp none)
          | some row =>
              if row.status = .sent then
                some (state.moveTo consumer .finished)
              else
                some (state.moveTo consumer
                  (.afterFailure maxAttempts (attempts consumer) false))
      | _ => none
  | .sendResolves consumer =>
      match state.phase consumer with
      | .sending stamp =>
          some { state.moveTo consumer (.settlingSent stamp) with
            sends := state.sends + 1 }
      | _ => none
  | .sendRejects consumer permanent =>
      match state.phase consumer with
      | .sending stamp =>
          some (state.moveTo consumer (.releasing stamp permanent))
      | _ => none
  | .release consumer =>
      match state.phase consumer with
      | .releasing _ permanent =>
          some { state.moveTo consumer
              (.afterFailure maxAttempts (attempts consumer) permanent) with
            row := state.row.map Row.released }
      | _ => none
  | .settleSent consumer =>
      match state.phase consumer with
      | .settlingSent _ =>
          some { state.moveTo consumer .finished with
            row := some (settled .sent state.row) }
      | _ => none
  | .settleFailed consumer =>
      match state.phase consumer with
      | .settlingFailed =>
          some { state.moveTo consumer .finished with
            row := some (settled .failed state.row) }
      | _ => none
  | .republish consumer =>
      match state.phase consumer with
      | .retrying => some (state.moveTo consumer .finished)
      | _ => none
  | .databaseFails consumer =>
      (afterDatabaseFailure maxAttempts attempts consumer
        (state.phase consumer)).map (state.moveTo consumer)

def machine : Machine (State n) (Label n) where
  step := step maxAttempts attempts

end Step

/-- No handling has begun; the row may be left over from anything. -/
structure Initial (state : State n) : Prop where
  waiting : ∀ consumer, state.phase consumer = .waiting
  unowned : state.owner = none
  unsent : state.sends = 0

/-! ## What one step can do -/

/--
Every step, with the phase that enabled it and the state it leads to.  The
cases follow the labels; a statement that can answer in two ways has two.
-/
inductive Stepped (maxAttempts : Nat) (attempts : Fin n → Nat)
    (state : State n) : Label n → State n → Prop where
  | tick (elapsed : Nat) :
      Stepped maxAttempts attempts state (.tick elapsed)
        { state with clock := state.clock + elapsed }
  | readCutoff {consumer : Fin n}
      (found : state.phase consumer = .waiting) :
      Stepped maxAttempts attempts state (.readCutoff consumer)
        (state.moveTo consumer (.started (state.clock - claimLeaseMs)))
  | readStamp {consumer : Fin n} {leaseCutoff : Int}
      (found : state.phase consumer = .started leaseCutoff) :
      Stepped maxAttempts attempts state (.readStamp consumer)
        (state.moveTo consumer (.inserting leaseCutoff state.clock))
  | inserted {consumer : Fin n} {leaseCutoff stamp : Int}
      (found : state.phase consumer = .inserting leaseCutoff stamp)
      (missing : state.row = none) :
      Stepped maxAttempts attempts state (.insert consumer)
        (state.granted consumer stamp (Row.leasedAt stamp))
  | collided {consumer : Fin n} {leaseCutoff stamp : Int} {row : Row}
      (found : state.phase consumer = .inserting leaseCutoff stamp)
      (present : state.row = some row) :
      Stepped maxAttempts attempts state (.insert consumer)
        (state.moveTo consumer (.takingOver leaseCutoff stamp))
  | tookOver {consumer : Fin n} {leaseCutoff stamp : Int} {row : Row}
      (found : state.phase consumer = .takingOver leaseCutoff stamp)
      (present : state.row = some row)
      (free : claimable leaseCutoff row.status row.claimedAt = true) :
      Stepped maxAttempts attempts state (.takeOver consumer)
        (state.granted consumer stamp (Row.leasedAt stamp))
  | missed {consumer : Fin n} {leaseCutoff stamp : Int}
      (found : state.phase consumer = .takingOver leaseCutoff stamp)
      (held : ∀ row, state.row = some row →
        claimable leaseCutoff row.status row.claimedAt = false) :
      Stepped maxAttempts attempts state (.takeOver consumer)
        (state.moveTo consumer (.readingBack stamp))
  | vanished {consumer : Fin n} {stamp : Int}
      (found : state.phase consumer = .readingBack stamp)
      (missing : state.row = none) :
      Stepped maxAttempts attempts state (.readBack consumer)
        (state.granted consumer stamp none)
  | duplicate {consumer : Fin n} {stamp : Int} {row : Row}
      (found : state.phase consumer = .readingBack stamp)
      (present : state.row = some row)
      (sent : row.status = .sent) :
      Stepped maxAttempts attempts state (.readBack consumer)
        (state.moveTo consumer .finished)
  | inFlight {consumer : Fin n} {stamp : Int} {row : Row}
      (found : state.phase consumer = .readingBack stamp)
      (present : state.row = some row)
      (unsent : row.status ≠ .sent) :
      Stepped maxAttempts attempts state (.readBack consumer)
        (state.moveTo consumer
          (.afterFailure maxAttempts (attempts consumer) false))
  | sendResolves {consumer : Fin n} {stamp : Int}
      (found : state.phase consumer = .sending stamp) :
      Stepped maxAttempts attempts state (.sendResolves consumer)
        { state.moveTo consumer (.settlingSent stamp) with
          sends := state.sends + 1 }
  | sendRejects {consumer : Fin n} {stamp : Int} {permanent : Bool}
      (found : state.phase consumer = .sending stamp) :
      Stepped maxAttempts attempts state (.sendRejects consumer permanent)
        (state.moveTo consumer (.releasing stamp permanent))
  | release {consumer : Fin n} {stamp : Int} {permanent : Bool}
      (found : state.phase consumer = .releasing stamp permanent) :
      Stepped maxAttempts attempts state (.release consumer)
        { state.moveTo consumer
            (.afterFailure maxAttempts (attempts consumer) permanent) with
          row := state.row.map Row.released }
  | settleSent {consumer : Fin n} {stamp : Int}
      (found : state.phase consumer = .settlingSent stamp) :
      Stepped maxAttempts attempts state (.settleSent consumer)
        { state.moveTo consumer .finished with
          row := some (settled .sent state.row) }
  | settleFailed {consumer : Fin n}
      (found : state.phase consumer = .settlingFailed) :
      Stepped maxAttempts attempts state (.settleFailed consumer)
        { state.moveTo consumer .finished with
          row := some (settled .failed state.row) }
  | republish {consumer : Fin n}
      (found : state.phase consumer = .retrying) :
      Stepped maxAttempts attempts state (.republish consumer)
        (state.moveTo consumer .finished)
  | databaseFails {consumer : Fin n} {next : Phase}
      (rejected : afterDatabaseFailure maxAttempts attempts consumer
        (state.phase consumer) = some next) :
      Stepped maxAttempts attempts state (.databaseFails consumer)
        (state.moveTo consumer next)

theorem stepped_of_step
    {maxAttempts : Nat} {attempts : Fin n → Nat}
    {state next : State n} {label : Label n}
    (taken : step maxAttempts attempts state label = some next) :
    Stepped maxAttempts attempts state label next := by
  cases label with
  | tick elapsed =>
      cases taken
      exact .tick elapsed
  | databaseFails consumer =>
      obtain ⟨phase, rejected, rfl⟩ := Option.map_eq_some_iff.mp taken
      exact .databaseFails rejected
  | insert consumer =>
      simp only [step] at taken
      split at taken
      next found =>
        split at taken
        next missing =>
          cases taken
          exact .inserted found missing
        next present =>
          cases taken
          exact .collided found present
      next => cases taken
  | takeOver consumer =>
      simp only [step] at taken
      split at taken
      next found =>
        split at taken
        next missing =>
          cases taken
          refine .missed found fun row there => ?_
          rw [missing] at there
          cases there
        next present =>
          split at taken
          next free =>
            cases taken
            exact .tookOver found present free
          next held =>
            cases taken
            refine .missed found fun row there => ?_
            rw [present] at there
            cases there
            exact Bool.eq_false_iff.mpr held
      next => cases taken
  | readBack consumer =>
      simp only [step] at taken
      split at taken
      next found =>
        split at taken
        next missing =>
          cases taken
          exact .vanished found missing
        next present =>
          split at taken
          next sent =>
            cases taken
            exact .duplicate found present sent
          next unsent =>
            cases taken
            exact .inFlight found present unsent
      next => cases taken
  | readCutoff consumer | readStamp consumer | sendResolves consumer
  | sendRejects consumer permanent | release consumer
  | settleSent consumer | settleFailed consumer | republish consumer =>
      simp only [step] at taken
      split at taken
      next found =>
        cases taken
        constructor
        exact found
      next => cases taken

end WeatherNotify.Notifier.Lease

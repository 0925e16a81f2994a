import WeatherNotify.Common.RemoteCall
import WeatherNotify.Common.TimedLock

/-!
# The Telegram pollers

`TelegramBotService` on any number of replicas, one awaited call at a time.
Whoever holds the lock reads the cursor, polls Telegram pass by pass, stores
the offset after a pass that moved it and renews the lock between passes; the
lock runs out under a leader whose pass takes too long.  Any call to Redis or
Telegram may fail.

What a replica has not read of the cursor is a ghost: the offsets that others
stored since it last read or stored one itself.
-/

namespace WeatherNotify.Users.Telegram

open WeatherNotify.Common
open WeatherNotify.Transition

def pollLockTtlSec : Int := 90

/-! ## One replica -/

/-- The call a replica waits for; `pacing` and `waiting` are its delays. -/
inductive Phase (Token : Type) where
  | acquiring
  | waiting
  | loading (lock : Token)
  | polling (lock : Token)
  | handling (lock : Token) (updates : List Int)
  | persisting (lock : Token)
  | extending (lock : Token)
  | pacing (lock : Token)
  | releasing (lock : Token)
  | stopped
  deriving DecidableEq

namespace Phase

variable {Token : Type}

/-- The head of the loop in `run`. -/
def standBy (running : Bool) : Phase Token :=
  if running then .acquiring else .stopped

/-- The head of the loop in `pollWhileLeader`. -/
def lead (running : Bool) (lock : Token) : Phase Token :=
  if running then .polling lock else .releasing lock

/-- The replica has been through `loadOffset` and polls as the leader. -/
def polls : Phase Token → Bool
  | .polling _ | .handling _ _ | .persisting _ | .extending _
  | .pacing _ => true
  | _ => false

/-- The updates of the batch that are still to be handled. -/
def updates : Phase Token → List Int
  | .handling _ updates => updates
  | _ => []

@[simp]
theorem updates_standBy (running : Bool) :
    (standBy running : Phase Token).updates = [] := by
  cases running <;> rfl

@[simp]
theorem polls_standBy (running : Bool) :
    (standBy running : Phase Token).polls = false := by
  cases running <;> rfl

@[simp]
theorem updates_lead (running : Bool) (lock : Token) :
    (lead running lock).updates = [] := by
  cases running <;> rfl

end Phase

structure Poller (Token : Type) where
  offset : Int
  persistedOffset : Int
  running : Bool
  phase : Phase Token
  unread : List Int
  deriving DecidableEq

namespace Poller

variable {Token : Type}

/-- A replica that starts beside a cursor it has not read. -/
def start (cursor : Option Int) : Poller Token where
  offset := 0
  persistedOffset := 0
  running := true
  phase := .acquiring
  unread := cursor.toList

def goTo (poller : Poller Token) (phase : Phase Token) : Poller Token :=
  { poller with phase := phase }

/-- `loadOffset`; `none` when reading the cursor fails. -/
def load (poller : Poller Token) (lock : Token) :
    Option (Option Int) → Poller Token
  | none => poller.goTo (.lead poller.running lock)
  | some stored =>
      let read : Poller Token :=
        match stored with
        | some stored =>
            if poller.offset < stored then
              { poller with offset := stored, persistedOffset := stored }
            else poller
        | none => poller
      { read with
        phase := .lead poller.running lock
        unread := [] }

/-- The head of the loop over the updates, and what follows it. -/
def handle (poller : Poller Token) (lock : Token) (updates : List Int) :
    Poller Token :=
  poller.goTo <|
    match updates with
    | _ :: _ => .handling lock updates
    | [] =>
        if poller.offset = poller.persistedOffset then .extending lock
        else .persisting lock

/-- What rejects out of a pass ends the poller on shutdown only. -/
def fail (poller : Poller Token) (lock : Token) : Poller Token :=
  poller.goTo (if poller.running then .extending lock else .releasing lock)

/-- `persistOffset` once the write has been answered. -/
def persisted (poller : Poller Token) (lock : Token) (call : RemoteCall) :
    Poller Token :=
  { poller with
    persistedOffset :=
      if call.resolves then poller.offset else poller.persistedOffset
    phase := .extending lock
    unread := if call.reaches then [] else poller.unread }

/-- Another replica has stored an offset. -/
def notice (poller : Poller Token) (offset : Int) : Poller Token :=
  { poller with unread := offset :: poller.unread }

/-- A replica that keeps what it knows and takes nothing up. -/
structure Rests (poller next : Poller Token) : Prop where
  offset : next.offset = poller.offset
  unread : next.unread = poller.unread
  updates : next.phase.updates = poller.phase.updates ∨
    next.phase.updates = []
  polls : next.phase.polls = true → poller.phase.polls = true

theorem rests_goTo {poller : Poller Token} {phase : Phase Token}
    (none : phase.updates = [])
    (polls : phase.polls = true → poller.phase.polls = true) :
    poller.Rests (poller.goTo phase) :=
  ⟨rfl, rfl, Or.inr none, polls⟩

end Poller

/-! ## All replicas -/

structure State (Replica Token : Type) where
  clock : Int
  lock : TimedLock.Key Token
  cursor : Option Int
  poller : Replica → Poller Token

/-- A step with what it is answered; `handle` may reject or resolve. -/
inductive Label (Replica Token : Type) where
  | tick (elapsed : Nat)
  | onModuleDestroy (replica : Replica)
  | wake (replica : Replica)
  | acquireLock (replica : Replica) (token : Token) (call : RemoteCall)
  | getCursor (replica : Replica) (answered : Bool)
  | getUpdates (replica : Replica) (answer : Option (List Int))
  | handle (replica : Replica)
  | setCursor (replica : Replica) (call : RemoteCall)
  | extendLock (replica : Replica) (call : RemoteCall)
  | releaseLock (replica : Replica) (call : RemoteCall)

variable {Replica Token : Type}

/-- All replicas start, beside a cursor that may be there already. -/
def State.start (cursor : Option Int) : State Replica Token where
  clock := 0
  lock := none
  cursor := cursor
  poller := fun _ => .start cursor

/-- Update ids increase, and Telegram starts from the offset asked for. -/
def IsBatch (offset : Int) (updates : List Int) : Prop :=
  updates.Pairwise (· < ·) ∧ ∀ update ∈ updates, offset ≤ update

instance (offset : Int) (updates : List Int) :
    Decidable (IsBatch offset updates) :=
  inferInstanceAs (Decidable (_ ∧ _))

variable [DecidableEq Replica]

def State.become (state : State Replica Token) (replica : Replica)
    (poller : Poller Token) : State Replica Token :=
  { state with poller := Function.update state.poller replica poller }

/-- An offset under `POLL_OFFSET_KEY`. -/
def State.store (state : State Replica Token) (replica : Replica)
    (offset : Int) : State Replica Token :=
  { state with
    cursor := some offset
    poller := fun other =>
      if other = replica then state.poller other
      else (state.poller other).notice offset }

/-- A step of one replica concerns no other. -/
theorem State.forall_become {state : State Replica Token}
    {replica : Replica} {poller : Poller Token}
    (Holds : Replica → Poller Token → Prop)
    (moved : Holds replica poller)
    (others : ∀ other, other ≠ replica → Holds other (state.poller other)) :
    ∀ other, Holds other ((state.become replica poller).poller other) :=
  (Function.forall_update_iff _ Holds).mpr ⟨moved, others⟩

theorem State.store_poller_of_ne {state : State Replica Token}
    {replica other : Replica} {offset : Int}
    (different : other ≠ replica) :
    (state.store replica offset).poller other =
      (state.poller other).notice offset :=
  if_neg different

variable [DecidableEq Token]

def step (state : State Replica Token) :
    Label Replica Token → Option (State Replica Token)
  | .tick elapsed => some { state with clock := state.clock + elapsed }
  | .onModuleDestroy replica =>
      some (state.become replica
        { state.poller replica with running := false })
  | .wake replica =>
      let poller := state.poller replica
      match poller.phase with
      | .waiting =>
          some (state.become replica (poller.goTo (.standBy poller.running)))
      | .pacing lock =>
          some (state.become replica
            (poller.goTo (.lead poller.running lock)))
      | _ => none
  | .acquireLock replica token call =>
      let poller := state.poller replica
      match poller.phase with
      | .acquiring =>
          let called := TimedLock.acquireLock state.lock state.clock token
            pollLockTtlSec
          let phase : Phase Token :=
            match call.resolves, called.1 with
            | true, .ok (some lock) => .loading lock
            | _, _ => .waiting
          some { state.become replica (poller.goTo phase) with
            lock := if call.reaches then called.2 else state.lock }
      | _ => none
  | .getCursor replica answered =>
      let poller := state.poller replica
      match poller.phase with
      | .loading lock =>
          some (state.become replica (poller.load lock
            (if answered then some state.cursor else none)))
      | _ => none
  | .getUpdates replica answer =>
      let poller := state.poller replica
      match poller.phase, answer with
      | .polling lock, some updates =>
          if IsBatch poller.offset updates then
            some (state.become replica (poller.handle lock updates))
          else none
      | .polling lock, none =>
          some (state.become replica (poller.fail lock))
      | _, _ => none
  | .handle replica =>
      let poller := state.poller replica
      match poller.phase with
      | .handling lock (update :: rest) =>
          let handled := { poller with offset := update + 1 }
          some (state.become replica (handled.handle lock rest))
      | _ => none
  | .setCursor replica call =>
      let poller := state.poller replica
      match poller.phase with
      | .persisting lock =>
          let stored :=
            if call.reaches then state.store replica poller.offset else state
          some (stored.become replica (poller.persisted lock call))
      | _ => none
  | .extendLock replica call =>
      let poller := state.poller replica
      match poller.phase with
      | .extending lock =>
          let called := TimedLock.extendLock state.lock state.clock lock
            pollLockTtlSec
          let phase : Phase Token :=
            if call.resolves && called.1 then .pacing lock
            else .releasing lock
          some { state.become replica (poller.goTo phase) with
            lock := if call.reaches then called.2 else state.lock }
      | _ => none
  | .releaseLock replica call =>
      let poller := state.poller replica
      match poller.phase with
      | .releasing lock =>
          let called := TimedLock.releaseLock state.lock state.clock lock
          some { state.become replica
              (poller.goTo (.standBy poller.running)) with
            lock := if call.reaches then called.2 else state.lock }
      | _ => none

/-! ## What one step can do -/

/-- The replica whose offset a call stores. -/
def Label.stores : Label Replica Token → Option Replica
  | .setCursor replica call => if call.reaches then some replica else none
  | _ => none

inductive Stepped (state : State Replica Token) :
    Label Replica Token → State Replica Token → Prop where
  | tick (elapsed : Nat) :
      Stepped state (.tick elapsed)
        { state with clock := state.clock + elapsed }
  | moved {label : Label Replica Token} {replica : Replica}
      {next : Poller Token} (lock : TimedLock.Key Token)
      (silent : label.stores = none)
      (rests : (state.poller replica).Rests next) :
      Stepped state label { state.become replica next with lock := lock }
  | loaded {replica : Replica} {lock : Token} {answered : Bool} :
      Stepped state (.getCursor replica answered)
        (state.become replica ((state.poller replica).load lock
          (if answered then some state.cursor else none)))
  | answered {replica : Replica} {lock : Token} {updates : List Int}
      (polling : (state.poller replica).phase = .polling lock)
      (batch : IsBatch (state.poller replica).offset updates) :
      Stepped state (.getUpdates replica (some updates))
        (state.become replica
          ((state.poller replica).handle lock updates))
  | handled {replica : Replica} {lock : Token} {update : Int}
      {rest : List Int}
      (handling : (state.poller replica).phase =
        .handling lock (update :: rest)) :
      Stepped state (.handle replica)
        (state.become replica
          (Poller.handle { state.poller replica with offset := update + 1 }
            lock rest))
  | stored {replica : Replica} {lock : Token} {call : RemoteCall}
      (persisting : (state.poller replica).phase = .persisting lock)
      (reaches : call.reaches = true) :
      Stepped state (.setCursor replica call)
        ((state.store replica (state.poller replica).offset).become replica
          ((state.poller replica).persisted lock call))

theorem stepped_of_step {state next : State Replica Token}
    {label : Label Replica Token} (taken : step state label = some next) :
    Stepped state label next := by
  cases label with
  | tick elapsed =>
      cases taken
      exact .tick elapsed
  | onModuleDestroy replica =>
      cases taken
      exact .moved state.lock rfl ⟨rfl, rfl, Or.inl rfl, id⟩
  | wake replica =>
      simp only [step] at taken
      split at taken
      case h_1 waiting =>
        cases taken
        exact .moved state.lock rfl (Poller.rests_goTo (by simp) (by simp))
      case h_2 lock pacing =>
        cases taken
        exact .moved state.lock rfl
          (Poller.rests_goTo (by simp) fun _ => by rw [pacing]; rfl)
      case h_3 => cases taken
  | acquireLock replica token call =>
      simp only [step] at taken
      split at taken
      case h_1 acquiring =>
        cases taken
        exact .moved _ rfl
          (Poller.rests_goTo (by split <;> rfl) (by split <;> nofun))
      case h_2 => cases taken
  | getCursor replica answered =>
      simp only [step] at taken
      split at taken
      case h_1 lock loading =>
        cases taken
        exact .loaded
      case h_2 => cases taken
  | getUpdates replica answer =>
      simp only [step] at taken
      split at taken
      case h_1 lock updates polling =>
        split at taken
        case isTrue batch =>
          cases taken
          exact .answered polling batch
        case isFalse => cases taken
      case h_2 lock polling =>
        cases taken
        exact .moved state.lock rfl (Poller.rests_goTo
          (by split <;> rfl) fun _ => by rw [polling]; rfl)
      case h_3 => cases taken
  | handle replica =>
      simp only [step] at taken
      split at taken
      case h_1 lock update rest handling =>
        cases taken
        exact .handled handling
      case h_2 => cases taken
  | setCursor replica call =>
      simp only [step] at taken
      split at taken
      case h_1 lock persisting =>
        cases taken
        cases reaches : call.reaches with
        | true => exact .stored persisting reaches
        | false =>
            refine .moved state.lock ?_ ⟨rfl, ?_, Or.inr rfl, fun _ => ?_⟩
            · simp only [Label.stores, reaches, Bool.false_eq_true, if_false]
            · simp only [Poller.persisted, reaches, Bool.false_eq_true,
                if_false]
            · rw [persisting]
              rfl
      case h_2 => cases taken
  | extendLock replica call =>
      simp only [step] at taken
      split at taken
      case h_1 lock extending =>
        cases taken
        exact .moved _ rfl (Poller.rests_goTo
          (by split <;> rfl) fun _ => by rw [extending]; rfl)
      case h_2 => cases taken
  | releaseLock replica call =>
      simp only [step] at taken
      split at taken
      case h_1 lock releasing =>
        cases taken
        exact .moved _ rfl (Poller.rests_goTo (by simp) (by simp))
      case h_2 => cases taken

def machine (Replica Token : Type) [DecidableEq Replica]
    [DecidableEq Token] :
    Machine (State Replica Token) (Label Replica Token) where
  step := step

end WeatherNotify.Users.Telegram

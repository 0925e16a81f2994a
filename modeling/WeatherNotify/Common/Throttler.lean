import Mathlib.Data.Rat.Floor
import WeatherNotify.Common.Expiring
import WeatherNotify.Transition.Machine

/-!
# The throttler storage

`RedisThrottlerStorage.increment` with the script it runs.  A key exists
exactly at the instants before its deadline, so what a read of it answers
depends on the clock alone.  The calls for one key of one throttler arrive in
the order of their instants and Redis answers all of them.
-/

namespace WeatherNotify.Common.Throttler

open WeatherNotify.Transition

/-! ## The script -/

abbrev Store := Expiring String Nat

/-- `PTTL`, which answers -2 for a key that does not exist. -/
def pttl (store : Store) (now : Int) (key : String) : Int :=
  match store key with
  | some entry => if now < entry.deadline then entry.deadline - now else -2
  | none => -2

/-- `INCR`, followed by `PEXPIRE` when the counter is at one. -/
def countHit (entry : Option (Entry Nat)) (now : Int) (ttl : Nat) :
    Entry Nat :=
  match entry with
  | some entry =>
      if now < entry.deadline then
        if entry.value + 1 = 1 then ⟨entry.value + 1, now + ttl⟩
        else ⟨entry.value + 1, entry.deadline⟩
      else ⟨1, now + ttl⟩
  | none => ⟨1, now + ttl⟩

/-- What the script returns: hits, rest of the window and rest of the block. -/
structure Reply where
  hits : Nat
  windowTtl : Int
  blockTtl : Int
  deriving DecidableEq, Repr

/-- `INCREMENT`; `none` is the error of a `SET` whose expiry is not positive. -/
def incrementScript (store : Store) (now : Int) (hitKey blockKey : String)
    (ttl limit block : Nat) : Option Reply × Store :=
  let window := countHit (store hitKey) now ttl
  let counted := store.put hitKey window
  let blockTtl := pttl counted now blockKey
  if 0 < blockTtl then
    (some ⟨window.value, pttl counted now hitKey, blockTtl⟩, counted)
  else if limit < window.value then
    if block = 0 then (none, counted)
    else
      let blocked := counted.put blockKey ⟨1, now + block⟩
      (some ⟨window.value, pttl blocked now hitKey, block⟩, blocked)
  else (some ⟨window.value, pttl counted now hitKey, 0⟩, counted)

/-! ## The storage -/

structure ThrottlerStorageRecord where
  totalHits : Nat
  timeToExpire : Int
  isBlocked : Bool
  timeToBlockExpire : Int
  deriving DecidableEq, Repr

/-- `ms > 0 ? Math.ceil(ms / 1000) : 0`. -/
def toSeconds (ms : Int) : Int :=
  if 0 < ms then ⌈(ms : Rat) / 1000⌉ else 0

/-- The record of a request that is let through without Redis. -/
def unavailable (ttl : Nat) : ThrottlerStorageRecord where
  totalHits := 0
  timeToExpire := toSeconds ttl
  isBlocked := false
  timeToBlockExpire := 0

def recordOf (ttl : Nat) : Option Reply → ThrottlerStorageRecord
  | some reply => {
      totalHits := reply.hits
      timeToExpire := toSeconds reply.windowTtl
      isBlocked := decide (0 < reply.blockTtl)
      timeToBlockExpire := toSeconds reply.blockTtl }
  | none => unavailable ttl

/-- The arguments all calls for one key share; durations in milliseconds. -/
structure Throttle where
  key : String
  ttl : Nat
  limit : Nat
  blockDuration : Nat
  throttlerName : String
  deriving DecidableEq, Repr

namespace Throttle

variable (throttle : Throttle)

def hitKey : String :=
  "throttle:" ++ throttle.throttlerName ++ ":" ++ throttle.key

def blockKey : String :=
  throttle.hitKey ++ ":blocked"

/-- `blockDuration || ttl`. -/
def block : Nat :=
  if throttle.blockDuration = 0 then throttle.ttl else throttle.blockDuration

def increment (store : Store) (now : Int) :
    ThrottlerStorageRecord × Store :=
  let result := incrementScript store now throttle.hitKey throttle.blockKey
    throttle.ttl throttle.limit throttle.block
  (recordOf throttle.ttl result.1, result.2)

end Throttle

/-! ## Calls for one key -/

/-- A call that was served; `window` is a ghost, the instant its window began. -/
structure Call where
  instant : Int
  window : Int
  record : ThrottlerStorageRecord
  deriving DecidableEq, Repr

structure State where
  store : Store
  calls : List Call

/-- Redis has neither key. -/
def State.empty : State where
  store := Expiring.empty
  calls := []

def step (throttle : Throttle) (state : State) (now : Int) : Option State :=
  if ∀ call ∈ state.calls, call.instant ≤ now then
    let (record, store) := throttle.increment state.store now
    let window := countHit (state.store throttle.hitKey) now throttle.ttl
    some {
      store := store
      calls := state.calls ++
        [{ instant := now
           window := window.deadline - throttle.ttl
           record := record }] }
  else none

/-- A run is a non-decreasing sequence of instants. -/
def machine (throttle : Throttle) : Machine State Int where
  step := step throttle

/-! ## What one call does -/

theorem le_toSeconds (ms : Int) : ms ≤ 1000 * toSeconds ms := by
  unfold toSeconds
  split
  case isTrue =>
    have above : (ms : Rat) / 1000 ≤ ⌈(ms : Rat) / 1000⌉ := Int.le_ceil _
    have scaled : (ms : Rat) ≤ 1000 * ⌈(ms : Rat) / 1000⌉ := by
      linarith
    exact_mod_cast scaled
  case isFalse => omega

theorem hitKey_ne_blockKey (throttle : Throttle) :
    throttle.hitKey ≠ throttle.blockKey := by
  intro equal
  have lengths := congrArg String.length equal
  rw [Throttle.blockKey, String.length_append] at lengths
  exact absurd lengths (by simp)

/-- How a call ends, by the block it finds and the hits it counts. -/
inductive Outcome (throttle : Throttle) (found : Option (Entry Nat))
    (now : Int) (hits : Nat) :
    ThrottlerStorageRecord → Option (Entry Nat) → Prop where
  | barred {deadline : Int} {value : Nat} {timeToExpire : Int}
      (stored : found = some ⟨value, deadline⟩) (live : now < deadline) :
      Outcome throttle found now hits
        ⟨hits, timeToExpire, true, toSeconds (deadline - now)⟩ found
  | blocks {timeToExpire : Int}
      (lapsed : ∀ entry, found = some entry → entry.deadline ≤ now)
      (exceeded : throttle.limit < hits) :
      Outcome throttle found now hits
        ⟨hits, timeToExpire, true, toSeconds throttle.block⟩
        (some ⟨1, now + throttle.block⟩)
  | allowed {timeToExpire : Int}
      (lapsed : ∀ entry, found = some entry → entry.deadline ≤ now)
      (within : hits ≤ throttle.limit) :
      Outcome throttle found now hits ⟨hits, timeToExpire, false, 0⟩ found

theorem block_pos {throttle : Throttle} (positive : 0 < throttle.ttl) :
    0 < throttle.block := by
  unfold Throttle.block
  split
  · exact positive
  · omega

/-- What is left of a key that is not live. -/
theorem pttl_of_over {store : Store} {now : Int} {key : String}
    (lapsed : ∀ entry, store key = some entry → entry.deadline ≤ now) :
    pttl store now key = -2 := by
  unfold pttl
  cases found : store key with
  | none => rfl
  | some entry =>
      exact if_neg (Int.not_lt.mpr (lapsed entry found))

theorem pttl_of_live {store : Store} {now : Int} {key : String}
    {entry : Entry Nat} (found : store key = some entry)
    (live : now < entry.deadline) :
    pttl store now key = entry.deadline - now := by
  unfold pttl
  rw [found]
  exact if_pos live

/-- A key is live or over. -/
theorem live_or_over (found : Option (Entry Nat)) (now : Int) :
    (∃ entry, found = some entry ∧ now < entry.deadline) ∨
      ∀ entry, found = some entry → entry.deadline ≤ now := by
  cases found with
  | none =>
      right
      intro entry absent
      cases absent
  | some entry =>
      rcases lt_or_ge now entry.deadline with live | lapsed
      · exact Or.inl ⟨entry, rfl, live⟩
      · right
        rintro other ⟨⟩
        exact lapsed

/-- A call counts its hit, and its outcome is one of the three. -/
theorem increment_spec {throttle : Throttle} (positive : 0 < throttle.ttl)
    (store : Store) (now : Int) :
    (throttle.increment store now).2 throttle.hitKey =
        some (countHit (store throttle.hitKey) now throttle.ttl) ∧
      Outcome throttle (store throttle.blockKey) now
        (countHit (store throttle.hitKey) now throttle.ttl).value
        (throttle.increment store now).1
        ((throttle.increment store now).2 throttle.blockKey) := by
  have different := hitKey_ne_blockKey throttle
  have block := block_pos positive
  generalize window : countHit (store throttle.hitKey) now throttle.ttl = hit
  have counted : (store.put throttle.hitKey hit) throttle.blockKey =
      store throttle.blockKey :=
    store.put_of_ne (Ne.symm different) hit
  rcases live_or_over (store throttle.blockKey) now with
    ⟨entry, found, live⟩ | lapsed
  · have left := pttl_of_live (counted.trans found) live
    have positiveLeft : 0 < entry.deadline - now := by omega
    have result : throttle.increment store now =
        (⟨hit.value, toSeconds (pttl (store.put throttle.hitKey hit) now
            throttle.hitKey), true, toSeconds (entry.deadline - now)⟩,
          store.put throttle.hitKey hit) := by
      simp only [Throttle.increment, incrementScript, window, left,
        if_pos positiveLeft, recordOf, decide_eq_true positiveLeft]
    rw [result]
    constructor
    · exact Expiring.put_self _ _ _
    · show Outcome throttle _ now hit.value _
        ((store.put throttle.hitKey hit) throttle.blockKey)
      rw [counted]
      exact .barred found live
  · have left : pttl (store.put throttle.hitKey hit) now throttle.blockKey =
        -2 :=
      pttl_of_over (counted.symm ▸ lapsed)
    rcases Nat.lt_or_ge throttle.limit hit.value with exceeded | within
    · have positiveBlock : (0 : Int) < throttle.block :=
        Int.natCast_pos.mpr block
      have result : throttle.increment store now =
          (⟨hit.value, toSeconds (pttl ((store.put throttle.hitKey hit).put
              throttle.blockKey ⟨1, now + throttle.block⟩) now
              throttle.hitKey), true, toSeconds throttle.block⟩,
            (store.put throttle.hitKey hit).put throttle.blockKey
              ⟨1, now + throttle.block⟩) := by
        simp only [Throttle.increment, incrementScript, window, left,
          if_neg (show ¬ (0 : Int) < -2 by decide), if_pos exceeded,
          if_neg (Nat.ne_of_gt block), recordOf,
          decide_eq_true positiveBlock]
      rw [result]
      constructor
      · show ((store.put throttle.hitKey hit).put throttle.blockKey _)
          throttle.hitKey = some hit
        rw [Expiring.put_of_ne _ different, Expiring.put_self]
      · show Outcome throttle _ now hit.value _
          (((store.put throttle.hitKey hit).put throttle.blockKey _)
            throttle.blockKey)
        rw [Expiring.put_self]
        exact .blocks lapsed exceeded
    · have result : throttle.increment store now =
          (⟨hit.value, toSeconds (pttl (store.put throttle.hitKey hit) now
              throttle.hitKey), false, 0⟩,
            store.put throttle.hitKey hit) := by
        simp only [Throttle.increment, incrementScript, window, left,
          if_neg (show ¬ (0 : Int) < -2 by decide),
          if_neg (Nat.not_lt.mpr within), recordOf, lt_irrefl,
          decide_false, toSeconds, if_false]
      rw [result]
      constructor
      · exact Expiring.put_self _ _ _
      · show Outcome throttle _ now hit.value _
          ((store.put throttle.hitKey hit) throttle.blockKey)
        rw [counted]
        exact .allowed lapsed within

/-- The hit goes to the window that is open, or opens one. -/
theorem countHit_cases (found : Option (Entry Nat)) (now : Int) (ttl : Nat) :
    (∃ entry, found = some entry ∧ now < entry.deadline ∧
        (0 < entry.value →
          countHit found now ttl = ⟨entry.value + 1, entry.deadline⟩)) ∨
      (∀ entry, found = some entry → entry.deadline ≤ now) ∧
        countHit found now ttl = ⟨1, now + ttl⟩ := by
  rcases live_or_over found now with ⟨entry, rfl, live⟩ | lapsed
  · left
    refine ⟨entry, rfl, live, ?_⟩
    intro counted
    have notFirst : ¬ entry.value + 1 = 1 := by omega
    simp only [countHit, if_pos live, if_neg notFirst]
  · right
    refine ⟨lapsed, ?_⟩
    cases found with
    | none => rfl
    | some entry =>
        simp only [countHit, if_neg (Int.not_lt.mpr (lapsed entry rfl))]

end WeatherNotify.Common.Throttler

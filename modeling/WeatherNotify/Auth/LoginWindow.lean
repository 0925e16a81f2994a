import Mathlib.Data.Fintype.Basic
import WeatherNotify.Auth.LoginBudget
import WeatherNotify.Transition.Tally

/-!
# One counter and the logins around it

All that the counter of one key depends on fits in a small record: the entry
in Redis, the logins of the key that are past their check, and those whose
failure is not on record yet.  Every step of the machine is one move of that
record, and what the budget bounds is shown of the moves.
-/

namespace WeatherNotify.LoginBudget

open WeatherNotify.Common WeatherNotify.Transition

/-- The counter of one key with the logins that may still change it. -/
@[ext]
structure Window where
  clock : Int
  entry : Option (Entry Nat)
  /-- Logins past their check whose comparison is not made yet. -/
  pending : Nat
  /-- Logins whose comparison failed and is not on record yet. -/
  unrecorded : Nat
  /-- Comparisons that failed since the counter was created. -/
  failed : Nat
  deriving DecidableEq, Repr

namespace Window

/-- What the counter holds, if it has not expired. -/
def held (window : Window) : Option Nat :=
  Entry.read window.entry window.clock

def count (window : Window) : Nat :=
  window.held.getD 0

def elapse (window : Window) (elapsed : Nat) : Window :=
  { window with clock := window.clock + elapsed }

def enter (window : Window) : Window :=
  { window with pending := window.pending + 1 }

def accept (window : Window) : Window :=
  { window with pending := window.pending - 1 }

def fail (window : Window) : Window :=
  { window with
    pending := window.pending - 1
    unrecorded := window.unrecorded + 1
    failed := window.failed + 1 }

/-- The first failure on record creates the counter. -/
def create (window : Window) : Window :=
  { window with
    entry := some ⟨1, window.clock + loginLockoutSec * 1000⟩
    unrecorded := window.unrecorded - 1
    failed := 0 }

def record (window : Window) : Window :=
  match window.entry with
  | some entry =>
      if window.clock < entry.deadline then
        { window with
          entry := some ⟨entry.value + 1, entry.deadline⟩
          unrecorded := window.unrecorded - 1 }
      else window.create
  | none => window.create

def clear (window : Window) : Window :=
  { window with entry := none }

variable {window : Window}

theorem held_eq_some_iff {value : Nat} :
    window.held = some value ↔
      ∃ deadline, window.entry = some ⟨value, deadline⟩ ∧
        window.clock < deadline :=
  Entry.read_eq_some_iff

/-- A live counter goes up by one; otherwise the window starts over. -/
theorem record_cases (window : Window) :
    (∃ value deadline, window.entry = some ⟨value, deadline⟩ ∧
      window.clock < deadline ∧
      window.record = { window with
        entry := some ⟨value + 1, deadline⟩
        unrecorded := window.unrecorded - 1 }) ∨
    (window.held = none ∧ window.record = window.create) := by
  unfold record held Entry.read
  cases window.entry with
  | none => exact Or.inr ⟨rfl, rfl⟩
  | some entry =>
      by_cases live : window.clock < entry.deadline
      · refine Or.inl ⟨entry.value, entry.deadline, rfl, live, ?_⟩
        simp only [live, if_true]
      · refine Or.inr ⟨?_, ?_⟩
        · simp only [live, if_false]
        · simp only [live, if_false]

theorem held_elapse {elapsed value : Nat}
    (held : (window.elapse elapsed).held = some value) :
    window.held = some value := by
  rcases held_eq_some_iff.mp held with ⟨deadline, stored, live⟩
  refine held_eq_some_iff.mpr ⟨deadline, stored, ?_⟩
  change window.clock + elapsed < deadline at live
  omega

theorem held_create (window : Window) : window.create.held = some 1 := by
  refine held_eq_some_iff.mpr ⟨_, rfl, ?_⟩
  change window.clock < window.clock + loginLockoutSec * 1000
  unfold loginLockoutSec
  omega

theorem count_of_held {value : Nat} (held : window.held = some value) :
    window.count = value := by
  rw [count, held, Option.getD_some]

theorem count_elapse_le (window : Window) (elapsed : Nat) :
    (window.elapse elapsed).count ≤ window.count := by
  cases held : (window.elapse elapsed).held with
  | none =>
      rw [count, held]
      exact Nat.zero_le _
  | some value =>
      rw [count_of_held held, count_of_held (held_elapse held)]

/-- A record puts the counter one above what it was. -/
theorem count_record (window : Window) :
    window.record.count = window.count + 1 := by
  rcases record_cases window with
    ⟨value, deadline, stored, live, after⟩ | ⟨gone, after⟩
  · have before : window.held = some value :=
      held_eq_some_iff.mpr ⟨deadline, stored, live⟩
    rw [count_of_held before, after]
    exact count_of_held (held_eq_some_iff.mpr ⟨deadline, rfl, live⟩)
  · rw [after, count_of_held (held_create window), count, gone]
    rfl

theorem clock_record (window : Window) :
    window.record.clock = window.clock := by
  rcases record_cases window with ⟨_, _, _, _, after⟩ | ⟨_, after⟩
  · rw [after]
  · rw [after]
    rfl

theorem pending_record (window : Window) :
    window.record.pending = window.pending := by
  rcases record_cases window with ⟨_, _, _, _, after⟩ | ⟨_, after⟩
  · rw [after]
  · rw [after]
    rfl

theorem unrecorded_record (window : Window) :
    window.record.unrecorded = window.unrecorded - 1 := by
  rcases record_cases window with ⟨_, _, _, _, after⟩ | ⟨_, after⟩
  · rw [after]
  · rw [after]
    rfl

/-! ## What the budget bounds -/

/-- The counter with the failures it may still be given. -/
def Room (limit : Nat) (window : Window) : Prop :=
  window.count + window.pending + window.unrecorded ≤ limit

/-- The counter's failures are on it or about to be, the first one too. -/
def Accounted (window : Window) : Prop :=
  ∀ value, window.held = some value →
    window.failed + 1 ≤ value + window.unrecorded

variable {limit : Nat}

theorem Room.elapse (room : Room limit window) (elapsed : Nat) :
    Room limit (window.elapse elapsed) := by
  have fewer := count_elapse_le window elapsed
  change (window.elapse elapsed).count + window.pending +
    window.unrecorded ≤ limit
  unfold Room at room
  omega

/-- A login that passes its check takes one of the places left. -/
theorem room_enter (left : window.count + window.pending +
    window.unrecorded < limit) : Room limit window.enter := by
  change window.count + (window.pending + 1) + window.unrecorded ≤ limit
  omega

theorem Room.accept (room : Room limit window) :
    Room limit window.accept := by
  change window.count + (window.pending - 1) + window.unrecorded ≤ limit
  unfold Room at room
  omega

theorem Room.fail (room : Room limit window)
    (pending : 0 < window.pending) : Room limit window.fail := by
  change window.count + (window.pending - 1) + (window.unrecorded + 1) ≤
    limit
  unfold Room at room
  omega

theorem Room.record (room : Room limit window)
    (unrecorded : 0 < window.unrecorded) : Room limit window.record := by
  unfold Room at room ⊢
  rw [count_record, pending_record, unrecorded_record]
  omega

theorem Room.clear (room : Room limit window) :
    Room limit window.clear := by
  change 0 + window.pending + window.unrecorded ≤ limit
  unfold Room at room
  omega

theorem Accounted.elapse (accounted : Accounted window) (elapsed : Nat) :
    Accounted (window.elapse elapsed) :=
  fun value held => accounted value (held_elapse held)

theorem Accounted.fail (accounted : Accounted window) :
    Accounted window.fail := by
  intro value held
  have before := accounted value held
  change window.failed + 1 + 1 ≤ value + (window.unrecorded + 1)
  omega

theorem Accounted.record (accounted : Accounted window)
    (unrecorded : 0 < window.unrecorded) : Accounted window.record := by
  intro value held
  rcases record_cases window with
    ⟨before, deadline, stored, live, after⟩ | ⟨_, after⟩
  · have kept := accounted before
      (held_eq_some_iff.mpr ⟨deadline, stored, live⟩)
    have counted := count_of_held held
    rw [count_record, count_of_held
      (held_eq_some_iff.mpr ⟨deadline, stored, live⟩)] at counted
    rw [after]
    change window.failed + 1 ≤ value + (window.unrecorded - 1)
    omega
  · rw [after] at held ⊢
    rw [held_create, Option.some.injEq] at held
    change 0 + 1 ≤ value + (window.unrecorded - 1)
    omega

theorem accounted_clear (window : Window) : Accounted window.clear := by
  intro value held
  cases held

/-- What room there is bounds the failures of the counter. -/
theorem Accounted.failed_le (accounted : Accounted window)
    (room : Room (limit + 1) window) {value : Nat}
    (held : window.held = some value) : window.failed ≤ limit := by
  have counted := accounted value held
  unfold Room at room
  rw [count_of_held held] at room
  omega

end Window

/-! ## The window of a key -/

/-- The login is past its check, and its comparison is not made yet. -/
def Phase.pending : Phase → Nat
  | .finding | .comparing _ => 1
  | _ => 0

/-- Its comparison has failed and is not on record yet. -/
def Phase.unrecorded : Phase → Nat
  | .recording => 1
  | _ => 0

variable {n : Nat}

section Window

variable (services : Services) (logins : Fin n → Login)

/-- A weight that counts only the logins of one key. -/
def ofKey (key : String) (weight : Phase → Nat) (login : Fin n)
    (phase : Phase) : Nat :=
  if keyOf services logins login = key then weight phase else 0

def State.window (state : State n) (key : String) : Window where
  clock := state.clock
  entry := state.counters key
  pending := tally (ofKey services logins key Phase.pending) state.phase
  unrecorded :=
    tally (ofKey services logins key Phase.unrecorded) state.phase
  failed := state.failed key

variable {services logins} {state : State n} {login : Fin n}
  {phase after : Phase} {key : String}

/-- What moving a login of the key does to a tally of the key. -/
theorem tally_moveTo_of_eq (weight : Phase → Nat)
    (mine : keyOf services logins login = key)
    (found : state.phase login = phase) (after : Phase) :
    tally (ofKey services logins key weight)
        (state.moveTo login after).phase + weight phase =
      tally (ofKey services logins key weight) state.phase +
        weight after := by
  have moved := tally_update (ofKey services logins key weight)
    state.phase login after
  simp only [ofKey, mine, if_true, found] at moved
  exact moved

theorem tally_moveTo_of_ne (weight : Phase → Nat)
    (other : keyOf services logins login ≠ key) (after : Phase) :
    tally (ofKey services logins key weight)
        (state.moveTo login after).phase =
      tally (ofKey services logins key weight) state.phase := by
  have moved := tally_update (ofKey services logins key weight)
    state.phase login after
  simp only [ofKey, other, if_false, Nat.add_zero] at moved
  exact moved

/-- A login of another key moves without the logins of the key. -/
theorem window_of_ne (state next : State n) (after : Phase)
    (phases : next.phase = (state.moveTo login after).phase)
    (other : keyOf services logins login ≠ key) :
    next.window services logins key =
      ⟨next.clock, next.counters key,
        (state.window services logins key).pending,
        (state.window services logins key).unrecorded,
        next.failed key⟩ := by
  refine Window.ext rfl rfl ?_ ?_ rfl
  · rw [State.window, phases]
    exact tally_moveTo_of_ne _ other after
  · rw [State.window, phases]
    exact tally_moveTo_of_ne _ other after

theorem window_of_eq (next : State n) (after : Phase)
    (phases : next.phase = (state.moveTo login after).phase)
    (mine : keyOf services logins login = key)
    (found : state.phase login = phase) :
    next.window services logins key =
      ⟨next.clock, next.counters key,
        (state.window services logins key).pending + after.pending -
          phase.pending,
        (state.window services logins key).unrecorded + after.unrecorded -
          phase.unrecorded,
        next.failed key⟩ := by
  refine Window.ext rfl rfl ?_ ?_ rfl
  · rw [State.window, phases]
    exact Nat.eq_sub_of_add_eq (tally_moveTo_of_eq _ mine found after)
  · rw [State.window, phases]
    exact Nat.eq_sub_of_add_eq (tally_moveTo_of_eq _ mine found after)

theorem tally_ofKey_eq_zero (key : String) {weight : Phase → Nat}
    (zero : ∀ login, weight (state.phase login) = 0) :
    tally (ofKey services logins key weight) state.phase = 0 := by
  refine tally_eq_zero fun login => ?_
  rw [ofKey, zero login, ite_self]

theorem pending_pos (mine : keyOf services logins login = key)
    (found : state.phase login = phase) (counted : phase.pending = 1) :
    0 < (state.window services logins key).pending := by
  have moved := tally_moveTo_of_eq Phase.pending mine found .waiting
  rw [counted] at moved
  exact Nat.lt_of_lt_of_eq (Nat.succ_pos _) moved

theorem unrecorded_pos (mine : keyOf services logins login = key)
    (found : state.phase login = .recording) :
    0 < (state.window services logins key).unrecorded :=
  Nat.lt_of_lt_of_eq (Nat.succ_pos _)
    (tally_moveTo_of_eq Phase.unrecorded mine found .waiting)

end Window

/-! ## What one step does to one key -/

/--
A step as one key sees it: the move of its window, and the comparison or the
sign-in that goes on the record.
-/
inductive Effect (services : Services) (logins : Fin n → Login)
    (key : String) (state next : State n) : Label n → Prop where
  | unmoved {label : Label n}
      (window : next.window services logins key =
        state.window services logins key)
      (logged : next.comparisons = state.comparisons ∨
        ∃ login account accepted,
          state.phase login = .comparing account ∧
          keyOf services logins login ≠ key ∧
          next.comparisons = state.comparisons ++
            [⟨state.clock, account, accepted⟩]) :
      Effect services logins key state next label
  | elapsed {elapsed : Nat}
      (window : next.window services logins key =
        (state.window services logins key).elapse elapsed)
      (logged : next.comparisons = state.comparisons) :
      Effect services logins key state next (.tick elapsed)
  | admitted {login : Fin n} (mine : keyOf services logins login = key)
      (within : (state.window services logins key).count <
        loginMaxFailures)
      (window : next.window services logins key =
        (state.window services logins key).enter)
      (logged : next.comparisons = state.comparisons) :
      Effect services logins key state next (.failureCount login)
  | accepted {login : Fin n} {account : Option Account}
      (window : next.window services logins key =
        (state.window services logins key).accept)
      (logged : next.comparisons = state.comparisons ++
        [⟨state.clock, account, true⟩]) :
      Effect services logins key state next (.compare login)
  | failed {login : Fin n} {account : Option Account} {accepted : Bool}
      (pending : 0 < (state.window services logins key).pending)
      (window : next.window services logins key =
        (state.window services logins key).fail)
      (logged : next.comparisons = state.comparisons ++
        [⟨state.clock, account, accepted⟩]) :
      Effect services logins key state next (.compare login)
  | recorded {login : Fin n}
      (unrecorded : 0 < (state.window services logins key).unrecorded)
      (window : next.window services logins key =
        (state.window services logins key).record)
      (logged : next.comparisons = state.comparisons) :
      Effect services logins key state next (.recordFailure login)
  | cleared {login : Fin n} {account : Account}
      (mine : keyOf services logins login = key)
      (found : state.phase login = .clearing account)
      (window : next.window services logins key =
        (state.window services logins key).clear)
      (logged : next.comparisons = state.comparisons)
      (succeeded : next.successes =
        state.successes ++ [(account, state.clock)]) :
      Effect services logins key state next (.clearFailures login)

section Step

variable {services : Services} {accounts : List Account}
  {logins : Fin n → Login} {state next : State n} {label : Label n}

/-- The counter that a login's check reads. -/
theorem failureCount_fst (state : State n) (key : String) :
    (failureCount state.counters state.clock key).1 =
      (state.window services logins key).count := by
  unfold failureCount Window.count Window.held Entry.read State.window
  cases state.counters key with
  | none => rfl
  | some entry =>
      simp only
      split <;> rfl

/-- What is recorded under another key leaves the counter alone. -/
theorem recordFailure_of_ne (counters : Counters) (now : Int)
    {key other : String} (different : other ≠ key) (windowSec : Int) :
    recordFailure counters now key windowSec other = counters other := by
  unfold recordFailure
  cases counters key with
  | none => exact Expiring.put_of_ne _ different _
  | some entry =>
      simp only
      split <;> exact Expiring.put_of_ne _ different _

/-- Recording a failure of the key is the window's own record. -/
theorem window_record (state : State n) (key : String) :
    ⟨state.clock,
      recordFailure state.counters state.clock key loginLockoutSec key,
      (state.window services logins key).pending,
      (state.window services logins key).unrecorded - 1,
      (if (state.counters.get state.clock key).isNone then
        Function.update state.failed key 0 else state.failed) key⟩ =
      (state.window services logins key).record := by
  unfold Window.record recordFailure Expiring.get Entry.read
  simp only [State.window]
  cases stored : state.counters key with
  | none =>
      simp [Window.create]
  | some entry =>
      by_cases live : state.clock < entry.deadline
      · simp [live]
      · simp [live, Window.create]

theorem Acted.effect
    (acted : Acted services accounts logins state label next)
    (key : String) : Effect services logins key state next label := by
  cases acted with
  | tick elapsed => exact .elapsed rfl rfl
  | @locked login retryAfterSec found =>
      by_cases mine : keyOf services logins login = key
      · exact .unmoved (window_of_eq _ _ rfl mine found) (Or.inl rfl)
      · exact .unmoved (window_of_ne state _ _ rfl mine) (Or.inl rfl)
  | @passed login found within =>
      by_cases mine : keyOf services logins login = key
      · rw [mine, failureCount_fst] at within
        exact .admitted mine within (window_of_eq _ _ rfl mine found) rfl
      · exact .unmoved (window_of_ne state _ _ rfl mine) (Or.inl rfl)
  | @looked login found =>
      by_cases mine : keyOf services logins login = key
      · exact .unmoved (window_of_eq _ _ rfl mine found) (Or.inl rfl)
      · exact .unmoved (window_of_ne state _ _ rfl mine) (Or.inl rfl)
  | @matched login account found =>
      by_cases mine : keyOf services logins login = key
      · refine .accepted
          ((window_of_eq _ (.clearing account) ?_ mine found).trans ?_) rfl
        · rfl
        · rfl
      · exact .unmoved (window_of_ne state _ _ rfl mine)
          (Or.inr ⟨login, _, _, found, mine, rfl⟩)
  | @failed login account accepted found =>
      by_cases mine : keyOf services logins login = key
      · refine .failed (pending_pos mine found rfl)
          ((window_of_eq _ .recording ?_ mine found).trans ?_) rfl
        · rfl
        · refine Window.ext rfl rfl rfl rfl ?_
          simp only [State.window, Window.fail, mine, Function.update_self]
      · refine .unmoved ((window_of_ne state _ .recording ?_ mine).trans ?_)
          (Or.inr ⟨login, _, _, found, mine, rfl⟩)
        · rfl
        · exact Window.ext rfl rfl rfl rfl
            (Function.update_of_ne (Ne.symm mine) _ _)
  | @recorded login found =>
      by_cases mine : keyOf services logins login = key
      · refine .recorded (unrecorded_pos mine found)
          ((window_of_eq _ .rejected ?_ mine found).trans ?_) rfl
        · rfl
        · rw [mine]
          exact window_record state key
      · refine .unmoved ((window_of_ne state _ .rejected ?_ mine).trans ?_)
          (Or.inl rfl)
        · rfl
        · refine Window.ext rfl
            (recordFailure_of_ne _ _ (Ne.symm mine) _) rfl rfl ?_
          simp only [State.window]
          split
          · exact Function.update_of_ne (Ne.symm mine) _ _
          · rfl
  | @cleared login account found =>
      by_cases mine : keyOf services logins login = key
      · refine .cleared mine found
          ((window_of_eq _ .accepted ?_ mine found).trans ?_) rfl rfl
        · rfl
        · refine Window.ext rfl ?_ rfl rfl rfl
          simp only [Window.clear, clearFailures, mine,
            Expiring.delete_self]
      · refine .unmoved ((window_of_ne state _ .accepted ?_ mine).trans ?_)
          (Or.inl rfl)
        · rfl
        · exact Window.ext rfl (Expiring.delete_of_ne _ (Ne.symm mine)) rfl
            rfl rfl

end Step

/-! ## The budget under concurrency -/

section Budget

variable {services : Services} {accounts : List Account}
  {logins : Fin n → Login}

/--
A login that passes its check leaves room for the failures that the logins of
the same key under way may still record.
-/
def WithinBudget (services : Services) (logins : Fin n → Login)
    (taken : Taken (State n) (Label n)) : Prop :=
  ∀ login, taken.label = .failureCount login →
    let window := taken.source.window services logins
      (keyOf services logins login)
    window.count < loginMaxFailures →
      window.count + window.pending + window.unrecorded ≤ loginMaxFailures

theorem Initial.window {state : State n} (initial : Initial state)
    (key : String) :
    state.window services logins key =
      ⟨state.clock, none, 0, 0, state.failed key⟩ :=
  Window.ext rfl (initial.uncounted key)
    (tally_ofKey_eq_zero key fun login => by rw [initial.waiting]; rfl)
    (tally_ofKey_eq_zero key fun login => by rw [initial.waiting]; rfl) rfl

variable {state next : State n} {label : Label n} {key : String}

/-- A step leaves room, if a login that passes its check finds some. -/
theorem Effect.room {limit : Nat}
    (effect : Effect services logins key state next label)
    (admits : ∀ login, label = .failureCount login →
      keyOf services logins login = key →
      (state.window services logins key).count < loginMaxFailures →
        (state.window services logins key).count +
          (state.window services logins key).pending +
          (state.window services logins key).unrecorded < limit)
    (room : Window.Room limit (state.window services logins key)) :
    Window.Room limit (next.window services logins key) := by
  cases effect with
  | unmoved window => rwa [window]
  | elapsed window =>
      rw [window]
      exact room.elapse _
  | admitted mine within window =>
      rw [window]
      exact Window.room_enter (admits _ rfl mine within)
  | accepted window =>
      rw [window]
      exact room.accept
  | failed pending window =>
      rw [window]
      exact room.fail pending
  | recorded unrecorded window =>
      rw [window]
      exact room.record unrecorded
  | cleared mine found window =>
      rw [window]
      exact room.clear

theorem Effect.accounted
    (effect : Effect services logins key state next label)
    (accounted : (state.window services logins key).Accounted) :
    (next.window services logins key).Accounted := by
  cases effect with
  | unmoved window => rwa [window]
  | elapsed window =>
      rw [window]
      exact accounted.elapse _
  | admitted mine within window =>
      rw [window]
      exact accounted
  | accepted window =>
      rw [window]
      exact accounted
  | failed pending window =>
      rw [window]
      exact accounted.fail
  | recorded unrecorded window =>
      rw [window]
      exact accounted.record unrecorded
  | cleared mine found window =>
      rw [window]
      exact Window.accounted_clear _

/-- What the guard keeps of the window of a key. -/
structure Bounded (services : Services) (logins : Fin n → Login)
    (key : String) (state : State n) : Prop where
  room : Window.Room (loginMaxFailures + 1)
    (state.window services logins key)
  accounted : (state.window services logins key).Accounted

theorem bounded_step {taken : Taken (State n) (Label n)}
    (stepped : step services accounts logins taken.source taken.label =
      some taken.target)
    (within : WithinBudget services logins taken)
    (bounded : Bounded services logins key taken.source) :
    Bounded services logins key taken.target := by
  have effect := (acted_of_step stepped).effect key
  refine ⟨effect.room (fun login asked mine few => ?_) bounded.room,
    effect.accounted bounded.accounted⟩
  have left := within login asked
  rw [mine] at left
  exact Nat.lt_succ_of_le (left few)

/--
While the counter of an address lives, no more comparisons have failed since
its creation than the budget allows, in a run where each login that passes its
check leaves room for those under way.
-/
theorem failures_within_budget {final : State n} {labels : List (Label n)}
    (initial : Initial state)
    (reached : (machine services accounts logins).run state labels =
      some final)
    (guarded : ∀ taken ∈
      (machine services accounts logins).transitions state labels,
        WithinBudget services logins taken)
    {value : Nat}
    (alive : final.counters.get final.clock key = some value) :
    final.failed key ≤ loginMaxFailures := by
  have started : Bounded services logins key state := by
    refine ⟨?_, fun value held => ?_⟩
    · rw [initial.window]
      exact Nat.zero_le _
    · rw [initial.window] at held
      cases held
  have bounded : Bounded services logins key final :=
    Machine.run_invariant (fun _ => bounded_step) started guarded reached
  exact bounded.accounted.failed_le bounded.room alive

end Budget

/-! ## Overlapping guesses -/

/-- Passwords are stored as they are, and nothing is hashed. -/
def plainServices : Services where
  toLowerCase := fun address =>
    String.ofList (address.toList.map Char.toLower)
  sha256 := id
  comparePassword := fun password hash => password == hash
  absentUserHash := "$2b$12$absent"

def mailbox : Account :=
  ⟨"user@x.io", "correct horse"⟩

/-- Everyone guesses at the one mailbox. -/
def guess (_ : Fin n) : Login :=
  ⟨"user@x.io", "wrong"⟩

def untouched : State n where
  clock := 0
  counters := Expiring.empty
  phase := fun _ => .waiting
  failed := fun _ => 0
  comparisons := []
  successes := []

theorem initial_untouched : Initial (untouched : State n) :=
  ⟨fun _ => rfl, fun _ => rfl, rfl⟩

instance (services : Services) (logins : Fin n → Login)
    (taken : Taken (State n) (Label n)) :
    Decidable (WithinBudget services logins taken) :=
  inferInstanceAs (Decidable (∀ _, _ → _ → _))

/-- Two logins pass their checks before either compares. -/
theorem two_guesses_within_budget :
    ∃ final : State 2,
      (machine plainServices [mailbox] guess).run untouched
          [.failureCount 0, .failureCount 1, .findByEmail 0, .findByEmail 1,
            .compare 0, .recordFailure 0, .compare 1] = some final ∧
        final.counters.get final.clock
          (loginFailureKey plainServices mailbox.email) = some 1 ∧
        final.failed (loginFailureKey plainServices mailbox.email) ≤
          loginMaxFailures := by
  have evaluated :
      ((machine plainServices [mailbox] guess).run untouched
          [.failureCount 0, .failureCount 1, .findByEmail 0, .findByEmail 1,
            .compare 0, .recordFailure 0, .compare 1]).map
        (fun final : State 2 => final.counters.get final.clock
          (loginFailureKey plainServices mailbox.email)) =
        some (some 1) := by
    decide +kernel
  rcases Option.map_eq_some_iff.mp evaluated with ⟨final, reached, alive⟩
  exact ⟨final, reached, alive, failures_within_budget initial_untouched
    reached (by decide +kernel) alive⟩

/--
Twelve logins pass their checks before any of them compares.  The first
failure creates the counter, and eleven more comparisons fail while it lives.
-/
theorem eleven_failures_in_one_window :
    ∃ (labels : List (Label 12)) (final : State 12),
      (machine plainServices [mailbox] guess).run untouched labels =
          some final ∧
        final.counters.get final.clock
          (loginFailureKey plainServices mailbox.email) = some 1 ∧
        loginMaxFailures <
          final.failed (loginFailureKey plainServices mailbox.email) := by
  have evaluated :
      ((machine plainServices [mailbox] guess).run untouched
          ((List.finRange 12).map .failureCount ++
            (List.finRange 12).map .findByEmail ++
            [.compare 0, .recordFailure 0] ++
            (List.finRange 12).tail.map .compare)).map
        (fun final : State 12 =>
          (final.counters.get final.clock
              (loginFailureKey plainServices mailbox.email),
            final.failed (loginFailureKey plainServices mailbox.email))) =
        some (some 1, 11) := by
    decide +kernel
  rcases Option.map_eq_some_iff.mp evaluated with ⟨final, reached, facts⟩
  rcases Prod.mk.inj facts with ⟨alive, failed⟩
  refine ⟨_, final, reached, alive, ?_⟩
  rw [failed]
  decide

end WeatherNotify.LoginBudget

import WeatherNotify.Auth.LoginWindow

/-!
# The lockout of an account

Accounts are found by the exact address, while the counter's key folds case
and trims.  Taken one by one, logins to the addresses of one key share a
counter, and a successful one clears it.  As long as only the account itself
does so, an interval of the lockout's length meets at most two counters: the
one alive when it begins or created at once, and one created later, which
outlives the interval.
-/

namespace WeatherNotify.LoginBudget

open WeatherNotify.Common WeatherNotify.Transition

def lockoutMs : Int := loginLockoutSec * 1000

namespace Window

variable {window : Window} {start : Int} {guesses : Nat}

/-- The guesses of the interval are on its first counter, or that is gone. -/
structure First (start : Int) (guesses : Nat) (window : Window) : Prop where
  alive : ∀ value, window.held = some value →
    guesses ≤ value + window.unrecorded
  gone : window.held = none → guesses ≤ loginMaxFailures + window.unrecorded
  fresh : window.held = none → window.clock = start →
    guesses ≤ window.unrecorded

/-- The second counter outlives the interval. -/
def Second (start : Int) (guesses : Nat) (window : Window) : Prop :=
  ∃ value deadline, window.entry = some ⟨value, deadline⟩ ∧
    start + lockoutMs < deadline ∧
    guesses ≤ loginMaxFailures + value + window.unrecorded

def Spent (start : Int) (guesses : Nat) (window : Window) : Prop :=
  First start guesses window ∨ Second start guesses window

theorem first_of_none (start : Int) (window : Window) :
    First start 0 window :=
  ⟨fun _ _ => Nat.zero_le _, fun _ => Nat.zero_le _,
    fun _ _ => Nat.zero_le _⟩

theorem first_of_held {value : Nat} (held : window.held = some value)
    (few : guesses ≤ value + window.unrecorded) :
    First start guesses window := by
  refine ⟨fun other same => ?_, fun gone => ?_, fun gone => ?_⟩
  · rw [held, Option.some.injEq] at same
    rwa [← same]
  · rw [held] at gone
    cases gone
  · rw [held] at gone
    cases gone

theorem held_of_late {value : Nat} {deadline : Int}
    (stored : window.entry = some ⟨value, deadline⟩)
    (late : start + lockoutMs < deadline)
    (inside : window.clock ≤ start + lockoutMs) :
    window.held = some value :=
  held_eq_some_iff.mpr ⟨deadline, stored, Int.lt_of_le_of_lt inside late⟩

/-- Of two counters, each holds as many failures as there is room for. -/
theorem Spent.guesses_lt (spent : Spent start guesses window)
    (inside : window.clock ≤ start + lockoutMs)
    (room : Room loginMaxFailures window) (pending : 0 < window.pending) :
    guesses < 2 * loginMaxFailures := by
  unfold Room count at room
  rcases spent with first | ⟨value, deadline, stored, late, few⟩
  · cases held : window.held with
    | none =>
        have few := first.gone held
        omega
    | some value =>
        have few := first.alive value held
        rw [held, Option.getD_some] at room
        omega
  · rw [held_of_late stored late inside, Option.getD_some] at room
    omega

theorem Spent.mono {more : Nat} (spent : Spent start more window)
    (le : guesses ≤ more) : Spent start guesses window := by
  rcases spent with first | ⟨value, deadline, stored, late, few⟩
  · exact Or.inl ⟨fun value held => le.trans (first.alive value held),
      fun gone => le.trans (first.gone gone),
      fun gone fresh => le.trans (first.fresh gone fresh)⟩
  · exact Or.inr ⟨value, deadline, stored, late, le.trans few⟩

/-- Logins that have nothing to record do not matter. -/
theorem Spent.of_pending (spent : Spent start guesses window)
    (pending : Nat) :
    Spent start guesses { window with pending := pending } := by
  rcases spent with first | second
  · exact Or.inl ⟨first.alive, first.gone, first.fresh⟩
  · exact Or.inr second

theorem Spent.fail (spent : Spent start guesses window) :
    Spent start (guesses + 1) window.fail := by
  rcases spent with first | ⟨value, deadline, stored, late, few⟩
  · refine Or.inl ⟨fun value held => ?_, fun gone => ?_,
      fun gone fresh => ?_⟩
    · have few := first.alive value held
      change guesses + 1 ≤ value + (window.unrecorded + 1)
      omega
    · have few := first.gone gone
      change guesses + 1 ≤ loginMaxFailures + (window.unrecorded + 1)
      omega
    · have few := first.fresh gone fresh
      change guesses + 1 ≤ window.unrecorded + 1
      omega
  · refine Or.inr ⟨value, deadline, stored, late, ?_⟩
    change guesses + 1 ≤
      loginMaxFailures + value + (window.unrecorded + 1)
    omega

theorem First.elapse (first : First start guesses window)
    (begun : start ≤ window.clock) (room : Room loginMaxFailures window)
    (elapsed : Nat) : First start guesses (window.elapse elapsed) := by
  have few : guesses ≤ loginMaxFailures + window.unrecorded := by
    cases held : window.held with
    | none => exact first.gone held
    | some value =>
        have few := first.alive value held
        unfold Room at room
        rw [count_of_held held] at room
        omega
  refine ⟨fun value held => first.alive value (held_elapse held),
    fun _ => few, fun gone fresh => ?_⟩
  change window.clock + elapsed = start at fresh
  -- the clock has not moved
  have still : elapsed = 0 := by omega
  have same : window.elapse elapsed = window := by
    rw [Window.elapse, still, Nat.cast_zero, Int.add_zero]
  rw [same] at gone ⊢
  exact first.fresh gone (by omega)

theorem Spent.elapse (spent : Spent start guesses window)
    (begun : start ≤ window.clock) (room : Room loginMaxFailures window)
    (elapsed : Nat) : Spent start guesses (window.elapse elapsed) := by
  rcases spent with first | second
  · exact Or.inl (first.elapse begun room elapsed)
  · exact Or.inr second

/-- A counter created after the interval began is its last one. -/
theorem First.create (first : First start guesses window)
    (gone : window.held = none) (begun : start ≤ window.clock)
    (unrecorded : 0 < window.unrecorded) :
    Spent start guesses window.create := by
  rcases Int.le_iff_eq_or_lt.mp begun with fresh | later
  · have few := first.fresh gone fresh.symm
    refine Or.inl (first_of_held (held_create window) ?_)
    change guesses ≤ 1 + (window.unrecorded - 1)
    omega
  · have few := first.gone gone
    refine Or.inr ⟨1, _, rfl, ?_, ?_⟩
    · change start + lockoutMs < window.clock + lockoutMs
      omega
    · change guesses ≤ loginMaxFailures + 1 + (window.unrecorded - 1)
      omega

theorem Spent.record (spent : Spent start guesses window)
    (begun : start ≤ window.clock)
    (inside : window.clock ≤ start + lockoutMs)
    (unrecorded : 0 < window.unrecorded) :
    Spent start guesses window.record := by
  rcases record_cases window with
    ⟨value, deadline, stored, live, after⟩ | ⟨gone, after⟩
  · have held : window.held = some value :=
      held_eq_some_iff.mpr ⟨deadline, stored, live⟩
    have again : window.record.held = some (value + 1) := by
      rw [after]
      exact held_eq_some_iff.mpr ⟨deadline, rfl, live⟩
    rcases spent with first | ⟨_, _, same, late, few⟩
    · have few := first.alive value held
      refine Or.inl (first_of_held again ?_)
      rw [unrecorded_record]
      omega
    · rw [stored] at same
      cases same
      rw [after]
      refine Or.inr ⟨value + 1, deadline, rfl, late, ?_⟩
      change guesses ≤
        loginMaxFailures + (value + 1) + (window.unrecorded - 1)
      omega
  · rcases spent with first | ⟨value, deadline, stored, late, few⟩
    · rw [after]
      exact first.create gone begun unrecorded
    · rw [held_of_late stored late inside] at gone
      cases gone

end Window

/-! ## Logins one by one -/

variable {n : Nat}

/-- The login that takes the step. -/
def Label.login : Label n → Option (Fin n)
  | .tick _ => none
  | .failureCount login | .findByEmail login | .compare login
  | .recordFailure login | .clearFailures login => some login

/-- The login has not begun or has answered. -/
def Phase.idle : Phase → Bool
  | .waiting | .locked _ | .rejected | .accepted => true
  | _ => false

/-- While one login is under way, no other one is. -/
def Sequential (taken : Taken (State n) (Label n)) : Prop :=
  ∀ login, taken.label.login = some login →
    ∀ other, other ≠ login → (taken.source.phase other).idle = true

/-- A failed comparison against the account's hash in the interval. -/
def Guess (account : Account) (start : Int) (comparison : Comparison) :
    Prop :=
  comparison.account = some account ∧ comparison.matched = false ∧
    start ≤ comparison.instant ∧ comparison.instant ≤ start + lockoutMs

instance (account : Account) (start : Int) (comparison : Comparison) :
    Decidable (Guess account start comparison) :=
  inferInstanceAs (Decidable (_ ∧ _ ∧ _ ∧ _))

def guesses (account : Account) (start : Int) (state : State n) : Nat :=
  state.comparisons.countP (Guess account start)

/-- The account was signed in to within the interval. -/
def SignedIn (account : Account) (start : Int) (state : State n) : Prop :=
  ∃ instant, (account, instant) ∈ state.successes ∧ start ≤ instant ∧
    instant ≤ start + lockoutMs

section Step

variable {services : Services} {accounts : List Account}
  {logins : Fin n → Login} {state next : State n} {label : Label n}

theorem Phase.weights_of_idle {phase : Phase}
    (idle : phase.idle = true) :
    phase.pending = 0 ∧ phase.unrecorded = 0 := by
  cases phase with
  | waiting | locked | rejected | accepted => exact ⟨rfl, rfl⟩
  | finding | comparing | recording | clearing => cases idle

theorem Acted.waiting {login : Fin n}
    (acted : Acted services accounts logins state (.failureCount login)
      next) : state.phase login = .waiting := by
  cases acted with
  | locked found => exact found
  | passed found => exact found

/-- A login that begins is the only one. -/
theorem Sequential.alone (services : Services) (logins : Fin n → Login)
    {taken : Taken (State n) (Label n)} {login : Fin n}
    (sequential : Sequential taken)
    (asked : taken.label = .failureCount login)
    (waiting : taken.source.phase login = .waiting) (key : String) :
    (taken.source.window services logins key).pending = 0 ∧
      (taken.source.window services logins key).unrecorded = 0 := by
  have idle : ∀ other, (taken.source.phase other).idle = true := by
    intro other
    by_cases same : other = login
    · rw [same, waiting]
      rfl
    · exact sequential login (by rw [asked]; rfl) other same
  exact ⟨tally_ofKey_eq_zero key fun other =>
      (Phase.weights_of_idle (idle other)).1,
    tally_ofKey_eq_zero key fun other =>
      (Phase.weights_of_idle (idle other)).2⟩

theorem Acted.success_stays
    (acted : Acted services accounts logins state label next)
    {account : Account} {start : Int}
    (signedIn : SignedIn account start state) :
    SignedIn account start next := by
  rcases signedIn with ⟨instant, member, inside⟩
  refine ⟨instant, ?_, inside⟩
  cases acted with
  | cleared => exact List.mem_append_left _ member
  | tick | locked | passed | looked | matched | failed | recorded =>
      exact member

/-- Comparisons are on the record under the instant they were made at. -/
theorem Acted.past
    (acted : Acted services accounts logins state label next)
    (past : ∀ comparison ∈ state.comparisons,
      comparison.instant ≤ state.clock) :
    ∀ comparison ∈ next.comparisons,
      comparison.instant ≤ next.clock := by
  intro comparison member
  cases acted with
  | tick elapsed =>
      have before := past comparison member
      change comparison.instant ≤ state.clock + elapsed
      omega
  | matched | failed =>
      rcases List.mem_append.mp member with old | new
      · exact past comparison old
      · rw [List.mem_singleton.mp new]
        exact Int.le_refl _
  | locked | passed | looked | recorded | cleared =>
      exact past comparison member

/-- The account that a login goes on with is the one of its address. -/
def Found (accounts : List Account) (logins : Fin n → Login)
    (state : State n) : Prop :=
  ∀ login account,
    state.phase login = .comparing (some account) ∨
      state.phase login = .clearing account →
    account ∈ accounts ∧ account.email = (logins login).email

theorem found_moveTo (found : Found accounts logins state) {mover : Fin n}
    {after : Phase} (phases : next.phase =
      Function.update state.phase mover after)
    (fine : ∀ account,
      after = .comparing (some account) ∨ after = .clearing account →
        account ∈ accounts ∧ account.email = (logins mover).email) :
    Found accounts logins next := by
  unfold Found
  rw [phases]
  exact (Function.forall_update_iff state.phase fun login phase =>
    ∀ account, phase = .comparing (some account) ∨ phase = .clearing account →
      account ∈ accounts ∧ account.email = (logins login).email).mpr
    ⟨fine, fun login _ => found login⟩

theorem Acted.found
    (acted : Acted services accounts logins state label next)
    (found : Found accounts logins state) : Found accounts logins next := by
  cases acted with
  | tick => exact found
  | looked =>
      refine found_moveTo found rfl fun account phase => ?_
      rcases phase with same | same
      · have stored := (Phase.comparing.inj same)
        exact ⟨List.mem_of_find?_eq_some stored,
          by simpa using List.find?_some stored⟩
      · cases same
  | matched phase =>
      refine found_moveTo found rfl fun account same => ?_
      rcases same with same | same
      · cases same
      · cases same
        exact found _ _ (Or.inl phase)
  | locked | passed | failed | recorded | cleared =>
      refine found_moveTo found rfl fun account same => ?_
      rcases same with same | same <;> cases same

/-! ## Guesses at one account -/

section Guesses

variable {account : Account} {start : Int}

theorem guesses_of_same (same : next.comparisons = state.comparisons) :
    guesses account start next = guesses account start state := by
  rw [guesses, same, guesses]

/-- A comparison that goes on the record counts if it is a guess. -/
theorem guesses_append {comparison : Comparison}
    (logged : next.comparisons = state.comparisons ++ [comparison]) :
    guesses account start next = guesses account start state +
      if Guess account start comparison then 1 else 0 := by
  rw [guesses, logged, List.countP_append, List.countP_singleton, guesses]
  by_cases guess : Guess account start comparison
  · rw [if_pos guess, if_pos (decide_eq_true guess)]
  · rw [if_neg guess, if_neg (by simpa using guess)]

theorem guesses_of_not_guess {comparison : Comparison}
    (logged : next.comparisons = state.comparisons ++ [comparison])
    (other : ¬ Guess account start comparison) :
    guesses account start next = guesses account start state := by
  rw [guesses_append logged, if_neg other, Nat.add_zero]

theorem not_guess_of_matched (instant : Int) (compared : Option Account) :
    ¬ Guess account start ⟨instant, compared, true⟩ := by
  rintro ⟨_, mismatch, _⟩
  cases mismatch

theorem guesses_of_early
    (past : ∀ comparison ∈ state.comparisons,
      comparison.instant ≤ state.clock)
    (early : state.clock < start) : guesses account start state = 0 := by
  refine List.countP_eq_zero.mpr fun comparison member guess => ?_
  have guess : Guess account start comparison := of_decide_eq_true guess
  have before := past comparison member
  have after := guess.2.2.1
  omega

end Guesses

/-- What a sequence of logins keeps about one account and one interval. -/
structure Tracked (services : Services) (accounts : List Account)
    (logins : Fin n → Login) (account : Account) (start : Int)
    (state : State n) : Prop where
  room : Window.Room loginMaxFailures (state.window services logins
    (loginFailureKey services account.email))
  found : Found accounts logins state
  past : ∀ comparison ∈ state.comparisons,
    comparison.instant ≤ state.clock
  bounded : ¬ SignedIn account start state →
    guesses account start state ≤ 2 * loginMaxFailures
  spent : ¬ SignedIn account start state → start ≤ state.clock →
    state.clock ≤ start + lockoutMs →
      Window.Spent start (guesses account start state)
        (state.window services logins
          (loginFailureKey services account.email))

section Tracked

variable {account : Account} {start : Int}

/-- A login of another key compares against another account. -/
theorem Tracked.not_guess
    (tracked : Tracked services accounts logins account start state)
    {login : Fin n} {compared : Option Account}
    (phase : state.phase login = .comparing compared)
    (other : keyOf services logins login ≠
      loginFailureKey services account.email) (instant : Int)
    (accepted : Bool) :
    ¬ Guess account start ⟨instant, compared, accepted⟩ := by
  intro guess
  have same : compared = some account := guess.1
  rw [same] at phase
  refine other ?_
  rw [keyOf, ← (tracked.found login account (Or.inl phase)).2]

theorem Tracked.bounded_step
    (tracked : Tracked services accounts logins account start state)
    (effect : Effect services logins
      (loginFailureKey services account.email) state next label)
    (unsigned : ¬ SignedIn account start state) :
    guesses account start next ≤ 2 * loginMaxFailures := by
  have before := tracked.bounded unsigned
  cases effect with
  | unmoved window logged =>
      rcases logged with same | ⟨login, compared, accepted, phase, other,
        logged⟩
      · rwa [guesses_of_same same]
      · rwa [guesses_of_not_guess logged
          (tracked.not_guess phase other _ _)]
  | elapsed window logged | admitted mine within window logged
  | recorded unrecorded window logged
  | cleared mine found window logged =>
      rwa [guesses_of_same logged]
  | accepted window logged =>
      rwa [guesses_of_not_guess logged (not_guess_of_matched _ _)]
  | @failed login compared accepted pending window logged =>
      rw [guesses_append logged]
      split
      next guess =>
        have begun : start ≤ state.clock := guess.2.2.1
        have inside : state.clock ≤ start + lockoutMs := guess.2.2.2
        exact (tracked.spent unsigned begun inside).guesses_lt inside
          tracked.room pending
      next => exact before

/-- As time goes by, the interval begins or its counters age. -/
theorem Tracked.spent_elapse
    (tracked : Tracked services accounts logins account start state)
    (unsigned : ¬ SignedIn account start state) {elapsed : Nat}
    (inside : ((state.window services logins
      (loginFailureKey services account.email)).elapse elapsed).clock ≤
        start + lockoutMs) :
    Window.Spent start (guesses account start state)
      ((state.window services logins
        (loginFailureKey services account.email)).elapse elapsed) := by
  change state.clock + elapsed ≤ start + lockoutMs at inside
  by_cases early : state.clock < start
  · rw [guesses_of_early tracked.past early]
    exact Or.inl (Window.first_of_none _ _)
  · have running : start ≤ state.clock := Int.not_lt.mp early
    exact (tracked.spent unsigned running (by omega)).elapse running
      tracked.room elapsed

theorem Tracked.spent_step
    (tracked : Tracked services accounts logins account start state)
    (own : ∀ other ∈ accounts, loginFailureKey services other.email =
      loginFailureKey services account.email → other = account)
    (effect : Effect services logins
      (loginFailureKey services account.email) state next label)
    (before : ¬ SignedIn account start state)
    (unsigned : ¬ SignedIn account start next)
    (begun : start ≤ next.clock)
    (inside : next.clock ≤ start + lockoutMs) :
    Window.Spent start (guesses account start next)
      (next.window services logins
        (loginFailureKey services account.email)) := by
  -- the instant is the window's own, and most moves leave it alone
  change start ≤ (next.window services logins
    (loginFailureKey services account.email)).clock at begun
  change (next.window services logins
    (loginFailureKey services account.email)).clock ≤ _ at inside
  cases effect with
  | unmoved window logged =>
      rw [window] at begun inside ⊢
      have spent := tracked.spent before begun inside
      rcases logged with same | ⟨login, compared, accepted, phase, other,
        logged⟩
      · rwa [guesses_of_same same]
      · rwa [guesses_of_not_guess logged
          (tracked.not_guess phase other _ _)]
  | elapsed window logged =>
      rw [window] at inside ⊢
      rw [guesses_of_same logged]
      exact tracked.spent_elapse before inside
  | admitted mine within window logged =>
      rw [window] at begun inside ⊢
      rw [guesses_of_same logged]
      exact (tracked.spent before begun inside).of_pending _
  | accepted window logged =>
      rw [window] at begun inside ⊢
      rw [guesses_of_not_guess logged (not_guess_of_matched _ _)]
      exact (tracked.spent before begun inside).of_pending _
  | failed pending window logged =>
      rw [window] at begun inside ⊢
      refine (tracked.spent before begun inside).fail.mono ?_
      rw [guesses_append logged]
      split <;> omega
  | recorded unrecorded window logged =>
      rw [window, Window.clock_record] at begun inside
      rw [window, guesses_of_same logged]
      exact (tracked.spent before begun inside).record begun inside
        unrecorded
  | @cleared login other mine phase window logged succeeded =>
      rw [window] at begun inside
      rcases tracked.found login other (Or.inr phase) with ⟨member, address⟩
      -- only the account itself clears its counter
      have same : other = account := by
        apply own other member
        rw [address]
        exact mine
      rw [same] at succeeded
      refine absurd ⟨state.clock, ?_, begun, inside⟩ unsigned
      rw [succeeded]
      exact List.mem_append_right _ (List.mem_singleton.mpr rfl)

end Tracked

theorem tracked_step {account : Account} {start : Int}
    (own : ∀ other ∈ accounts, loginFailureKey services other.email =
      loginFailureKey services account.email → other = account)
    {taken : Taken (State n) (Label n)}
    (stepped : step services accounts logins taken.source taken.label =
      some taken.target)
    (sequential : Sequential taken)
    (tracked : Tracked services accounts logins account start
      taken.source) :
    Tracked services accounts logins account start taken.target := by
  have acted := acted_of_step stepped
  have effect := acted.effect (loginFailureKey services account.email)
  refine ⟨?_, acted.found tracked.found, acted.past tracked.past,
    fun unsigned => ?_, fun unsigned => ?_⟩
  · refine effect.room (fun login asked mine few => ?_) tracked.room
    rw [asked] at acted
    obtain ⟨none, neither⟩ := sequential.alone services logins asked
      acted.waiting (loginFailureKey services account.email)
    rw [none, neither]
    exact few
  · exact tracked.bounded_step effect fun before =>
      unsigned (acted.success_stays before)
  · exact tracked.spent_step own effect
      (fun before => unsigned (acted.success_stays before)) unsigned

end Step

end WeatherNotify.LoginBudget

import WeatherNotify.Auth.LoginLockout

/-!
# Accounts that share a failure key

Two stored addresses that differ in case or in blanks around them have one
counter between them.  Whoever can sign in to the one clears the failures of
the other, nine at a time: the lockout is the account's own exactly when no
other stored address has its key.
-/

namespace WeatherNotify.LoginBudget

open WeatherNotify.Common WeatherNotify.Transition

variable {n : Nat}

/-! ## One login from its check to its answer -/

def failing (login : Fin n) : List (Label n) :=
  [.failureCount login, .findByEmail login, .compare login,
    .recordFailure login]

def succeeding (login : Fin n) : List (Label n) :=
  [.failureCount login, .findByEmail login, .compare login,
    .clearFailures login]

theorem login_of_failing {login : Fin n} :
    ∀ label ∈ failing login, label.login = some login := by
  simp [failing, Label.login]

theorem login_of_succeeding {login : Fin n} :
    ∀ label ∈ succeeding login, label.login = some login := by
  simp [succeeding, Label.login]

/-- The labels lead from one state to the other, one login at a time. -/
structure Follows (services : Services) (accounts : List Account)
    (logins : Fin n → Login) (state : State n) (labels : List (Label n))
    (final : State n) : Prop where
  reached : (machine services accounts logins).run state labels = some final
  sequential : ∀ taken ∈
    (machine services accounts logins).transitions state labels,
      Sequential taken

section Calls

variable {services : Services} {accounts : List Account}
  {logins : Fin n → Login} {state middle final : State n}

theorem Follows.append {first second : List (Label n)}
    (before : Follows services accounts logins state first middle)
    (after : Follows services accounts logins middle second final) :
    Follows services accounts logins state (first ++ second) final := by
  constructor
  · rw [Machine.run_append, before.reached, Option.bind_some,
      after.reached]
  · exact (Machine.forall_transitions_append _ before.reached _).mpr
      ⟨before.sequential, after.sequential⟩

theorem Acted.phase_of_ne {next : State n} {label : Label n}
    (acted : Acted services accounts logins state label next)
    {other : Fin n} (different : label.login ≠ some other) :
    next.phase other = state.phase other := by
  cases acted with
  | tick => rfl
  | locked | passed | looked | matched | failed | recorded | cleared =>
      exact Function.update_of_ne
        (fun same => different (congrArg some same.symm)) _ _

theorem Acted.counters_of_clear {next : State n} {login : Fin n}
    (acted : Acted services accounts logins state (.clearFailures login)
      next) :
    next.counters = clearFailures state.counters
      (keyOf services logins login) := by
  cases acted with
  | cleared => rfl

/-- A login among idle ones is taken alone. -/
theorem sequential_of_idle {login : Fin n} {labels : List (Label n)}
    (single : ∀ label ∈ labels, label.login = some login)
    (idle : ∀ other, other ≠ login → (state.phase other).idle = true) :
    ∀ taken ∈ (machine services accounts logins).transitions state labels,
      Sequential taken := by
  induction labels generalizing state with
  | nil =>
      intro taken member
      cases member
  | cons label rest induction =>
      intro taken member
      have mover := single label List.mem_cons_self
      cases stepped : step services accounts logins state label with
      | none =>
          simp [Machine.transitions, machine, stepped] at member
      | some next =>
          rw [Machine.transitions_cons_of_step
            (machine services accounts logins) stepped] at member
          rcases List.mem_cons.mp member with rfl | later
          · intro mine same other different
            rw [mover, Option.some.injEq] at same
            exact idle other (same ▸ different)
          · refine induction
              (fun label member => single label
                (List.mem_cons_of_mem _ member))
              (fun other different => ?_) taken later
            rw [(acted_of_step stepped).phase_of_ne]
            · exact idle other different
            · rw [mover]
              exact fun same => different (Option.some.inj same).symm

section Reached

variable {login : Fin n} {account : Account}

/-- A login with a wrong password, from its check to its answer. -/
theorem failing_reached (waiting : state.phase login = .waiting)
    (few : (failureCount state.counters state.clock
      (keyOf services logins login)).1 < loginMaxFailures)
    (stored : accounts.find? (fun account =>
      account.email == (logins login).email) = some account)
    (wrong : services.comparePassword (logins login).password
      account.passwordHash = false) :
    ∃ final : State n,
      (machine services accounts logins).run state (failing login) =
        some final ∧
      final.clock = state.clock ∧
      final.phase = Function.update state.phase login .rejected ∧
      final.counters = recordFailure state.counters state.clock
        (keyOf services logins login) loginLockoutSec ∧
      final.comparisons = state.comparisons ++
        [⟨state.clock, some account, false⟩] ∧
      final.successes = state.successes := by
  simp only [failing, Machine.run_cons, Machine.run_nil, machine, step,
    State.moveTo, waiting, Nat.not_le.mpr few, if_false, Option.bind_some,
    Function.update_self, Function.update_idem, stored, Option.map_some,
    Option.getD_some, wrong]
  exact ⟨_, rfl, rfl, rfl, rfl, rfl, rfl⟩

theorem succeeding_reached (waiting : state.phase login = .waiting)
    (few : (failureCount state.counters state.clock
      (keyOf services logins login)).1 < loginMaxFailures)
    (stored : accounts.find? (fun account =>
      account.email == (logins login).email) = some account)
    (right : services.comparePassword (logins login).password
      account.passwordHash = true) :
    ∃ final : State n,
      (machine services accounts logins).run state (succeeding login) =
        some final ∧
      final.clock = state.clock ∧
      final.phase = Function.update state.phase login .accepted ∧
      final.counters = clearFailures state.counters
        (keyOf services logins login) ∧
      final.comparisons = state.comparisons ++
        [⟨state.clock, some account, true⟩] ∧
      final.successes = state.successes ++ [(account, state.clock)] := by
  simp only [succeeding, Machine.run_cons, Machine.run_nil, machine, step,
    State.moveTo, waiting, Nat.not_le.mpr few, if_false, Option.bind_some,
    Function.update_self, Function.update_idem, stored, Option.map_some,
    Option.getD_some, right]
  exact ⟨_, rfl, rfl, rfl, rfl, rfl, rfl⟩

end Reached

/-- A record puts the counter that the next check reads one up. -/
theorem failureCount_recordFailure (counters : Counters) (now : Int)
    (key : String) :
    (failureCount (recordFailure counters now key loginLockoutSec) now
      key).1 = (failureCount counters now key).1 + 1 := by
  have positive : now < now + loginLockoutSec * 1000 := by
    unfold loginLockoutSec
    omega
  unfold recordFailure
  cases stored : counters key with
  | none =>
      simp only [failureCount, Expiring.put_self, positive, if_true, stored]
  | some entry =>
      by_cases live : now < entry.deadline
      · simp only [failureCount, live, if_true, Expiring.put_self, stored]
      · simp only [failureCount, live, if_false, Expiring.put_self,
          positive, if_true, stored]

end Calls

/-! ## Nine guesses and a sign-in -/

/-- Two accounts of one key, a password for the one and none for the other. -/
structure Shared (services : Services) (accounts : List Account)
    (account other : Account) (wrong right : String) : Prop where
  stored : accounts.find? (fun stored =>
    stored.email == account.email) = some account
  otherStored : accounts.find? (fun stored =>
    stored.email == other.email) = some other
  different : other ≠ account
  key : loginFailureKey services other.email =
    loginFailureKey services account.email
  rejects : services.comparePassword wrong account.passwordHash = false
  accepts : services.comparePassword right other.passwordHash = true

/-- The calls are still to come, and this much was counted and guessed. -/
structure Ready (services : Services) (account : Account)
    (calls : List (Fin n)) (counted guessed : Nat) (state : State n) :
    Prop where
  clock : state.clock = 0
  idle : ∀ login, (state.phase login).idle = true
  waiting : ∀ login ∈ calls, state.phase login = .waiting
  counted : (failureCount state.counters state.clock
    (loginFailureKey services account.email)).1 = counted
  guessed : guesses account 0 state = guessed
  unsigned : ∀ success ∈ state.successes, success.1 ≠ account

section Round

variable {services : Services} {accounts : List Account}
  {account other : Account} {wrong right : String} {logins : Fin n → Login}
  {state : State n} {calls : List (Fin n)} {counted guessed : Nat}
  {login : Fin n}

/-- A login that answers leaves the ones to come as they are. -/
theorem Ready.answered
    (ready : Ready services account (login :: calls) counted guessed state)
    (fresh : login ∉ calls) {final : State n} {phase : Phase}
    (answered : phase.idle = true) (clock : final.clock = state.clock)
    (phases : final.phase = Function.update state.phase login phase)
    {counts tries : Nat}
    (countedNext : (failureCount final.counters final.clock
      (loginFailureKey services account.email)).1 = counts)
    (guessedNext : guesses account 0 final = tries)
    (unsigned : ∀ success ∈ final.successes, success.1 ≠ account) :
    Ready services account calls counts tries final := by
  refine ⟨clock.trans ready.clock, fun caller => ?_,
    fun caller member => ?_, countedNext, guessedNext, unsigned⟩
  · by_cases same : caller = login
    · rw [phases, same, Function.update_self]
      exact answered
    · rw [phases, Function.update_of_ne same]
      exact ready.idle caller
  · have different : caller ≠ login := fun same => fresh (same ▸ member)
    rw [phases, Function.update_of_ne different]
    exact ready.waiting caller (List.mem_cons_of_mem _ member)

theorem Ready.follows
    (ready : Ready services account calls counted guessed state)
    {final : State n} {labels : List (Label n)}
    (reached : (machine services accounts logins).run state labels =
      some final)
    (single : ∀ label ∈ labels, label.login = some login) :
    Follows services accounts logins state labels final :=
  ⟨reached, sequential_of_idle single fun caller _ => ready.idle caller⟩

/-- A login of the key passes its check while the counter is low. -/
theorem Ready.passes
    (ready : Ready services account calls counted guessed state)
    (mine : keyOf services logins login =
      loginFailureKey services account.email)
    (few : counted < loginMaxFailures) :
    (failureCount state.counters state.clock
      (keyOf services logins login)).1 < loginMaxFailures := by
  rw [mine, ready.counted]
  exact few

theorem fails_once
    (shared : Shared services accounts account other wrong right)
    (ready : Ready services account (login :: calls) counted guessed state)
    (fresh : login ∉ calls) (asked : logins login = ⟨account.email, wrong⟩)
    (few : counted < loginMaxFailures) :
    ∃ final, Follows services accounts logins state (failing login) final ∧
      Ready services account calls (counted + 1) (guessed + 1) final := by
  have mine : keyOf services logins login =
      loginFailureKey services account.email := by
    rw [keyOf, asked]
  have stored : accounts.find? (fun stored =>
      stored.email == (logins login).email) = some account := by
    rw [asked]
    exact shared.stored
  obtain ⟨final, reached, clock, phases, counters, comparisons,
      successes⟩ :=
    failing_reached (ready.waiting login List.mem_cons_self)
      (ready.passes mine few) stored
      (by rw [asked]; exact shared.rejects)
  refine ⟨final, ready.follows reached login_of_failing,
    ready.answered fresh rfl clock phases ?_ ?_ ?_⟩
  · rw [counters, clock, mine, failureCount_recordFailure, ready.counted]
  · rw [guesses_append comparisons, ready.guessed, if_pos]
    refine ⟨rfl, rfl, Int.le_of_eq ready.clock.symm, ?_⟩
    change state.clock ≤ 0 + lockoutMs
    rw [ready.clock]
    decide
  · rw [successes]
    exact ready.unsigned

theorem succeeds_once
    (shared : Shared services accounts account other wrong right)
    (ready : Ready services account (login :: calls) counted guessed state)
    (fresh : login ∉ calls) (asked : logins login = ⟨other.email, right⟩)
    (few : counted < loginMaxFailures) :
    ∃ final,
      Follows services accounts logins state (succeeding login) final ∧
      Ready services account calls 0 guessed final := by
  have mine : keyOf services logins login =
      loginFailureKey services account.email := by
    rw [keyOf, asked]
    exact shared.key
  have stored : accounts.find? (fun stored =>
      stored.email == (logins login).email) = some other := by
    rw [asked]
    exact shared.otherStored
  obtain ⟨final, reached, clock, phases, counters, comparisons,
      successes⟩ :=
    succeeding_reached (ready.waiting login List.mem_cons_self)
      (ready.passes mine few) stored
      (by rw [asked]; exact shared.accepts)
  refine ⟨final, ready.follows reached login_of_succeeding,
    ready.answered fresh rfl clock phases ?_ ?_ ?_⟩
  · rw [counters, mine, failureCount, clearFailures, Expiring.delete_self]
  · rw [guesses_of_not_guess comparisons (not_guess_of_matched _ _)]
    exact ready.guessed
  · intro success member
    rw [successes] at member
    rcases List.mem_append.mp member with old | new
    · exact ready.unsigned success old
    · rw [List.mem_singleton.mp new]
      exact shared.different

/-- As many failures in a row as the counter has room for. -/
theorem fails_in_a_row
    (shared : Shared services accounts account other wrong right)
    {callers : List (Fin n)}
    (ready : Ready services account (callers ++ calls) counted guessed
      state)
    (fresh : (callers ++ calls).Nodup)
    (asked : ∀ login ∈ callers, logins login = ⟨account.email, wrong⟩)
    (few : counted + callers.length ≤ loginMaxFailures) :
    ∃ final,
      Follows services accounts logins state (callers.flatMap failing)
        final ∧
      Ready services account calls (counted + callers.length)
        (guessed + callers.length) final := by
  induction callers generalizing state counted guessed with
  | nil =>
      refine ⟨state, ⟨rfl, fun taken member => ?_⟩, ready⟩
      cases member
  | cons login callers induction =>
      rw [List.cons_append, List.nodup_cons] at fresh
      rw [List.length_cons] at few ⊢
      obtain ⟨middle, first, readyNext⟩ := fails_once shared ready fresh.1
        (asked login List.mem_cons_self) (by omega)
      obtain ⟨final, later, readyFinal⟩ := induction readyNext fresh.2
        (fun login member => asked login (List.mem_cons_of_mem _ member))
        (by omega)
      refine ⟨final, ?_, ?_⟩
      · rw [List.flatMap_cons]
        exact first.append later
      · rw [Nat.add_right_comm, Nat.add_assoc, Nat.add_right_comm guessed,
          Nat.add_assoc guessed] at readyFinal
        exact readyFinal

/-- The calls of a round: some guesses, and a sign-in to the other account. -/
def roundLabels (round : List (Fin n) × Fin n) : List (Label n) :=
  round.1.flatMap failing ++ succeeding round.2

def roundCalls (round : List (Fin n) × Fin n) : List (Fin n) :=
  round.1 ++ [round.2]

/-- Each round adds its guesses and leaves no counter behind. -/
theorem rounds_follow
    (shared : Shared services accounts account other wrong right)
    {size : Nat} (few : size < loginMaxFailures)
    {rounds : List (List (Fin n) × Fin n)}
    (ready : Ready services account (rounds.flatMap roundCalls) 0 guessed
      state)
    (fresh : (rounds.flatMap roundCalls).Nodup)
    (sized : ∀ round ∈ rounds, round.1.length = size)
    (guessing : ∀ round ∈ rounds, ∀ login ∈ round.1,
      logins login = ⟨account.email, wrong⟩)
    (signing : ∀ round ∈ rounds,
      logins round.2 = ⟨other.email, right⟩) :
    ∃ final,
      Follows services accounts logins state (rounds.flatMap roundLabels)
        final ∧
      Ready services account [] 0 (guessed + size * rounds.length)
        final := by
  induction rounds generalizing state guessed with
  | nil =>
      refine ⟨state, ⟨rfl, fun taken member => ?_⟩, ready⟩
      cases member
  | cons round rounds induction =>
      have size_eq := sized round List.mem_cons_self
      rw [List.flatMap_cons, roundCalls, List.append_assoc,
        List.singleton_append] at ready fresh
      obtain ⟨guessed', first, readyGuessed⟩ :=
        fails_in_a_row shared ready fresh
          (guessing round List.mem_cons_self) (by omega)
      have tail := (List.nodup_append.mp fresh).2.1
      rw [List.nodup_cons] at tail
      obtain ⟨cleared, second, readyCleared⟩ :=
        succeeds_once shared readyGuessed tail.1
          (signing round List.mem_cons_self) (by omega)
      obtain ⟨final, later, readyFinal⟩ := induction readyCleared tail.2
        (fun round member => sized round (List.mem_cons_of_mem _ member))
        (fun round member =>
          guessing round (List.mem_cons_of_mem _ member))
        (fun round member => signing round (List.mem_cons_of_mem _ member))
      refine ⟨final, ?_, ?_⟩
      · rw [List.flatMap_cons]
        exact (first.append second).append later
      · rw [size_eq, Nat.add_assoc, Nat.add_comm size] at readyFinal
        exact readyFinal

end Round

/-! ## Whose lockout it is -/

/--
Along every sequence of logins, an interval of the lockout's length without a
sign-in to the account sees at most two budgets of failed comparisons against
its hash, and a sign-in to another account leaves its counter alone.
-/
structure LockoutPerAccount (services : Services) (accounts : List Account)
    (account : Account) : Prop where
  bounded : ∀ (n : Nat) (logins : Fin n → Login) (state final : State n)
    (labels : List (Label n)) (start : Int), Initial state →
      Follows services accounts logins state labels final →
        ¬ SignedIn account start final →
          guesses account start final ≤ 2 * loginMaxFailures
  undisturbed : ∀ (n : Nat) (logins : Fin n → Login) (state final : State n)
    (labels : List (Label n)), Initial state →
      Follows services accounts logins state labels final →
        ∀ taken ∈
          (machine services accounts logins).transitions state labels,
        ∀ login other, taken.label = .clearFailures login →
          taken.source.phase login = .clearing other → other ≠ account →
            taken.target.counters
                (loginFailureKey services account.email) =
              taken.source.counters
                (loginFailureKey services account.email)

section Lockout

variable {services : Services} {accounts : List Account}
  {account : Account}

theorem Initial.tracked {logins : Fin n → Login} {state : State n}
    (initial : Initial state) (start : Int) :
    Tracked services accounts logins account start state := by
  have unlogged : guesses account start state = 0 := by
    rw [guesses, initial.unlogged]
    rfl
  refine ⟨?_, fun login other phase => ?_, ?_, fun _ => ?_,
    fun _ _ _ => ?_⟩
  · rw [initial.window]
    exact Nat.zero_le _
  · rw [initial.waiting login] at phase
    rcases phase with same | same <;> cases same
  · rw [initial.unlogged]
    intro comparison member
    cases member
  · rw [unlogged]
    exact Nat.zero_le _
  · rw [unlogged]
    exact Or.inl (Window.first_of_none _ _)

/-- An account with a key of its own has a lockout of its own. -/
theorem lockoutPerAccount_of_own
    (own : ∀ other ∈ accounts, loginFailureKey services other.email =
      loginFailureKey services account.email → other = account) :
    LockoutPerAccount services accounts account where
  bounded n logins state final labels start initial follows unsigned := by
    have tracked : Tracked services accounts logins account start final :=
      Machine.run_invariant (fun _ => tracked_step own)
        (initial.tracked start) follows.sequential follows.reached
    exact tracked.bounded unsigned
  undisturbed n logins state final labels initial follows taken member
      login other asked phase different := by
    have tracked : Tracked services accounts logins account 0
        taken.source :=
      (Machine.transitions_invariant (fun _ => tracked_step own)
        (initial.tracked 0) follows.sequential member).1
    have acted := acted_of_step (Machine.step_of_mem_transitions _ member)
    rw [asked] at acted
    rcases tracked.found login other (Or.inr phase) with ⟨stored, address⟩
    have elsewhere : keyOf services logins login ≠
        loginFailureKey services account.email := by
      intro same
      refine different (own other stored ?_)
      rw [address]
      exact same
    rw [acted.counters_of_clear]
    exact Expiring.delete_of_ne _ (Ne.symm elsewhere)

/-- Addresses are distinct, so an account is found by its own. -/
theorem find_of_distinct (distinct : (accounts.map Account.email).Nodup)
    (member : account ∈ accounts) :
    accounts.find? (fun stored => stored.email == account.email) =
      some account := by
  induction accounts with
  | nil => cases member
  | cons head rest induction =>
      rw [List.map_cons, List.nodup_cons] at distinct
      rcases List.mem_cons.mp member with rfl | later
      · exact List.find?_cons_of_pos (beq_self_eq_true _)
      · have different : head.email ≠ account.email := fun same =>
          distinct.1 (same ▸ List.mem_map_of_mem later)
        rw [List.find?_cons_of_neg (by simpa using different)]
        exact induction distinct.2 later

/-- Nine guesses, a sign-in to the other account, and again. -/
def alternating (account other : Account) (wrong right : String)
    (login : Fin 30) : Login :=
  if login.val % 10 = 9 then ⟨other.email, right⟩
  else ⟨account.email, wrong⟩

def threeRounds : List (List (Fin 30) × Fin 30) :=
  (List.finRange 3).map fun round =>
    ((List.finRange 9).map fun guess =>
        ⟨10 * round.val + guess.val, by omega⟩,
      ⟨10 * round.val + 9, by omega⟩)

/-- Three rounds of nine guesses are more than two budgets. -/
theorem guesses_of_shared {other : Account} {wrong right : String}
    (shared : Shared services accounts account other wrong right) :
    ∃ final, Follows services accounts
        (alternating account other wrong right) untouched
        (threeRounds.flatMap roundLabels) final ∧
      ¬ SignedIn account 0 final ∧ guesses account 0 final = 27 := by
  have ready : Ready services account (threeRounds.flatMap roundCalls) 0 0
      untouched := by
    refine ⟨rfl, fun _ => rfl, fun _ _ => rfl, rfl, rfl,
      fun success member => ?_⟩
    cases member
  have guessing : ∀ round ∈ threeRounds, ∀ login ∈ round.1,
      alternating account other wrong right login =
        ⟨account.email, wrong⟩ := by
    have places : ∀ round ∈ threeRounds, ∀ login ∈ round.1,
        login.val % 10 ≠ 9 := by
      decide
    intro round member login among
    exact if_neg (places round member login among)
  have signing : ∀ round ∈ threeRounds,
      alternating account other wrong right round.2 =
        ⟨other.email, right⟩ := by
    have places : ∀ round ∈ threeRounds, round.2.val % 10 = 9 := by
      decide
    intro round member
    exact if_pos (places round member)
  obtain ⟨final, follows, done⟩ := rounds_follow shared
    (by decide : 9 < loginMaxFailures) ready (by decide) (by decide)
    guessing signing
  refine ⟨final, follows, ?_, done.guessed⟩
  rintro ⟨instant, signed, _⟩
  exact done.unsigned _ signed rfl

/--
The lockout is an account's own exactly when no other stored address has its
failure key.
-/
theorem lockout_per_account_iff
    (distinct : (accounts.map Account.email).Nodup)
    (member : account ∈ accounts)
    (accepts : ∀ stored ∈ accounts, ∃ password,
      services.comparePassword password stored.passwordHash = true)
    (rejects : ∃ password,
      services.comparePassword password account.passwordHash = false) :
    LockoutPerAccount services accounts account ↔
      ∀ other ∈ accounts, loginFailureKey services other.email =
        loginFailureKey services account.email → other = account := by
  refine ⟨fun lockout other stored same => ?_, lockoutPerAccount_of_own⟩
  by_contra different
  rcases accepts other stored with ⟨right, accepted⟩
  rcases rejects with ⟨wrong, rejected⟩
  obtain ⟨final, follows, unsigned, guessed⟩ := guesses_of_shared
    ⟨find_of_distinct distinct member, find_of_distinct distinct stored,
      different, same, rejected, accepted⟩
  have few := lockout.bounded 30 _ untouched final _ 0 initial_untouched
    follows unsigned
  rw [guessed] at few
  exact absurd few (by decide)

end Lockout

/-! ## Two spellings of one address -/

def capitalised : Account :=
  ⟨"User@x.io", "battery staple"⟩

def stranger : Account :=
  ⟨"else@x.io", "battery staple"⟩

theorem mailbox_lockout_own :
    LockoutPerAccount plainServices [mailbox, stranger] mailbox := by
  refine (lockout_per_account_iff (by decide) (by decide) ?_ ?_).mpr ?_
  · intro stored _
    exact ⟨stored.passwordHash, beq_self_eq_true _⟩
  · exact ⟨"wrong", by decide⟩
  · decide +kernel

/-- Signing in to the one spelling clears the failures of the other. -/
theorem spelling_restores_budget :
    ([mailbox, capitalised].map Account.email).Nodup ∧
      ∃ final, Follows plainServices [mailbox, capitalised]
          (alternating mailbox capitalised "wrong" "battery staple") untouched
          (threeRounds.flatMap roundLabels) final ∧
        ¬ SignedIn mailbox 0 final ∧
        2 * loginMaxFailures < guesses mailbox 0 final := by
  have shared : Shared plainServices [mailbox, capitalised] mailbox
      capitalised "wrong" "battery staple" :=
    ⟨by decide, by decide, by decide, by decide +kernel, by decide,
      by decide⟩
  rcases guesses_of_shared shared with ⟨final, follows, unsigned, guessed⟩
  refine ⟨by decide, final, follows, unsigned, ?_⟩
  rw [guessed]
  decide

end WeatherNotify.LoginBudget

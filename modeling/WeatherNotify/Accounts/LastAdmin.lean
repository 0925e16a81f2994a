import WeatherNotify.Accounts.Operations
import WeatherNotify.Auth.Signatures

/-!
# The last administrator

Each operation counts the administrators and writes in a later statement.  Two
that act on different administrators both find the other one still there.  What
keeps an administrator is one whom no write under way is about.
-/

namespace WeatherNotify.Accounts

open WeatherNotify.Auth WeatherNotify.Transition

variable {n m : Nat}

/-- The operation is past its checks and about to take the role or the row. -/
def Pending (operations : Fin m → Operation) (system : System n m)
    (operation : Fin m) : Prop :=
  (operations operation).unseats = true ∧
    ∃ current, system.stage operation = .writing current

/-- An administrator whom no write under way is about. -/
def Spared (operations : Fin m → Operation) (system : System n m)
    (user : UserRow) : Prop :=
  user ∈ system.sessions.users ∧ user.role = .admin ∧
    ∀ operation, Pending operations system operation →
      (operations operation).target ≠ user.id

def SomeSpared (operations : Fin m → Operation) (system : System n m) :
    Prop :=
  ∃ user, Spared operations system user

/-- The operation that takes the step. -/
def Label.operator : Label n m → Option (Fin m)
  | .session _ => none
  | .begin operation | .read operation | .count operation
  | .write operation | .mark operation _ | .answer operation =>
      some operation

/--
Whenever a step lets an operation through to its write, some administrator
other than its target is not the target of a write under way.
-/
def SparesAnAdmin (operations : Fin m → Operation)
    (taken : Taken (System n m) (Label n m)) : Prop :=
  ∀ operation, taken.label.operator = some operation →
    Pending operations taken.target operation →
      ∃ user, Spared operations taken.source user ∧
        (operations operation).target ≠ user.id

/-! ## One step -/

section Step

variable {crypto : Crypto} {config : Config} {requests : Fin n → Request}
  {operations : Fin m → Operation} {system next : System n m}
  {label : Label n m}

theorem Acted.stage_of_ne
    (acted : Acted crypto config requests operations system label next)
    {other : Fin m} (different : label.operator ≠ some other) :
    next.stage other = system.stage other := by
  cases acted with
  | session => rfl
  | begin | readMissing | read | counted | lastAdmin | updated | deleted
  | writeMissing | marked | unmarked | answered | answerMissing =>
      exact stage_stageTo_of_ne
        (fun same => different (congrArg some same.symm)) _

theorem Operation.unseats_of_deletes {operation : Operation}
    (deletes : operation.deletes = true) : operation.unseats = true := by
  cases operation with
  | updateUser => cases deletes
  | deleteUser | deleteAccount => rfl

/-- Sessions leave roles alone. -/
theorem admin_stays_in_session {before after : Auth.State n}
    {inner : Auth.Label n}
    (acted : Auth.Acted crypto config requests before inner after)
    {user : UserRow} (member : user ∈ before.users)
    (undeleted : inner ≠ .deleteUser user.id) :
    ∃ stored ∈ after.users, stored.id = user.id ∧
      stored.role = user.role := by
  cases acted with
  | userCreated =>
      exact ⟨user, List.mem_append_left _ member, rfl, rfl⟩
  | resetPassword =>
      refine ⟨_, List.mem_map.mpr ⟨user, member, rfl⟩, ?_⟩
      split <;> exact ⟨rfl, rfl⟩
  | deleteUser userId =>
      refine ⟨user, List.mem_filter.mpr ⟨member, ?_⟩, rfl, rfl⟩
      have different : user.id ≠ userId := fun same =>
        undeleted (by rw [same])
      simpa using different
  | tick | begin | emailTaken | emailFree | emailRaced
  | verificationStored | verificationGone | findUser | loggedIn
  | loginRejected | tokenMissing | tokenRead | checkToken | reused | rotated
  | revokeFamily | readRole | signAccess | signRefresh | inserted
  | insertRejected | revokeToken | resetRejected | resetFound | resetGone
  | deleteExpired => exact ⟨user, member, rfl, rfl⟩

/-- A spared administrator stays one. -/
theorem Acted.admin_stays
    (acted : Acted crypto config requests operations system label next)
    {user : UserRow} (spared : Spared operations system user) :
    ∃ stored ∈ next.sessions.users, stored.id = user.id ∧
      stored.role = .admin := by
  rcases spared with ⟨member, elevated, untouched⟩
  cases acted with
  | session undeleted stepped =>
      rcases Option.map_eq_some_iff.mp stepped with ⟨reached, action, rfl⟩
      have stays := admin_stays_in_session (acted_of_act action) member
        (Auth.Label.ne_deleteUser undeleted _)
      rwa [elevated] at stays
  | deleted found asked present stepped =>
      rcases Option.map_eq_some_iff.mp stepped with ⟨reached, action, rfl⟩
      have other := untouched _
        ⟨Operation.unseats_of_deletes asked, _, found⟩
      have stays := admin_stays_in_session (acted_of_act action) member
        (fun same => other (Auth.Label.deleteUser.inj same))
      rwa [elevated] at stays
  | @updated operation current id role emailVerified stage found asked =>
      refine ⟨_, List.mem_map.mpr ⟨user, member, rfl⟩, ?_⟩
      split
      next same =>
        refine ⟨rfl, ?_⟩
        -- it is not a demotion, for that one would be under way
        have kept : role ≠ some .user := by
          rintro rfl
          refine untouched operation ⟨?_, current, found⟩ ?_
          · rw [asked]
            rfl
          · rw [asked, same]
            rfl
        cases role with
        | none => exact elevated
        | some role =>
            cases role with
            | user => exact (kept rfl).elim
            | admin => rfl
      next => exact ⟨rfl, elevated⟩
  | begin | readMissing | read | counted | lastAdmin | writeMissing
  | marked | unmarked | answered | answerMissing =>
      exact ⟨user, member, rfl, elevated⟩

/-- A step that lets an operation through to its write changes no row. -/
theorem Acted.sessions_of_pending
    (acted : Acted crypto config requests operations system label next)
    {operation : Fin m} (operator : label.operator = some operation)
    (pending : Pending operations next operation) :
    next.sessions = system.sessions := by
  rcases pending with ⟨_, current, entered⟩
  cases acted with
  | @updated _ _ _ _ _ stage found asked present follows =>
      cases operator
      change (system.stageTo operation stage).stage operation = _ at entered
      rw [stage_stageTo, follows] at entered
      split at entered <;> cases entered
  | deleted =>
      cases operator
      change (system.stageTo operation .marking).stage operation = _
        at entered
      rw [stage_stageTo] at entered
      cases entered
  | session => cases operator
  | begin | readMissing | read | counted | lastAdmin | writeMissing
  | marked | unmarked | answered | answerMissing => rfl

theorem Acted.pending_iff
    (acted : Acted crypto config requests operations system label next)
    {other : Fin m} (different : label.operator ≠ some other) :
    Pending operations next other ↔ Pending operations system other := by
  simp only [Pending, acted.stage_of_ne different]

theorem spared_step (taken : Taken (System n m) (Label n m))
    (stepped : step crypto config requests operations taken.source
      taken.label = some taken.target)
    (spares : SparesAnAdmin operations taken)
    (spared : SomeSpared operations taken.source) :
    SomeSpared operations taken.target := by
  have acted := acted_of_step stepped
  by_cases entering : ∃ operation,
      taken.label.operator = some operation ∧
        Pending operations taken.target operation
  · rcases entering with ⟨operation, operator, pending⟩
    obtain ⟨user, ⟨member, elevated, untouched⟩, other⟩ :=
      spares operation operator pending
    refine ⟨user, ?_, elevated, fun third thirdPending => ?_⟩
    · rw [acted.sessions_of_pending operator pending]
      exact member
    · by_cases same : taken.label.operator = some third
      · rw [operator, Option.some.injEq] at same
        rw [← same]
        exact other
      · exact untouched third ((acted.pending_iff same).mp thirdPending)
  · rcases spared with ⟨user, spared⟩
    rcases acted.admin_stays spared with ⟨stored, member, same, elevated⟩
    refine ⟨stored, member, elevated, fun operation pending => ?_⟩
    rw [same]
    have different : taken.label.operator ≠ some operation :=
      fun operator => entering ⟨operation, operator, pending⟩
    exact spared.2.2 operation ((acted.pending_iff different).mp pending)

end Step

/-! ## Writes under way -/

section Doomed

variable {crypto : Crypto} {config : Config} {requests : Fin n → Request}
  {operations : Fin m → Operation}

theorem not_admin_of_updateUsers {users : List UserRow} {id : String}
    {emailVerified : Option Bool} {user : UserRow}
    (member : user ∈ updateUsers users id (some .user) emailVerified)
    (elevated : user.role = .admin) : user ∈ users ∧ id ≠ user.id := by
  rcases List.mem_map.mp member with ⟨old, oldMember, rfl⟩
  split at elevated
  next => cases elevated
  next different =>
    rw [if_neg different]
    exact ⟨oldMember, Ne.symm different⟩

theorem write_enabled (crypto : Crypto) (config : Config)
    (requests : Fin n → Request) {system : System n m} {operation : Fin m}
    {current : Role} (found : system.stage operation = .writing current) :
    ∃ next, step crypto config requests operations system
      (.write operation) = some next := by
  simp only [step, found]
  split
  · unfold written
    split <;> exact ⟨_, rfl⟩
  · exact ⟨_, rfl⟩

/-- After it, the target of the write is no administrator. -/
theorem Pending.admin_before {system next : System n m}
    {operation : Fin m} (pending : Pending operations system operation)
    (acted : Acted crypto config requests operations system
      (.write operation) next)
    {user : UserRow} (member : user ∈ next.sessions.users)
    (elevated : user.role = .admin) :
    user ∈ system.sessions.users ∧
      (operations operation).target ≠ user.id := by
  cases acted with
  | @updated _ _ id role emailVerified stage found asked =>
      have unseats := pending.1
      rw [asked] at unseats ⊢
      cases beq_iff_eq.mp unseats
      exact not_admin_of_updateUsers member elevated
  | deleted found asked present stepped =>
      rcases Option.map_eq_some_iff.mp stepped with ⟨reached, action, rfl⟩
      cases action
      rcases List.mem_filter.mp member with ⟨earlier, kept⟩
      refine ⟨earlier, fun same => ?_⟩
      simp [same] at kept
  | writeMissing found gone =>
      refine ⟨member, fun same => ?_⟩
      rw [hasUser, List.any_eq_false] at gone
      exact gone user member (beq_iff_eq.mpr same.symm)

/-- Letting the writes under way go through leaves no administrator. -/
theorem doomed (listed : List (Fin m)) {system : System n m}
    (targeted : ∀ user ∈ system.sessions.users, user.role = .admin →
      ∃ operation ∈ listed, Pending operations system operation ∧
        (operations operation).target = user.id) :
    ∃ labels final, (machine crypto config requests operations).run system
        labels = some final ∧
      ∀ user ∈ final.sessions.users, user.role ≠ .admin := by
  induction listed generalizing system with
  | nil =>
      refine ⟨[], system, rfl, fun user member elevated => ?_⟩
      rcases targeted user member elevated with ⟨operation, listed, _⟩
      cases listed
  | cons operation rest induction =>
      by_cases pending : Pending operations system operation
      · obtain ⟨next, stepped⟩ := write_enabled crypto config requests
          pending.2.choose_spec
        have acted := acted_of_step stepped
        have fewerTargeted : ∀ user ∈ next.sessions.users,
            user.role = .admin → ∃ other ∈ rest,
              Pending operations next other ∧
                (operations other).target = user.id := by
          intro user member elevated
          obtain ⟨earlier, spared⟩ :=
            pending.admin_before acted member elevated
          obtain ⟨other, listed, otherPending, same⟩ :=
            targeted user earlier elevated
          have different : other ≠ operation := by
            rintro rfl
            exact spared same
          have elsewhere : Label.operator (.write operation : Label n m) ≠
              some other :=
            fun acting => different (Option.some.inj acting).symm
          exact ⟨other, (List.mem_cons.mp listed).resolve_left different,
            (acted.pending_iff elsewhere).mpr otherPending, same⟩
        rcases induction fewerTargeted with ⟨labels, final, reached, none⟩
        refine ⟨.write operation :: labels, final, ?_, none⟩
        simp only [Machine.run_cons, machine, stepped, Option.bind_some]
        exact reached
      · refine induction fun user member elevated => ?_
        obtain ⟨other, listed, otherPending, same⟩ :=
          targeted user member elevated
        rcases List.mem_cons.mp listed with rfl | later
        · exact (pending otherPending).elim
        · exact ⟨other, later, otherPending, same⟩

end Doomed

/--
An administrator is left as long as every operation that is let through to its
write leaves one whom no write under way is about.  Otherwise the writes under
way can leave none.
-/
theorem administrator_left_if_one_is_spared (crypto : Crypto)
    (config : Config) (requests : Fin n → Request)
    (operations : Fin m → Operation) {start : System n m}
    {labels : List (Label n m)}
    (waiting : ∀ operation, start.stage operation = .waiting)
    (elevated : ∃ user ∈ start.sessions.users, user.role = .admin) :
    ((∀ taken ∈ (machine crypto config requests operations).transitions
        start labels, SparesAnAdmin operations taken) →
      ∀ final, (machine crypto config requests operations).run start
          labels = some final →
        ∃ user ∈ final.sessions.users, user.role = .admin) ∧
    ∀ taken ∈ (machine crypto config requests operations).transitions start
        labels, ¬ SparesAnAdmin operations taken →
      ∃ later final, (machine crypto config requests operations).run
          taken.target later = some final ∧
        ∀ user ∈ final.sessions.users, user.role ≠ .admin := by
  constructor
  · intro spares final reached
    have begins : SomeSpared operations start := by
      rcases elevated with ⟨user, member, elevated⟩
      refine ⟨user, member, elevated, ?_⟩
      rintro operation ⟨_, current, found⟩
      rw [waiting operation] at found
      cases found
    obtain ⟨user, member, elevated, _⟩ :=
      Machine.run_invariant spared_step begins spares reached
    exact ⟨user, member, elevated⟩
  · intro taken member unspared
    have acted := acted_of_step (Machine.step_of_mem_transitions _ member)
    simp only [SparesAnAdmin, not_forall] at unspared
    rcases unspared with ⟨operation, operator, pending, unspared⟩
    refine doomed (List.finRange m) fun user userMember elevated => ?_
    rw [acted.sessions_of_pending operator pending] at userMember
    by_contra untargeted
    push Not at untargeted
    refine unspared ⟨user, ⟨userMember, elevated, fun other before => ?_⟩,
      untargeted operation (List.mem_finRange _) pending⟩
    by_cases same : taken.label.operator = some other
    · rw [operator, Option.some.injEq] at same
      rw [← same]
      exact untargeted operation (List.mem_finRange _) pending
    · exact untargeted other (List.mem_finRange _)
        ((acted.pending_iff same).mpr before)

/-! ## Two administrators -/

def secondAdmin : UserRow :=
  ⟨"b", "f", "q", .admin, true, none, none⟩

def twoAdmins : System n m where
  sessions := {
    clock := 0
    users := [⟨"a", "e", "p", .admin, true, none, none⟩, secondAdmin]
    tokens := []
    issued := ["a", "b"]
    phase _ := .waiting
    revocations := [] }
  markers := .empty
  stage _ := .waiting

theorem twoAdmins_elevated :
    ∃ user ∈ (twoAdmins : System n m).sessions.users,
      user.role = .admin :=
  ⟨secondAdmin, by simp [twoAdmins], rfl⟩

/-- A deletion up to the last-admin check. -/
def checking (operation : Fin m) : List (Label n m) :=
  [.begin operation, .read operation, .count operation]

/-- One of the two is deleted, and the other one is left. -/
theorem second_admin_left :
    ∃ final : System 0 1, (machine plainTokens ⟨5000, 5000⟩
        (fun _ => .pruneStaleTokens) fun _ => .deleteUser "b" "a").run
          twoAdmins (checking 0 ++ [.write 0]) = some final ∧
      ∃ user ∈ final.sessions.users, user.role = .admin := by
  obtain ⟨final, reached⟩ : ∃ final : System 0 1,
      (machine plainTokens ⟨5000, 5000⟩ (fun _ => .pruneStaleTokens)
        fun _ => .deleteUser "b" "a").run twoAdmins
          (checking 0 ++ [.write 0]) = some final := ⟨_, rfl⟩
  have there : ∀ taken ∈ (machine plainTokens ⟨5000, 5000⟩
      (fun _ => .pruneStaleTokens) fun _ =>
        .deleteUser "b" "a").transitions (twoAdmins : System 0 1)
          (checking 0 ++ [.write 0]),
      secondAdmin ∈ taken.source.sessions.users := by
    decide
  refine ⟨final, reached, (administrator_left_if_one_is_spared plainTokens
    _ _ _ (fun _ => rfl) twoAdmins_elevated).1 ?_ final reached⟩
  intro taken member operation _ _
  have other : Operation.target (.deleteUser "b" "a") ≠ secondAdmin.id := by
    decide
  exact ⟨secondAdmin, ⟨there taken member, rfl, fun _ _ => other⟩, other⟩

/-- Each of two deletions finds the other administrator, and none is left. -/
theorem both_admins_deleted :
    ∃ final : System 0 2, (machine plainTokens ⟨5000, 5000⟩
        (fun _ => .pruneStaleTokens) fun operation =>
          if operation.val = 0 then .deleteUser "b" "a"
          else .deleteUser "a" "b").run twoAdmins
            (checking 0 ++ checking 1 ++ [.write 0, .write 1]) =
              some final ∧
      ¬ ∃ user ∈ final.sessions.users, user.role = .admin :=
  ⟨_, rfl, by decide⟩

end WeatherNotify.Accounts

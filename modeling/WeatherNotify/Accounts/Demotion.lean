import WeatherNotify.Accounts.Denial

/-!
# A changed role and the tokens around it

A request that had read the role `ADMIN` before a demotion can sign after the
marker was written, and a token signed in a later second outlives the marker.
The marker is kept for the user and not for tokens, so it also rejects the
tokens that are issued after the change, until it is gone.
-/

namespace WeatherNotify.Accounts

open WeatherNotify.Auth WeatherNotify.Common WeatherNotify.Transition

variable {n m : Nat}

/-! ## Demoted administrators -/

/-- The operation takes the role `ADMIN` from a user who stays. -/
def Operation.demotes (operation : Operation) : Bool :=
  operation.unseats && !operation.deletes

/--
An access token with the role `ADMIN` that is signed after the demotion's
marker is signed in a second that began no later than the marker.
-/
def SignsInTime (operations : Fin m → Operation)
    (taken : Taken (System n m) (Label n m)) : Prop :=
  ∀ request userId email, taken.label = .session (.signAccess request) →
    taken.source.sessions.phase request =
        .signingAccess userId email .admin →
      ∀ operation instant, (operations operation).demotes = true →
        (operations operation).target = userId →
          (taken.source.stage operation).markedAt = some instant →
            taken.source.sessions.clock / 1000 * 1000 ≤ instant

/-- The marker covers every token that still carries the old role. -/
structure Stripped (config : Config)
    (decodeAccess : String → Option (AccessPayload × Int))
    (operations : Fin m → Operation) (system : System n m) : Prop where
  watched : Watched config decodeAccess operations system
  denied : ∀ operation instant, (operations operation).demotes = true →
    (system.stage operation).markedAt = some instant →
      ∀ deadline, system.markers (operations operation).target =
        some ⟨(), deadline⟩ →
      ∀ request token payload exp,
        access (system.sessions.phase request) = some token →
          decodeAccess token = some (payload, exp) →
            payload.sub = (operations operation).target →
              payload.role = .admin → exp * 1000 ≤ deadline

theorem Initial.stripped {config : Config}
    {decodeAccess : String → Option (AccessPayload × Int)}
    {operations : Fin m → Operation} {system : System n m}
    (initial : Initial system) :
    Stripped config decodeAccess operations system where
  watched := initial.watched
  denied operation instant _ marked := by
    rw [initial.waiting operation] at marked
    cases marked

section Strip

variable {crypto : Crypto} {config : Config} {requests : Fin n → Request}
  {operations : Fin m → Operation}
  {decodeAccess : String → Option (AccessPayload × Int)}

/-- A request leaves the signing of its access token by that signing only. -/
theorem signAccess_of_moved {state next : Auth.State n}
    {label : Auth.Label n}
    (acted : Auth.Acted crypto config requests state label next)
    {request : Fin n} {userId email : String} {role : Role}
    (found : state.phase request = .signingAccess userId email role)
    (moved : next.phase request ≠ state.phase request) :
    label = .signAccess request := by
  have actor : label.actor = some request := by
    by_contra different
    exact moved (acted.phase_of_ne different)
  have reads : ∀ {phase : Phase}, state.phase request = phase →
      phase = .signingAccess userId email role :=
    fun same => same.symm.trans found
  cases acted with
  | signAccess =>
      cases actor
      rfl
  | tick | deleteUser => cases actor
  | begin reading | emailTaken reading | emailFree reading
  | emailRaced reading | userCreated reading | verificationStored reading
  | verificationGone reading | findUser reading | loggedIn reading
  | loginRejected reading | tokenMissing reading | tokenRead reading
  | checkToken reading | reused reading | rotated reading
  | revokeFamily reading | readRole reading | signRefresh reading
  | inserted reading | insertRejected reading | revokeToken reading
  | resetRejected reading | resetFound reading | resetPassword reading
  | resetGone reading | deleteExpired reading =>
      cases actor
      cases reads reading

/-- Where a signed access token comes from. -/
theorem Acted.access_before {system next : System n m} {label : Label n m}
    (acted : Acted crypto config requests operations system label next)
    {request : Fin n} {token : String}
    (signed : access (next.sessions.phase request) = some token) :
    access (system.sessions.phase request) = some token ∨
      ∃ userId email role, label = .session (.signAccess request) ∧
        system.sessions.phase request =
          .signingAccess userId email role ∧
        token = crypto.signAccess ⟨userId, email, role⟩
          (system.sessions.clock / 1000 + config.accessTtlMs / 1000) := by
  cases acted with
  | session undeleted stepped =>
      rcases Option.map_eq_some_iff.mp stepped with ⟨reached, action, rfl⟩
      have inner := acted_of_act action
      change access (reached.phase request) = _ at signed
      rcases inner.moves request with same | moves
      · exact Or.inl (same ▸ signed)
      · rcases access_of_moves moves signed with ⟨earlier, _⟩ |
          ⟨userId, email, role, found, reaches, minted⟩
        · exact Or.inl earlier
        · refine Or.inr ⟨userId, email, role, ?_, found, minted⟩
          rw [signAccess_of_moved inner found]
          rw [found, reaches]
          rintro ⟨⟩
  | deleted found asked present stepped =>
      rcases Option.map_eq_some_iff.mp stepped with ⟨reached, action, rfl⟩
      cases action
      exact Or.inl signed
  | begin | readMissing | read | counted | lastAdmin | updated
  | writeMissing | marked | unmarked | answered | answerMissing =>
      exact Or.inl signed

theorem stripped_step (decodes : Decodes crypto decodeAccess)
    (taken : Taken (System n m) (Label n m))
    (stepped : step crypto config requests operations taken.source
      taken.label = some taken.target)
    (timely : SignsInTime operations taken)
    (stripped : Stripped config decodeAccess operations taken.source) :
    Stripped config decodeAccess operations taken.target := by
  have watched := stripped.watched
  have acted := acted_of_step stepped
  refine ⟨watched_step decodes stepped watched,
    fun operation instant demotes marked deadline stored request token
      payload exp signed decoded owner elevated => ?_⟩
  have fresh : taken.target.sessions = taken.source.sessions →
      deadline = taken.source.sessions.clock +
          accessTtlSec config * 1000 → exp * 1000 ≤ deadline := by
    rintro same rfl
    rw [same] at signed
    exact watched.minted.outlasted signed decoded
  rcases acted.markedAt marked with before | ⟨rfl, same, written⟩
  · rcases acted.markers (operations operation).target with
      kept | ⟨same, written⟩
    · rw [kept] at stored
      rcases acted.access_before signed with
        earlier | ⟨userId, email, role, labelled, found, rfl⟩
      · exact stripped.denied operation instant demotes before deadline
          stored request token payload exp earlier decoded owner elevated
      · rw [decodes] at decoded
        cases decoded
        simp only at owner elevated
        rw [elevated] at found
        have early := timely request userId email labelled found operation
          instant demotes owner.symm before
        obtain ⟨_, other, otherStored, outlasts⟩ :=
          watched.covered operation instant before
        rw [stored] at otherStored
        cases otherStored
        unfold accessTtlSec at outlasts
        omega
    · rw [stored] at written
      cases written
      exact fresh same rfl
  · rw [stored] at written
    cases written
    exact fresh same rfl

end Strip

/--
If every token with the role `ADMIN` is signed in time, none passes the guard
once a demotion has returned with its marker written.
-/
theorem demotion_takes_effect_at_once (crypto : Crypto) (config : Config)
    (requests : Fin n → Request) (operations : Fin m → Operation)
    (decodeAccess : String → Option (AccessPayload × Int))
    (decodes : Decodes crypto decodeAccess) {start final : System n m}
    {labels : List (Label n m)} (initial : Initial start)
    (timely : ∀ taken ∈ (machine crypto config requests
      operations).transitions start labels, SignsInTime operations taken)
    (reached : (machine crypto config requests operations).run start
      labels = some final)
    {operation : Fin m} {instant : Int}
    (demotes : (operations operation).demotes = true)
    (returned : final.stage operation = .returned (some instant)) :
    ∀ request tokens payload exp,
      final.sessions.phase request = .returned tokens →
        decodeAccess tokens.accessToken = some (payload, exp) →
          payload.sub = (operations operation).target →
            payload.role = .admin →
              ∀ now, jwtGuard decodeAccess true final.markers now
                tokens.accessToken = false := by
  have stripped : Stripped config decodeAccess operations final :=
    Machine.run_invariant (stripped_step decodes) initial.stripped timely
      reached
  intro request tokens payload exp found decoded owner elevated now
  have marked : (final.stage operation).markedAt = some instant := by
    rw [returned]
    rfl
  obtain ⟨_, deadline, stored, _⟩ :=
    stripped.watched.covered operation instant marked
  have named := (stripped.watched.known operation
    (Stage.pastWrite_of_markedAt marked)).2
  have outlasts := stripped.denied operation instant demotes marked deadline
    stored request tokens.accessToken payload exp (by rw [found]; rfl)
    decoded owner elevated
  rw [← owner] at named stored
  exact jwtGuard_of_outlasted decoded named stored outlasts now

def demoting (_ : Fin m) : Operation :=
  .updateUser "u" (some .user) none

/-- A demotion that passes the last-admin check. -/
def demotion (operation : Fin m) : List (Label n m) :=
  [.begin operation, .read operation, .count operation, .write operation,
    .mark operation true, .answer operation]

/-- The token is signed before the marker, and rejected with it. -/
theorem token_signed_before_demotion_rejected :
    ∃ (final : System 1 1) (tokens : Tokens),
      (machine plainTokens ⟨5000, 5000⟩ loginRequests demoting).run
          (twoUsers .admin)
          (loggingIn 0 ++ issuing 0 "0" ++ demotion 0) = some final ∧
        final.stage 0 = .returned (some 0) ∧
        final.sessions.phase 0 = .returned tokens ∧
        adminGuard PlainToken.decodeAccess 4999 tokens.accessToken = true ∧
        jwtGuard PlainToken.decodeAccess true final.markers 4999
          tokens.accessToken = false := by
  obtain ⟨final, reached⟩ : ∃ final : System 1 1,
      (machine plainTokens ⟨5000, 5000⟩ loginRequests demoting).run
        (twoUsers .admin) (loggingIn 0 ++ issuing 0 "0" ++ demotion 0) =
          some final := ⟨_, rfl⟩
  have returned : final.stage 0 = .returned (some 0) := by
    cases reached
    rfl
  obtain ⟨tokens, found⟩ : ∃ tokens,
      final.sessions.phase 0 = .returned tokens := by
    cases reached
    exact ⟨_, rfl⟩
  have decoded : PlainToken.decodeAccess tokens.accessToken =
      some (⟨"u", "e", .admin⟩, 5) := by
    cases reached
    cases found
    rfl
  have early : ∀ taken ∈ (machine plainTokens ⟨5000, 5000⟩ loginRequests
      demoting).transitions (twoUsers .admin : System 1 1)
        (loggingIn 0 ++ issuing 0 "0" ++ demotion 0),
      taken.label = .session (.signAccess 0) →
        (taken.source.stage 0).markedAt = none := by
    decide
  refine ⟨final, tokens, reached, returned, found, ?_, ?_⟩
  · rw [adminGuard, verifyAccess, decoded]
    rfl
  · refine demotion_takes_effect_at_once plainTokens ⟨5000, 5000⟩
      loginRequests demoting PlainToken.decodeAccess decodes_plainTokens
      (twoUsers_initial .admin) ?_ reached rfl returned 0 tokens _ 5 found
      decoded rfl rfl 4999
    intro taken member request userId email labelled _ operation instant _ _
      marked
    rw [Subsingleton.elim request 0] at labelled
    rw [Subsingleton.elim operation 0, early taken member labelled] at marked
    cases marked

/-- The role is read, the user is demoted, and a second later it is signed. -/
theorem stale_role_passes_both_guards :
    ∃ (final : System 1 1) (tokens : Tokens),
      (machine plainTokens ⟨5000, 5000⟩ loginRequests demoting).run
          (twoUsers .admin)
          (loggingIn 0 ++ demotion 0 ++ [.session (.tick 1000)] ++
            issuing 0 "0") = some final ∧
        final.stage 0 = .returned (some 0) ∧
        final.sessions.phase 0 = .returned tokens ∧
        final.sessions.clock ≤ 5500 ∧
        jwtGuard PlainToken.decodeAccess true final.markers 5500
          tokens.accessToken = true ∧
        adminGuard PlainToken.decodeAccess 5500 tokens.accessToken = true :=
  ⟨_, _, rfl, rfl, rfl, by decide, rfl, rfl⟩

/-! ## Tokens issued after the change -/

section Readmission

variable {crypto : Crypto} {config : Config} {requests : Fin n → Request}
  {operations : Fin m → Operation}

/-- No further marker is written for the user. -/
def Unmarked (operations : Fin m → Operation) (userId : String)
    (taken : Taken (System n m) (Label n m)) : Prop :=
  ∀ operation reachable, taken.label = .mark operation reachable →
    (operations operation).target ≠ userId

instance (userId : String) (taken : Taken (System n m) (Label n m)) :
    Decidable (Unmarked operations userId taken) :=
  inferInstanceAs (Decidable (∀ operation reachable,
    taken.label = .mark operation reachable →
      (operations operation).target ≠ userId))

theorem unmarked_step {userId : String} {entry : Option (Entry Unit)}
    (taken : Taken (System n m) (Label n m))
    (stepped : step crypto config requests operations taken.source
      taken.label = some taken.target)
    (unmarked : Unmarked operations userId taken)
    (stored : taken.source.markers userId = entry) :
    taken.target.markers userId = entry := by
  rcases taken with ⟨source, label, target⟩
  simp only at stepped stored ⊢
  cases acted_of_step stepped with
  | @marked operation found positive stage follows =>
      have different : userId ≠ (operations operation).target :=
        (unmarked operation true rfl).symm
      rw [← stored]
      exact Expiring.put_of_ne _ different _
  | session | begin | readMissing | read | counted | lastAdmin | updated
  | deleted | writeMissing | unmarked | answered | answerMissing =>
      exact stored

theorem markers_of_unmarked {start final : System n m}
    {labels : List (Label n m)} {userId : String}
    (unmarked : ∀ taken ∈ (machine crypto config requests
      operations).transitions start labels,
      Unmarked operations userId taken)
    (reached : (machine crypto config requests operations).run start
      labels = some final) :
    final.markers userId = start.markers userId :=
  @Machine.run_invariant _ _ (machine crypto config requests operations)
    (fun system => system.markers userId = start.markers userId) _
    unmarked_step _ _ _ rfl unmarked reached

/-- When the guard accepts a token of a user who has a marker. -/
theorem jwtGuard_iff_of_marker
    {decodeAccess : String → Option (AccessPayload × Int)}
    {markers : Markers} {deadline : Int} {token : String}
    {payload : AccessPayload} {exp : Int}
    (decoded : decodeAccess token = some (payload, exp))
    (named : payload.sub ≠ "")
    (stored : markers payload.sub = some ⟨(), deadline⟩) {now : Int}
    (early : now / 1000 < exp) :
    jwtGuard decodeAccess true markers now token = true ↔
      deadline ≤ now := by
  unfold jwtGuard verifyAccess
  rw [decoded]
  simp only [early, if_true, isUserRevoked, Expiring.get_of_entry stored,
    bne_iff_ne.mpr named, Bool.true_and]
  by_cases alive : now < deadline
  · simp only [alive, if_true, Option.isSome_some, Bool.not_true,
      Bool.false_eq_true, false_iff]
    omega
  · simp only [alive, if_false, Option.isSome_none, Bool.not_false,
      true_iff]
    omega

end Readmission

def promoting (_ : Fin m) : Operation :=
  .updateUser "u" (some .admin) none

/-- A promotion, which needs no last-admin check. -/
def promotion (operation : Fin m) : List (Label n m) :=
  carryingOut operation ++ [.answer operation]

end WeatherNotify.Accounts

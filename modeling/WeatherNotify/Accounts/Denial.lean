import WeatherNotify.Accounts.Operations
import WeatherNotify.Auth.Signatures

/-!
# What a deny marker covers

A marker lives for one access-token lifetime from the instant it is written,
so it outlasts every token signed up to then.  After a deletion nothing more
is returned, because the insert of the session row fails: the marker covers
every token of the user there will ever be.
-/

namespace WeatherNotify.Accounts

open WeatherNotify.Auth WeatherNotify.Common WeatherNotify.Transition

variable {n m : Nat}

/-- The assumption on signing access tokens. -/
def Decodes (crypto : Crypto)
    (decodeAccess : String → Option (AccessPayload × Int)) : Prop :=
  ∀ payload exp,
    decodeAccess (crypto.signAccess payload exp) = some (payload, exp)

/-! ## Access tokens in flight -/

/-- The access token a request has signed. -/
def access : Phase → Option String
  | .signingRefresh _ _ accessToken => some accessToken
  | .inserting _ _ tokens | .returned tokens => some tokens.accessToken
  | _ => none

/-- Every signed token expires within one lifetime from now. -/
def Minted (config : Config)
    (decodeAccess : String → Option (AccessPayload × Int))
    (state : Auth.State n) : Prop :=
  ∀ request token, access (state.phase request) = some token →
    ∃ payload exp, decodeAccess token = some (payload, exp) ∧
      exp * 1000 ≤ state.clock + config.accessTtlMs ∧
      ∀ user, (state.phase request).issuing = some user →
        payload.sub = user

section Session

variable {crypto : Crypto} {config : Config} {requests : Fin n → Request}
  {decodeAccess : String → Option (AccessPayload × Int)}
  {state next : Auth.State n} {label : Auth.Label n}

theorem access_opening (crypto : Crypto) (now : Int) (request : Request) :
    access (Auth.opening crypto now request) = none := by
  cases request with
  | register | login | resetPassword | pruneStaleTokens => rfl
  | refresh token | logout token =>
      simp only [Auth.opening]
      split <;> rfl

theorem access_checked (crypto : Crypto) (now : Int) (token : String)
    (payload : RefreshPayload) (row : TokenRow) :
    access (checked crypto now token payload row) = none := by
  unfold checked
  split
  · rfl
  · split
    · rfl
    · split <;> rfl

/-- An access token is signed in one move and then carried along. -/
theorem access_of_moves {request : Request} {before after : Phase}
    (moves : Moves crypto config state request before after)
    {token : String} (signed : access after = some token) :
    (access before = some token ∧
      ∀ user, after.issuing = some user → before.issuing = some user) ∨
    ∃ userId email role, before = .signingAccess userId email role ∧
      after = .signingRefresh userId email token ∧
      token = crypto.signAccess ⟨userId, email, role⟩
        (state.clock / 1000 + config.accessTtlMs / 1000) := by
  cases moves with
  | begin =>
      rw [access_opening] at signed
      cases signed
  | checkToken =>
      rw [access_checked] at signed
      cases signed
  | signAccess =>
      cases signed
      exact Or.inr ⟨_, _, _, rfl, rfl, rfl⟩
  | signRefresh => exact Or.inl ⟨signed, fun _ issuing => issuing⟩
  | inserted =>
      refine Or.inl ⟨signed, ?_⟩
      rintro user ⟨⟩
  | emailFree | userCreated | verificationStored | findUser | loggedIn
  | tokenRead | reused | rotated | readRole | resetFound | refused
  | tokenRevoked | passwordReset | swept => cases signed

theorem minted_step (decodes : Decodes crypto decodeAccess)
    (stepped : Auth.step crypto config requests state label = some next)
    (minted : Minted config decodeAccess state) :
    Minted config decodeAccess next := by
  rcases Option.map_eq_some_iff.mp stepped with ⟨reached, action, rfl⟩
  have acted := acted_of_act action
  have later := acted.clock_le
  intro request token signed
  change access (reached.phase request) = _ at signed
  change ∃ payload exp, _ ∧ exp * 1000 ≤ reached.clock + _ ∧
    ∀ user, (reached.phase request).issuing = some user → _
  rcases acted.moves request with same | moves
  · rw [same] at signed ⊢
    obtain ⟨payload, exp, decoded, bounded, owner⟩ :=
      minted request token signed
    exact ⟨payload, exp, decoded, by omega, owner⟩
  · rcases access_of_moves moves signed with ⟨earlier, carried⟩ |
      ⟨userId, email, role, _, reaches, rfl⟩
    · obtain ⟨payload, exp, decoded, bounded, owner⟩ :=
        minted request token earlier
      exact ⟨payload, exp, decoded, by omega,
        fun user issuing => owner user (carried user issuing)⟩
    · refine ⟨_, _, decodes _ _, by omega, fun user issuing => ?_⟩
      rw [reaches] at issuing
      cases issuing
      rfl

end Session

/-! ## Markers and users -/

/-- What holds of tokens, users and markers in every reachable system. -/
structure Watched (config : Config)
    (decodeAccess : String → Option (AccessPayload × Int))
    (operations : Fin m → Operation) (system : System n m) : Prop where
  minted : Minted config decodeAccess system.sessions
  registered : ∀ user, hasUser system.sessions.users user = true →
    user ∈ system.sessions.issued ∧ user ≠ ""
  known : ∀ operation, (system.stage operation).pastWrite = true →
    (operations operation).target ∈ system.sessions.issued ∧
      (operations operation).target ≠ ""
  covered : ∀ operation instant,
    (system.stage operation).markedAt = some instant →
      instant ≤ system.sessions.clock ∧
        ∃ deadline, system.markers (operations operation).target =
            some ⟨(), deadline⟩ ∧
          instant + accessTtlSec config * 1000 ≤ deadline

theorem Initial.watched {config : Config}
    {decodeAccess : String → Option (AccessPayload × Int)}
    {operations : Fin m → Operation} {system : System n m}
    (initial : Initial system) :
    Watched config decodeAccess operations system where
  minted request token signed := by
    rw [initial.sessions.waiting request] at signed
    cases signed
  registered := initial.registered
  known operation past := by
    rw [initial.waiting operation] at past
    cases past
  covered operation instant marked := by
    rw [initial.waiting operation] at marked
    cases marked

section Watch

variable {crypto : Crypto} {config : Config} {requests : Fin n → Request}
  {operations : Fin m → Operation}
  {decodeAccess : String → Option (AccessPayload × Int)}
  {system next : System n m} {label : Label n m}

namespace SessionsStep

variable {before after : Auth.State n}

theorem clock_le
    (stepped : SessionsStep crypto config requests before after) :
    before.clock ≤ after.clock := by
  cases stepped with
  | same | updated => exact Int.le_refl _
  | stepped stepped =>
      rcases Option.map_eq_some_iff.mp stepped with ⟨reached, action, rfl⟩
      exact (acted_of_act action).clock_le

theorem issued_subset
    (stepped : SessionsStep crypto config requests before after) :
    before.issued ⊆ after.issued := by
  cases stepped with
  | same | updated => exact List.Subset.refl _
  | stepped stepped =>
      rcases Option.map_eq_some_iff.mp stepped with ⟨reached, action, rfl⟩
      exact (acted_of_act action).issued_subset

/-- A user that is there was there before, or has a new id. -/
theorem user_before
    (stepped : SessionsStep crypto config requests before after)
    {user : String} (present : hasUser after.users user = true) :
    hasUser before.users user = true ∨
      (user ∉ before.issued ∧ user ∈ after.issued ∧ user ≠ "") := by
  cases stepped with
  | same => exact Or.inl present
  | updated =>
      simp only [hasUser_updateUsers] at present
      exact Or.inl present
  | stepped stepped =>
      rcases Option.map_eq_some_iff.mp stepped with ⟨reached, action, rfl⟩
      rcases (acted_of_act action).user_before present with
        ⟨earlier, _⟩ | drawn
      · exact Or.inl earlier
      · exact Or.inr drawn

theorem minted (decodes : Decodes crypto decodeAccess)
    (stepped : SessionsStep crypto config requests before after)
    (minted : Minted config decodeAccess before) :
    Minted config decodeAccess after := by
  cases stepped with
  | same | updated => exact minted
  | stepped stepped => exact minted_step decodes stepped minted

/-- A pair is returned only for a user that exists. -/
theorem returned
    (stepped : SessionsStep crypto config requests before after)
    (minted : Minted config decodeAccess before) {request : Fin n}
    {tokens : Tokens} (found : after.phase request = .returned tokens) :
    before.phase request = .returned tokens ∨
      ∃ payload exp, decodeAccess tokens.accessToken =
          some (payload, exp) ∧
        hasUser before.users payload.sub = true := by
  cases stepped with
  | same | updated => exact Or.inl found
  | stepped stepped =>
      rcases Option.map_eq_some_iff.mp stepped with ⟨reached, action, rfl⟩
      change reached.phase request = _ at found
      rcases (acted_of_act action).moves request with same | moves
      · exact Or.inl (same ▸ found)
      · rcases moves.returned found with ⟨userId, jti, inserting, present⟩
        obtain ⟨payload, exp, decoded, _, owner⟩ :=
          minted request tokens.accessToken (by rw [inserting]; rfl)
        have same : payload.sub = userId :=
          owner userId (by rw [inserting]; rfl)
        exact Or.inr ⟨payload, exp, decoded, same ▸ present⟩

end SessionsStep

theorem watched_step (decodes : Decodes crypto decodeAccess)
    (stepped : step crypto config requests operations system label =
      some next)
    (watched : Watched config decodeAccess operations system) :
    Watched config decodeAccess operations next := by
  have acted := acted_of_step stepped
  have sessions := acted.sessions
  have later := sessions.clock_le
  refine ⟨sessions.minted decodes watched.minted, fun user present => ?_,
    fun operation past => ?_, fun operation instant marked => ?_⟩
  · rcases sessions.user_before present with earlier | ⟨_, drawn, named⟩
    · rcases watched.registered user earlier with ⟨drawn, named⟩
      exact ⟨sessions.issued_subset drawn, named⟩
    · exact ⟨drawn, named⟩
  · have earlier : (operations operation).target ∈
        system.sessions.issued ∧ (operations operation).target ≠ "" := by
      rcases acted.pastWrite past with before | ⟨present, _⟩
      · exact watched.known operation before
      · exact watched.registered _ present
    exact ⟨sessions.issued_subset earlier.1, earlier.2⟩
  · rcases acted.markedAt marked with before | ⟨rfl, _, written⟩
    · obtain ⟨past, deadline, stored, outlasts⟩ :=
        watched.covered operation instant before
      refine ⟨by omega, ?_⟩
      rcases acted.markers (operations operation).target with
        kept | ⟨_, written⟩
      · exact ⟨deadline, kept.trans stored, outlasts⟩
      · exact ⟨_, written, by omega⟩
    · exact ⟨later, _, written, Int.le_refl _⟩

/-- A token that expires before the marker is gone is never accepted. -/
theorem jwtGuard_of_outlasted {markers : Markers} {deadline : Int}
    {token : String} {payload : AccessPayload} {exp : Int}
    (decoded : decodeAccess token = some (payload, exp))
    (named : payload.sub ≠ "")
    (stored : markers payload.sub = some ⟨(), deadline⟩)
    (outlasts : exp * 1000 ≤ deadline) (now : Int) :
    jwtGuard decodeAccess true markers now token = false := by
  unfold jwtGuard verifyAccess
  rw [decoded]
  by_cases early : now / 1000 < exp
  · have alive : now < deadline := by omega
    simp only [early, if_true, isUserRevoked,
      Expiring.get_of_entry stored, alive, Option.isSome_some,
      Bool.and_true, bne_iff_ne.mpr named, Bool.not_true]
  · simp only [early, if_false]

end Watch

/-! ## Deleted accounts -/

/-- Nothing is returned for a deleted user, and its marker covers the rest. -/
structure Buried (config : Config)
    (decodeAccess : String → Option (AccessPayload × Int))
    (operations : Fin m → Operation) (system : System n m) : Prop where
  watched : Watched config decodeAccess operations system
  gone : ∀ operation, (operations operation).deletes = true →
    (system.stage operation).pastWrite = true →
      hasUser system.sessions.users (operations operation).target = false
  denied : ∀ operation instant, (operations operation).deletes = true →
    (system.stage operation).markedAt = some instant →
      ∀ deadline, system.markers (operations operation).target =
        some ⟨(), deadline⟩ →
      ∀ request tokens payload exp,
        system.sessions.phase request = .returned tokens →
          decodeAccess tokens.accessToken = some (payload, exp) →
            payload.sub = (operations operation).target →
              exp * 1000 ≤ deadline

theorem Initial.buried {config : Config}
    {decodeAccess : String → Option (AccessPayload × Int)}
    {operations : Fin m → Operation} {system : System n m}
    (initial : Initial system) :
    Buried config decodeAccess operations system where
  watched := initial.watched
  gone operation _ past := by
    rw [initial.waiting operation] at past
    cases past
  denied operation instant _ marked := by
    rw [initial.waiting operation] at marked
    cases marked

theorem Stage.pastWrite_of_markedAt {stage : Stage} {instant : Int}
    (marked : stage.markedAt = some instant) : stage.pastWrite = true := by
  cases stage with
  | answering | returned => rfl
  | waiting | reading | counting | writing | marking | rejected =>
      cases marked

section Bury

variable {crypto : Crypto} {config : Config} {requests : Fin n → Request}
  {operations : Fin m → Operation}
  {decodeAccess : String → Option (AccessPayload × Int)}
  {system next : System n m} {label : Label n m}

/-- A marker written now outlasts every token signed so far. -/
theorem Minted.outlasted {state : Auth.State n}
    (minted : Minted config decodeAccess state) {request : Fin n}
    {token : String} {payload : AccessPayload} {exp : Int}
    (signed : access (state.phase request) = some token)
    (decoded : decodeAccess token = some (payload, exp)) :
    exp * 1000 ≤ state.clock + accessTtlSec config * 1000 := by
  rcases minted request token signed with ⟨said, until_, known, bounded, _⟩
  rw [decoded] at known
  cases known
  unfold accessTtlSec
  omega

theorem buried_step (decodes : Decodes crypto decodeAccess)
    (stepped : step crypto config requests operations system label =
      some next)
    (buried : Buried config decodeAccess operations system) :
    Buried config decodeAccess operations next := by
  have watched := buried.watched
  have acted := acted_of_step stepped
  have sessions := acted.sessions
  refine ⟨watched_step decodes stepped watched,
    fun operation deletes past => ?_,
    fun operation instant deletes marked deadline stored request tokens
      payload exp found decoded owner => ?_⟩
  · rcases acted.pastWrite past with before | ⟨_, gone⟩
    · refine Bool.eq_false_iff.mpr fun present => ?_
      rcases sessions.user_before present with earlier | ⟨unused, _⟩
      · rw [buried.gone operation deletes before] at earlier
        cases earlier
      · exact unused (watched.known operation before).1
    · exact gone deletes
  · have fresh : next.sessions = system.sessions →
        deadline = system.sessions.clock + accessTtlSec config * 1000 →
          exp * 1000 ≤ deadline := by
      rintro same rfl
      have signed : access (system.sessions.phase request) =
          some tokens.accessToken := by
        rw [← same, found]
        rfl
      exact watched.minted.outlasted signed decoded
    rcases acted.markedAt marked with before | ⟨rfl, same, written⟩
    · rcases acted.markers (operations operation).target with
        kept | ⟨same, written⟩
      · rw [kept] at stored
        rcases sessions.returned watched.minted found with
          earlier | ⟨said, other, known, present⟩
        · exact buried.denied operation instant deletes before deadline
            stored request tokens payload exp earlier decoded owner
        · -- its user is gone, so the insert could not have gone through
          rw [decoded] at known
          cases known
          rw [owner, buried.gone operation deletes
            (Stage.pastWrite_of_markedAt before)] at present
          cases present
      · rw [stored] at written
        cases written
        exact fresh same rfl
    · rw [stored] at written
      cases written
      exact fresh same rfl

end Bury

/--
After a deletion has returned with its marker written, the guard rejects every
access token that was ever returned for the user, from then on.
-/
theorem deleted_account_tokens_are_dead (crypto : Crypto) (config : Config)
    (requests : Fin n → Request) (operations : Fin m → Operation)
    (decodeAccess : String → Option (AccessPayload × Int))
    (decodes : Decodes crypto decodeAccess) {start final : System n m}
    {labels : List (Label n m)} (initial : Initial start)
    (reached : (machine crypto config requests operations).run start
      labels = some final)
    {operation : Fin m} {instant : Int}
    (deletes : (operations operation).deletes = true)
    (returned : final.stage operation = .returned (some instant)) :
    ∀ request tokens payload exp,
      final.sessions.phase request = .returned tokens →
        decodeAccess tokens.accessToken = some (payload, exp) →
          payload.sub = (operations operation).target →
            ∀ now, jwtGuard decodeAccess true final.markers now
              tokens.accessToken = false := by
  have buried : Buried config decodeAccess operations final :=
    Machine.run_preserves _ (buried_step decodes) initial.buried reached
  intro request tokens payload exp found decoded owner now
  have marked : (final.stage operation).markedAt = some instant := by
    rw [returned]
    rfl
  obtain ⟨_, deadline, stored, _⟩ :=
    buried.watched.covered operation instant marked
  have named := (buried.watched.known operation
    (Stage.pastWrite_of_markedAt marked)).2
  have outlasts := buried.denied operation instant deletes marked deadline
    stored request tokens payload exp found decoded owner
  rw [← owner] at named stored
  exact jwtGuard_of_outlasted decoded named stored outlasts now

/-! ## A session open during the deletion -/

/-- An administrator, and a user with the role to try out. -/
def twoUsers (role : Role) : System n m where
  sessions := {
    clock := 0
    users := [⟨"a", "f", "q", .admin, true, none, none⟩,
      ⟨"u", "e", "p", role, true, none, none⟩]
    tokens := []
    issued := ["a", "u"]
    phase _ := .waiting
    revocations := [] }
  markers := .empty
  stage _ := .waiting

theorem twoUsers_initial (role : Role) :
    Initial (twoUsers role : System n m) where
  sessions := ⟨fun _ => rfl, by simp [twoUsers], by simp [twoUsers], rfl⟩
  waiting _ := rfl
  registered user present := by
    have same : "a" = user ∨ "u" = user := by
      simpa [hasUser, twoUsers] using present
    rcases same with rfl | rfl
    · exact ⟨by simp [twoUsers], by decide⟩
    · exact ⟨by simp [twoUsers], by decide⟩

theorem decodes_plainTokens : Decodes plainTokens PlainToken.decodeAccess :=
  fun payload exp => PlainToken.decodeAccess_signAccess payload exp

/-- A login up to the reading of the role. -/
def loggingIn (request : Fin n) : List (Label n m) :=
  [.session (.begin request), .session (.findUser request),
    .session (.compare request), .session (.readRole request)]

/-- The rest of `issueTokens`. -/
def issuing (request : Fin n) (jti : String) : List (Label n m) :=
  [.session (.signAccess request), .session (.signRefresh request jti),
    .session (.insertToken request)]

/-- An operation from its start to its marker. -/
def carryingOut (operation : Fin m) : List (Label n m) :=
  [.begin operation, .read operation, .write operation,
    .mark operation true]

def loginRequests (_ : Fin n) : Request :=
  .login "e" "p"

/-- One login is over and one is under way when the account is deleted. -/
def deletionRun (first second : Fin n) (operation : Fin m) :
    List (Label n m) :=
  loggingIn first ++ issuing first "0" ++ loggingIn second ++
    [.session (.tick 1000)] ++ carryingOut operation ++ issuing second "1"

theorem deleted_session_rejected :
    loadConfig (some "5s") (some "5s") = .ok ⟨5000, 5000⟩ ∧
    ∃ (final : System 2 1) (tokens : Tokens),
      (machine plainTokens ⟨5000, 5000⟩ loginRequests
          fun _ => .deleteAccount "u" "p").run (twoUsers .user)
            (deletionRun 0 1 0) = some final ∧
        final.stage 0 = .returned (some 1000) ∧
        final.sessions.phase 0 = .returned tokens ∧
        final.sessions.phase 1 = .rejected ∧
        verifyAccess PlainToken.decodeAccess 4999 tokens.accessToken =
          some ⟨"u", "e", .user⟩ ∧
        jwtGuard PlainToken.decodeAccess true final.markers 4999
          tokens.accessToken = false := by
  refine ⟨by rfl, ?_⟩
  obtain ⟨final, reached⟩ : ∃ final : System 2 1,
      (machine plainTokens ⟨5000, 5000⟩ loginRequests
        fun _ => .deleteAccount "u" "p").run (twoUsers .user)
          (deletionRun 0 1 0) = some final := ⟨_, rfl⟩
  have returned : final.stage 0 = .returned (some 1000) := by
    cases reached
    rfl
  obtain ⟨tokens, found⟩ : ∃ tokens,
      final.sessions.phase 0 = .returned tokens := by
    cases reached
    exact ⟨_, rfl⟩
  have refused : final.sessions.phase 1 = .rejected := by
    cases reached
    rfl
  have decoded : PlainToken.decodeAccess tokens.accessToken =
      some (⟨"u", "e", .user⟩, 5) := by
    cases reached
    cases found
    rfl
  refine ⟨final, tokens, reached, returned, found, refused, ?_, ?_⟩
  · rw [verifyAccess, decoded]
    rfl
  · exact deleted_account_tokens_are_dead plainTokens ⟨5000, 5000⟩
      loginRequests (fun _ => .deleteAccount "u" "p")
      PlainToken.decodeAccess decodes_plainTokens (twoUsers_initial .user)
      reached rfl returned 0 tokens _ 5 found decoded rfl 4999

end WeatherNotify.Accounts

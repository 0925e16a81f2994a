import Mathlib.Data.Fintype.EquivFin
import WeatherNotify.Auth.Lineage

/-!
# What a mass revocation ends

A detected replay and a completed password reset revoke every live row of a
user.  The rows that exist at that moment stay revoked, so none of their
tokens is ever exchanged again.  A request that stands between its rotation,
or its password comparison, and the insert of its row is not among them: its
row arrives after the commit, live.
-/

namespace WeatherNotify.Auth

open WeatherNotify.Transition

variable {n : Nat}

/-! ## Sessions and their descendants -/

/-- The step commits a family revocation or a password reset of the user. -/
inductive Ends (state : State n) (user : String) : Label n → Prop where
  | family {request : Fin n}
      (found : state.phase request = .revokingFamily user) :
      Ends state user (.revokeFamily request)
  | reset {request : Fin n} {passwordHash : String}
      (found : state.phase request = .resetting user)
      (present : hasUser state.users user = true) :
      Ends state user (.resetPassword request passwordHash)

def Label.isReset : Label n → Bool
  | .resetPassword _ _ => true
  | _ => false

def Request.isLogin : Request → Bool
  | .login _ _ => true
  | _ => false

/-- The request drew `jti` for a token of the user. -/
def Mints (steps : List (Taken (State n) (Label n))) (request : Fin n)
    (user jti : String) : Prop :=
  ∃ taken ∈ steps, taken.label = .signRefresh request jti ∧
    (taken.source.phase request).issuing = some user

/-- The tokens reached from `origin` by rotations of the user's tokens. -/
inductive Descends (crypto : Crypto) (requests : Fin n → Request)
    (steps : List (Taken (State n) (Label n))) (user : String)
    (origin : String → Prop) : String → Prop where
  | origin {jti : String} (old : origin jti) :
      Descends crypto requests steps user origin jti
  | rotated {request : Fin n} {payload : RefreshPayload} {jti : String}
      (names : Names crypto (requests request) payload)
      (parent : Descends crypto requests steps user origin payload.jti)
      (minted : Mints steps request user jti) :
      Descends crypto requests steps user origin jti

/--
The tokens a commit is to end: those issued by then and, for a reset, those
minted by a login that had read the user's row by then.
-/
def Older (requests : Fin n → Request)
    (before steps : List (Taken (State n) (Label n)))
    (source : State n) (commit : Label n) (user jti : String) : Prop :=
  source.Issued jti ∨
    commit.isReset = true ∧ ∃ request,
      (requests request).isLogin = true ∧
      (∃ taken ∈ before, taken.label = .findUser request) ∧
      Mints steps request user jti

/-- A login that the row it has read will let in. -/
def Phase.entering (crypto : Crypto) (user : String) : Phase → Prop
  | .comparing password (some row) =>
      row.id = user ∧ crypto.comparePassword password row.passwordHash = true
  | _ => False

/--
At the commit no refresh stands between its rotation and its insert, and for a
reset no login stands between reading the row and its insert.
-/
structure NoneInFlight (crypto : Crypto) (requests : Fin n → Request)
    (user : String) (source : State n) (commit : Label n) : Prop where
  refreshes : ∀ request payload, Names crypto (requests request) payload →
    (source.phase request).issuing ≠ some user
  logins : commit.isReset = true →
    ∀ request, (requests request).isLogin = true →
      (source.phase request).issuing ≠ some user ∧
        ¬ (source.phase request).entering crypto user

/-! ## After the commit -/

/-- The sessions of the user that were open at `source` are over. -/
structure Ended (crypto : Crypto) (requests : Fin n → Request)
    (source : State n) (user : String) (state : State n) : Prop where
  tracked : Tracked crypto requests state
  issued : ∀ jti, source.Issued jti → state.Issued jti
  revoked : ∀ row ∈ state.tokens, source.Issued row.id →
    row.userId = user → row.revoked = true
  returned : ∀ request tokens, source.phase request = .returned tokens →
    state.phase request = .returned tokens
  barred : ∀ request payload, Names crypto (requests request) payload →
    payload.sub = user → source.Issued payload.jti →
      (state.phase request).spent = true → Succeeded source request

section Ended

variable {crypto : Crypto} {config : Config} {requests : Fin n → Request}
  {source state next : State n} {user : String} {label : Label n}

theorem Tracked.sub_of_issuing (tracked : Tracked crypto requests state)
    {request : Fin n} {payload : RefreshPayload} {userId : String}
    (names : Names crypto (requests request) payload)
    (issuing : (state.phase request).issuing = some userId) :
    payload.sub = userId := by
  have fits := tracked.fits request
  cases phase : state.phase request with
  | readingRole | signingAccess | signingRefresh =>
      rw [phase] at fits issuing
      cases issuing
      exact fits payload names
  | inserting =>
      rw [phase] at fits issuing
      cases issuing
      exact fits.1 payload names
  | waiting | findingTaken | creatingUser | storingVerification
  | findingUser | comparing | readingToken | checkingToken | rotating
  | revokingFamily | revokingToken | findingResetUser | resetting
  | deletingExpired | returned | finished | rejected =>
      rw [phase] at issuing
      cases issuing

/-- The commit revokes every row of the user. -/
theorem Ends.revoked (ends : Ends source user label)
    (acted : Acted crypto config requests source label next)
    {row : TokenRow} (member : row ∈ next.tokens)
    (owned : row.userId = user) : row.revoked = true := by
  cases ends with
  | family found =>
      cases acted with
      | revokeFamily other =>
          rw [found] at other
          cases other
          rcases stem_revokeWhere member with ⟨stored, _, same, hits⟩
          exact hits (beq_iff_eq.mpr (same.userId ▸ owned))
  | reset found present =>
      cases acted with
      | resetGone other gone =>
          rw [found] at other
          cases other
          rw [present] at gone
          cases gone
      | resetPassword other _ =>
          rw [found] at other
          cases other
          rcases stem_revokeWhere member with ⟨stored, _, same, hits⟩
          exact hits (beq_iff_eq.mpr (same.userId ▸ owned))

/-- Whoever commits is answered without tokens. -/
theorem Ends.not_spent (ends : Ends source user label)
    (acted : Acted crypto config requests source label next)
    {request : Fin n} (actor : label.actor = some request) :
    (next.phase request).spent = false := by
  cases ends with
  | family found =>
      cases acted with
      | revokeFamily =>
          cases actor
          change ((source.moveTo _ _).phase _).spent = false
          rw [phase_moveTo]
          rfl
  | reset found present =>
      cases acted with
      | resetPassword | resetGone =>
          cases actor
          change ((source.moveTo _ _).phase _).spent = false
          rw [phase_moveTo]
          rfl

/-- With nobody in flight the commit ends every session of the user. -/
theorem ended_of_commit (sound : crypto.Sound)
    (tracked : Tracked crypto requests source)
    (committed : step crypto config requests source label = some next)
    (ends : Ends source user label)
    (refreshes : ∀ request payload,
      Names crypto (requests request) payload →
        (source.phase request).issuing ≠ some user) :
    Ended crypto requests source user next := by
  have after := tracked_step sound committed tracked
  rcases Option.map_eq_some_iff.mp committed with ⟨reached, action, rfl⟩
  have acted := acted_of_act action
  refine ⟨after, fun jti issued => acted.issued issued, ?_, ?_, ?_⟩
  · exact fun row member _ owned => ends.revoked acted member owned
  · exact fun request tokens returned => acted.phase_of_returned returned
  · intro request payload names owned _ behind
    have behind : (source.phase request).spent = true := by
      rw [← acted.phase_of_ne fun actor => ?_]
      · exact behind
      · rw [← Bool.not_eq_false] at behind
        exact behind (ends.not_spent acted actor)
    rcases Phase.issuing_of_spent behind with ⟨userId, issuing⟩ | returned
    · have same := tracked.sub_of_issuing names issuing
      rw [← same, owned] at issuing
      exact (refreshes request payload names issuing).elim
    · exact returned

theorem ended_step (sound : crypto.Sound)
    (stepped : step crypto config requests state label = some next)
    (ended : Ended crypto requests source user state) :
    Ended crypto requests source user next := by
  have after := tracked_step sound stepped ended.tracked
  rcases Option.map_eq_some_iff.mp stepped with ⟨reached, action, rfl⟩
  have acted := acted_of_act action
  refine ⟨after, fun jti issued => acted.issued (ended.issued jti issued),
    ?_, ?_, ?_⟩
  · intro row member issued owned
    rcases acted.stem member with ⟨old, oldMember, same⟩ |
      ⟨request, userId, jti, tokens, found, rfl⟩
    · rw [same.id] at issued
      rw [same.userId] at owned
      exact same.revoked (ended.revoked old oldMember issued owned)
    · have drawn : (state.phase request).reserved = some jti := by
        rw [found]
        rfl
      exact ((ended.issued jti issued).2 request drawn).elim
  · exact fun request tokens returned =>
      acted.phase_of_returned (ended.returned request tokens returned)
  · intro request payload names owned issued behind
    have fits := ended.tracked.fits request
    change (reached.phase request).spent = true at behind
    rcases acted.moves request with same | moves
    · rw [same] at behind
      exact ended.barred request payload names owned issued behind
    rcases moves.spent behind with earlier | ⟨other, row, found, counted⟩ |
      ⟨_, _, found⟩ | ⟨_, _, found⟩
    · exact ended.barred request payload names owned issued earlier
    · -- the row it would rotate was revoked by the commit
      rw [found] at fits
      rcases fits with ⟨token, exp, asked, decoded, _, same, owner⟩
      cases names.unique ⟨token, exp, asked, decoded⟩
      have read := ended.tracked.read request row (by rw [found]; rfl)
      obtain ⟨stored, member, hit⟩ :=
        List.countP_pos_iff.mp (Nat.pos_of_ne_zero counted)
      simp only [Bool.and_eq_true, beq_iff_eq, Bool.not_eq_true'] at hit
      have kept := read.later stored member hit.1
      have revoked := ended.revoked stored member
        (by rw [hit.1, same]; exact issued)
        (by rw [kept.userId, owner]; exact owned)
      rw [hit.2] at revoked
      cases revoked
    · rw [found] at fits
      exact (fits payload names).elim
    · rw [found] at fits
      exact (fits payload names).elim

/-! ## Tokens minted around the commit -/

/-- An id drawn for the user is issued, or its request still has it. -/
theorem Acted.drawn
    (acted : Acted crypto config requests state label next)
    {request : Fin n} {jti : String}
    (drawn : jti ∈ state.issued ∧ ∀ other,
      (state.phase other).reserved = some jti →
        other = request ∧ (state.phase other).issuing = some user) :
    jti ∈ next.issued ∧ ∀ other,
      (next.phase other).reserved = some jti →
        other = request ∧ (next.phase other).issuing = some user := by
  refine ⟨acted.issued_subset drawn.1, fun other holds => ?_⟩
  rcases acted.moves other with same | moves
  · rw [same] at holds ⊢
    exact drawn.2 other holds
  · exact (moves.reserved holds drawn.1).elim

/-- A token minted on the way to a state is issued there or held back. -/
theorem issued_of_minted {start : State n} {labels : List (Label n)}
    (spending : Spending crypto requests start)
    (reached :
      (machine crypto config requests).run start labels = some source)
    {request : Fin n} {jti : String}
    (minted : Mints ((machine crypto config requests).transitions start
      labels) request user jti) :
    source.Issued jti ∨ (source.phase request).issuing = some user := by
  rcases minted with ⟨taken, member, drew, issuing⟩
  obtain ⟨before, after, split, arrived, stepped⟩ :=
    (Machine.mem_transitions_iff _).mp member
  have left : (machine crypto config requests).run taken.target after =
      some source := by
    rw [split, Machine.run_append, arrived, Option.bind_some,
      Machine.run_cons, stepped] at reached
    exact reached
  have held : jti ∈ taken.target.issued ∧ ∀ other,
      (taken.target.phase other).reserved = some jti →
        other = request ∧
          (taken.target.phase other).issuing = some user := by
    have earlier : Spending crypto requests taken.source :=
      Machine.run_preserves _ spending_step spending arrived
    rw [drew] at stepped
    rcases Option.map_eq_some_iff.mp stepped with ⟨_, action, same⟩
    rw [← same]
    cases acted_of_act action with
    | signRefresh found unused =>
        refine ⟨by simp [State.recorded], fun other holds => ?_⟩
        change ((taken.source.moveTo _ _).phase other).reserved = _ at holds
        change other = request ∧
          ((taken.source.moveTo _ _).phase other).issuing = _
        by_cases actor : other = request
        · subst actor
          rw [phase_moveTo]
          rw [found] at issuing
          exact ⟨rfl, issuing⟩
        · rw [phase_moveTo_of_ne actor] at holds
          exact (unused (earlier.reserved other jti holds).1).elim
  have kept := Machine.run_preserves
    (fun state : State n => jti ∈ state.issued ∧ ∀ other,
      (state.phase other).reserved = some jti →
        other = request ∧ (state.phase other).issuing = some user)
    (fun stepped held => by
      rcases Option.map_eq_some_iff.mp stepped with ⟨_, action, rfl⟩
      exact (acted_of_act action).drawn held) held left
  by_cases drawn : ∃ other, (source.phase other).reserved = some jti
  · rcases drawn with ⟨other, holds⟩
    rcases kept.2 other holds with ⟨rfl, still⟩
    exact Or.inr still
  · exact Or.inl ⟨kept.1, fun other holds => drawn ⟨other, holds⟩⟩

/-- A login that has looked its user up. -/
def Phase.beyondLookup : Phase → Bool
  | .comparing _ _ | .readingRole _ _ | .signingAccess _ _ _
  | .signingRefresh _ _ _ | .inserting _ _ _ | .returned _
  | .rejected => true
  | _ => false

/-- What such a login can do. -/
theorem Moves.login_cases {request : Request} {before after : Phase}
    (moves : Moves crypto config state request before after)
    (beyond : before.beyondLookup = true) :
    after.beyondLookup = true ∧
      ∀ user, ¬ after.entering crypto user ∧
        (after.issuing = some user →
          before.issuing = some user ∨ before.entering crypto user) := by
  cases moves with
  | loggedIn accepted =>
      refine ⟨rfl, fun user => ⟨fun opened => opened, fun opened => ?_⟩⟩
      cases opened
      exact Or.inr ⟨rfl, accepted⟩
  | readRole | signAccess | signRefresh =>
      exact ⟨rfl, fun user => ⟨fun opened => opened, Or.inl⟩⟩
  | inserted | refused =>
      refine ⟨rfl, fun user => ⟨fun opened => opened, fun opened => ?_⟩⟩
      cases opened
  | begin | emailFree | userCreated | verificationStored | findUser
  | tokenRead | checkToken | reused | rotated | resetFound | tokenRevoked
  | passwordReset | swept => cases beyond

theorem Acted.beyondLookup
    (acted : Acted crypto config requests state label next)
    {request : Fin n}
    (beyond : (state.phase request).beyondLookup = true) :
    (next.phase request).beyondLookup = true := by
  rcases acted.moves request with same | moves
  · rw [same]
    exact beyond
  · exact (moves.login_cases beyond).1

/-- A login that will not open a session of the user. -/
structure Phase.Outside (crypto : Crypto) (user : String)
    (phase : Phase) : Prop where
  beyond : phase.beyondLookup = true
  issuing : phase.issuing ≠ some user
  entering : ¬ phase.entering crypto user

theorem Acted.outside
    (acted : Acted crypto config requests state label next)
    {request : Fin n}
    (outside : (state.phase request).Outside crypto user) :
    (next.phase request).Outside crypto user := by
  rcases acted.moves request with same | moves
  · rw [same]
    exact outside
  · rcases moves.login_cases outside.beyond with ⟨still, moved⟩
    refine ⟨still, fun opened => ?_, (moved user).1⟩
    rcases (moved user).2 opened with earlier | earlier
    · exact outside.issuing earlier
    · exact outside.entering earlier

/-- A login that had read the row by a state has looked its user up there. -/
theorem beyondLookup_of_findUser {start : State n}
    {labels : List (Label n)}
    (reached :
      (machine crypto config requests).run start labels = some source)
    {request : Fin n}
    (looked : ∃ taken ∈ (machine crypto config requests).transitions start
      labels, taken.label = .findUser request) :
    (source.phase request).beyondLookup = true := by
  rcases looked with ⟨taken, member, lookup⟩
  obtain ⟨before, after, split, arrived, stepped⟩ :=
    (Machine.mem_transitions_iff _).mp member
  rw [split, Machine.run_append, arrived, Option.bind_some,
    Machine.run_cons, stepped] at reached
  refine Machine.run_preserves
    (fun state : State n => (state.phase request).beyondLookup = true)
    (fun stepped beyond => ?_) ?_ reached
  · rcases Option.map_eq_some_iff.mp stepped with ⟨_, action, rfl⟩
    exact (acted_of_act action).beyondLookup beyond
  · rw [lookup] at stepped
    rcases Option.map_eq_some_iff.mp stepped with ⟨_, action, same⟩
    rw [← same]
    cases acted_of_act action with
    | findUser found =>
        change ((State.moveTo _ _ _).phase _).beyondLookup = true
        rw [phase_moveTo]
        rfl

/-! ## Runs -/

variable {start target final : State n} {commit : Label n}
  {before after : List (Label n)}

/-- The steps of a run around one of its labels. -/
theorem transitions_around
    (reached :
      (machine crypto config requests).run start before = some source)
    (committed : step crypto config requests source commit = some target) :
    (machine crypto config requests).transitions start
        (before ++ commit :: after) =
      (machine crypto config requests).transitions start before ++
        ⟨source, commit, target⟩ ::
          (machine crypto config requests).transitions target after := by
  rw [Machine.transitions_append _ reached,
    Machine.transitions_cons_of_step _ committed]

theorem Ends.not_signRefresh (ends : Ends source user commit)
    {request : Fin n} {jti : String} : commit ≠ .signRefresh request jti := by
  cases ends with
  | family | reset => rintro ⟨⟩

/-- Whatever an in-flight-free run mints for the user, it mints elsewhere. -/
theorem issued_of_mints
    (spending : Spending crypto requests start)
    (reached :
      (machine crypto config requests).run start before = some source)
    (committed : step crypto config requests source commit = some target)
    (ends : Ends source user commit)
    {request : Fin n} {jti : String}
    (idle : (source.phase request).issuing ≠ some user)
    (never : ∀ taken ∈ (machine crypto config requests).transitions target
      after, (taken.source.phase request).issuing ≠ some user)
    (minted : Mints ((machine crypto config requests).transitions start
      (before ++ commit :: after)) request user jti) :
    source.Issued jti := by
  rcases minted with ⟨taken, member, drew, issuing⟩
  rw [transitions_around reached committed] at member
  rcases List.mem_append.mp member with early | later
  · exact (issued_of_minted spending reached
      ⟨taken, early, drew, issuing⟩).resolve_right idle
  · rcases List.mem_cons.mp later with rfl | late
    · exact (ends.not_signRefresh drew).elim
    · exact (never taken late issuing).elim

/-- Nothing that descends from an older session was issued later. -/
theorem issued_of_descends (sound : crypto.Sound)
    (tracked : Tracked crypto requests start)
    (reached :
      (machine crypto config requests).run start before = some source)
    (committed : step crypto config requests source commit = some target)
    (ends : Ends source user commit)
    (quiet : NoneInFlight crypto requests user source commit)
    {jti : String}
    (descends : Descends crypto requests
      ((machine crypto config requests).transitions start
        (before ++ commit :: after)) user
      (Older requests
        ((machine crypto config requests).transitions start before)
        ((machine crypto config requests).transitions start
          (before ++ commit :: after)) source commit user) jti) :
    source.Issued jti := by
  have atSource : Tracked crypto requests source :=
    tracked.run sound reached
  have ended : Ended crypto requests source user target :=
    ended_of_commit sound atSource committed ends quiet.refreshes
  induction descends with
  | origin old =>
      rcases old with issued | ⟨isReset, request, login, looked, minted⟩
      · exact issued
      · rcases quiet.logins isReset request login with ⟨idle, outside⟩
        refine issued_of_mints tracked.spending reached committed ends idle
          (fun taken member => ?_) minted
        have barred : (target.phase request).Outside crypto user := by
          rcases Option.map_eq_some_iff.mp committed with ⟨_, action, rfl⟩
          exact (acted_of_act action).outside
            ⟨beyondLookup_of_findUser reached looked, idle, outside⟩
        have still := Machine.source_preserves
          (fun state : State n => (state.phase request).Outside crypto user)
          (fun stepped held => by
            rcases Option.map_eq_some_iff.mp stepped with ⟨_, action, rfl⟩
            exact (acted_of_act action).outside held)
          barred member
        exact still.issuing
  | rotated names parent minted issued =>
      rename_i request payload child
      refine issued_of_mints tracked.spending reached committed ends
        (quiet.refreshes request payload names)
        (fun taken member issuing => ?_) minted
      have later : Ended crypto requests source user taken.source :=
        Machine.source_preserves _ (ended_step sound) ended member
      have owned := later.tracked.sub_of_issuing names issuing
      have behind : (taken.source.phase request).spent = true := by
        cases phase : taken.source.phase request <;>
          rw [phase] at issuing <;> first | rfl | cases issuing
      obtain ⟨tokens, returned⟩ :=
        later.barred request payload names owned issued behind
      rw [later.returned request tokens returned] at issuing
      cases issuing

end Ended

/-! ## Requests in flight -/

/-- The request can go on to return a pair whose row is live. -/
def Returns (crypto : Crypto) (config : Config) (requests : Fin n → Request)
    (state : State n) (request : Fin n) (user : String) : Prop :=
  ∃ labels final tokens,
    (machine crypto config requests).run state labels = some final ∧
      final.phase request = .returned tokens ∧
      ∃ row ∈ final.tokens, row.userId = user ∧ row.revoked = false ∧
        row.tokenHash = crypto.hashToken tokens.refreshToken

section Flight

variable {crypto : Crypto} {config : Config} {requests : Fin n → Request}
  {state next : State n} {request : Fin n} {user : String}

theorem Returns.act {label : Label n}
    (action : act crypto config requests state label = some next)
    (returns : Returns crypto config requests (state.recorded label next)
      request user) :
    Returns crypto config requests state request user := by
  rcases returns with ⟨labels, final, tokens, reached, rest⟩
  refine ⟨label :: labels, final, tokens, ?_, rest⟩
  rw [Machine.run_cons]
  refine Option.bind_eq_some_iff.mpr ⟨_, ?_, reached⟩
  exact Option.map_eq_some_iff.mpr ⟨next, action, rfl⟩

theorem returns_of_inserting {jti : String} {tokens : Tokens}
    (found : state.phase request = .inserting user jti tokens)
    (present : hasUser state.users user = true) :
    Returns crypto config requests state request user := by
  have action : act crypto config requests state (.insertToken request) =
      some { state.moveTo request (.returned tokens) with
        tokens := state.tokens ++
          [newRow crypto config state.clock user jti tokens] } := by
    simp only [act, found, present, if_true]
    rfl
  refine Returns.act action ⟨[], _, tokens, rfl, phase_moveTo _ _ _, ?_⟩
  exact ⟨newRow crypto config state.clock user jti tokens,
    List.mem_append_right _ (List.mem_singleton.mpr rfl), rfl, rfl, rfl⟩

theorem returns_of_signingRefresh {email accessToken : String}
    (found :
      state.phase request = .signingRefresh user email accessToken)
    (present : hasUser state.users user = true) :
    Returns crypto config requests state request user := by
  obtain ⟨jti, unused⟩ :=
    Infinite.exists_notMem_finset state.issued.toFinset
  rw [List.mem_toFinset] at unused
  have action : act crypto config requests state
      (.signRefresh request jti) =
      some { state.moveTo request (.inserting user jti ⟨accessToken,
          crypto.signRefresh ⟨user, some email, jti⟩
            (state.clock / 1000 + config.refreshTtlMs / 1000)⟩) with
        issued := state.issued ++ [jti] } := by
    simp only [act, found, unused, if_false]
  exact Returns.act action
    (returns_of_inserting (phase_moveTo _ _ _) present)

theorem returns_of_signingAccess {email : String} {role : Role}
    (found : state.phase request = .signingAccess user email role)
    (present : hasUser state.users user = true) :
    Returns crypto config requests state request user := by
  have action : act crypto config requests state (.signAccess request) =
      some (state.moveTo request (.signingRefresh user email
        (crypto.signAccess ⟨user, email, role⟩
          (state.clock / 1000 + config.accessTtlMs / 1000)))) := by
    simp only [act, found]
  exact Returns.act action
    (returns_of_signingRefresh (phase_moveTo _ _ _) present)

theorem returns_of_readingRole {email : String}
    (found : state.phase request = .readingRole user email)
    (present : hasUser state.users user = true) :
    Returns crypto config requests state request user := by
  have action : act crypto config requests state (.readRole request) =
      some (state.moveTo request (.signingAccess user email
        (((state.users.find? fun stored => stored.id == user).map
          UserRow.role).getD .user))) := by
    simp only [act, found]
  exact Returns.act action
    (returns_of_signingAccess (phase_moveTo _ _ _) present)

/-- Whoever issues tokens for an existing user can finish. -/
theorem returns_of_issuing
    (issuing : (state.phase request).issuing = some user)
    (present : hasUser state.users user = true) :
    Returns crypto config requests state request user := by
  cases phase : state.phase request with
  | inserting =>
      rw [phase] at issuing
      cases issuing
      exact returns_of_inserting phase present
  | signingRefresh =>
      rw [phase] at issuing
      cases issuing
      exact returns_of_signingRefresh phase present
  | signingAccess =>
      rw [phase] at issuing
      cases issuing
      exact returns_of_signingAccess phase present
  | readingRole =>
      rw [phase] at issuing
      cases issuing
      exact returns_of_readingRole phase present
  | waiting | findingTaken | creatingUser | storingVerification
  | findingUser | comparing | readingToken | checkingToken | rotating
  | revokingFamily | revokingToken | findingResetUser | resetting
  | deletingExpired | returned | finished | rejected =>
      rw [phase] at issuing
      cases issuing

theorem returns_of_entering
    (entering : (state.phase request).entering crypto user)
    (present : hasUser state.users user = true) :
    Returns crypto config requests state request user := by
  cases phase : state.phase request with
  | comparing password read =>
      rw [phase] at entering
      cases read with
      | none => exact entering.elim
      | some row =>
          rcases entering with ⟨rfl, accepted⟩
          have action : act crypto config requests state
              (.compare request) =
              some (state.moveTo request
                (.readingRole row.id row.email)) := by
            simp only [act, phase, accepted, if_true]
          exact Returns.act action
            (returns_of_readingRole (phase_moveTo _ _ _) present)
  | waiting | findingTaken | creatingUser | storingVerification
  | findingUser | readingToken | checkingToken | rotating | revokingFamily
  | readingRole | signingAccess | signingRefresh | inserting
  | revokingToken | findingResetUser | resetting | deletingExpired
  | returned | finished | rejected =>
      rw [phase] at entering
      exact entering.elim

/-- A mass revocation does not touch a request in flight. -/
theorem Ends.returns {source : State n} {commit : Label n}
    (ends : Ends source user commit)
    (committed : step crypto config requests source commit = some next)
    (present : hasUser next.users user = true)
    (flight : (source.phase request).issuing = some user ∨
      (source.phase request).entering crypto user) :
    Returns crypto config requests next request user := by
  rcases Option.map_eq_some_iff.mp committed with ⟨after, action, rfl⟩
  have unmoved : after.phase request = source.phase request := by
    refine (acted_of_act action).phase_of_ne fun actor => ?_
    cases ends with
    | family found | reset found =>
        cases actor
        rw [found] at flight
        rcases flight with issuing | entering
        · cases issuing
        · exact entering
  rcases flight with issuing | entering
  · refine returns_of_issuing ?_ present
    change (after.phase request).issuing = some user
    rw [unmoved]
    exact issuing
  · refine returns_of_entering ?_ present
    change (after.phase request).entering crypto user
    rw [unmoved]
    exact entering

end Flight

/--
If nobody is in flight at a mass revocation, no later refresh succeeds with a
token of the user that is older or descends from an older one.  Whoever is in
flight there can still return a pair whose row is live.
-/
theorem mass_revocation_ends_older_sessions (crypto : Crypto)
    (config : Config) (requests : Fin n → Request) (sound : crypto.Sound)
    {start source target final : State n} {commit : Label n}
    {before after : List (Label n)} {user : String}
    (initial : Initial start)
    (genuine : ∀ row ∈ start.tokens, Genuine crypto row)
    (reached :
      (machine crypto config requests).run start before = some source)
    (committed :
      (machine crypto config requests).step source commit = some target)
    (ends : Ends source user commit)
    (later :
      (machine crypto config requests).run target after = some final) :
    (NoneInFlight crypto requests user source commit →
      ∀ request payload, Names crypto (requests request) payload →
        payload.sub = user →
        Descends crypto requests
          ((machine crypto config requests).transitions start
            (before ++ commit :: after)) user
          (Older requests
            ((machine crypto config requests).transitions start before)
            ((machine crypto config requests).transitions start
              (before ++ commit :: after)) source commit user)
          payload.jti →
        Succeeded final request → Succeeded source request) ∧
    ∀ request, (source.phase request).issuing = some user ∨
        (source.phase request).entering crypto user →
      hasUser target.users user = true →
        Returns crypto config requests target request user := by
  constructor
  · intro quiet request payload names owned descends succeeded
    have tracked : Tracked crypto requests start := initial.tracked genuine
    have issued : source.Issued payload.jti :=
      issued_of_descends sound tracked reached committed ends quiet descends
    have ended : Ended crypto requests source user final :=
      Machine.run_preserves _ (ended_step sound)
        (ended_of_commit sound (tracked.run sound reached) committed ends
          quiet.refreshes) later
    refine ended.barred request payload names owned issued ?_
    rcases succeeded with ⟨tokens, returned⟩
    rw [returned]
    rfl
  · exact fun request flight present =>
      ends.returns committed present flight

/-! ## A replay beside a rotation -/

/-- The first row was rotated earlier, the second one is live. -/
def replayed : State n where
  clock := 0
  users := [⟨"u", "e", "p", .user, true, none, none⟩]
  tokens := [rowOf "0" true, rowOf "1" false]
  issued := ["u", "0", "1"]
  phase _ := .waiting
  revocations := []

theorem replayed_initial : Initial (replayed : State n) :=
  ⟨fun _ => rfl, by simp [replayed, rowOf], by simp [replayed, rowOf], rfl⟩

theorem replayed_genuine :
    ∀ row ∈ (replayed : State n).tokens, Genuine plainTokens row := by
  intro row member
  simp only [replayed, List.mem_cons, List.not_mem_nil, or_false] at member
  rcases member with rfl | rfl
  · exact genuine_rowOf "0" true
  · exact genuine_rowOf "1" false

/-- Each request refreshes with the token of one id. -/
def refreshing (jtis : List String) (request : Fin n) : Request :=
  .refresh (tokenOf (jtis.getD request.val ""))

/-- The replay ends the other session for good. -/
theorem replay_ends_idle_session :
    ∃ source target final : State 2,
      (machine plainTokens ⟨5000, 5000⟩ (refreshing ["0", "1"])).run
          replayed (deciding 0) = some source ∧
        (machine plainTokens ⟨5000, 5000⟩ (refreshing ["0", "1"])).step
          source (.revokeFamily 0) = some target ∧
        (machine plainTokens ⟨5000, 5000⟩ (refreshing ["0", "1"])).run
          target (deciding 1 ++ [.revokeFamily 1]) = some final ∧
        source.Issued "1" ∧ ¬ Succeeded final 1 := by
  obtain ⟨source, reached⟩ : ∃ source : State 2,
      (machine plainTokens ⟨5000, 5000⟩ (refreshing ["0", "1"])).run
        replayed (deciding 0) = some source := ⟨_, rfl⟩
  obtain ⟨target, committed⟩ : ∃ target : State 2,
      (machine plainTokens ⟨5000, 5000⟩ (refreshing ["0", "1"])).step
        source (.revokeFamily 0) = some target := by
    cases reached
    exact ⟨_, rfl⟩
  obtain ⟨final, later⟩ : ∃ final : State 2,
      (machine plainTokens ⟨5000, 5000⟩ (refreshing ["0", "1"])).run
        target (deciding 1 ++ [.revokeFamily 1]) = some final := by
    cases reached
    cases committed
    exact ⟨_, rfl⟩
  have ends : Ends source "u" (.revokeFamily 0) := by
    cases reached
    exact .family rfl
  have idle : ∀ request, (source.phase request).issuing ≠ some "u" := by
    cases reached
    decide
  have issued : source.Issued "1" := by
    cases reached
    exact ⟨by decide, by decide⟩
  have waiting : ¬ Succeeded source 1 := by
    cases reached
    rintro ⟨tokens, returned⟩
    cases returned
  refine ⟨source, target, final, reached, committed, later, issued, ?_⟩
  intro succeeded
  refine waiting ((mass_revocation_ends_older_sessions plainTokens _ _
    plainTokens_sound replayed_initial replayed_genuine reached committed
    ends later).1 ⟨fun request _ _ => idle request, ?_⟩ 1
    ⟨"u", some "e", "1"⟩ (names_tokenOf "1") rfl
    (.origin (Or.inl issued)) succeeded)
  intro reset
  cases reset

/-- The rotation in flight brings the revoked session back. -/
def revivingLabels (first third : Fin n) : List (Label n) :=
  [.readRole first, .signAccess first, .signRefresh first "2",
    .insertToken first] ++ deciding third ++ rotating third "3"

/--
A replay revokes the family while a rotation waits to insert its row.  A
refresh that begins afterwards succeeds with the token of that row.
-/
theorem revoked_session_goes_on :
    ∃ source target final : State 3,
      (machine plainTokens ⟨5000, 5000⟩ (refreshing ["1", "0", "2"])).run
          replayed (deciding 0 ++ [.rotate 0] ++ deciding 1) =
            some source ∧
        Ends source "u" (.revokeFamily 1) ∧
        (machine plainTokens ⟨5000, 5000⟩
          (refreshing ["1", "0", "2"])).step source (.revokeFamily 1) =
            some target ∧
        (machine plainTokens ⟨5000, 5000⟩ (refreshing ["1", "0", "2"])).run
          target (revivingLabels 0 2) = some final ∧
        target.phase 2 = .waiting ∧
        Names plainTokens (refreshing ["1", "0", "2"] (2 : Fin 3))
          ⟨"u", some "e", "2"⟩ ∧
        Descends plainTokens (refreshing ["1", "0", "2"])
          ((machine plainTokens ⟨5000, 5000⟩
            (refreshing ["1", "0", "2"])).transitions target
              (revivingLabels 0 2)) "u" source.Issued "2" ∧
        Succeeded final 2 := by
  have first : Names plainTokens (refreshing ["1", "0", "2"] (0 : Fin 3))
      ⟨"u", some "e", "1"⟩ :=
    names_tokenOf "1"
  refine ⟨_, _, _, rfl, .family rfl, rfl, rfl, rfl, names_tokenOf "2", ?_,
    ⟨_, rfl⟩⟩
  · refine .rotated first (.origin ⟨by decide, by decide⟩) ?_
    exact ⟨_, List.mem_of_getElem? (i := 2) rfl, rfl, rfl⟩

end WeatherNotify.Auth

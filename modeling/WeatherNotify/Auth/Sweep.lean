import WeatherNotify.Auth.Duration
import WeatherNotify.Auth.Lineage

/-!
# The sweep never hides a replay

`pruneStaleTokens` deletes rows by `expiresAt` alone, in milliseconds from the
insert.  A token stops verifying at its `exp`, in whole seconds from the
signing, which comes no later.  So the row of a token that still verifies is
there, and the refresh that presents a spent one finds the flag.
-/

namespace WeatherNotify.Auth

open WeatherNotify.Transition

variable {n : Nat}

/-- A pair with this refresh token was returned to a client. -/
def Returned (state : State n) (token : String) : Prop :=
  ∃ request tokens, state.phase request = .returned tokens ∧
    tokens.refreshToken = token

/-- A returned token that verifies now and whose user exists. -/
structure Presentable (crypto : Crypto) (state : State n) (token : String)
    (payload : RefreshPayload) : Prop where
  returned : Returned state token
  verifies : crypto.verifyRefresh state.clock token = some payload
  present : hasUser state.users payload.sub = true

/-- The row that answers for a token which expires at second `exp`. -/
structure Answers (crypto : Crypto) (token : String)
    (payload : RefreshPayload) (exp : Int) (row : TokenRow) : Prop where
  id : row.id = payload.jti
  userId : row.userId = payload.sub
  tokenHash : row.tokenHash = crypto.hashToken token
  outlasts : exp * 1000 ≤ row.expiresAt

theorem Answers.later {crypto : Crypto} {token : String}
    {payload : RefreshPayload} {exp : Int} {row stored : TokenRow}
    (answers : Answers crypto token payload exp row)
    (same : SameRow row stored) :
    Answers crypto token payload exp stored where
  id := same.id.trans answers.id
  userId := same.userId.trans answers.userId
  tokenHash := same.tokenHash.trans answers.tokenHash
  outlasts := by
    rw [same.expiresAt]
    exact answers.outlasts

/-! ## The invariant -/

structure Swept (crypto : Crypto) (config : Config) (state : State n) :
    Prop where
  registered : ∀ user, hasUser state.users user = true →
    user ∈ state.issued
  inserting : ∀ request userId jti tokens,
    state.phase request = .inserting userId jti tokens →
      ∃ email exp, crypto.decodeRefresh tokens.refreshToken =
          some (⟨userId, email, jti⟩, exp) ∧
        exp * 1000 ≤ state.clock + config.refreshTtlMs
  answered : ∀ request tokens, state.phase request = .returned tokens →
    ∃ payload exp, crypto.decodeRefresh tokens.refreshToken =
        some (payload, exp) ∧
      payload.sub ∈ state.issued ∧
      (hasUser state.users payload.sub = true → state.clock / 1000 < exp →
        ∃ row ∈ state.tokens,
          Answers crypto tokens.refreshToken payload exp row)

theorem Initial.swept {crypto : Crypto} {config : Config} {state : State n}
    (initial : Initial state)
    (registered : ∀ user, hasUser state.users user = true →
      user ∈ state.issued) : Swept crypto config state where
  registered := registered
  inserting request userId jti tokens found := by
    rw [initial.waiting request] at found
    cases found
  answered request tokens found := by
    rw [initial.waiting request] at found
    cases found

section Step

variable {crypto : Crypto} {config : Config} {requests : Fin n → Request}
  {state next : State n} {label : Label n}

/-- A row that answers for a verifying token of an existing user stays. -/
theorem Acted.answers_stays
    (acted : Acted crypto config requests state label next)
    {token : String} {payload : RefreshPayload} {exp : Int}
    (present : hasUser next.users payload.sub = true)
    (verifies : next.clock / 1000 < exp)
    (answered : ∃ row ∈ state.tokens,
      Answers crypto token payload exp row) :
    ∃ row ∈ next.tokens, Answers crypto token payload exp row := by
  rcases answered with ⟨row, member, answers⟩
  rcases acted.persists member with ⟨stored, storedMember, same⟩ |
    ⟨request, _, expired⟩ | deleted
  · exact ⟨stored, storedMember, answers.later same⟩
  · -- the token stops verifying before its row expires
    have outlasts := answers.outlasts
    have later := acted.clock_le
    omega
  · rw [answers.userId] at deleted
    subst deleted
    cases acted with
    | deleteUser =>
        change hasUser (state.users.filter _) payload.sub = true at present
        rw [hasUser_filter, bne_self_eq_false, Bool.and_false] at present
        cases present

namespace Moves

variable {request : Request} {before after : Phase}

/-- The refresh token of a pair is signed in the move that draws its id. -/
theorem inserting (moves : Moves crypto config state request before after)
    {userId jti : String} {tokens : Tokens}
    (found : after = .inserting userId jti tokens) :
    ∃ email, tokens.refreshToken =
      crypto.signRefresh ⟨userId, some email, jti⟩
        (state.clock / 1000 + config.refreshTtlMs / 1000) := by
  have drawn : after.reserved = some jti := by rw [found]; rfl
  cases moves with
  | begin =>
      rw [(opening_plain _ _ _).1] at drawn
      cases drawn
  | checkToken =>
      rw [(checked_plain _ _ _ _ _).1] at drawn
      cases drawn
  | signRefresh unused =>
      cases found
      exact ⟨_, rfl⟩
  | emailFree | userCreated | verificationStored | findUser | loggedIn
  | tokenRead | reused | rotated | readRole | signAccess | inserted
  | resetFound | refused | tokenRevoked | passwordReset | swept => cases drawn

end Moves

/-- The insert leaves the row in the table. -/
theorem Acted.newRow_mem
    (acted : Acted crypto config requests state label next)
    {request : Fin n} {userId jti : String} {tokens : Tokens}
    (found : state.phase request = .inserting userId jti tokens)
    (returned : next.phase request = .returned tokens) :
    newRow crypto config state.clock userId jti tokens ∈ next.tokens := by
  have actor : label.actor = some request := by
    by_contra different
    rw [acted.phase_of_ne different, found] at returned
    cases returned
  have reads : ∀ {phase : Phase}, state.phase request = phase →
      phase = .inserting userId jti tokens := fun same => same.symm.trans found
  cases acted with
  | inserted reading =>
      cases actor
      cases reads reading
      exact List.mem_append_right _ (List.mem_singleton.mpr rfl)
  | insertRejected =>
      cases actor
      rw [phase_moveTo] at returned
      cases returned
  | tick | deleteUser => cases actor
  | begin reading | emailTaken reading | emailFree reading
  | emailRaced reading | userCreated reading | verificationStored reading
  | verificationGone reading | findUser reading | loggedIn reading
  | loginRejected reading | tokenMissing reading | tokenRead reading
  | checkToken reading | reused reading | rotated reading
  | revokeFamily reading | readRole reading | signAccess reading
  | signRefresh reading | revokeToken reading | resetRejected reading
  | resetFound reading | resetPassword reading | resetGone reading
  | deleteExpired reading =>
      cases actor
      cases reads reading

theorem swept_step (sound : crypto.Sound)
    (stepped : step crypto config requests state label = some next)
    (swept : Swept crypto config state) : Swept crypto config next := by
  rcases Option.map_eq_some_iff.mp stepped with ⟨reached, action, rfl⟩
  have acted := acted_of_act action
  have later := acted.clock_le
  refine ⟨fun user present => ?_, fun request userId jti tokens found => ?_,
    fun request tokens found => ?_⟩
  · rcases acted.user_before present with ⟨before, _⟩ | ⟨_, drawn, _⟩
    · exact acted.issued_subset (swept.registered user before)
    · exact drawn
  · change reached.phase request = _ at found
    change ∃ email exp, _ ∧ exp * 1000 ≤ reached.clock + _
    rcases acted.moves request with same | moves
    · rw [same] at found
      obtain ⟨email, exp, decoded, outlasts⟩ :=
        swept.inserting request userId jti tokens found
      exact ⟨email, exp, decoded, by omega⟩
    · rcases moves.inserting found with ⟨email, signed⟩
      refine ⟨some email,
        state.clock / 1000 + config.refreshTtlMs / 1000, ?_, by omega⟩
      rw [signed, sound.decoded]
  · change reached.phase request = _ at found
    have carried : ∃ payload exp,
        crypto.decodeRefresh tokens.refreshToken = some (payload, exp) ∧
        payload.sub ∈ state.issued ∧
        (hasUser reached.users payload.sub = true →
          reached.clock / 1000 < exp →
            ∃ row ∈ reached.tokens,
              Answers crypto tokens.refreshToken payload exp row) := by
      rcases acted.moves request with same | moves
      · rw [same] at found
        obtain ⟨payload, exp, decoded, drawn, answered⟩ :=
          swept.answered request tokens found
        refine ⟨payload, exp, decoded, drawn, fun present verifies => ?_⟩
        refine acted.answers_stays present verifies (answered ?_ (by omega))
        rcases acted.user_before present with ⟨before, _⟩ | ⟨unused, _, _⟩
        · exact before
        · exact (unused drawn).elim
      · rcases moves.returned found with ⟨userId, jti, inserting, present⟩
        obtain ⟨email, exp, decoded, outlasts⟩ :=
          swept.inserting request userId jti tokens inserting
        refine ⟨_, exp, decoded, swept.registered userId present,
          fun _ _ => ⟨_, acted.newRow_mem inserting found, ?_⟩⟩
        exact ⟨rfl, rfl, rfl, outlasts⟩
    rcases carried with ⟨payload, exp, decoded, drawn, answered⟩
    exact ⟨payload, exp, decoded, acted.issued_subset drawn, answered⟩

/-- The row of a token that can be presented is there and has not expired. -/
theorem Swept.findToken (swept : Swept crypto config state)
    (spending : Spending crypto requests state)
    {token : String} {payload : RefreshPayload}
    (presentable : Presentable crypto state token payload) :
    ∃ row, findToken state.tokens payload.jti = some row ∧
      row.userId = payload.sub ∧ state.clock ≤ row.expiresAt ∧
        crypto.verifyTokenHash token row.tokenHash = true := by
  rcases presentable.returned with ⟨request, tokens, found, rfl⟩
  obtain ⟨said, exp, decoded, _, answered⟩ :=
    swept.answered request tokens found
  have verifies := presentable.verifies
  simp only [Crypto.verifyRefresh, decoded] at verifies
  split at verifies
  next early =>
    cases verifies
    rcases answered presentable.present early with ⟨row, member, answers⟩
    have outlasts := answers.outlasts
    refine ⟨row, ?_, answers.userId, by omega, ?_⟩
    · obtain ⟨stored, storedFound⟩ : ∃ stored,
          Auth.findToken state.tokens payload.jti = some stored := by
        refine Option.isSome_iff_exists.mp (List.find?_isSome.mpr ?_)
        exact ⟨row, member, beq_iff_eq.mpr answers.id⟩
      rw [storedFound, row_unique spending.distinct
        (List.mem_of_find?_eq_some storedFound) member
        ((findToken_id storedFound).trans answers.id.symm)]
    · rw [Crypto.verifyTokenHash, answers.tokenHash, beq_self_eq_true]
  next => cases verifies

/-! ## A refresh that presents a spent token -/

/-- Whoever presents the token now finds it spent. -/
def Exposed (crypto : Crypto) (state : State n) (token : String)
    (payload : RefreshPayload) : Prop :=
  ∃ row, findToken state.tokens payload.jti = some row ∧
    checked crypto state.clock token payload row =
      .revokingFamily row.userId

theorem Swept.exposed (swept : Swept crypto config state)
    (spending : Spending crypto requests state)
    {token : String} {payload : RefreshPayload}
    (presentable : Presentable crypto state token payload)
    {other : Fin n}
    (rotated : (payload.jti, .rotate other) ∈ state.revocations) :
    Exposed crypto state token payload := by
  obtain ⟨row, stored, _, unexpired, passes⟩ :=
    swept.findToken spending presentable
  refine ⟨row, stored, ?_⟩
  have revoked : row.revoked = true :=
    (spending.closed payload.jti (List.mem_map.mpr ⟨_, rotated, rfl⟩)).2
      row (List.mem_of_find?_eq_some stored) (findToken_id stored)
  simp only [checked, Int.not_lt.mpr unexpired, passes, revoked, if_false,
    if_true, Bool.not_true, Bool.false_eq_true]

/-- The phases of a refresh on its way to the family revocation. -/
def Phase.Confronts (crypto : Crypto) (now : Int) (token : String)
    (payload : RefreshPayload) : Phase → Prop
  | .waiting | .revokingFamily _ | .rejected => True
  | .readingToken presented said => presented = token ∧ said = payload
  | .checkingToken presented said row =>
      checked crypto now presented said row = .revokingFamily row.userId
  | _ => False

/-- The call goes that way, and nothing but the revocation answers it. -/
theorem Acted.confronts
    (acted : Acted crypto config requests state label next)
    {request : Fin n} (actor : label.actor = some request)
    {token : String} {payload : RefreshPayload}
    (asked : requests request = .refresh token)
    (verifies : crypto.verifyRefresh state.clock token = some payload)
    (exposed : Exposed crypto state token payload)
    (confronts : (state.phase request).Confronts crypto state.clock token
      payload) :
    (next.phase request).Confronts crypto state.clock token payload ∧
      ((next.phase request).idle = true →
        label = .revokeFamily request) := by
  have reads : ∀ {phase : Phase}, state.phase request = phase →
      phase.Confronts crypto state.clock token payload :=
    fun same => same ▸ confronts
  cases acted with
  | begin =>
      cases actor
      have opened : opening crypto state.clock (requests request) =
          .readingToken token payload := by
        simp only [opening, asked, verifies]
      rw [phase_moveTo, opened]
      exact ⟨⟨rfl, rfl⟩, fun idle => by cases idle⟩
  | tokenMissing reading missing =>
      cases actor
      rcases exposed with ⟨row, stored, _⟩
      rcases reads reading with ⟨rfl, rfl⟩
      rw [stored] at missing
      cases missing
  | tokenRead reading found =>
      cases actor
      rcases exposed with ⟨row, stored, spent⟩
      rcases reads reading with ⟨rfl, rfl⟩
      rw [stored] at found
      cases found
      rw [phase_moveTo]
      exact ⟨spent, fun idle => by cases idle⟩
  | checkToken reading =>
      cases actor
      have spent := reads reading
      rw [phase_moveTo]
      change checked crypto state.clock _ _ _ = _ at spent
      rw [spent]
      exact ⟨trivial, fun idle => by cases idle⟩
  | revokeFamily =>
      cases actor
      change Phase.Confronts _ _ _ _ ((state.moveTo _ _).phase _) ∧ _
      rw [phase_moveTo]
      exact ⟨trivial, fun _ => rfl⟩
  | tick | deleteUser => cases actor
  | emailTaken reading | emailFree reading
  | emailRaced reading | userCreated reading | verificationStored reading
  | verificationGone reading | findUser reading | loggedIn reading
  | loginRejected reading | reused reading | rotated reading
  | readRole reading | signAccess reading | signRefresh reading
  | inserted reading | insertRejected reading | revokeToken reading
  | resetRejected reading | resetFound reading | resetPassword reading
  | resetGone reading | deleteExpired reading =>
      cases actor
      exact (reads reading).elim

theorem Acted.returned_stays
    (acted : Acted crypto config requests state label next)
    {token : String} (returned : Returned state token) :
    Returned next token := by
  rcases returned with ⟨request, tokens, found, same⟩
  exact ⟨request, tokens, acted.phase_of_returned found, same⟩

end Step

/-- A refresh under way with a spent token, at one instant. -/
structure Confronted (crypto : Crypto) (config : Config)
    (requests : Fin n → Request) (request : Fin n) (token : String)
    (payload : RefreshPayload) (now : Int) (state : State n) : Prop where
  swept : Swept crypto config state
  spending : Spending crypto requests state
  clock : state.clock = now
  presentable : Presentable crypto state token payload
  rotated : ∃ other, (payload.jti, .rotate other) ∈ state.revocations
  confronts : (state.phase request).Confronts crypto now token payload

/-- The instant stands still and the user still exists. -/
def Undisturbed (userId : String) (now : Int)
    (taken : Taken (State n) (Label n)) : Prop :=
  taken.target.clock = now ∧ hasUser taken.target.users userId = true

section Call

variable {crypto : Crypto} {config : Config} {requests : Fin n → Request}
  {request : Fin n} {token : String} {payload : RefreshPayload} {now : Int}

theorem Confronted.exposed {state : State n}
    (confronted : Confronted crypto config requests request token payload
      now state) : Exposed crypto state token payload := by
  rcases confronted.rotated with ⟨other, rotated⟩
  exact confronted.swept.exposed confronted.spending
    confronted.presentable rotated

theorem confronted_step (sound : crypto.Sound)
    (asked : requests request = .refresh token)
    (taken : Taken (State n) (Label n))
    (stepped : step crypto config requests taken.source taken.label =
      some taken.target)
    (undisturbed : Undisturbed payload.sub now taken)
    (confronted : Confronted crypto config requests request token payload
      now taken.source) :
    Confronted crypto config requests request token payload now
      taken.target := by
  have swept := swept_step sound stepped confronted.swept
  have spending := spending_step stepped confronted.spending
  rcases taken with ⟨source, label, target⟩
  simp only at stepped confronted swept spending
  rcases undisturbed with ⟨still, present⟩
  rcases Option.map_eq_some_iff.mp stepped with ⟨reached, action, rfl⟩
  have acted := acted_of_act action
  have verifies := confronted.presentable.verifies
  have clock := confronted.clock
  refine ⟨swept, spending, still, ⟨?_, ?_, present⟩, ?_, ?_⟩
  · exact acted.returned_stays confronted.presentable.returned
  · simp only at still ⊢
    rw [still, ← clock]
    exact verifies
  · rcases confronted.rotated with ⟨other, rotated⟩
    exact ⟨other, List.mem_append_left _ rotated⟩
  · change (reached.phase request).Confronts crypto now token payload
    have confronts := confronted.confronts
    by_cases actor : label.actor = some request
    · rw [← clock] at confronts ⊢
      exact (acted.confronts actor asked verifies confronted.exposed
        confronts).1
    · rw [acted.phase_of_ne actor]
      exact confronts

/-- The call alone: it reads, checks and revokes. -/
theorem Exposed.run_revokeFamily {state : State n}
    (exposed : Exposed crypto state token payload)
    (asked : requests request = .refresh token)
    (verifies : crypto.verifyRefresh state.clock token = some payload)
    (waiting : state.phase request = .waiting) :
    ∃ source target, (machine crypto config requests).run state
        (deciding request) = some source ∧
      (machine crypto config requests).step source
        (.revokeFamily request) = some target := by
  rcases exposed with ⟨row, stored, spent⟩
  obtain ⟨first, begun, reading, sameTokens, sameClock⟩ : ∃ next,
      step crypto config requests state (.begin request) = some next ∧
        next.phase request = .readingToken token payload ∧
        next.tokens = state.tokens ∧ next.clock = state.clock := by
    simp only [step, act, waiting, opening, asked, verifies,
      Option.map_some]
    exact ⟨_, rfl, phase_moveTo _ _ _, rfl, rfl⟩
  rw [← sameTokens] at stored
  rw [← sameClock] at spent
  obtain ⟨second, read, checking, stillClock⟩ : ∃ next,
      step crypto config requests first (.readToken request) = some next ∧
        next.phase request = .checkingToken token payload row ∧
        next.clock = first.clock := by
    simp only [step, act, reading, stored, Option.map_some]
    exact ⟨_, rfl, phase_moveTo _ _ _, rfl⟩
  rw [← stillClock] at spent
  obtain ⟨third, decided, revoking⟩ : ∃ next,
      step crypto config requests second (.checkToken request) =
          some next ∧
        next.phase request = .revokingFamily row.userId := by
    simp only [step, act, checking, spent, Option.map_some]
    exact ⟨_, rfl, phase_moveTo _ _ _⟩
  obtain ⟨last, revoked⟩ : ∃ next,
      step crypto config requests third (.revokeFamily request) =
        some next := by
    simp only [step, act, revoking, Option.map_some]
    exact ⟨_, rfl⟩
  refine ⟨third, last, ?_, revoked⟩
  simp only [deciding, Machine.run_cons, machine, begun, read, decided,
    Option.bind_some, Machine.run_nil]

end Call

/--
Whatever the lifetimes, the sweeps and the interleaving, the row of a returned
token that verifies and whose user exists is there and has not expired.  So a
refresh with a spent token is answered by its family revocation and by
nothing else.
-/
theorem reuse_detection_survives_sweep (crypto : Crypto) (config : Config)
    (requests : Fin n → Request) (sound : crypto.Sound)
    {start final : State n} {labels : List (Label n)}
    (initial : Initial start)
    (registered : ∀ user, hasUser start.users user = true →
      user ∈ start.issued)
    (reached :
      (machine crypto config requests).run start labels = some final)
    {token : String} {payload : RefreshPayload}
    (presentable : Presentable crypto final token payload) :
    (∃ row, findToken final.tokens payload.jti = some row ∧
      row.userId = payload.sub ∧ final.clock ≤ row.expiresAt ∧
        crypto.verifyTokenHash token row.tokenHash = true) ∧
    ∀ request other, requests request = .refresh token →
      final.phase request = .waiting →
        (payload.jti, .rotate other) ∈ final.revocations →
      (∃ source target, (machine crypto config requests).run final
          (deciding request) = some source ∧
        (machine crypto config requests).step source
          (.revokeFamily request) = some target) ∧
      ∀ later,
        (∀ taken ∈ (machine crypto config requests).transitions final
          later, Undisturbed payload.sub final.clock taken) →
        ∀ taken ∈ (machine crypto config requests).transitions final later,
          taken.label.actor = some request →
            (taken.target.phase request).idle = true →
              taken.label = .revokeFamily request := by
  have swept : Swept crypto config final :=
    Machine.run_preserves _ (swept_step sound) (initial.swept registered)
      reached
  have spending : Spending crypto requests final :=
    Machine.run_preserves _ spending_step initial.spending reached
  refine ⟨swept.findToken spending presentable,
    fun request other asked waiting rotated => ⟨?_, ?_⟩⟩
  · exact (swept.exposed spending presentable rotated).run_revokeFamily
      asked presentable.verifies waiting
  · intro later undisturbed taken member actor idle
    have begins : Confronted crypto config requests request token payload
        final.clock final := by
      refine ⟨swept, spending, rfl, presentable, ⟨other, rotated⟩, ?_⟩
      rw [waiting]
      trivial
    have confronted := (Machine.transitions_invariant
      (confronted_step sound asked) begins undisturbed member).1
    have stepped := Machine.step_of_mem_transitions _ member
    rcases Option.map_eq_some_iff.mp stepped with ⟨reached, action, same⟩
    rw [← same] at idle
    exact ((acted_of_act action).confronts actor asked
      confronted.presentable.verifies confronted.exposed
      (by rw [confronted.clock]; exact confronted.confronts)).2 idle

/-! ## A sweep in the last millisecond -/

/-- A login, two refreshes with the token it returns, and a sweep. -/
def sweptRequests (request : Fin n) : Request :=
  match request.val with
  | 0 => .login "e" "p"
  | 3 => .pruneStaleTokens
  | _ => .refresh (tokenOf "0")

def oneUser : State n where
  clock := 0
  users := [⟨"u", "e", "p", .user, true, none, none⟩]
  tokens := []
  issued := ["u"]
  phase _ := .waiting
  revocations := []

/-- The token is exchanged, and the sweep runs just before it expires. -/
def sweepingLate (login refresh sweep : Fin n) : List (Label n) :=
  [.begin login, .findUser login, .compare login, .readRole login,
    .signAccess login, .signRefresh login "0", .insertToken login] ++
  deciding refresh ++ rotating refresh "1" ++
  [.tick 4999, .begin sweep, .deleteExpired sweep]

theorem replay_found_after_sweep :
    loadConfig (some "5s") (some "5s") = .ok ⟨5000, 5000⟩ ∧
    ∃ final source target : State 4,
      (machine plainTokens ⟨5000, 5000⟩ sweptRequests).run oneUser
          (sweepingLate 0 1 3) = some final ∧
        Presentable plainTokens final (tokenOf "0")
          ⟨"u", some "e", "0"⟩ ∧
        (machine plainTokens ⟨5000, 5000⟩ sweptRequests).run final
          (deciding 2) = some source ∧
        (machine plainTokens ⟨5000, 5000⟩ sweptRequests).step source
          (.revokeFamily 2) = some target := by
  refine ⟨by rfl, ?_⟩
  obtain ⟨final, reached⟩ : ∃ final : State 4,
      (machine plainTokens ⟨5000, 5000⟩ sweptRequests).run oneUser
        (sweepingLate 0 1 3) = some final := ⟨_, rfl⟩
  have initial : Initial (oneUser : State 4) :=
    ⟨fun _ => rfl, by decide, by decide, rfl⟩
  have registered : ∀ user,
      hasUser (oneUser : State 4).users user = true →
        user ∈ (oneUser : State 4).issued := by
    intro user present
    have same : "u" = user := by simpa [hasUser, oneUser] using present
    rw [← same]
    decide
  have presentable : Presentable plainTokens final (tokenOf "0")
      ⟨"u", some "e", "0"⟩ := by
    cases reached
    exact ⟨⟨0, _, rfl, by decide⟩, by decide, by decide⟩
  have waiting : final.phase 2 = .waiting := by
    cases reached
    rfl
  have rotated : ("0", .rotate 1) ∈ final.revocations := by
    cases reached
    decide
  obtain ⟨source, target, read, revoked⟩ :=
    ((reuse_detection_survives_sweep plainTokens ⟨5000, 5000⟩ sweptRequests
      plainTokens_sound initial registered reached presentable).2 2 1 rfl
      waiting rotated).1
  exact ⟨final, source, target, reached, presentable, read, revoked⟩

end WeatherNotify.Auth

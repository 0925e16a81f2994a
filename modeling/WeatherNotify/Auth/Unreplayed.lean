import WeatherNotify.Auth.Sweep

/-!
# Sessions that nobody replays

The family of a user is revoked when a token turns up spent.  A client that
presents every token it was given once, and in time, never looks like that:
however its calls interleave with everything else, each of them is answered
with a new pair, and the tokens it has not presented yet stay live.
-/

namespace WeatherNotify.Auth

open WeatherNotify.Transition

variable {n : Nat}

/-! ## Presenting a token -/

/-- The token that a refresh or a logout presents. -/
def Request.token : Request → Option String
  | .refresh token | .logout token => some token
  | _ => none

/-- What that token says. -/
def Request.shown (crypto : Crypto) (request : Request) :
    Option RefreshPayload :=
  request.token.bind fun token =>
    (crypto.decodeRefresh token).map Prod.fst

theorem Names.shown {crypto : Crypto} {request : Request}
    {payload : RefreshPayload} (names : Names crypto request payload) :
    payload ∈ request.shown crypto := by
  rcases names with ⟨token, exp, rfl, decoded⟩
  show (crypto.decodeRefresh token).map Prod.fst = some payload
  rw [decoded]
  rfl

/-- No other request presents a token with the id of one of the user's. -/
def PresentedOnce (crypto : Crypto) (requests : Fin n → Request)
    (user : String) : Prop :=
  ∀ request other, ∀ payload ∈ (requests request).shown crypto,
    payload.sub = user → ∀ said ∈ (requests other).shown crypto,
      said.jti = payload.jti → other = request

instance (crypto : Crypto) (requests : Fin n → Request) (user : String) :
    Decidable (PresentedOnce crypto requests user) :=
  inferInstanceAs (Decidable (∀ request other,
    ∀ payload ∈ (requests request).shown crypto, payload.sub = user →
      ∀ said ∈ (requests other).shown crypto,
        said.jti = payload.jti → other = request))

namespace Phase

/-- A refresh or a logout that may still set the flag of its row. -/
def presenting : Phase → Bool
  | .waiting | .readingToken _ _ | .checkingToken _ _ _ | .rotating _ _
  | .revokingToken _ => true
  | _ => false

/-- A refresh that has not been refused and will not have to be. -/
def Accepted : Phase → Prop
  | .waiting | .readingToken _ _ | .rotating _ _ | .readingRole _ _
  | .signingAccess _ _ _ | .signingRefresh _ _ _ | .inserting _ _ _
  | .returned _ => True
  | .checkingToken _ _ row => row.revoked = false
  | _ => False

end Phase

/-- The refresh token a client was answered. -/
def Phase.answer : Phase → Option String
  | .returned tokens => some tokens.refreshToken
  | _ => none

theorem returned_iff {state : State n} {token : String} :
    Returned state token ↔
      ∃ request, (state.phase request).answer = some token := by
  constructor
  · rintro ⟨request, tokens, found, same⟩
    exact ⟨request, by rw [found, ← same]; rfl⟩
  · rintro ⟨request, answered⟩
    cases found : state.phase request with
    | returned tokens =>
        rw [found] at answered
        exact ⟨request, tokens, found, Option.some.inj answered⟩
    | _ =>
        rw [found] at answered
        cases answered

instance (state : State n) (token : String) :
    Decidable (Returned state token) :=
  decidable_of_iff _ returned_iff.symm

/-- What a refresh presents, with what it says. -/
def Request.refreshing (crypto : Crypto) :
    Request → Option (String × RefreshPayload)
  | .refresh token =>
      (crypto.decodeRefresh token).map fun said => (token, said.1)
  | _ => none

/-- A token of the user is presented when it was returned and verifies. -/
def InTime (crypto : Crypto) (request : Request) (user : String)
    (state : State n) : Prop :=
  ∀ shown ∈ request.refreshing crypto, shown.2.sub = user →
    Returned state shown.1 ∧
      crypto.verifyRefresh state.clock shown.1 = some shown.2

/-- Nothing ends the user's sessions, and its refreshes are made in time. -/
structure Careful (crypto : Crypto) (requests : Fin n → Request)
    (user : String) (taken : Taken (State n) (Label n)) : Prop where
  undeleted : taken.label ≠ .deleteUser user
  unreset : ∀ request, taken.label.actor = some request →
    taken.source.phase request ≠ .resetting user
  -- a row swept between the check and the rotation counts as spent, so the
  -- token has to outlast both
  inTime : ∀ request, taken.label.actor = some request →
    (taken.source.phase request).presenting = true →
      InTime crypto (requests request) user taken.source

instance (crypto : Crypto) (requests : Fin n → Request) (user : String)
    (taken : Taken (State n) (Label n)) :
    Decidable (Careful crypto requests user taken) :=
  decidable_of_iff
    (taken.label ≠ .deleteUser user ∧
      (∀ request, taken.label.actor = some request →
        taken.source.phase request ≠ .resetting user) ∧
      ∀ request, taken.label.actor = some request →
        (taken.source.phase request).presenting = true →
          ∀ shown ∈ (requests request).refreshing crypto,
            shown.2.sub = user → Returned taken.source shown.1 ∧
              crypto.verifyRefresh taken.source.clock shown.1 =
                some shown.2)
    ⟨fun all => ⟨all.1, all.2.1, all.2.2⟩,
      fun careful => ⟨careful.undeleted, careful.unreset, careful.inTime⟩⟩

/-! ## What a careful client can rely on -/

structure Unreplayed (crypto : Crypto) (config : Config)
    (requests : Fin n → Request) (user : String) (state : State n) :
    Prop where
  tracked : Tracked crypto requests state
  swept : Swept crypto config state
  present : hasUser state.users user = true
  leaving : ∀ request jti, state.phase request = .revokingToken jti →
    ∃ payload ∈ (requests request).shown crypto, payload.jti = jti
  spent : ∀ row ∈ state.tokens, row.userId = user → row.revoked = true →
    ∃ request, ∃ payload ∈ (requests request).shown crypto,
      payload.jti = row.id ∧ (state.phase request).presenting = false
  accepted : ∀ request payload, Names crypto (requests request) payload →
    payload.sub = user → (state.phase request).Accepted

section Rely

variable {crypto : Crypto} {config : Config} {requests : Fin n → Request}
  {user : String} {state : State n}

/-- A family revocation is about the user that the refresh names. -/
theorem Unreplayed.calm
    (unreplayed : Unreplayed crypto config requests user state)
    (request : Fin n) : state.phase request ≠ .revokingFamily user := by
  intro revoking
  have fits := unreplayed.tracked.fits request
  rw [revoking] at fits
  rcases fits with ⟨payload, names, owner⟩
  have accepted := unreplayed.accepted request payload names owner
  rw [revoking] at accepted
  exact accepted

/-- A token that can be presented and has not been is live. -/
theorem Unreplayed.live
    (unreplayed : Unreplayed crypto config requests user state)
    {token : String} {payload : RefreshPayload}
    (presentable : Presentable crypto state token payload)
    (owner : payload.sub = user)
    (pending : ∀ request, ∀ said ∈ (requests request).shown crypto,
      said.jti = payload.jti → (state.phase request).presenting = true) :
    ∃ row, findToken state.tokens payload.jti = some row ∧
      row.userId = user ∧ row.revoked = false ∧
        state.clock ≤ row.expiresAt ∧
          crypto.verifyTokenHash token row.tokenHash = true := by
  obtain ⟨row, stored, owned, unexpired, passes⟩ :=
    unreplayed.swept.findToken unreplayed.tracked.spending presentable
  refine ⟨row, stored, owned.trans owner, ?_, unexpired, passes⟩
  rw [← Bool.not_eq_true]
  intro revoked
  obtain ⟨request, said, shown, same, past⟩ := unreplayed.spent row
    (List.mem_of_find?_eq_some stored) (owned.trans owner) revoked
  rw [pending request said shown (same.trans (findToken_id stored))] at past
  cases past

/-- And so is the token of a refresh that has not been decided. -/
theorem Unreplayed.live_of_names
    (unreplayed : Unreplayed crypto config requests user state)
    (once : PresentedOnce crypto requests user)
    {request : Fin n} {token : String} {payload : RefreshPayload}
    (shown : payload ∈ (requests request).shown crypto)
    (owner : payload.sub = user)
    (pending : (state.phase request).presenting = true)
    (presentable : Presentable crypto state token payload) :
    ∃ row, findToken state.tokens payload.jti = some row ∧
      row.userId = user ∧ row.revoked = false ∧
        state.clock ≤ row.expiresAt ∧
          crypto.verifyTokenHash token row.tokenHash = true := by
  refine unreplayed.live presentable owner fun other said otherShown same => ?_
  rw [once request other payload shown owner said otherShown same]
  exact pending

theorem Initial.unreplayed (initial : Initial state)
    (genuine : ∀ row ∈ state.tokens, Genuine crypto row)
    (registered : ∀ other, hasUser state.users other = true →
      other ∈ state.issued)
    (present : hasUser state.users user = true)
    (live : ∀ row ∈ state.tokens, row.userId = user → row.revoked = false) :
    Unreplayed crypto config requests user state where
  tracked := initial.tracked genuine
  swept := initial.swept registered
  present := present
  leaving request jti found := by
    rw [initial.waiting request] at found
    cases found
  spent row member owner revoked := by
    rw [live row member owner] at revoked
    cases revoked
  accepted request payload _ _ := by
    rw [initial.waiting request]
    trivial

end Rely

/-! ## Each step keeps it -/

section Step

variable {crypto : Crypto} {config : Config} {requests : Fin n → Request}
  {user : String} {state next : State n} {label : Label n}

/-- Once it has set its flag, a request sets no other. -/
theorem Moves.presenting {request : Request} {before after : Phase}
    (moves : Moves crypto config state request before after)
    (past : before.presenting = false) : after.presenting = false := by
  cases moves with
  | begin | tokenRead | checkToken | reused | rotated | tokenRevoked =>
      cases past
  | emailFree | userCreated | verificationStored | findUser | loggedIn
  | readRole | signAccess | signRefresh | inserted | resetFound | refused
  | passwordReset | swept => rfl

theorem Acted.presenting
    (acted : Acted crypto config requests state label next)
    {request : Fin n} (past : (state.phase request).presenting = false) :
    (next.phase request).presenting = false := by
  rcases acted.moves request with same | moves
  · rw [same]
    exact past
  · exact moves.presenting past

/-- A flag that is set was set before, or the statement hits the row. -/
theorem revoked_revokeWhere {hit : TokenRow → Bool} {tokens : List TokenRow}
    {stored : TokenRow} (member : stored ∈ revokeWhere hit tokens)
    (revoked : stored.revoked = true) :
    ∃ row ∈ tokens, SameRow row stored ∧
      (row.revoked = true ∨ hit row = true) := by
  rcases List.mem_map.mp member with ⟨row, rowMember, rfl⟩
  refine ⟨row, rowMember, ?_⟩
  split at revoked
  next hits =>
    rw [if_pos hits]
    exact ⟨⟨rfl, rfl, rfl, rfl, fun _ => rfl⟩,
      Or.inr (Bool.and_eq_true_iff.mp hits).1⟩
  next misses =>
    rw [if_neg misses]
    exact ⟨SameRow.refl row, Or.inl revoked⟩

theorem verifyRefresh_decoded {now : Int} {token : String}
    {payload : RefreshPayload}
    (verifies : crypto.verifyRefresh now token = some payload) :
    (crypto.decodeRefresh token).map Prod.fst = some payload := by
  unfold Crypto.verifyRefresh at verifies
  cases decoded : crypto.decodeRefresh token with
  | none => simp [decoded] at verifies
  | some said =>
      simp only [decoded, Option.ite_none_right_eq_some] at verifies
      exact verifies.2

/-- What a logout goes on to revoke is what its token says. -/
theorem Moves.leaving {request : Request} {before after : Phase}
    {jti : String}
    (moves : Moves crypto config state request before after)
    (found : after = .revokingToken jti) :
    ∃ payload ∈ request.shown crypto, payload.jti = jti := by
  cases moves with
  | begin =>
      cases request with
      | logout token =>
          simp only [opening] at found
          split at found
          next => cases found
          next payload verifies =>
            cases found
            exact ⟨payload, verifyRefresh_decoded verifies, rfl⟩
      | refresh token =>
          simp only [opening] at found
          split at found <;> cases found
      | register | login | resetPassword | pruneStaleTokens => cases found
  | checkToken =>
      unfold checked at found
      split at found
      · cases found
      · split at found
        · cases found
        · split at found <;> cases found
  | emailFree | userCreated | verificationStored | findUser | loggedIn
  | tokenRead | reused | rotated | readRole | signAccess | signRefresh
  | inserted | resetFound | refused | tokenRevoked | passwordReset | swept =>
      cases found

/-- The step of a careful refresh is not a refusal. -/
theorem Unreplayed.accepted_step
    (unreplayed : Unreplayed crypto config requests user state)
    (once : PresentedOnce crypto requests user)
    (acted : Acted crypto config requests state label next)
    {request : Fin n} {payload : RefreshPayload}
    (names : Names crypto (requests request) payload)
    (owner : payload.sub = user) (actor : label.actor = some request)
    (inTime : (state.phase request).presenting = true →
      InTime crypto (requests request) user state) :
    (next.phase request).Accepted := by
  have fits := unreplayed.tracked.fits request
  have accepted := unreplayed.accepted request payload names owner
  have shown := names.shown
  rcases names with ⟨token, exp, asked, decoded⟩
  have presentable : (state.phase request).presenting = true →
      Presentable crypto state token payload := by
    intro pending
    have refreshing :
        (token, payload) ∈ (requests request).refreshing crypto := by
      rw [asked]
      simp [Request.refreshing, decoded]
    obtain ⟨returned, verifies⟩ := inTime pending _ refreshing owner
    exact ⟨returned, verifies, by rw [owner]; exact unreplayed.present⟩
  have live := fun pending => unreplayed.live_of_names once shown owner
    pending (presentable pending)
  cases acted with
  | tick | deleteUser => cases actor
  | begin found =>
      cases actor
      have verifies := (presentable (by rw [found]; rfl)).verifies
      rw [phase_moveTo, asked]
      simp only [opening, verifies]
      trivial
  | tokenMissing found missing =>
      cases actor
      obtain ⟨row, stored, _⟩ := live (by rw [found]; rfl)
      rw [found] at fits
      rcases fits with ⟨other, sameToken, said⟩
      cases asked.symm.trans sameToken
      cases decoded.symm.trans said
      rw [stored] at missing
      cases missing
  | tokenRead found stored =>
      cases actor
      obtain ⟨row, readable, _, unspent, _⟩ := live (by rw [found]; rfl)
      rw [found] at fits
      rcases fits with ⟨other, sameToken, said⟩
      cases asked.symm.trans sameToken
      cases decoded.symm.trans said
      cases readable.symm.trans stored
      rw [phase_moveTo]
      exact unspent
  | @checkToken request presented carried row found =>
      cases actor
      obtain ⟨stored, readable, _, _, unexpired, passes⟩ :=
        live (by rw [found]; rfl)
      have read := unreplayed.tracked.read request row (by rw [found]; rfl)
      rw [found] at fits accepted
      rcases fits with ⟨other, sameToken, said, same⟩
      cases asked.symm.trans sameToken
      cases decoded.symm.trans said
      have kept := read.later stored (List.mem_of_find?_eq_some readable)
        ((findToken_id readable).trans same.symm)
      have unspent : row.revoked = false := accepted
      rw [kept.expiresAt] at unexpired
      rw [kept.tokenHash] at passes
      rw [phase_moveTo]
      simp only [checked, Int.not_lt.mpr unexpired, passes, unspent,
        if_false, Bool.not_true, Bool.false_eq_true]
      trivial
  | @reused request carried row found spent =>
      cases actor
      obtain ⟨stored, readable, _, unspent, _⟩ := live (by rw [found]; rfl)
      rw [found] at fits
      rcases fits with ⟨other, otherExp, sameToken, said, _, same, _⟩
      cases asked.symm.trans sameToken
      cases decoded.symm.trans said
      have unset := List.countP_eq_zero.mp spent stored
        (List.mem_of_find?_eq_some readable)
      simp [unspent, findToken_id readable, same] at unset
  | rotated | signRefresh | inserted =>
      cases actor
      change Phase.Accepted ((state.moveTo _ _).phase _)
      rw [phase_moveTo]
      trivial
  | readRole | signAccess =>
      cases actor
      rw [phase_moveTo]
      trivial
  | insertRejected found gone =>
      cases actor
      rw [found] at fits
      have issuedFor := fits.1 payload ⟨token, exp, asked, decoded⟩
      rw [← issuedFor, owner, unreplayed.present] at gone
      cases gone
  | emailTaken found | emailFree found | emailRaced found
  | userCreated found | verificationStored found | verificationGone found
  | findUser found | loggedIn found | loginRejected found
  | revokeFamily found | revokeToken found | resetRejected found
  | resetFound found | resetPassword found | resetGone found
  | deleteExpired found =>
      cases actor
      rw [found] at accepted
      exact accepted.elim

/-- A flag of the user's rows is set by the request that presents the token. -/
theorem Unreplayed.spent_step
    (unreplayed : Unreplayed crypto config requests user state)
    (acted : Acted crypto config requests state label next)
    (unreset : ∀ request, label.actor = some request →
      state.phase request ≠ .resetting user)
    {stored : TokenRow} (member : stored ∈ next.tokens)
    (owner : stored.userId = user) (revoked : stored.revoked = true) :
    ∃ request, ∃ payload ∈ (requests request).shown crypto,
      payload.jti = stored.id ∧
        (next.phase request).presenting = false := by
  have earlier : ∀ row ∈ state.tokens, SameRow row stored →
      row.revoked = true → ∃ request,
        ∃ payload ∈ (requests request).shown crypto,
          payload.jti = stored.id ∧
            (next.phase request).presenting = false := by
    intro row rowMember same set
    obtain ⟨request, payload, shown, named, past⟩ := unreplayed.spent row
      rowMember (same.userId.symm.trans owner) set
    exact ⟨request, payload, shown, named.trans same.id.symm,
      acted.presenting past⟩
  cases acted with
  | @rotated request carried read found counted =>
      obtain ⟨row, rowMember, same, set | hit⟩ :=
        revoked_revokeWhere member revoked
      · exact earlier row rowMember same set
      · have fits := unreplayed.tracked.fits request
        rw [found] at fits
        rcases fits with ⟨token, exp, asked, decoded, _, names, _⟩
        refine ⟨request, carried, ?_, ?_, ?_⟩
        · exact Names.shown ⟨token, exp, asked, decoded⟩
        · rw [← names, same.id]
          exact (beq_iff_eq.mp hit).symm
        · change ((state.moveTo _ _).phase _).presenting = false
          rw [phase_moveTo]
          rfl
  | @revokeToken request jti found =>
      obtain ⟨row, rowMember, same, set | hit⟩ :=
        revoked_revokeWhere member revoked
      · exact earlier row rowMember same set
      · obtain ⟨payload, shown, named⟩ :=
          unreplayed.leaving request jti found
        refine ⟨request, payload, shown, ?_, ?_⟩
        · rw [named, same.id]
          exact (beq_iff_eq.mp hit).symm
        · change ((state.moveTo _ _).phase _).presenting = false
          rw [phase_moveTo]
          rfl
  | @revokeFamily request userId found =>
      obtain ⟨row, rowMember, same, set | hit⟩ :=
        revoked_revokeWhere member revoked
      · exact earlier row rowMember same set
      · rw [← beq_iff_eq.mp hit, ← same.userId, owner] at found
        exact (unreplayed.calm request found).elim
  | @resetPassword request userId passwordHash found present =>
      obtain ⟨row, rowMember, same, set | hit⟩ :=
        revoked_revokeWhere member revoked
      · exact earlier row rowMember same set
      · rw [← beq_iff_eq.mp hit, ← same.userId, owner] at found
        exact (unreset request rfl found).elim
  | inserted found present =>
      rcases List.mem_append.mp member with old | new
      · exact earlier stored old (SameRow.refl stored) revoked
      · rw [List.mem_singleton.mp new] at revoked
        cases revoked
  | deleteExpired | deleteUser =>
      exact earlier stored (List.mem_filter.mp member).1
        (SameRow.refl stored) revoked
  | tick | begin | emailTaken | emailFree | emailRaced | userCreated
  | verificationStored | verificationGone | findUser | loggedIn
  | loginRejected | tokenMissing | tokenRead | checkToken | reused
  | readRole | signAccess | signRefresh | insertRejected | resetRejected
  | resetFound | resetGone =>
      exact earlier stored member (SameRow.refl stored) revoked

theorem unreplayed_step (sound : crypto.Sound)
    (once : PresentedOnce crypto requests user)
    (taken : Taken (State n) (Label n))
    (stepped : step crypto config requests taken.source taken.label =
      some taken.target)
    (careful : Careful crypto requests user taken)
    (unreplayed : Unreplayed crypto config requests user taken.source) :
    Unreplayed crypto config requests user taken.target := by
  have tracked := tracked_step sound stepped unreplayed.tracked
  have swept := swept_step sound stepped unreplayed.swept
  rcases taken with ⟨source, label, target⟩
  simp only at stepped careful unreplayed tracked swept
  rcases Option.map_eq_some_iff.mp stepped with ⟨reached, action, rfl⟩
  have acted := acted_of_act action
  refine ⟨tracked, swept, ?_, ?_, ?_, ?_⟩
  · exact acted.user_stays careful.undeleted unreplayed.present
  · intro request jti found
    change reached.phase request = _ at found
    rcases acted.moves request with same | moves
    · rw [same] at found
      exact unreplayed.leaving request jti found
    · exact moves.leaving found
  · exact fun stored member owner revoked =>
      unreplayed.spent_step acted careful.unreset member owner revoked
  · intro request payload names owner
    change (reached.phase request).Accepted
    by_cases actor : label.actor = some request
    · exact unreplayed.accepted_step once acted names owner actor
        (careful.inTime request actor)
    · rw [acted.phase_of_ne actor]
      exact unreplayed.accepted request payload names owner

end Step

/-! ## The next refresh -/

section Call

variable {crypto : Crypto} {config : Config} {requests : Fin n → Request}
  {user : String} {request : Fin n} {state : State n}

/-- What follows the rotation needs only the user and an unused id. -/
theorem run_issueTokens {userId email jti : String}
    (reading : state.phase request = .readingRole userId email)
    (present : hasUser state.users userId = true)
    (unused : jti ∉ state.issued) :
    ∃ last tokens, (machine crypto config requests).run state
        [.readRole request, .signAccess request, .signRefresh request jti,
          .insertToken request] = some last ∧
      last.phase request = .returned tokens := by
  obtain ⟨role, first, read, signing, sameUsers, sameIssued⟩ :
      ∃ role next, step crypto config requests state (.readRole request) =
          some next ∧
        next.phase request = .signingAccess userId email role ∧
        next.users = state.users ∧ next.issued = state.issued := by
    simp only [step, act, reading, Option.map_some]
    exact ⟨_, _, rfl, phase_moveTo _ _ _, rfl, rfl⟩
  rw [← sameUsers] at present
  rw [← sameIssued] at unused
  obtain ⟨access, second, signed, drawing, sameUsers, sameIssued⟩ :
      ∃ access next,
        step crypto config requests first (.signAccess request) =
          some next ∧
        next.phase request = .signingRefresh userId email access ∧
        next.users = first.users ∧ next.issued = first.issued := by
    simp only [step, act, signing, Option.map_some]
    exact ⟨_, _, rfl, phase_moveTo _ _ _, rfl, rfl⟩
  rw [← sameUsers] at present
  rw [← sameIssued] at unused
  obtain ⟨tokens, third, drawn, inserting, sameUsers⟩ : ∃ tokens next,
      step crypto config requests second (.signRefresh request jti) =
          some next ∧
        next.phase request = .inserting userId jti tokens ∧
        next.users = second.users := by
    simp only [step, act, drawing, unused, if_false, Option.map_some]
    exact ⟨_, _, rfl, phase_moveTo _ _ _, rfl⟩
  rw [← sameUsers] at present
  obtain ⟨last, inserted, returned⟩ : ∃ next,
      step crypto config requests third (.insertToken request) =
          some next ∧
        next.phase request = .returned tokens := by
    simp only [step, act, inserting, present, if_true, Option.map_some]
    exact ⟨_, rfl, phase_moveTo _ _ _⟩
  refine ⟨last, tokens, ?_, returned⟩
  simp only [Machine.run_cons, machine, read, signed, drawn, inserted,
    Option.bind_some, Machine.run_nil]

/-- A refresh with a live token, left alone, returns a new pair. -/
theorem run_refresh {token jti : String} {payload : RefreshPayload}
    {row : TokenRow} (asked : requests request = .refresh token)
    (waiting : state.phase request = .waiting)
    (presentable : Presentable crypto state token payload)
    (stored : findToken state.tokens payload.jti = some row)
    (unspent : row.revoked = false) (unexpired : state.clock ≤ row.expiresAt)
    (passes : crypto.verifyTokenHash token row.tokenHash = true)
    (unused : jti ∉ state.issued) :
    ∃ last tokens, (machine crypto config requests).run state
        (deciding request ++ rotating request jti) = some last ∧
      last.phase request = .returned tokens := by
  have verifies := presentable.verifies
  have present := presentable.present
  obtain ⟨first, begun, reading, sameTokens, sameClock, sameUsers,
      sameIssued⟩ : ∃ next,
      step crypto config requests state (.begin request) = some next ∧
        next.phase request = .readingToken token payload ∧
        next.tokens = state.tokens ∧ next.clock = state.clock ∧
        next.users = state.users ∧ next.issued = state.issued := by
    simp only [step, act, waiting, opening, asked, verifies,
      Option.map_some]
    exact ⟨_, rfl, phase_moveTo _ _ _, rfl, rfl, rfl, rfl⟩
  rw [← sameTokens] at stored
  rw [← sameClock] at unexpired
  rw [← sameUsers] at present
  rw [← sameIssued] at unused
  obtain ⟨second, read, checking, sameTokens, sameClock, sameUsers,
      sameIssued⟩ : ∃ next,
      step crypto config requests first (.readToken request) = some next ∧
        next.phase request = .checkingToken token payload row ∧
        next.tokens = first.tokens ∧ next.clock = first.clock ∧
        next.users = first.users ∧ next.issued = first.issued := by
    simp only [step, act, reading, stored, Option.map_some]
    exact ⟨_, rfl, phase_moveTo _ _ _, rfl, rfl, rfl, rfl⟩
  rw [← sameTokens] at stored
  rw [← sameClock] at unexpired
  rw [← sameUsers] at present
  rw [← sameIssued] at unused
  have decision : checked crypto second.clock token payload row =
      .rotating payload row := by
    simp only [checked, Int.not_lt.mpr unexpired, passes, unspent, if_false,
      Bool.not_true, Bool.false_eq_true]
  obtain ⟨third, decided, rotating, sameTokens, sameUsers, sameIssued⟩ :
      ∃ next, step crypto config requests second (.checkToken request) =
          some next ∧
        next.phase request = .rotating payload row ∧
        next.tokens = second.tokens ∧ next.users = second.users ∧
        next.issued = second.issued := by
    simp only [step, act, checking, decision, Option.map_some]
    exact ⟨_, rfl, phase_moveTo _ _ _, rfl, rfl, rfl⟩
  rw [← sameTokens] at stored
  rw [← sameUsers] at present
  rw [← sameIssued] at unused
  have counted : revokedCount (fun other => other.id == row.id)
      third.tokens ≠ 0 := by
    refine (List.countP_pos_iff.mpr ⟨row,
      List.mem_of_find?_eq_some stored, ?_⟩).ne'
    simp [unspent]
  obtain ⟨fourth, rotated, issuing, sameUsers, sameIssued⟩ : ∃ next,
      step crypto config requests third (.rotate request) = some next ∧
        next.phase request =
          .readingRole payload.sub (payload.email.getD "") ∧
        next.users = third.users ∧ next.issued = third.issued := by
    simp only [step, act, rotating, counted, if_false, Option.map_some]
    exact ⟨_, rfl, phase_moveTo _ _ _, rfl, rfl⟩
  rw [← sameUsers] at present
  rw [← sameIssued] at unused
  obtain ⟨last, tokens, issued, returned⟩ :=
    run_issueTokens issuing present unused
  refine ⟨last, tokens, ?_, returned⟩
  simp only [deciding, Auth.rotating, List.cons_append, List.nil_append,
    Machine.run_cons, machine, begun, read, decided, rotated,
    Option.bind_some]
  exact issued

end Call

/--
As long as a user's refreshes present tokens they were given, each token once
and before it expires, and nobody deletes the account or resets its password,
no refresh of the user is refused and its family is never revoked, however
the statements of all requests interleave.  A token not presented yet is live,
and a refresh that presents it is answered with a new pair.
-/
theorem careful_sessions_go_on (crypto : Crypto) (config : Config)
    (requests : Fin n → Request) (sound : crypto.Sound) {user : String}
    (once : PresentedOnce crypto requests user)
    {start final : State n} {labels : List (Label n)}
    (initial : Initial start)
    (genuine : ∀ row ∈ start.tokens, Genuine crypto row)
    (registered : ∀ other, hasUser start.users other = true →
      other ∈ start.issued)
    (present : hasUser start.users user = true)
    (live : ∀ row ∈ start.tokens, row.userId = user → row.revoked = false)
    (careful : ∀ taken ∈
      (machine crypto config requests).transitions start labels,
      Careful crypto requests user taken)
    (reached :
      (machine crypto config requests).run start labels = some final) :
    (∀ request, final.phase request ≠ .revokingFamily user) ∧
      (∀ request payload, Names crypto (requests request) payload →
        payload.sub = user → final.phase request ≠ .rejected) ∧
      ∀ token payload, Presentable crypto final token payload →
        payload.sub = user →
          (∀ request, ∀ said ∈ (requests request).shown crypto,
            said.jti = payload.jti →
              (final.phase request).presenting = true) →
            (∃ row, findToken final.tokens payload.jti = some row ∧
              row.revoked = false) ∧
            ∀ request jti, requests request = .refresh token →
              final.phase request = .waiting → jti ∉ final.issued →
                ∃ last tokens, (machine crypto config requests).run final
                    (deciding request ++ rotating request jti) =
                      some last ∧
                  last.phase request = .returned tokens := by
  have unreplayed : Unreplayed crypto config requests user final :=
    Machine.run_invariant (unreplayed_step sound once)
      (initial.unreplayed genuine registered present live) careful reached
  refine ⟨unreplayed.calm, fun request payload names owner refused => ?_,
    fun token payload presentable owner pending => ?_⟩
  · have accepted := unreplayed.accepted request payload names owner
    rw [refused] at accepted
    exact accepted
  · obtain ⟨row, stored, _, unspent, unexpired, passes⟩ :=
      unreplayed.live presentable owner pending
    refine ⟨⟨row, stored, unspent⟩, fun request jti asked waiting unused => ?_⟩
    exact run_refresh asked waiting presentable stored unspent unexpired
      passes unused

/-! ## Two devices -/

/-- Two sign-ins; the first session is refreshed twice, the second ended. -/
def twoDevices (request : Fin n) : Request :=
  match request.val with
  | 0 | 2 => .login "e" "p"
  | 1 => .refresh (tokenOf "0")
  | 3 => .logout (tokenOf "2")
  | _ => .refresh (tokenOf "1")

/-- The second sign-in and its end run between the statements of a refresh. -/
def interleaved (login refresh other logout : Fin n) : List (Label n) :=
  [.begin login, .findUser login, .compare login, .readRole login,
    .signAccess login, .signRefresh login "0", .insertToken login,
    .begin other, .findUser other, .begin refresh, .compare other,
    .readRole other, .tick 400, .readToken refresh, .signAccess other,
    .signRefresh other "2", .checkToken refresh, .insertToken other,
    .begin logout, .rotate refresh, .readRole refresh, .revokeToken logout,
    .signAccess refresh, .signRefresh refresh "1", .insertToken refresh,
    .tick 4000]

theorem interleaved_sessions_go_on :
    ∃ final last : State 5, ∃ tokens,
      (machine plainTokens ⟨5000, 5000⟩ twoDevices).run oneUser
          (interleaved 0 1 2 3) = some final ∧
        (machine plainTokens ⟨5000, 5000⟩ twoDevices).run final
            (deciding 4 ++ rotating 4 "3") = some last ∧
          last.phase 4 = .returned tokens := by
  obtain ⟨final, reached⟩ : ∃ final : State 5,
      (machine plainTokens ⟨5000, 5000⟩ twoDevices).run oneUser
        (interleaved 0 1 2 3) = some final := ⟨_, rfl⟩
  have once : PresentedOnce plainTokens (@twoDevices 5) "u" := by
    decide +kernel
  have careful : ∀ taken ∈
      (machine plainTokens ⟨5000, 5000⟩ twoDevices).transitions
        (oneUser : State 5) (interleaved 0 1 2 3),
      Careful plainTokens twoDevices "u" taken := by
    decide +kernel
  have initial : Initial (oneUser : State 5) :=
    ⟨fun _ => rfl, by decide, by decide, rfl⟩
  have registered : ∀ user,
      hasUser (oneUser : State 5).users user = true →
        user ∈ (oneUser : State 5).issued := by
    intro user present
    have same : "u" = user := by simpa [hasUser, oneUser] using present
    rw [← same]
    decide
  have goesOn := (careful_sessions_go_on plainTokens ⟨5000, 5000⟩ twoDevices
    plainTokens_sound once initial (List.forall_mem_nil _) registered
    (by decide) (List.forall_mem_nil _) careful reached).2.2
    (tokenOf "1") ⟨"u", some "e", "1"⟩
  have presentable : Presentable plainTokens final (tokenOf "1")
      ⟨"u", some "e", "1"⟩ := by
    cases reached
    exact ⟨⟨1, _, rfl, by decide⟩, by decide, by decide⟩
  have pending : ∀ request, ∀ said ∈ (twoDevices request).shown plainTokens,
      said.jti = "1" → (final.phase request).presenting = true := by
    cases reached
    decide +kernel
  have waiting : final.phase 4 = .waiting := by
    cases reached
    rfl
  have unused : "3" ∉ final.issued := by
    cases reached
    decide
  obtain ⟨last, tokens, refreshed, returned⟩ :=
    (goesOn presentable rfl pending).2 4 "3" rfl waiting unused
  exact ⟨final, last, tokens, reached, refreshed, returned⟩

end WeatherNotify.Auth

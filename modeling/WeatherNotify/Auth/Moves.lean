import WeatherNotify.Auth.SingleUse

/-!
# The moves of a request

Every request walks through its phases on its own; a step of the system moves
one request and may change the tables.  What an invariant has to know of a
step is which move it was, where the rows of the next table come from, and
which ids have been given out.
-/

namespace WeatherNotify.Auth

variable {n : Nat}

/-- The request that takes the step. -/
def Label.actor : Label n → Option (Fin n)
  | .tick _ | .deleteUser _ => none
  | .begin request | .findTaken request | .createUser request _ _
  | .storeVerification request | .findUser request | .compare request
  | .readToken request | .checkToken request | .rotate request
  | .revokeFamily request | .readRole request | .signAccess request
  | .signRefresh request _ | .insertToken request | .revokeToken request
  | .findResetUser request | .resetPassword request _
  | .deleteExpired request => some request

def Label.deletesUser : Label n → Bool
  | .deleteUser _ => true
  | _ => false

theorem Label.ne_deleteUser {label : Label n}
    (undeleted : label.deletesUser = false) (user : String) :
    label ≠ .deleteUser user := by
  rintro rfl
  cases undeleted

theorem phase_moveTo (state : State n) (request : Fin n) (phase : Phase) :
    (state.moveTo request phase).phase request = phase :=
  Function.update_self _ _ _

theorem phase_moveTo_of_ne {state : State n} {request other : Fin n}
    (different : other ≠ request) (phase : Phase) :
    (state.moveTo request phase).phase other = state.phase other :=
  Function.update_of_ne different _ _

/-! ## One request -/

namespace Phase

/-- The user a pair of tokens is being issued for. -/
def issuing : Phase → Option String
  | .readingRole userId _ | .signingAccess userId _ _
  | .signingRefresh userId _ _ | .inserting userId _ _ => some userId
  | _ => none

/-- The row a refresh has read and still works with. -/
def snapshot : Phase → Option TokenRow
  | .checkingToken _ _ row | .rotating _ row => some row
  | _ => none

/-- The request has not begun or has been answered. -/
def idle : Phase → Bool
  | .waiting | .returned _ | .finished | .rejected => true
  | _ => false

/-- A request that issues tokens has returned them or is still issuing. -/
theorem issuing_of_spent {phase : Phase} (behind : phase.spent = true) :
    (∃ userId, phase.issuing = some userId) ∨
      ∃ tokens, phase = .returned tokens := by
  cases phase with
  | readingRole | signingAccess | signingRefresh | inserting =>
      exact Or.inl ⟨_, rfl⟩
  | returned tokens => exact Or.inr ⟨tokens, rfl⟩
  | waiting | findingTaken | creatingUser | storingVerification
  | findingUser | comparing | readingToken | checkingToken | rotating
  | revokingFamily | revokingToken | findingResetUser | resetting
  | deletingExpired | finished | rejected => cases behind

theorem returned_of_spent_of_idle {phase : Phase}
    (behind : phase.spent = true) (idle : phase.idle = true) :
    ∃ tokens, phase = .returned tokens := by
  cases phase with
  | returned tokens => exact ⟨tokens, rfl⟩
  | readingRole | signingAccess | signingRefresh | inserting => cases idle
  | waiting | findingTaken | creatingUser | storingVerification
  | findingUser | comparing | readingToken | checkingToken | rotating
  | revokingFamily | revokingToken | findingResetUser | resetting
  | deletingExpired | finished | rejected => cases behind

end Phase

/--
The moves of one request: the phase it leaves, the one it enters, and what the
state must be like.  All refusals are one case.
-/
inductive Moves (crypto : Crypto) (config : Config) (state : State n)
    (request : Request) : Phase → Phase → Prop where
  | begin : Moves crypto config state request .waiting
      (opening crypto state.clock request)
  | emailFree {email : String} :
      Moves crypto config state request (.findingTaken email)
        (.creatingUser email)
  | userCreated {email userId : String} (unused : userId ∉ state.issued)
      (named : userId ≠ "") :
      Moves crypto config state request (.creatingUser email)
        (.storingVerification userId email)
  | verificationStored {userId email : String}
      (present : hasUser state.users userId = true) :
      Moves crypto config state request (.storingVerification userId email)
        (.readingRole userId email)
  | findUser {email password : String} :
      Moves crypto config state request (.findingUser email password)
        (.comparing password
          (state.users.find? fun user => user.email == email))
  | loggedIn {password : String} {user : UserRow}
      (accepted : crypto.comparePassword password user.passwordHash =
        true) :
      Moves crypto config state request (.comparing password (some user))
        (.readingRole user.id user.email)
  | tokenRead {token : String} {payload : RefreshPayload} {row : TokenRow}
      (stored : findToken state.tokens payload.jti = some row) :
      Moves crypto config state request (.readingToken token payload)
        (.checkingToken token payload row)
  | checkToken {token : String} {payload : RefreshPayload}
      {row : TokenRow} :
      Moves crypto config state request (.checkingToken token payload row)
        (checked crypto state.clock token payload row)
  | reused {payload : RefreshPayload} {row : TokenRow} :
      Moves crypto config state request (.rotating payload row)
        (.revokingFamily row.userId)
  | rotated {payload : RefreshPayload} {row : TokenRow}
      (counted : revokedCount (fun stored => stored.id == row.id)
        state.tokens ≠ 0) :
      Moves crypto config state request (.rotating payload row)
        (.readingRole payload.sub (payload.email.getD ""))
  | readRole {userId email : String} :
      Moves crypto config state request (.readingRole userId email)
        (.signingAccess userId email
          (((state.users.find? fun user => user.id == userId).map
            UserRow.role).getD .user))
  | signAccess {userId email : String} {role : Role} :
      Moves crypto config state request (.signingAccess userId email role)
        (.signingRefresh userId email
          (crypto.signAccess ⟨userId, email, role⟩
            (state.clock / 1000 + config.accessTtlMs / 1000)))
  | signRefresh {userId email accessToken jti : String}
      (unused : jti ∉ state.issued) :
      Moves crypto config state request
        (.signingRefresh userId email accessToken)
        (.inserting userId jti ⟨accessToken,
          crypto.signRefresh ⟨userId, some email, jti⟩
            (state.clock / 1000 + config.refreshTtlMs / 1000)⟩)
  | inserted {userId jti : String} {tokens : Tokens}
      (present : hasUser state.users userId = true) :
      Moves crypto config state request (.inserting userId jti tokens)
        (.returned tokens)
  | resetFound {token : String} {user : UserRow}
      (matched : findResetUser crypto state.users state.clock token =
        some user) :
      Moves crypto config state request (.findingResetUser token)
        (.resetting user.id)
  | refused {phase : Phase} (busy : phase.idle = false)
      (gone : phase.spent = true → ∃ userId jti tokens,
        phase = .inserting userId jti tokens ∧
          hasUser state.users userId = false) :
      Moves crypto config state request phase .rejected
  | tokenRevoked {jti : String} :
      Moves crypto config state request (.revokingToken jti) .finished
  | passwordReset {userId : String} :
      Moves crypto config state request (.resetting userId) .finished
  | swept : Moves crypto config state request .deletingExpired .finished

section Step

variable {crypto : Crypto} {config : Config} {requests : Fin n → Request}
  {state next : State n} {label : Label n}

/-- Only the request that takes the step moves on. -/
theorem Acted.phase_of_ne
    (acted : Acted crypto config requests state label next)
    {other : Fin n} (different : label.actor ≠ some other) :
    next.phase other = state.phase other := by
  cases acted with
  | tick | deleteUser => rfl
  | begin | emailTaken | emailFree | emailRaced | userCreated
  | verificationStored | verificationGone | findUser | loggedIn
  | loginRejected | tokenMissing | tokenRead | checkToken | reused | rotated
  | revokeFamily | readRole | signAccess | signRefresh | inserted
  | insertRejected | revokeToken | resetRejected | resetFound
  | resetPassword | resetGone | deleteExpired =>
      exact phase_moveTo_of_ne
        (fun same => different (congrArg some same.symm)) _

/-- And it moves in one of the ways a request has. -/
theorem Acted.moves_of_actor
    (acted : Acted crypto config requests state label next)
    {request : Fin n} (actor : label.actor = some request) :
    Moves crypto config state (requests request) (state.phase request)
      (next.phase request) := by
  cases acted with
  | tick | deleteUser => cases actor
  | begin found | emailFree found | findUser found | checkToken found
  | reused found | readRole found | signAccess found =>
      cases actor
      rw [found, phase_moveTo]
      constructor
  | userCreated found unused named =>
      cases actor
      change Moves crypto config state _ _ ((state.moveTo _ _).phase _)
      rw [found, phase_moveTo]
      exact .userCreated unused named
  | verificationStored found present =>
      cases actor
      rw [found, phase_moveTo]
      exact .verificationStored present
  | loggedIn found accepted =>
      cases actor
      rw [found, phase_moveTo]
      exact .loggedIn accepted
  | tokenRead found stored =>
      cases actor
      rw [found, phase_moveTo]
      exact .tokenRead stored
  | rotated found counted =>
      cases actor
      change Moves crypto config state _ _ ((state.moveTo _ _).phase _)
      rw [found, phase_moveTo]
      exact .rotated counted
  | signRefresh found unused =>
      cases actor
      change Moves crypto config state _ _ ((state.moveTo _ _).phase _)
      rw [found, phase_moveTo]
      exact .signRefresh unused
  | inserted found present =>
      cases actor
      change Moves crypto config state _ _ ((state.moveTo _ _).phase _)
      rw [found, phase_moveTo]
      exact .inserted present
  | resetFound found matched =>
      cases actor
      rw [found, phase_moveTo]
      exact .resetFound matched
  | insertRejected found gone =>
      cases actor
      rw [found, phase_moveTo]
      exact .refused rfl fun _ => ⟨_, _, _, rfl, gone⟩
  | emailTaken found | emailRaced found | verificationGone found
  | loginRejected found | tokenMissing found | revokeFamily found
  | resetRejected found | resetGone found =>
      cases actor
      change Moves crypto config state _ _ ((state.moveTo _ _).phase _)
      rw [found, phase_moveTo]
      exact .refused rfl fun spent => by cases spent
  | revokeToken found | resetPassword found | deleteExpired found =>
      cases actor
      change Moves crypto config state _ _ ((state.moveTo _ _).phase _)
      rw [found, phase_moveTo]
      constructor

theorem Acted.moves
    (acted : Acted crypto config requests state label next)
    (request : Fin n) :
    next.phase request = state.phase request ∨
      Moves crypto config state (requests request) (state.phase request)
        (next.phase request) := by
  by_cases actor : label.actor = some request
  · exact Or.inr (acted.moves_of_actor actor)
  · exact Or.inl (acted.phase_of_ne actor)

namespace Moves

variable {request : Request} {before after : Phase}

/-- An id is drawn in one move, and held until the row is inserted. -/
theorem reserved (moves : Moves crypto config state request before after)
    {jti : String} (drawn : after.reserved = some jti) :
    jti ∉ state.issued := by
  cases moves with
  | begin =>
      rw [(opening_plain _ _ _).1] at drawn
      cases drawn
  | checkToken =>
      rw [(checked_plain _ _ _ _ _).1] at drawn
      cases drawn
  | signRefresh unused =>
      cases drawn
      exact unused
  | emailFree | userCreated | verificationStored | findUser | loggedIn
  | tokenRead | reused | rotated | readRole | signAccess | inserted
  | resetFound | refused | tokenRevoked | passwordReset | swept => cases drawn

/-- A request that has been answered does nothing more. -/
theorem not_returned
    (moves : Moves crypto config state request before after)
    (tokens : Tokens) : before ≠ .returned tokens := by
  rintro rfl
  cases moves with
  | refused busy => cases busy

/-- How a request comes to issue tokens. -/
theorem spent (moves : Moves crypto config state request before after)
    (behind : after.spent = true) :
    before.spent = true ∨
      (∃ payload row, before = .rotating payload row ∧
        revokedCount (fun stored => stored.id == row.id)
          state.tokens ≠ 0) ∨
      (∃ userId email, before = .storingVerification userId email) ∨
      ∃ password user, before = .comparing password (some user) := by
  cases moves with
  | begin =>
      rw [(opening_plain _ _ _).2] at behind
      cases behind
  | checkToken =>
      rw [(checked_plain _ _ _ _ _).2] at behind
      cases behind
  | verificationStored => exact Or.inr (Or.inr (Or.inl ⟨_, _, rfl⟩))
  | loggedIn => exact Or.inr (Or.inr (Or.inr ⟨_, _, rfl⟩))
  | rotated counted => exact Or.inr (Or.inl ⟨_, _, rfl, counted⟩)
  | readRole | signAccess | signRefresh | inserted => exact Or.inl rfl
  | emailFree | userCreated | findUser | tokenRead | reused | resetFound
  | refused | tokenRevoked | passwordReset | swept => cases behind

/-- A refresh works with a row it had before, or with one it just read. -/
theorem snapshot (moves : Moves crypto config state request before after)
    {row : TokenRow} (found : after.snapshot = some row) :
    before.snapshot = some row ∨ row ∈ state.tokens := by
  cases moves with
  | begin =>
      cases request with
      | register | login | resetPassword | pruneStaleTokens => cases found
      | refresh token | logout token =>
          simp only [opening] at found
          split at found <;> cases found
  | tokenRead stored =>
      cases found
      exact Or.inr (List.mem_of_find?_eq_some stored)
  | checkToken =>
      unfold checked at found
      split at found
      · cases found
      · split at found
        · cases found
        · split at found
          · cases found
          · exact Or.inl found
  | emailFree | userCreated | verificationStored | findUser | loggedIn
  | reused | rotated | readRole | signAccess | signRefresh | inserted
  | resetFound | refused | tokenRevoked | passwordReset | swept => cases found

/-- A pair is returned in the move that inserts its row. -/
theorem returned (moves : Moves crypto config state request before after)
    {tokens : Tokens} (found : after = .returned tokens) :
    ∃ userId jti, before = .inserting userId jti tokens ∧
      hasUser state.users userId = true := by
  have behind : after.spent = true := by rw [found]; rfl
  cases moves with
  | begin =>
      rw [(opening_plain _ _ _).2] at behind
      cases behind
  | checkToken =>
      rw [(checked_plain _ _ _ _ _).2] at behind
      cases behind
  | inserted present =>
      cases found
      exact ⟨_, _, rfl, present⟩
  | emailFree | userCreated | verificationStored | findUser | loggedIn
  | tokenRead | reused | rotated | readRole | signAccess | signRefresh
  | resetFound | refused | tokenRevoked | passwordReset | swept => cases found

end Moves

/-! ## Issued ids -/

/-- The id has been drawn and no request still has to insert its row. -/
def State.Issued (state : State n) (jti : String) : Prop :=
  jti ∈ state.issued ∧
    ∀ request, (state.phase request).reserved ≠ some jti

/-- A request that has returned its tokens does nothing more. -/
theorem Acted.phase_of_returned
    (acted : Acted crypto config requests state label next)
    {request : Fin n} {tokens : Tokens}
    (returned : state.phase request = .returned tokens) :
    next.phase request = .returned tokens := by
  rcases acted.moves request with same | moves
  · rw [same, returned]
  · exact (moves.not_returned tokens returned).elim

theorem Acted.issued_subset
    (acted : Acted crypto config requests state label next) :
    state.issued ⊆ next.issued := by
  cases acted with
  | userCreated | signRefresh => exact List.subset_append_left _ _
  | tick | deleteUser | begin | emailTaken | emailFree | emailRaced
  | verificationStored | verificationGone | findUser | loggedIn
  | loginRejected | tokenMissing | tokenRead | checkToken | reused | rotated
  | revokeFamily | readRole | signAccess | inserted
  | insertRejected | revokeToken | resetRejected | resetFound
  | resetPassword | resetGone | deleteExpired => exact List.Subset.refl _

/-- Ids stay issued. -/
theorem Acted.issued
    (acted : Acted crypto config requests state label next) {jti : String}
    (issued : state.Issued jti) : next.Issued jti := by
  refine ⟨acted.issued_subset issued.1, fun request drawn => ?_⟩
  rcases acted.moves request with same | moves
  · exact issued.2 request (same ▸ drawn)
  · exact moves.reserved drawn issued.1

/-! ## The table -/

/-- One row at two instants. -/
structure SameRow (earlier later : TokenRow) : Prop where
  id : later.id = earlier.id
  userId : later.userId = earlier.userId
  tokenHash : later.tokenHash = earlier.tokenHash
  expiresAt : later.expiresAt = earlier.expiresAt
  revoked : earlier.revoked = true → later.revoked = true

theorem SameRow.refl (row : TokenRow) : SameRow row row :=
  ⟨rfl, rfl, rfl, rfl, fun revoked => revoked⟩

theorem SameRow.trans {first second third : TokenRow}
    (left : SameRow first second) (right : SameRow second third) :
    SameRow first third where
  id := right.id.trans left.id
  userId := right.userId.trans left.userId
  tokenHash := right.tokenHash.trans left.tokenHash
  expiresAt := right.expiresAt.trans left.expiresAt
  revoked revoked := right.revoked (left.revoked revoked)

theorem stem_revokeWhere {hit : TokenRow → Bool} {tokens : List TokenRow}
    {stored : TokenRow} (member : stored ∈ revokeWhere hit tokens) :
    ∃ row ∈ tokens, SameRow row stored ∧
      (hit row = true → stored.revoked = true) := by
  rcases List.mem_map.mp member with ⟨row, rowMember, rfl⟩
  refine ⟨row, rowMember, ?_⟩
  split
  next hits => exact ⟨⟨rfl, rfl, rfl, rfl, fun _ => rfl⟩, fun _ => rfl⟩
  next misses =>
    refine ⟨SameRow.refl row, fun hits => ?_⟩
    cases live : row.revoked with
    | true => rfl
    | false => exact (misses (by simp [hits, live])).elim

/-- The row that `issueTokens` inserts. -/
def newRow (crypto : Crypto) (config : Config) (now : Int)
    (userId jti : String) (tokens : Tokens) : TokenRow where
  id := jti
  userId := userId
  tokenHash := crypto.hashToken tokens.refreshToken
  expiresAt := now + config.refreshTtlMs
  revoked := false

/-- Where a row of the table comes from. -/
theorem Acted.stem
    (acted : Acted crypto config requests state label next)
    {stored : TokenRow} (member : stored ∈ next.tokens) :
    (∃ row ∈ state.tokens, SameRow row stored) ∨
      ∃ request userId jti tokens,
        state.phase request = .inserting userId jti tokens ∧
          stored = newRow crypto config state.clock userId jti tokens := by
  cases acted with
  | rotated | revokeFamily | revokeToken | resetPassword =>
      rcases stem_revokeWhere member with ⟨row, rowMember, same, _⟩
      exact Or.inl ⟨row, rowMember, same⟩
  | deleteExpired | deleteUser =>
      exact Or.inl ⟨stored, (List.mem_filter.mp member).1,
        SameRow.refl stored⟩
  | @inserted request userId jti tokens found present =>
      rcases List.mem_append.mp member with old | new
      · exact Or.inl ⟨stored, old, SameRow.refl stored⟩
      · exact Or.inr ⟨request, userId, jti, tokens, found,
          List.mem_singleton.mp new⟩
  | tick | begin | emailTaken | emailFree | emailRaced | userCreated
  | verificationStored | verificationGone | findUser | loggedIn
  | loginRejected | tokenMissing | tokenRead | checkToken | reused
  | readRole | signAccess | signRefresh | insertRejected | resetRejected
  | resetFound | resetGone =>
      exact Or.inl ⟨stored, member, SameRow.refl stored⟩

theorem persists_revokeWhere {hit : TokenRow → Bool} {tokens : List TokenRow}
    {row : TokenRow} (member : row ∈ tokens) :
    ∃ stored ∈ revokeWhere hit tokens, SameRow row stored := by
  refine ⟨_, List.mem_map.mpr ⟨row, member, rfl⟩, ?_⟩
  split
  · exact ⟨rfl, rfl, rfl, rfl, fun _ => rfl⟩
  · exact SameRow.refl row

/-- A row stays until the sweep or the deletion of its user. -/
theorem Acted.persists
    (acted : Acted crypto config requests state label next)
    {row : TokenRow} (member : row ∈ state.tokens) :
    (∃ stored ∈ next.tokens, SameRow row stored) ∨
      (∃ request, state.phase request = .deletingExpired ∧
        row.expiresAt < state.clock) ∨
      label = .deleteUser row.userId := by
  cases acted with
  | rotated | revokeFamily | revokeToken | resetPassword =>
      exact Or.inl (persists_revokeWhere member)
  | inserted =>
      exact Or.inl ⟨row, List.mem_append_left _ member, SameRow.refl row⟩
  | deleteExpired found =>
      by_cases expired : row.expiresAt < state.clock
      · exact Or.inr (Or.inl ⟨_, found, expired⟩)
      · refine Or.inl ⟨row, ?_, SameRow.refl row⟩
        exact List.mem_filter.mpr ⟨member, by simpa using expired⟩
  | deleteUser userId =>
      by_cases same : row.userId = userId
      · exact Or.inr (Or.inr (by rw [same]))
      · refine Or.inl ⟨row, ?_, SameRow.refl row⟩
        exact List.mem_filter.mpr ⟨member, by simpa using same⟩
  | tick | begin | emailTaken | emailFree | emailRaced | userCreated
  | verificationStored | verificationGone | findUser | loggedIn
  | loginRejected | tokenMissing | tokenRead | checkToken | reused
  | readRole | signAccess | signRefresh | insertRejected | resetRejected
  | resetFound | resetGone =>
      exact Or.inl ⟨row, member, SameRow.refl row⟩

/-! ## Users -/

theorem hasUser_map_withPassword (users : List UserRow)
    (userId passwordHash user : String) :
    hasUser (users.map fun stored =>
      if stored.id = userId then stored.withPassword passwordHash
      else stored) user = hasUser users user := by
  rw [hasUser, hasUser, List.any_map]
  refine List.any_congr rfl fun stored => ?_
  simp only [Function.comp_apply]
  split <;> rfl

theorem hasUser_filter (users : List UserRow) (userId user : String) :
    hasUser (users.filter fun stored => !(stored.id == userId)) user =
      (hasUser users user && user != userId) := by
  rw [hasUser, hasUser, List.any_filter, Bool.eq_iff_iff]
  simp only [List.any_eq_true, Bool.and_eq_true, bne_iff_ne,
    beq_iff_eq, Bool.not_eq_true', beq_eq_false_iff_ne]
  constructor
  · rintro ⟨stored, member, kept, rfl⟩
    exact ⟨⟨stored, member, rfl⟩, kept⟩
  · rintro ⟨⟨stored, member, rfl⟩, kept⟩
    exact ⟨stored, member, kept, rfl⟩

/-- A user stays until its deletion. -/
theorem Acted.user_stays
    (acted : Acted crypto config requests state label next)
    {user : String} (undeleted : label ≠ .deleteUser user)
    (present : hasUser state.users user = true) :
    hasUser next.users user = true := by
  cases acted with
  | userCreated =>
      rw [hasUser, List.any_append, Bool.or_eq_true]
      exact Or.inl present
  | resetPassword =>
      change hasUser (state.users.map _) user = true
      rw [hasUser_map_withPassword]
      exact present
  | deleteUser userId =>
      change hasUser (state.users.filter _) user = true
      rw [hasUser_filter, present, Bool.true_and, bne_iff_ne]
      exact fun same => undeleted (by rw [same])
  | tick | begin | emailTaken | emailFree | emailRaced
  | verificationStored | verificationGone | findUser | loggedIn
  | loginRejected | tokenMissing | tokenRead | checkToken | reused | rotated
  | revokeFamily | readRole | signAccess | signRefresh | inserted
  | insertRejected | revokeToken | resetRejected | resetFound | resetGone
  | deleteExpired => exact present

/-- And a user that is there was there before, or has a new id. -/
theorem Acted.user_before
    (acted : Acted crypto config requests state label next)
    {user : String} (present : hasUser next.users user = true) :
    (hasUser state.users user = true ∧ label ≠ .deleteUser user) ∨
      (user ∉ state.issued ∧ user ∈ next.issued ∧ user ≠ "") := by
  cases acted with
  | @userCreated request email userId passwordHash found unused named =>
      rw [hasUser, List.any_append, Bool.or_eq_true] at present
      rcases present with old | new
      · exact Or.inl ⟨old, by rintro ⟨⟩⟩
      · have same : userId = user := by simpa [newUser] using new
        rw [← same]
        exact Or.inr ⟨unused, by simp, named⟩
  | resetPassword =>
      change hasUser (state.users.map _) user = true at present
      rw [hasUser_map_withPassword] at present
      exact Or.inl ⟨present, by rintro ⟨⟩⟩
  | deleteUser userId =>
      change hasUser (state.users.filter _) user = true at present
      rw [hasUser_filter, Bool.and_eq_true, bne_iff_ne] at present
      refine Or.inl ⟨present.1, ?_⟩
      rintro ⟨⟩
      exact present.2 rfl
  | tick | begin | emailTaken | emailFree | emailRaced
  | verificationStored | verificationGone | findUser | loggedIn
  | loginRejected | tokenMissing | tokenRead | checkToken | reused | rotated
  | revokeFamily | readRole | signAccess | signRefresh | inserted
  | insertRejected | revokeToken | resetRejected | resetFound | resetGone
  | deleteExpired => exact Or.inl ⟨present, by rintro ⟨⟩⟩

theorem Acted.clock_le
    (acted : Acted crypto config requests state label next) :
    state.clock ≤ next.clock := by
  cases acted with
  | tick elapsed => exact Int.le_add_of_nonneg_right (Int.natCast_nonneg _)
  | begin | emailTaken | emailFree | emailRaced | userCreated
  | verificationStored | verificationGone | findUser | loggedIn
  | loginRejected | tokenMissing | tokenRead | checkToken | reused | rotated
  | revokeFamily | readRole | signAccess | signRefresh | inserted
  | insertRejected | revokeToken | resetRejected | resetFound
  | resetPassword | resetGone | deleteExpired | deleteUser =>
      exact Int.le_refl _

end Step

end WeatherNotify.Auth

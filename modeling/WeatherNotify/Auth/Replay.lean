import WeatherNotify.Auth.Lineage

/-!
# What a refresh takes for a replay

`refresh` reads a revoked row as evidence that its token was exchanged before
and is now replayed.  The flag says less: a logout, a password reset and an
earlier family revocation set it too.  With calls made one after another, the
family is revoked for a genuine replay exactly when a rotation set the flag.
-/

namespace WeatherNotify.Auth

open WeatherNotify.Transition

variable {n : Nat}

/-! ## Calls made one after another -/

/-- Whoever acts is the only one under way, and no account is deleted. -/
structure OneByOne (taken : Taken (State n) (Label n)) : Prop where
  alone : ∀ request, taken.label.actor = some request →
    ∀ other, other ≠ request → (taken.source.phase other).idle = true
  undeleted : taken.label.deletesUser = false

instance (taken : Taken (State n) (Label n)) : Decidable (OneByOne taken) :=
  decidable_of_iff
    ((∀ request, taken.label.actor = some request →
        ∀ other, other ≠ request → (taken.source.phase other).idle = true) ∧
      taken.label.deletesUser = false)
    ⟨fun both => ⟨both.1, both.2⟩, fun both => ⟨both.alone, both.undeleted⟩⟩

/-- Some refresh was answered a new pair for the token of the request. -/
def Exchanged (requests : Fin n → Request) (state : State n)
    (request : Fin n) : Prop :=
  ∃ token other, requests request = .refresh token ∧
    requests other = .refresh token ∧ Succeeded state other

/-- A refresh revokes other tokens only if its own had been exchanged. -/
def OnlyOnReplay (crypto : Crypto) (requests : Fin n → Request)
    (taken : Taken (State n) (Label n)) : Prop :=
  ∀ request payload, taken.label.actor = some request →
    Names crypto (requests request) payload →
      (∃ jti ∈ flipped taken.source.tokens taken.target.tokens,
        jti ≠ payload.jti) →
        Exchanged requests taken.source request

/--
The row that a family revocation is about had its flag set by a rotation, or
the user has no other live row.
-/
def SpentOrAlone (crypto : Crypto) (requests : Fin n → Request)
    (taken : Taken (State n) (Label n)) : Prop :=
  ∀ request userId payload, taken.label = .revokeFamily request →
    taken.source.phase request = .revokingFamily userId →
      Names crypto (requests request) payload →
        (∃ other, (payload.jti, .rotate other) ∈ taken.source.revocations) ∨
          ∀ row ∈ taken.source.tokens, row.userId = userId →
            row.id ≠ payload.jti → row.revoked = true

/-! ## While nothing is deleted -/

namespace Phase

/-- The request has got past the hash check of its row. -/
def passed : Phase → Bool
  | .rotating _ _ | .revokingFamily _ | .readingRole _ _
  | .signingAccess _ _ _ | .signingRefresh _ _ _ | .inserting _ _ _
  | .returned _ => true
  | _ => false

/-- The user a request is about to issue tokens for. -/
def serves : Phase → Option String
  | .comparing _ user => user.map UserRow.id
  | phase => phase.issuing

theorem passed_of_spent {phase : Phase} (behind : phase.spent = true) :
    phase.passed = true := by
  cases phase <;> first | rfl | cases behind

end Phase

/-- Facts that hold while neither rows nor users are deleted. -/
structure Kept (crypto : Crypto) (requests : Fin n → Request)
    (state : State n) : Prop where
  tracked : Tracked crypto requests state
  unswept : ∀ request, state.phase request ≠ .deletingExpired
  owners : ∀ row ∈ state.tokens, hasUser state.users row.userId = true
  served : ∀ request user, (state.phase request).serves = some user →
    hasUser state.users user = true
  stored : ∀ request row, (state.phase request).snapshot = some row →
    ∃ stored ∈ state.tokens, SameRow row stored
  passed : ∀ request token payload exp,
    requests request = .refresh token →
      crypto.decodeRefresh token = some (payload, exp) →
        (state.phase request).passed = true →
          ∃ row ∈ state.tokens, row.id = payload.jti ∧
            crypto.verifyTokenHash token row.tokenHash = true
  rotations : ∀ jti other, (jti, .rotate other) ∈ state.revocations →
    ∃ payload, Names crypto (requests other) payload ∧
      payload.jti = jti ∧ (state.phase other).spent = true

theorem Initial.kept {crypto : Crypto} {requests : Fin n → Request}
    {state : State n} (initial : Initial state)
    (genuine : ∀ row ∈ state.tokens, Genuine crypto row)
    (owners : ∀ row ∈ state.tokens, hasUser state.users row.userId = true) :
    Kept crypto requests state where
  tracked := initial.tracked genuine
  unswept request := by
    rw [initial.waiting request]
    rintro ⟨⟩
  owners := owners
  served request user serves := by
    rw [initial.waiting request] at serves
    cases serves
  stored request row found := by
    rw [initial.waiting request] at found
    cases found
  passed request token payload exp asked decoded behind := by
    rw [initial.waiting request] at behind
    cases behind
  rotations jti other member := by
    rw [initial.unrecorded] at member
    cases member

/-! ## One step keeps them -/

section Keep

variable {crypto : Crypto} {config : Config} {requests : Fin n → Request}
  {state next : State n} {label : Label n}

namespace Moves

variable {request : Request} {before after : Phase}

/-- How a request gets past the hash check. -/
theorem passed (moves : Moves crypto config state request before after)
    (behind : after.passed = true) :
    before.passed = true ∨
      (∃ token payload row, before = .checkingToken token payload row ∧
        crypto.verifyTokenHash token row.tokenHash = true) ∨
      (∃ userId email, before = .storingVerification userId email) ∨
      ∃ password user, before = .comparing password (some user) := by
  cases moves with
  | begin =>
      cases request with
      | register | login | resetPassword | pruneStaleTokens => cases behind
      | refresh token | logout token =>
          simp only [opening] at behind
          split at behind <;> cases behind
  | checkToken =>
      refine Or.inr (Or.inl ⟨_, _, _, rfl, ?_⟩)
      unfold checked at behind
      split at behind
      · cases behind
      · split at behind
        · cases behind
        next passes => simpa using passes
  | verificationStored => exact Or.inr (Or.inr (Or.inl ⟨_, _, rfl⟩))
  | loggedIn => exact Or.inr (Or.inr (Or.inr ⟨_, _, rfl⟩))
  | reused | rotated | readRole | signAccess | signRefresh | inserted =>
      exact Or.inl rfl
  | emailFree | userCreated | findUser | tokenRead | resetFound | refused
  | tokenRevoked | passwordReset | swept => cases behind

/-- Whom a request serves, before and after a move. -/
theorem serves (moves : Moves crypto config state request before after)
    {user : String} (serves : after.serves = some user) :
    before.serves = some user ∨ hasUser state.users user = true ∨
      ∃ payload row, before = .rotating payload row ∧
        payload.sub = user := by
  cases moves with
  | begin =>
      cases request with
      | register | login | resetPassword | pruneStaleTokens => cases serves
      | refresh token | logout token =>
          simp only [opening] at serves
          split at serves <;> cases serves
  | checkToken =>
      unfold checked at serves
      split at serves
      · cases serves
      · split at serves
        · cases serves
        · split at serves <;> cases serves
  | findUser =>
      rcases Option.map_eq_some_iff.mp serves with ⟨row, stored, rfl⟩
      refine Or.inr (Or.inl (List.any_eq_true.mpr ⟨row, ?_, ?_⟩))
      · exact List.mem_of_find?_eq_some stored
      · exact beq_self_eq_true _
  | verificationStored present =>
      cases serves
      exact Or.inr (Or.inl present)
  | rotated =>
      cases serves
      exact Or.inr (Or.inr ⟨_, _, rfl, rfl⟩)
  | loggedIn | readRole | signAccess | signRefresh => exact Or.inl serves
  | emailFree | userCreated | tokenRead | reused | inserted | resetFound
  | refused | tokenRevoked | passwordReset | swept => cases serves

/-- Issuing goes on to the end while the user exists. -/
theorem stays_spent
    (moves : Moves crypto config state request before after)
    (behind : before.spent = true)
    (present : ∀ user, before.serves = some user →
      hasUser state.users user = true) : after.spent = true := by
  cases moves with
  | readRole | signAccess | signRefresh | inserted => rfl
  | refused busy gone =>
      rcases gone behind with ⟨userId, jti, tokens, rfl, missing⟩
      rw [present userId rfl] at missing
      cases missing
  | begin | emailFree | userCreated | verificationStored | findUser
  | loggedIn | tokenRead | checkToken | reused | rotated | resetFound
  | tokenRevoked | passwordReset | swept => cases behind

theorem unswept (moves : Moves crypto config state request before after)
    (calls : request ≠ .pruneStaleTokens) : after ≠ .deletingExpired := by
  cases moves with
  | begin =>
      cases request with
      | register | login | resetPassword => rintro ⟨⟩
      | pruneStaleTokens => exact (calls rfl).elim
      | refresh token | logout token =>
          simp only [opening]
          split <;> rintro ⟨⟩
  | checkToken =>
      unfold checked
      split
      · rintro ⟨⟩
      · split
        · rintro ⟨⟩
        · split <;> rintro ⟨⟩
  | emailFree | userCreated | verificationStored | findUser | loggedIn
  | tokenRead | reused | rotated | readRole | signAccess | signRefresh
  | inserted | resetFound | refused | tokenRevoked | passwordReset
  | swept => rintro ⟨⟩

end Moves

/-- A rotation puts its own row on record, and nothing else. -/
theorem Acted.flipped_of_rotate {request : Fin n} {jti : String}
    (acted : Acted crypto config requests state (.rotate request) next)
    (spending : Spending crypto requests state)
    (member : jti ∈ flipped state.tokens next.tokens) :
    ∃ payload row, state.phase request = .rotating payload row ∧
      row.id = jti ∧ (next.phase request).spent = true := by
  cases acted with
  | reused =>
      change jti ∈ flipped state.tokens state.tokens at member
      rw [flipped_self spending.distinct] at member
      cases member
  | @rotated _ payload row found counted =>
      refine ⟨payload, row, found, ?_, ?_⟩
      · obtain ⟨live, liveMember, same, unrevoked, stored, storedMember,
          storedSame, revoked⟩ := mem_flipped_iff.mp member
        rcases List.mem_map.mp storedMember with ⟨old, oldMember, rfl⟩
        split at storedSame
        next hit =>
          simp only [Bool.and_eq_true, beq_iff_eq] at hit
          exact hit.1.symm.trans storedSame
        next miss =>
          rw [if_neg miss] at revoked
          rw [row_unique spending.distinct liveMember oldMember
            (same.trans storedSame.symm), revoked] at unrevoked
          cases unrevoked
      · change ((state.moveTo _ _).phase _).spent = true
        rw [phase_moveTo]
        rfl

namespace Kept

theorem persists (kept : Kept crypto requests state)
    (acted : Acted crypto config requests state label next)
    (undeleted : label.deletesUser = false) {row : TokenRow}
    (member : row ∈ state.tokens) :
    ∃ stored ∈ next.tokens, SameRow row stored := by
  rcases acted.persists member with stays | ⟨request, found, _⟩ | deleted
  · exact stays
  · exact (kept.unswept request found).elim
  · exact (Label.ne_deleteUser undeleted _ deleted).elim

/-- Whoever is served exists. -/
theorem served_step (kept : Kept crypto requests state)
    (acted : Acted crypto config requests state label next)
    (undeleted : label.deletesUser = false)
    {request : Fin n} {user : String}
    (serves : (next.phase request).serves = some user) :
    hasUser next.users user = true := by
  refine acted.user_stays (Label.ne_deleteUser undeleted _) ?_
  rcases acted.moves request with same | moves
  · rw [same] at serves
    exact kept.served request user serves
  · rcases moves.serves serves with earlier | there |
      ⟨payload, row, found, owner⟩
    · exact kept.served request user earlier
    · exact there
    · -- a rotation serves the owner of the row it read
      have fits := kept.tracked.fits request
      rw [found] at fits
      rcases fits with ⟨_, _, _, _, _, _, same⟩
      obtain ⟨stored, storedMember, still⟩ :=
        kept.stored request row (by rw [found]; rfl)
      rw [← owner, ← same, ← still.userId]
      exact kept.owners stored storedMember

/-- A row that a refresh works with is in the table. -/
theorem stored_step (kept : Kept crypto requests state)
    (acted : Acted crypto config requests state label next)
    (undeleted : label.deletesUser = false)
    {request : Fin n} {row : TokenRow}
    (found : (next.phase request).snapshot = some row) :
    ∃ stored ∈ next.tokens, SameRow row stored := by
  have earlier : ∃ stored ∈ state.tokens, SameRow row stored := by
    rcases acted.moves request with same | moves
    · rw [same] at found
      exact kept.stored request row found
    · rcases moves.snapshot found with earlier | member
      · exact kept.stored request row earlier
      · exact ⟨row, member, SameRow.refl row⟩
  rcases earlier with ⟨old, oldMember, first⟩
  obtain ⟨stored, member, second⟩ :=
    kept.persists acted undeleted oldMember
  exact ⟨stored, member, first.trans second⟩

/-- Whoever passed the hash check did so against a row of the table. -/
theorem passed_step (kept : Kept crypto requests state)
    (acted : Acted crypto config requests state label next)
    (undeleted : label.deletesUser = false)
    {request : Fin n} {token : String} {payload : RefreshPayload}
    {exp : Int} (asked : requests request = .refresh token)
    (decoded : crypto.decodeRefresh token = some (payload, exp))
    (behind : (next.phase request).passed = true) :
    ∃ row ∈ next.tokens, row.id = payload.jti ∧
      crypto.verifyTokenHash token row.tokenHash = true := by
  have earlier : ∃ row ∈ state.tokens, row.id = payload.jti ∧
      crypto.verifyTokenHash token row.tokenHash = true := by
    have fits := kept.tracked.fits request
    rcases acted.moves request with same | moves
    · rw [same] at behind
      exact kept.passed request token payload exp asked decoded behind
    · rcases moves.passed behind with earlier |
        ⟨other, said, row, found, passes⟩ | ⟨_, _, found⟩ | ⟨_, _, found⟩
      · exact kept.passed request token payload exp asked decoded earlier
      · rw [found] at fits
        rcases fits with ⟨otherExp, otherAsked, otherDecoded, same⟩
        rw [asked] at otherAsked
        cases otherAsked
        rw [decoded] at otherDecoded
        cases otherDecoded
        obtain ⟨stored, member, still⟩ :=
          kept.stored request row (by rw [found]; rfl)
        refine ⟨stored, member, still.id.trans same, ?_⟩
        rw [still.tokenHash]
        exact passes
      · rw [found] at fits
        exact (fits payload ⟨token, exp, asked, decoded⟩).elim
      · rw [found] at fits
        exact (fits payload ⟨token, exp, asked, decoded⟩).elim
  rcases earlier with ⟨row, member, same, passes⟩
  obtain ⟨stored, storedMember, still⟩ :=
    kept.persists acted undeleted member
  refine ⟨stored, storedMember, still.id.trans same, ?_⟩
  rw [still.tokenHash]
  exact passes

/-- A recorded rotation belongs to a refresh that goes on to the end. -/
theorem rotations_step (kept : Kept crypto requests state)
    (acted : Acted crypto config requests state label next)
    {jti : String} {other : Fin n}
    (member : (jti, .rotate other) ∈
      (state.recorded label next).revocations) :
    ∃ payload, Names crypto (requests other) payload ∧
      payload.jti = jti ∧ (next.phase other).spent = true := by
  rcases List.mem_append.mp member with old | new
  · rcases kept.rotations jti other old with ⟨payload, names, same, behind⟩
    refine ⟨payload, names, same, ?_⟩
    rcases acted.moves other with unmoved | moves
    · rw [unmoved]
      exact behind
    · exact moves.stays_spent behind (kept.served other)
  · rcases List.mem_map.mp new with ⟨flip, flipMember, same⟩
    cases same
    obtain ⟨payload, row, found, same, behind⟩ :=
      acted.flipped_of_rotate kept.tracked.spending flipMember
    have fits := kept.tracked.fits other
    rw [found] at fits
    rcases fits with ⟨token, exp, asked, decoded, _, named, _⟩
    exact ⟨payload, ⟨token, exp, asked, decoded⟩, named.symm.trans same,
      behind⟩

end Kept

theorem kept_step (sound : crypto.Sound)
    (calls : ∀ request, requests request ≠ .pruneStaleTokens)
    (stepped : step crypto config requests state label = some next)
    (undeleted : label.deletesUser = false)
    (kept : Kept crypto requests state) : Kept crypto requests next := by
  have after := tracked_step sound stepped kept.tracked
  rcases Option.map_eq_some_iff.mp stepped with ⟨reached, action, rfl⟩
  have acted := acted_of_act action
  refine ⟨after, fun request => ?_, fun stored member => ?_, ?_, ?_, ?_, ?_⟩
  · change reached.phase request ≠ _
    rcases acted.moves request with same | moves
    · rw [same]
      exact kept.unswept request
    · exact moves.unswept (calls request)
  · refine acted.user_stays (Label.ne_deleteUser undeleted _) ?_
    rcases acted.stem member with ⟨row, rowMember, same⟩ |
      ⟨request, userId, jti, tokens, found, rfl⟩
    · rw [same.userId]
      exact kept.owners row rowMember
    · exact kept.served request userId (by rw [found]; rfl)
  · exact fun _ _ serves => kept.served_step acted undeleted serves
  · exact fun _ _ found => kept.stored_step acted undeleted found
  · exact fun _ _ _ _ asked decoded behind =>
      kept.passed_step acted undeleted asked decoded behind
  · exact fun _ _ member => kept.rotations_step acted member

end Keep

/-! ## The presented token -/

section Replays

variable {crypto : Crypto} {config : Config} {requests : Fin n → Request}
  {state next : State n} {label : Label n}

/-- A rotated token whose refresh is over was exchanged. -/
theorem Kept.exchanged_of_rotated (sound : crypto.Sound)
    (kept : Kept crypto requests state) {request other : Fin n}
    {userId : String} {payload : RefreshPayload}
    (found : state.phase request = .revokingFamily userId)
    (names : Names crypto (requests request) payload)
    (idle : ∀ third, third ≠ request →
      (state.phase third).idle = true)
    (rotated : (payload.jti, .rotate other) ∈ state.revocations) :
    Exchanged requests state request := by
  obtain ⟨said, saidNames, same, behind⟩ :=
    kept.rotations payload.jti other rotated
  rcases names with ⟨token, exp, asked, decoded⟩
  rcases saidNames with ⟨used, usedExp, usedAsked, usedDecoded⟩
  have different : other ≠ request := by
    rintro rfl
    rw [found] at behind
    cases behind
  -- both tokens passed the hash check of the one row with this id
  obtain ⟨row, member, rowSame, passes⟩ := kept.passed request token payload
    exp asked decoded (by rw [found]; rfl)
  obtain ⟨stored, storedMember, storedSame, usedPasses⟩ := kept.passed other
    used said usedExp usedAsked usedDecoded (Phase.passed_of_spent behind)
  have equal : stored = row :=
    row_unique kept.tracked.spending.distinct storedMember member
      (storedSame.trans (same.trans rowSame.symm))
  have hashes : crypto.hashToken used = crypto.hashToken token := by
    rw [equal] at usedPasses
    exact (beq_iff_eq.mp usedPasses).trans (beq_iff_eq.mp passes).symm
  have tokens : used = token := sound.fingerprint hashes
  exact ⟨token, other, asked, tokens ▸ usedAsked,
    Phase.returned_of_spent_of_idle behind (idle other different)⟩

/-- Only its family revocation revokes tokens a refresh did not present. -/
theorem Kept.revokesFamily_of_flipped (kept : Kept crypto requests state)
    (acted : Acted crypto config requests state label next)
    {request : Fin n} {payload : RefreshPayload} {jti : String}
    (actor : label.actor = some request)
    (names : Names crypto (requests request) payload)
    (member : jti ∈ flipped state.tokens next.tokens)
    (foreign : jti ≠ payload.jti) :
    label = .revokeFamily request ∧
      ∃ userId, state.phase request = .revokingFamily userId := by
  have fits := kept.tracked.fits request
  have nothing := flipped_self kept.tracked.spending.distinct
  have rotates : label = .rotate request →
      ∃ payload row, state.phase request = .rotating payload row ∧
        row.id = jti ∧ (next.phase request).spent = true := by
    rintro rfl
    exact acted.flipped_of_rotate kept.tracked.spending member
  cases acted with
  | revokeFamily found =>
      cases actor
      exact ⟨rfl, _, found⟩
  | rotated found counted =>
      cases actor
      rcases rotates rfl with ⟨said, row, reading, same, _⟩
      rw [found] at fits reading
      cases reading
      rcases fits with ⟨token, exp, asked, decoded, _, named, _⟩
      rw [names.unique ⟨token, exp, asked, decoded⟩] at foreign
      exact (foreign (same.symm.trans named)).elim
  | revokeToken found | resetPassword found =>
      cases actor
      rw [found] at fits
      exact (fits payload names).elim
  | inserted =>
      rw [flipped_append_of_live kept.tracked.spending.distinct (by simp)]
        at member
      cases member
  | deleteExpired found => exact (kept.unswept _ found).elim
  | tick | deleteUser => cases actor
  | begin | emailTaken | emailFree | emailRaced | userCreated
  | verificationStored | verificationGone | findUser | loggedIn
  | loginRejected | tokenMissing | tokenRead | checkToken | reused
  | readRole | signAccess | signRefresh | insertRejected | resetRejected
  | resetFound | resetGone =>
      change jti ∈ flipped state.tokens state.tokens at member
      rw [nothing] at member
      cases member

/-- An exchanged token was rotated. -/
theorem Kept.rotated_of_exchanged (kept : Kept crypto requests state)
    {request : Fin n} {payload : RefreshPayload}
    (names : Names crypto (requests request) payload)
    (exchanged : Exchanged requests state request) :
    ∃ other, (payload.jti, .rotate other) ∈ state.revocations := by
  rcases exchanged with ⟨token, other, asked, otherAsked, succeeded⟩
  obtain ⟨said, known, rotated⟩ :=
    kept.tracked.spending.rotated_of_succeeded otherAsked succeeded
  rcases names with ⟨used, exp, usedAsked, decoded⟩
  rw [asked] at usedAsked
  cases usedAsked
  rw [decoded] at known
  cases known
  exact ⟨other, rotated⟩

/-- A family revocation hits every live row of the user. -/
theorem Acted.mem_flipped_of_revokeFamily {request : Fin n}
    {userId : String}
    (acted : Acted crypto config requests state (.revokeFamily request)
      next)
    (found : state.phase request = .revokingFamily userId)
    {row : TokenRow} (member : row ∈ state.tokens)
    (owned : row.userId = userId) (live : row.revoked = false) :
    row.id ∈ flipped state.tokens next.tokens := by
  cases acted with
  | revokeFamily reading =>
      rw [found] at reading
      cases reading
      refine mem_flipped_iff.mpr ⟨row, member, rfl, live,
        { row with revoked := true }, ?_, rfl, rfl⟩
      refine List.mem_map.mpr ⟨row, member, ?_⟩
      simp [owned, live]

/-- And no row of another user. -/
theorem Kept.owned_of_flipped (kept : Kept crypto requests state)
    {request : Fin n} {userId jti : String}
    (acted : Acted crypto config requests state (.revokeFamily request)
      next)
    (found : state.phase request = .revokingFamily userId)
    (member : jti ∈ flipped state.tokens next.tokens) :
    ∃ row ∈ state.tokens, row.id = jti ∧ row.revoked = false ∧
      row.userId = userId := by
  obtain ⟨live, liveMember, same, unrevoked, stored, storedMember,
    storedSame, revoked⟩ := mem_flipped_iff.mp member
  refine ⟨live, liveMember, same, unrevoked, ?_⟩
  cases acted with
  | revokeFamily reading =>
      rw [found] at reading
      cases reading
      rcases List.mem_map.mp storedMember with ⟨old, oldMember, rfl⟩
      have equal : old = live := by
        refine row_unique kept.tracked.spending.distinct oldMember
          liveMember (Eq.trans ?_ (storedSame.trans same.symm))
        split <;> rfl
      rw [equal] at revoked
      split at revoked
      next hit =>
        simp only [Bool.and_eq_true, beq_iff_eq] at hit
        exact hit.1
      next => rw [unrevoked] at revoked; cases revoked

/-- One step of calls made one after another. -/
theorem Kept.onlyOnReplay_iff (sound : crypto.Sound)
    {taken : Taken (State n) (Label n)}
    (kept : Kept crypto requests taken.source)
    (stepped : step crypto config requests taken.source taken.label =
      some taken.target)
    (sequential : OneByOne taken) :
    OnlyOnReplay crypto requests taken ↔
      SpentOrAlone crypto requests taken := by
  rcases taken with ⟨source, label, target⟩
  simp only at kept stepped
  rcases Option.map_eq_some_iff.mp stepped with ⟨reached, action, rfl⟩
  have acted := acted_of_act action
  constructor
  · rintro replays request userId payload rfl found names
    by_cases alone : ∀ row ∈ source.tokens, row.userId = userId →
        row.id ≠ payload.jti → row.revoked = true
    · exact Or.inr alone
    · push Not at alone
      rcases alone with ⟨row, member, owned, foreign, live⟩
      have hit := acted.mem_flipped_of_revokeFamily found member owned
        (Bool.eq_false_iff.mpr live)
      exact Or.inl (kept.rotated_of_exchanged names
        (replays request payload rfl names ⟨row.id, hit, foreign⟩))
  · rintro evidence request payload actor names ⟨jti, member, foreign⟩
    obtain ⟨rfl, userId, found⟩ :=
      kept.revokesFamily_of_flipped acted actor names member foreign
    rcases evidence request userId payload rfl found names with
      ⟨other, rotated⟩ | alone
    · exact kept.exchanged_of_rotated sound found names
        (sequential.alone request rfl) rotated
    · obtain ⟨row, rowMember, rfl, live, owned⟩ :=
        kept.owned_of_flipped acted found member
      rw [alone row rowMember owned foreign] at live
      cases live

end Replays

/--
With calls made one after another, the family of a user is revoked for genuine
replays only exactly if every row that a refresh finds revoked was revoked by
a rotation, or there is nothing else to revoke.
-/
theorem family_revoked_only_on_replay_iff (crypto : Crypto)
    (config : Config) (requests : Fin n → Request) (sound : crypto.Sound)
    (calls : ∀ request, requests request ≠ .pruneStaleTokens)
    {start : State n} {labels : List (Label n)} (initial : Initial start)
    (genuine : ∀ row ∈ start.tokens, Genuine crypto row)
    (owners : ∀ row ∈ start.tokens,
      hasUser start.users row.userId = true)
    (sequential : ∀ taken ∈
      (machine crypto config requests).transitions start labels,
      OneByOne taken) :
    (∀ taken ∈ (machine crypto config requests).transitions start labels,
      OnlyOnReplay crypto requests taken) ↔
    ∀ taken ∈ (machine crypto config requests).transitions start labels,
      SpentOrAlone crypto requests taken := by
  refine forall₂_congr fun taken member => ?_
  have kept : Kept crypto requests taken.source :=
    (Machine.transitions_invariant
      (fun other stepped alone => kept_step sound calls stepped
        alone.undeleted)
      (initial.kept genuine owners) sequential member).1
  exact kept.onlyOnReplay_iff sound
    (Machine.step_of_mem_transitions _ member) (sequential taken member)

/-! ## A replay, and a logged-out token -/

/-- Two live sessions of one user. -/
def twoSessions : State n where
  clock := 0
  users := [⟨"u", "e", "p", .user, true, none, none⟩]
  tokens := [rowOf "0" false, rowOf "1" false]
  issued := ["u", "0", "1"]
  phase _ := .waiting
  revocations := []

theorem twoSessions_initial : Initial (twoSessions : State n) :=
  ⟨fun _ => rfl, by simp [twoSessions, rowOf],
    by simp [twoSessions, rowOf], rfl⟩

theorem twoSessions_genuine :
    ∀ row ∈ (twoSessions : State n).tokens, Genuine plainTokens row := by
  intro row member
  simp only [twoSessions, List.mem_cons, List.not_mem_nil, or_false]
    at member
  rcases member with rfl | rfl
  · exact genuine_rowOf "0" false
  · exact genuine_rowOf "1" false

theorem twoSessions_owners : ∀ row ∈ (twoSessions : State n).tokens,
    hasUser (twoSessions : State n).users row.userId = true := by
  simp [twoSessions, rowOf, hasUser]

/-- A token is exchanged and then presented again. -/
def replaying (first second : Fin n) : List (Label n) :=
  deciding first ++ rotating first "2" ++ deciding second ++
    [.revokeFamily second]

/-- The replay revokes the family, and its token had been exchanged. -/
theorem replay_of_exchanged_token :
    ∃ final, (machine plainTokens ⟨5000, 5000⟩
        fun _ => .refresh (tokenOf "0")).run twoSessions
          (replaying (0 : Fin 2) 1) = some final ∧
      ("1", .revokeFamily 1) ∈ final.revocations ∧
      ∀ taken ∈ (machine plainTokens ⟨5000, 5000⟩
          fun _ => .refresh (tokenOf "0")).transitions twoSessions
            (replaying (0 : Fin 2) 1),
        OnlyOnReplay plainTokens (fun _ => .refresh (tokenOf "0"))
          taken := by
  refine ⟨_, rfl, by decide, ?_⟩
  have rotated : ∀ taken ∈ (machine plainTokens ⟨5000, 5000⟩
      fun _ => .refresh (tokenOf "0")).transitions twoSessions
        (replaying (0 : Fin 2) 1),
      ∀ request, taken.label = .revokeFamily request →
        ("0", .rotate 0) ∈ taken.source.revocations := by
    decide
  refine (family_revoked_only_on_replay_iff plainTokens ⟨5000, 5000⟩ _
    plainTokens_sound (fun _ => by rintro ⟨⟩) twoSessions_initial
    twoSessions_genuine twoSessions_owners (by decide)).mpr ?_
  intro taken member request userId payload labelled found names
  cases names.unique (names_tokenOf "0")
  exact Or.inl ⟨0, rotated taken member request labelled⟩

/-- One session is logged out, then its token is presented again. -/
def presentingLoggedOut (first second : Fin n) : List (Label n) :=
  [.begin first, .revokeToken first] ++ deciding second ++
    [.revokeFamily second]

def logoutThenRefresh (request : Fin n) : Request :=
  if request.val = 0 then .logout (tokenOf "0") else .refresh (tokenOf "0")

/-- The other session is revoked too, and nothing was ever exchanged. -/
theorem logged_out_token_revokes_family :
    ∃ taken ∈ (machine plainTokens ⟨5000, 5000⟩
        logoutThenRefresh).transitions twoSessions
          (presentingLoggedOut (0 : Fin 2) 1),
      (∀ other ∈ (machine plainTokens ⟨5000, 5000⟩
        logoutThenRefresh).transitions twoSessions
          (presentingLoggedOut (0 : Fin 2) 1), OneByOne other) ∧
      "1" ∈ flipped taken.source.tokens taken.target.tokens ∧
      ¬ OnlyOnReplay plainTokens logoutThenRefresh taken := by
  refine ⟨_, List.mem_of_getElem? (i := 5) rfl, by decide, by decide, ?_⟩
  intro replays
  obtain ⟨token, other, asked, otherAsked, tokens, returned⟩ :=
    replays 1 ⟨"u", some "e", "0"⟩ rfl (names_tokenOf "0")
      ⟨"1", by decide, by decide⟩
  have waiting : other = 0 ∨ other = 1 := by omega
  rcases waiting with rfl | rfl <;> cases returned

end WeatherNotify.Auth

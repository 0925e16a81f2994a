import WeatherNotify.Auth.Moves
import WeatherNotify.Auth.Signatures

/-!
# Whose session a request carries on

A row of the table is genuine when the token that passes its hash check names
the row's own user and id.  Every row that `issueTokens` writes is, and so a
refresh that gets past the check issues its new pair for the user of the row
it read.
-/

namespace WeatherNotify.Auth

open WeatherNotify.Transition

variable {n : Nat}

/-! ## What a phase says about its request -/

/-- The request is a refresh whose token says `payload`. -/
def Names (crypto : Crypto) (request : Request)
    (payload : RefreshPayload) : Prop :=
  ∃ token exp, request = .refresh token ∧
    crypto.decodeRefresh token = some (payload, exp)

theorem Names.unique {crypto : Crypto} {request : Request}
    {left right : RefreshPayload} (leftNames : Names crypto request left)
    (rightNames : Names crypto request right) : left = right := by
  rcases leftNames with ⟨token, exp, rfl, decoded⟩
  rcases rightNames with ⟨other, otherExp, same, otherDecoded⟩
  cases same
  rw [decoded] at otherDecoded
  cases otherDecoded
  rfl

theorem Names.presents {crypto : Crypto} {request : Request}
    {payload : RefreshPayload} (names : Names crypto request payload) :
    Presents crypto request (some payload) := by
  rcases names with ⟨token, exp, rfl, decoded⟩
  exact ⟨token, rfl, by rw [decoded]; rfl⟩

/-- A refresh carries on the session of the user its token names. -/
def Bears (crypto : Crypto) (request : Request) (userId : String) : Prop :=
  ∀ payload, Names crypto request payload → payload.sub = userId

namespace Phase

def Fits (crypto : Crypto) (request : Request) : Phase → Prop
  | .readingToken token payload =>
      ∃ exp, request = .refresh token ∧
        crypto.decodeRefresh token = some (payload, exp)
  | .checkingToken token payload row =>
      ∃ exp, request = .refresh token ∧
        crypto.decodeRefresh token = some (payload, exp) ∧
        row.id = payload.jti
  | .rotating payload row =>
      ∃ token exp, request = .refresh token ∧
        crypto.decodeRefresh token = some (payload, exp) ∧
        crypto.verifyTokenHash token row.tokenHash = true ∧
        row.id = payload.jti ∧ row.userId = payload.sub
  | .revokingFamily userId =>
      ∃ payload, Names crypto request payload ∧ payload.sub = userId
  | .readingRole userId _ | .signingAccess userId _ _
  | .signingRefresh userId _ _ => Bears crypto request userId
  | .inserting userId jti tokens =>
      Bears crypto request userId ∧
        ∃ email exp, tokens.refreshToken =
          crypto.signRefresh ⟨userId, some email, jti⟩ exp
  | .findingTaken _ | .creatingUser _ | .storingVerification _ _
  | .findingUser _ _ | .comparing _ _ | .revokingToken _
  | .findingResetUser _ | .resetting _ | .deletingExpired =>
      ∀ payload, ¬ Names crypto request payload
  | _ => True

end Phase

/-- The token that passes the row's hash check is the row's own. -/
def Genuine (crypto : Crypto) (row : TokenRow) : Prop :=
  ∀ token, crypto.verifyTokenHash token row.tokenHash = true →
    ∃ email exp, crypto.decodeRefresh token =
      some (⟨row.userId, email, row.id⟩, exp)

theorem Genuine.later {crypto : Crypto} {row stored : TokenRow}
    (genuine : Genuine crypto row) (same : SameRow row stored) :
    Genuine crypto stored := by
  intro token passes
  rw [same.tokenHash] at passes
  rw [same.userId, same.id]
  exact genuine token passes

/-- What a refresh may still rely on of a row it has read. -/
structure ReadRow (crypto : Crypto) (state : State n)
    (row : TokenRow) : Prop where
  genuine : Genuine crypto row
  issued : state.Issued row.id
  later : ∀ stored ∈ state.tokens, stored.id = row.id → SameRow row stored

structure Tracked (crypto : Crypto) (requests : Fin n → Request)
    (state : State n) : Prop where
  spending : Spending crypto requests state
  fits : ∀ request, (state.phase request).Fits crypto (requests request)
  genuine : ∀ row ∈ state.tokens, Genuine crypto row
  read : ∀ request row, (state.phase request).snapshot = some row →
    ReadRow crypto state row

theorem Initial.tracked {crypto : Crypto} {requests : Fin n → Request}
    {state : State n} (initial : Initial state)
    (genuine : ∀ row ∈ state.tokens, Genuine crypto row) :
    Tracked crypto requests state where
  spending := initial.spending
  fits request := by
    rw [initial.waiting request]
    trivial
  genuine := genuine
  read request row found := by
    rw [initial.waiting request] at found
    cases found

/-! ## Each step keeps track -/

section Track

variable {crypto : Crypto} {config : Config} {requests : Fin n → Request}
  {state next : State n} {label : Label n}

theorem Spending.issued_of_mem
    (spending : Spending crypto requests state) {row : TokenRow}
    (member : row ∈ state.tokens) : state.Issued row.id := by
  refine ⟨spending.issued row member, fun request drawn => ?_⟩
  exact (spending.reserved request row.id drawn).2.1
    (List.mem_map.mpr ⟨row, member, rfl⟩)

theorem Tracked.readRow_of_mem (tracked : Tracked crypto requests state)
    {row : TokenRow} (member : row ∈ state.tokens) :
    ReadRow crypto state row where
  genuine := tracked.genuine row member
  issued := tracked.spending.issued_of_mem member
  later stored storedMember same := by
    rw [row_unique tracked.spending.distinct storedMember member same]
    exact SameRow.refl row

theorem ReadRow.step
    (acted : Acted crypto config requests state label next)
    {row : TokenRow} (read : ReadRow crypto state row) :
    ReadRow crypto next row where
  genuine := read.genuine
  issued := acted.issued read.issued
  later stored member same := by
    rcases acted.stem member with ⟨old, oldMember, kept⟩ |
      ⟨request, userId, jti, tokens, found, rfl⟩
    · have first := read.later old oldMember (kept.id.symm.trans same)
      exact first.trans kept
    · have drawn : (state.phase request).reserved = some row.id := by
        rw [found, ← same]
        rfl
      exact (read.issued.2 request drawn).elim

theorem genuine_newRow (sound : crypto.Sound) {now : Int}
    {userId jti : String} {tokens : Tokens} {email : String} {exp : Int}
    (signed : tokens.refreshToken =
      crypto.signRefresh ⟨userId, some email, jti⟩ exp) :
    Genuine crypto (newRow crypto config now userId jti tokens) := by
  intro token passes
  have same : token = tokens.refreshToken :=
    sound.fingerprint (beq_iff_eq.mp passes)
  refine ⟨some email, exp, ?_⟩
  rw [same, signed]
  exact sound.decoded _ _

theorem opening_fits (crypto : Crypto) (now : Int) (request : Request) :
    (opening crypto now request).Fits crypto request := by
  cases request with
  | register | login | resetPassword | pruneStaleTokens =>
      rintro payload ⟨token, exp, same, _⟩
      cases same
  | logout token =>
      simp only [opening]
      split
      · trivial
      · rintro payload ⟨token, exp, same, _⟩
        cases same
  | refresh token =>
      simp only [opening, Crypto.verifyRefresh]
      cases decoded : crypto.decodeRefresh token with
      | none => trivial
      | some said =>
          rcases said with ⟨payload, exp⟩
          by_cases unexpired : now / 1000 < exp
          · simp only [unexpired, if_true]
            exact ⟨exp, rfl, decoded⟩
          · simp only [unexpired, if_false]
            trivial

theorem checked_fits {now : Int} {request : Request} {token : String}
    {payload : RefreshPayload} {row : TokenRow}
    (fits : Phase.Fits crypto request (.checkingToken token payload row))
    (genuine : Genuine crypto row) :
    (checked crypto now token payload row).Fits crypto request := by
  rcases fits with ⟨exp, asked, decoded, same⟩
  unfold checked
  split
  · trivial
  · split
    · trivial
    next passes =>
      have passes : crypto.verifyTokenHash token row.tokenHash = true := by
        simpa using passes
      have owner : payload.sub = row.userId := by
        rcases genuine token passes with ⟨email, other, said⟩
        rw [decoded] at said
        cases said
        rfl
      split
      · exact ⟨payload, ⟨token, exp, asked, decoded⟩, owner⟩
      · exact ⟨token, exp, asked, decoded, passes, same, owner.symm⟩

/-- The phase a move leads to fits the request as well. -/
theorem Moves.fits {request : Request} {before after : Phase}
    (moves : Moves crypto config state request before after)
    (fits : before.Fits crypto request)
    (genuine : ∀ row, before.snapshot = some row → Genuine crypto row) :
    after.Fits crypto request := by
  cases moves with
  | begin => exact opening_fits crypto _ _
  | emailFree | userCreated | findUser | resetFound | readRole
  | signAccess => exact fits
  | verificationStored | loggedIn =>
      exact fun payload names => (fits payload names).elim
  | tokenRead stored =>
      rcases fits with ⟨exp, asked, decoded⟩
      exact ⟨exp, asked, decoded, findToken_id stored⟩
  | checkToken => exact checked_fits fits (genuine _ rfl)
  | reused =>
      rcases fits with ⟨token, exp, asked, decoded, _, _, owner⟩
      exact ⟨_, ⟨token, exp, asked, decoded⟩, owner.symm⟩
  | rotated counted =>
      rcases fits with ⟨token, exp, asked, decoded, _⟩
      intro other names
      rw [names.unique ⟨token, exp, asked, decoded⟩]
  | signRefresh unused => exact ⟨fits, _, _, rfl⟩
  | inserted | refused | tokenRevoked | passwordReset | swept => trivial

theorem tracked_step (sound : crypto.Sound)
    (stepped : step crypto config requests state label = some next)
    (tracked : Tracked crypto requests state) :
    Tracked crypto requests next := by
  have spending := spending_step stepped tracked.spending
  rcases Option.map_eq_some_iff.mp stepped with ⟨after, action, rfl⟩
  have acted := acted_of_act action
  have fits : ∀ request,
      (after.phase request).Fits crypto (requests request) := by
    intro request
    rcases acted.moves request with same | moves
    · rw [same]
      exact tracked.fits request
    · exact moves.fits (tracked.fits request)
        fun row found => (tracked.read request row found).genuine
  refine ⟨spending, fits, fun stored member => ?_,
    fun request row found => ?_⟩
  · rcases acted.stem member with ⟨row, rowMember, same⟩ |
      ⟨request, userId, jti, tokens, found, rfl⟩
    · exact (tracked.genuine row rowMember).later same
    · have fits := tracked.fits request
      rw [found] at fits
      rcases fits with ⟨_, email, exp, signed⟩
      exact genuine_newRow sound signed
  · have read : ReadRow crypto after row := by
      change (after.phase request).snapshot = some row at found
      rcases acted.moves request with same | moves
      · rw [same] at found
        exact (tracked.read request row found).step acted
      · rcases moves.snapshot found with earlier | member
        · exact (tracked.read request row earlier).step acted
        · exact (tracked.readRow_of_mem member).step acted
    exact ⟨read.genuine, read.issued, read.later⟩

/-- Every state of a run keeps track of whose sessions are carried on. -/
theorem Tracked.run (sound : crypto.Sound)
    {start final : State n} {labels : List (Label n)}
    (tracked : Tracked crypto requests start)
    (reached :
      (machine crypto config requests).run start labels = some final) :
    Tracked crypto requests final :=
  Machine.run_preserves (Tracked crypto requests) (tracked_step sound)
    tracked reached

end Track

/-! ## Sessions of one user -/

def tokenOf (jti : String) : String :=
  PlainToken.signRefresh ⟨"u", some "e", jti⟩ 5

theorem names_tokenOf (jti : String) :
    Names plainTokens (.refresh (tokenOf jti)) ⟨"u", some "e", jti⟩ :=
  ⟨tokenOf jti, 5, rfl, plainTokens_sound.decoded _ _⟩

def rowOf (jti : String) (revoked : Bool) : TokenRow where
  id := jti
  userId := "u"
  tokenHash := tokenOf jti
  expiresAt := 5000
  revoked := revoked

theorem genuine_rowOf (jti : String) (revoked : Bool) :
    Genuine plainTokens (rowOf jti revoked) := by
  intro token passes
  have same : token = tokenOf jti := beq_iff_eq.mp passes
  rw [same]
  exact ⟨some "e", 5, plainTokens_sound.decoded _ _⟩

/-- A refresh up to its decision. -/
def deciding (request : Fin n) : List (Label n) :=
  [.begin request, .readToken request, .checkToken request]

/-- The rest of a refresh that may rotate. -/
def rotating (request : Fin n) (jti : String) : List (Label n) :=
  [.rotate request, .readRole request, .signAccess request,
    .signRefresh request jti, .insertToken request]

end WeatherNotify.Auth

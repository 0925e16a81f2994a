import Mathlib.Data.List.Nodup
import WeatherNotify.Transition.Machine

/-!
# Sessions: refresh tokens and the requests that touch them

`AuthService` one database statement at a time.  Any number of requests run
interleaved; each one waits in a phase for its next statement, clock reading
or cryptographic call.  Signing, decoding and hashing are parameters, and the
ids that `randomUUID` returns are chosen by the run among the unused ones.

One field is a ghost: `revocations` lists the rows whose `revoked` flag was
set, each with the step that set it.
-/

namespace WeatherNotify.Auth

open WeatherNotify.Transition

/-! ## Rows and tokens -/

inductive Role where
  | user
  | admin
  deriving DecidableEq, Repr

/-- A `User` row, as far as sessions are concerned. -/
structure UserRow where
  id : String
  email : String
  passwordHash : String
  role : Role
  emailVerified : Bool
  passwordResetTokenHash : Option String
  passwordResetTokenExpiresAt : Option Int
  deriving DecidableEq, Repr

/-- A `RefreshToken` row; its id is the token's `jti`. -/
structure TokenRow where
  id : String
  userId : String
  tokenHash : String
  expiresAt : Int
  revoked : Bool
  deriving DecidableEq, Repr

structure RefreshPayload where
  sub : String
  email : Option String
  jti : String
  deriving DecidableEq, Repr

structure AccessPayload where
  sub : String
  email : String
  role : Role
  deriving DecidableEq, Repr

structure Tokens where
  accessToken : String
  refreshToken : String
  deriving DecidableEq, Repr

/--
What the libraries compute.  `decodeRefresh` answers the payload and the expiry
in seconds of a token whose signature is ours.
-/
structure Crypto where
  signAccess : AccessPayload → Int → String
  signRefresh : RefreshPayload → Int → String
  decodeRefresh : String → Option (RefreshPayload × Int)
  hashToken : String → String
  comparePassword : String → String → Bool

/-- `verifyAsync` with the refresh secret, at an instant in milliseconds. -/
def Crypto.verifyRefresh (crypto : Crypto) (now : Int) (token : String) :
    Option RefreshPayload :=
  match crypto.decodeRefresh token with
  | some (payload, exp) => if now / 1000 < exp then some payload else none
  | none => none

def Crypto.verifyTokenHash (crypto : Crypto) (token stored : String) : Bool :=
  crypto.hashToken token == stored

structure Config where
  accessTtlMs : Int
  refreshTtlMs : Int

/-! ## Statements on the token table -/

/-- `updateMany` of the live rows a filter hits, setting `revoked`. -/
def revokeWhere (hit : TokenRow → Bool) (tokens : List TokenRow) :
    List TokenRow :=
  tokens.map fun row =>
    if hit row && !row.revoked then { row with revoked := true } else row

/-- The count such an `updateMany` answers. -/
def revokedCount (hit : TokenRow → Bool) (tokens : List TokenRow) : Nat :=
  tokens.countP fun row => hit row && !row.revoked

def findToken (tokens : List TokenRow) (jti : String) : Option TokenRow :=
  tokens.find? fun row => row.id == jti

/-- Rows whose flag a step set. -/
def flipped (before after : List TokenRow) : List String :=
  (before.filter fun row =>
    !row.revoked &&
      after.any fun stored => stored.id == row.id && stored.revoked).map
    TokenRow.id

/-! ## Requests -/

inductive Request where
  | register (email : String)
  | login (email password : String)
  | refresh (token : String)
  | logout (token : String)
  | resetPassword (token : String)
  | pruneStaleTokens
  deriving DecidableEq, Repr

/-- What a request waits for next. -/
inductive Phase where
  | waiting
  | findingTaken (email : String)
  | creatingUser (email : String)
  | storingVerification (userId email : String)
  | findingUser (email password : String)
  | comparing (password : String) (user : Option UserRow)
  | readingToken (token : String) (payload : RefreshPayload)
  | checkingToken (token : String) (payload : RefreshPayload)
      (row : TokenRow)
  | rotating (payload : RefreshPayload) (row : TokenRow)
  | revokingFamily (userId : String)
  | readingRole (userId email : String)
  | signingAccess (userId email : String) (role : Role)
  | signingRefresh (userId email accessToken : String)
  | inserting (userId jti : String) (tokens : Tokens)
  | revokingToken (jti : String)
  | findingResetUser (token : String)
  | resetting (userId : String)
  | deletingExpired
  | returned (tokens : Tokens)
  | finished
  | rejected
  deriving DecidableEq, Repr

inductive Label (n : Nat) where
  | tick (elapsed : Nat)
  | begin (request : Fin n)
  | findTaken (request : Fin n)
  | createUser (request : Fin n) (userId passwordHash : String)
  | storeVerification (request : Fin n)
  | findUser (request : Fin n)
  | compare (request : Fin n)
  | readToken (request : Fin n)
  | checkToken (request : Fin n)
  | rotate (request : Fin n)
  | revokeFamily (request : Fin n)
  | readRole (request : Fin n)
  | signAccess (request : Fin n)
  | signRefresh (request : Fin n) (jti : String)
  | insertToken (request : Fin n)
  | revokeToken (request : Fin n)
  | findResetUser (request : Fin n)
  | resetPassword (request : Fin n) (passwordHash : String)
  | deleteExpired (request : Fin n)
  | deleteUser (userId : String)
  deriving DecidableEq, Repr

structure State (n : Nat) where
  clock : Int
  users : List UserRow
  tokens : List TokenRow
  issued : List String
  phase : Fin n → Phase
  revocations : List (String × Label n)

variable {n : Nat}

def State.moveTo (state : State n) (request : Fin n) (phase : Phase) :
    State n :=
  { state with phase := Function.update state.phase request phase }

section Step

variable (crypto : Crypto) (config : Config) (requests : Fin n → Request)

/-- The synchronous opening of a request, up to its first statement. -/
def opening (now : Int) : Request → Phase
  | .register email => .findingTaken email
  | .login email password => .findingUser email password
  | .refresh token =>
      match crypto.verifyRefresh now token with
      | none => .rejected
      | some payload => .readingToken token payload
  | .logout token =>
      match crypto.verifyRefresh now token with
      | none => .finished
      | some payload => .revokingToken payload.jti
  | .resetPassword token => .findingResetUser token
  | .pruneStaleTokens => .deletingExpired

/-- The checks of `refresh` on the row it read. -/
def checked (now : Int) (token : String) (payload : RefreshPayload)
    (row : TokenRow) : Phase :=
  if row.expiresAt < now then .rejected
  else if !crypto.verifyTokenHash token row.tokenHash then .rejected
  else if row.revoked then .revokingFamily row.userId
  else .rotating payload row

/-- The user a password-reset token still opens. -/
def findResetUser (users : List UserRow) (now : Int) (token : String) :
    Option UserRow :=
  (users.find? fun user =>
    user.passwordResetTokenHash == some (crypto.hashToken token)).filter
    fun user => user.passwordResetTokenExpiresAt.any (now ≤ ·)

/-- The user update of a completed reset. -/
def UserRow.withPassword (user : UserRow) (passwordHash : String) : UserRow :=
  { user with
    passwordHash := passwordHash
    passwordResetTokenHash := none
    passwordResetTokenExpiresAt := none
    emailVerified := true }

def hasUser (users : List UserRow) (userId : String) : Bool :=
  users.any fun user => user.id == userId

def hasEmail (users : List UserRow) (email : String) : Bool :=
  users.any fun user => user.email == email

/-- The row `create` writes, with the defaults of the schema. -/
def newUser (userId email passwordHash : String) : UserRow where
  id := userId
  email := email
  passwordHash := passwordHash
  role := .user
  emailVerified := false
  passwordResetTokenHash := none
  passwordResetTokenExpiresAt := none

/-- The effect of a step on everything but the ghost. -/
def act (state : State n) : Label n → Option (State n)
  | .tick elapsed => some { state with clock := state.clock + elapsed }
  | .begin request =>
      match state.phase request with
      | .waiting =>
          some (state.moveTo request
            (opening crypto state.clock (requests request)))
      | _ => none
  | .findTaken request =>
      match state.phase request with
      | .findingTaken email =>
          if hasEmail state.users email then
            some (state.moveTo request .rejected)
          else some (state.moveTo request (.creatingUser email))
      | _ => none
  | .createUser request userId passwordHash =>
      match state.phase request with
      | .creatingUser email =>
          -- the row's id is drawn like the ids of tokens, and is not empty
          if userId ∈ state.issued ∨ userId = "" then none
          else if hasEmail state.users email then
            some (state.moveTo request .rejected)
          else
            some { state.moveTo request
                (.storingVerification userId email) with
              users := state.users ++ [newUser userId email passwordHash]
              issued := state.issued ++ [userId] }
      | _ => none
  | .storeVerification request =>
      match state.phase request with
      | .storingVerification userId email =>
          -- the fingerprint it stores is read by `verifyEmail` only
          if hasUser state.users userId then
            some (state.moveTo request (.readingRole userId email))
          else some (state.moveTo request .rejected)
      | _ => none
  | .findUser request =>
      match state.phase request with
      | .findingUser email password =>
          some (state.moveTo request (.comparing password
            (state.users.find? fun user => user.email == email)))
      | _ => none
  | .compare request =>
      match state.phase request with
      | .comparing password (some user) =>
          if crypto.comparePassword password user.passwordHash then
            some (state.moveTo request (.readingRole user.id user.email))
          else some (state.moveTo request .rejected)
      | .comparing _ none => some (state.moveTo request .rejected)
      | _ => none
  | .readToken request =>
      match state.phase request with
      | .readingToken token payload =>
          match findToken state.tokens payload.jti with
          | none => some (state.moveTo request .rejected)
          | some row =>
              some (state.moveTo request (.checkingToken token payload row))
      | _ => none
  | .checkToken request =>
      match state.phase request with
      | .checkingToken token payload row =>
          some (state.moveTo request
            (checked crypto state.clock token payload row))
      | _ => none
  | .rotate request =>
      match state.phase request with
      | .rotating payload row =>
          if revokedCount (fun stored => stored.id == row.id)
              state.tokens = 0 then
            some (state.moveTo request (.revokingFamily row.userId))
          else
            some { state.moveTo request
                (.readingRole payload.sub (payload.email.getD "")) with
              tokens := revokeWhere (fun stored => stored.id == row.id)
                state.tokens }
      | _ => none
  | .revokeFamily request =>
      match state.phase request with
      | .revokingFamily userId =>
          some { state.moveTo request .rejected with
            tokens := revokeWhere (fun stored => stored.userId == userId)
              state.tokens }
      | _ => none
  | .readRole request =>
      match state.phase request with
      | .readingRole userId email =>
          let role := (state.users.find? fun user => user.id == userId).map
            UserRow.role
          some (state.moveTo request
            (.signingAccess userId email (role.getD .user)))
      | _ => none
  | .signAccess request =>
      match state.phase request with
      | .signingAccess userId email role =>
          some (state.moveTo request (.signingRefresh userId email
            (crypto.signAccess ⟨userId, email, role⟩
              (state.clock / 1000 + config.accessTtlMs / 1000))))
      | _ => none
  | .signRefresh request jti =>
      match state.phase request with
      | .signingRefresh userId email accessToken =>
          -- `randomUUID` never repeats an id
          if jti ∈ state.issued then none
          else
            let refreshToken := crypto.signRefresh ⟨userId, some email, jti⟩
              (state.clock / 1000 + config.refreshTtlMs / 1000)
            some { state.moveTo request
                (.inserting userId jti ⟨accessToken, refreshToken⟩) with
              issued := state.issued ++ [jti] }
      | _ => none
  | .insertToken request =>
      match state.phase request with
      | .inserting userId jti tokens =>
          if hasUser state.users userId then
            let row : TokenRow := {
              id := jti
              userId := userId
              tokenHash := crypto.hashToken tokens.refreshToken
              expiresAt := state.clock + config.refreshTtlMs
              revoked := false }
            some { state.moveTo request (.returned tokens) with
              tokens := state.tokens ++ [row] }
          else some (state.moveTo request .rejected)
      | _ => none
  | .revokeToken request =>
      match state.phase request with
      | .revokingToken jti =>
          some { state.moveTo request .finished with
            tokens := revokeWhere (fun stored => stored.id == jti)
              state.tokens }
      | _ => none
  | .findResetUser request =>
      match state.phase request with
      | .findingResetUser token =>
          match findResetUser crypto state.users state.clock token with
          | none => some (state.moveTo request .rejected)
          | some user => some (state.moveTo request (.resetting user.id))
      | _ => none
  | .resetPassword request passwordHash =>
      match state.phase request with
      | .resetting userId =>
          if hasUser state.users userId then
            some { state.moveTo request .finished with
              users := state.users.map fun user =>
                if user.id = userId then user.withPassword passwordHash
                else user
              tokens := revokeWhere (fun stored => stored.userId == userId)
                state.tokens }
          else some (state.moveTo request .rejected)
      | _ => none
  | .deleteExpired request =>
      match state.phase request with
      | .deletingExpired =>
          some { state.moveTo request .finished with
            tokens := state.tokens.filter fun row =>
              !(row.expiresAt < state.clock) }
      | _ => none
  | .deleteUser userId =>
      some { state with
        users := state.users.filter fun user => !(user.id == userId)
        tokens := state.tokens.filter fun row => !(row.userId == userId) }

/-- `after` with the flags set since `before` put on record. -/
def State.recorded (before : State n) (label : Label n) (after : State n) :
    State n :=
  { after with
    revocations := before.revocations ++
      (flipped before.tokens after.tokens).map fun jti => (jti, label) }

def step (state : State n) (label : Label n) : Option (State n) :=
  (act crypto config requests state label).map (state.recorded label)

def machine : Machine (State n) (Label n) where
  step := step crypto config requests

end Step

/-- No request has begun; the table holds rows of earlier sessions. -/
structure Initial (state : State n) : Prop where
  waiting : ∀ request, state.phase request = .waiting
  distinct : (state.tokens.map TokenRow.id).Nodup
  issued : ∀ row ∈ state.tokens, row.id ∈ state.issued
  unrecorded : state.revocations = []

/-! ## What one step can do -/

/--
Every step, with the phase that enabled it and the state it leads to.  A
statement that can answer in two ways has two cases.
-/
inductive Acted (crypto : Crypto) (config : Config)
    (requests : Fin n → Request) (state : State n) :
    Label n → State n → Prop where
  | tick (elapsed : Nat) :
      Acted crypto config requests state (.tick elapsed)
        { state with clock := state.clock + elapsed }
  | begin {request : Fin n} (found : state.phase request = .waiting) :
      Acted crypto config requests state (.begin request)
        (state.moveTo request
          (opening crypto state.clock (requests request)))
  | emailTaken {request : Fin n} {email : String}
      (found : state.phase request = .findingTaken email)
      (taken : hasEmail state.users email = true) :
      Acted crypto config requests state (.findTaken request)
        (state.moveTo request .rejected)
  | emailFree {request : Fin n} {email : String}
      (found : state.phase request = .findingTaken email)
      (free : hasEmail state.users email = false) :
      Acted crypto config requests state (.findTaken request)
        (state.moveTo request (.creatingUser email))
  | emailRaced {request : Fin n} {email userId passwordHash : String}
      (found : state.phase request = .creatingUser email)
      (taken : hasEmail state.users email = true) :
      Acted crypto config requests state
        (.createUser request userId passwordHash)
        (state.moveTo request .rejected)
  | userCreated {request : Fin n} {email userId passwordHash : String}
      (found : state.phase request = .creatingUser email)
      (unused : userId ∉ state.issued) (named : userId ≠ "")
      (free : hasEmail state.users email = false) :
      Acted crypto config requests state
        (.createUser request userId passwordHash)
        { state.moveTo request (.storingVerification userId email) with
          users := state.users ++ [newUser userId email passwordHash]
          issued := state.issued ++ [userId] }
  | verificationStored {request : Fin n} {userId email : String}
      (found : state.phase request = .storingVerification userId email)
      (present : hasUser state.users userId = true) :
      Acted crypto config requests state (.storeVerification request)
        (state.moveTo request (.readingRole userId email))
  | verificationGone {request : Fin n} {userId email : String}
      (found : state.phase request = .storingVerification userId email)
      (gone : hasUser state.users userId = false) :
      Acted crypto config requests state (.storeVerification request)
        (state.moveTo request .rejected)
  | findUser {request : Fin n} {email password : String}
      (found : state.phase request = .findingUser email password) :
      Acted crypto config requests state (.findUser request)
        (state.moveTo request (.comparing password
          (state.users.find? fun user => user.email == email)))
  | loggedIn {request : Fin n} {password : String} {user : UserRow}
      (found : state.phase request = .comparing password (some user))
      (accepted : crypto.comparePassword password user.passwordHash =
        true) :
      Acted crypto config requests state (.compare request)
        (state.moveTo request (.readingRole user.id user.email))
  | loginRejected {request : Fin n} {password : String}
      {user : Option UserRow}
      (found : state.phase request = .comparing password user)
      (refused : ∀ stored, user = some stored →
        crypto.comparePassword password stored.passwordHash = false) :
      Acted crypto config requests state (.compare request)
        (state.moveTo request .rejected)
  | tokenMissing {request : Fin n} {token : String}
      {payload : RefreshPayload}
      (found : state.phase request = .readingToken token payload)
      (missing : findToken state.tokens payload.jti = none) :
      Acted crypto config requests state (.readToken request)
        (state.moveTo request .rejected)
  | tokenRead {request : Fin n} {token : String}
      {payload : RefreshPayload} {row : TokenRow}
      (found : state.phase request = .readingToken token payload)
      (stored : findToken state.tokens payload.jti = some row) :
      Acted crypto config requests state (.readToken request)
        (state.moveTo request (.checkingToken token payload row))
  | checkToken {request : Fin n} {token : String}
      {payload : RefreshPayload} {row : TokenRow}
      (found : state.phase request = .checkingToken token payload row) :
      Acted crypto config requests state (.checkToken request)
        (state.moveTo request
          (checked crypto state.clock token payload row))
  | reused {request : Fin n} {payload : RefreshPayload} {row : TokenRow}
      (found : state.phase request = .rotating payload row)
      (spent : revokedCount (fun stored => stored.id == row.id)
        state.tokens = 0) :
      Acted crypto config requests state (.rotate request)
        (state.moveTo request (.revokingFamily row.userId))
  | rotated {request : Fin n} {payload : RefreshPayload} {row : TokenRow}
      (found : state.phase request = .rotating payload row)
      (counted : revokedCount (fun stored => stored.id == row.id)
        state.tokens ≠ 0) :
      Acted crypto config requests state (.rotate request)
        { state.moveTo request
            (.readingRole payload.sub (payload.email.getD "")) with
          tokens := revokeWhere (fun stored => stored.id == row.id)
            state.tokens }
  | revokeFamily {request : Fin n} {userId : String}
      (found : state.phase request = .revokingFamily userId) :
      Acted crypto config requests state (.revokeFamily request)
        { state.moveTo request .rejected with
          tokens := revokeWhere (fun stored => stored.userId == userId)
            state.tokens }
  | readRole {request : Fin n} {userId email : String}
      (found : state.phase request = .readingRole userId email) :
      Acted crypto config requests state (.readRole request)
        (state.moveTo request (.signingAccess userId email
          (((state.users.find? fun user => user.id == userId).map
            UserRow.role).getD .user)))
  | signAccess {request : Fin n} {userId email : String} {role : Role}
      (found : state.phase request = .signingAccess userId email role) :
      Acted crypto config requests state (.signAccess request)
        (state.moveTo request (.signingRefresh userId email
          (crypto.signAccess ⟨userId, email, role⟩
            (state.clock / 1000 + config.accessTtlMs / 1000))))
  | signRefresh {request : Fin n} {userId email accessToken jti : String}
      (found :
        state.phase request = .signingRefresh userId email accessToken)
      (unused : jti ∉ state.issued) :
      Acted crypto config requests state (.signRefresh request jti)
        { state.moveTo request
            (.inserting userId jti ⟨accessToken,
              crypto.signRefresh ⟨userId, some email, jti⟩
                (state.clock / 1000 + config.refreshTtlMs / 1000)⟩) with
          issued := state.issued ++ [jti] }
  | inserted {request : Fin n} {userId jti : String} {tokens : Tokens}
      (found : state.phase request = .inserting userId jti tokens)
      (present : hasUser state.users userId = true) :
      Acted crypto config requests state (.insertToken request)
        { state.moveTo request (.returned tokens) with
          tokens := state.tokens ++ [{
            id := jti
            userId := userId
            tokenHash := crypto.hashToken tokens.refreshToken
            expiresAt := state.clock + config.refreshTtlMs
            revoked := false }] }
  | insertRejected {request : Fin n} {userId jti : String}
      {tokens : Tokens}
      (found : state.phase request = .inserting userId jti tokens)
      (gone : hasUser state.users userId = false) :
      Acted crypto config requests state (.insertToken request)
        (state.moveTo request .rejected)
  | revokeToken {request : Fin n} {jti : String}
      (found : state.phase request = .revokingToken jti) :
      Acted crypto config requests state (.revokeToken request)
        { state.moveTo request .finished with
          tokens := revokeWhere (fun stored => stored.id == jti)
            state.tokens }
  | resetRejected {request : Fin n} {token : String}
      (found : state.phase request = .findingResetUser token)
      (unmatched : findResetUser crypto state.users state.clock token =
        none) :
      Acted crypto config requests state (.findResetUser request)
        (state.moveTo request .rejected)
  | resetFound {request : Fin n} {token : String} {user : UserRow}
      (found : state.phase request = .findingResetUser token)
      (matched : findResetUser crypto state.users state.clock token =
        some user) :
      Acted crypto config requests state (.findResetUser request)
        (state.moveTo request (.resetting user.id))
  | resetPassword {request : Fin n} {userId passwordHash : String}
      (found : state.phase request = .resetting userId)
      (present : hasUser state.users userId = true) :
      Acted crypto config requests state
        (.resetPassword request passwordHash)
        { state.moveTo request .finished with
          users := state.users.map fun user =>
            if user.id = userId then user.withPassword passwordHash
            else user
          tokens := revokeWhere (fun stored => stored.userId == userId)
            state.tokens }
  | resetGone {request : Fin n} {userId passwordHash : String}
      (found : state.phase request = .resetting userId)
      (gone : hasUser state.users userId = false) :
      Acted crypto config requests state
        (.resetPassword request passwordHash)
        (state.moveTo request .rejected)
  | deleteExpired {request : Fin n}
      (found : state.phase request = .deletingExpired) :
      Acted crypto config requests state (.deleteExpired request)
        { state.moveTo request .finished with
          tokens := state.tokens.filter fun row =>
            !(row.expiresAt < state.clock) }
  | deleteUser (userId : String) :
      Acted crypto config requests state (.deleteUser userId)
        { state with
          users := state.users.filter fun user => !(user.id == userId)
          tokens := state.tokens.filter fun row =>
            !(row.userId == userId) }

theorem acted_of_act {crypto : Crypto} {config : Config}
    {requests : Fin n → Request} {state next : State n} {label : Label n}
    (action : act crypto config requests state label = some next) :
    Acted crypto config requests state label next := by
  cases label with
  | tick elapsed =>
      cases action
      exact .tick elapsed
  | deleteUser userId =>
      cases action
      exact .deleteUser userId
  | begin request | findUser request | checkToken request
  | revokeFamily request | readRole request | signAccess request
  | revokeToken request | deleteExpired request =>
      simp only [act] at action
      split at action
      next found =>
        cases action
        constructor
        exact found
      next => cases action
  | findTaken request =>
      simp only [act] at action
      split at action
      next found =>
        split at action
        next taken =>
          cases action
          exact .emailTaken found taken
        next free =>
          cases action
          exact .emailFree found (Bool.eq_false_iff.mpr free)
      next => cases action
  | createUser request userId passwordHash =>
      simp only [act] at action
      split at action
      next found =>
        split at action
        next => cases action
        next unused =>
          obtain ⟨unused, named⟩ := not_or.mp unused
          split at action
          next taken =>
            cases action
            exact .emailRaced found taken
          next free =>
            cases action
            exact .userCreated found unused named
              (Bool.eq_false_iff.mpr free)
      next => cases action
  | storeVerification request =>
      simp only [act] at action
      split at action
      next found =>
        split at action
        next present =>
          cases action
          exact .verificationStored found present
        next gone =>
          cases action
          exact .verificationGone found (Bool.eq_false_iff.mpr gone)
      next => cases action
  | compare request =>
      simp only [act] at action
      split at action
      next found =>
        split at action
        next accepted =>
          cases action
          exact .loggedIn found accepted
        next refused =>
          cases action
          refine .loginRejected found fun stored same => ?_
          cases same
          exact Bool.eq_false_iff.mpr refused
      next found =>
        cases action
        exact .loginRejected found fun stored same => by cases same
      next => cases action
  | readToken request =>
      simp only [act] at action
      split at action
      next found =>
        split at action
        next missing =>
          cases action
          exact .tokenMissing found missing
        next stored =>
          cases action
          exact .tokenRead found stored
      next => cases action
  | rotate request =>
      simp only [act] at action
      split at action
      next found =>
        split at action
        next spent =>
          cases action
          exact .reused found spent
        next counted =>
          cases action
          exact .rotated found counted
      next => cases action
  | signRefresh request jti =>
      simp only [act] at action
      split at action
      next found =>
        split at action
        next => cases action
        next unused =>
          cases action
          exact .signRefresh found unused
      next => cases action
  | insertToken request =>
      simp only [act] at action
      split at action
      next found =>
        split at action
        next present =>
          cases action
          exact .inserted found present
        next gone =>
          cases action
          exact .insertRejected found (Bool.eq_false_iff.mpr gone)
      next => cases action
  | findResetUser request =>
      simp only [act] at action
      split at action
      next found =>
        split at action
        next unmatched =>
          cases action
          exact .resetRejected found unmatched
        next matched =>
          cases action
          exact .resetFound found matched
      next => cases action
  | resetPassword request passwordHash =>
      simp only [act] at action
      split at action
      next found =>
        split at action
        next present =>
          cases action
          exact .resetPassword found present
        next gone =>
          cases action
          exact .resetGone found (Bool.eq_false_iff.mpr gone)
      next => cases action

end WeatherNotify.Auth

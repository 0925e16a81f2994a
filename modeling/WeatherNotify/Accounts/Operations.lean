import WeatherNotify.Auth.Duration
import WeatherNotify.Auth.Moves
import WeatherNotify.Common.Expiring

/-!
# Operations on accounts, beside the sessions

`AdminService.updateUser`, `AdminService.deleteUser` and
`UsersService.deleteAccount`, one statement at a time, interleaved with the
requests of `AuthService` on the same user table.  A changed role and a
deletion end in a deny marker in Redis, which `JwtAuthGuard` looks up after it
has verified an access token.
-/

namespace WeatherNotify.Accounts

open WeatherNotify.Auth WeatherNotify.Common WeatherNotify.Transition

/-! ## Deny markers and guards -/

/-- The deny markers: one key for each user id. -/
abbrev Markers := Expiring String Unit

/-- `accessTtlSec`, the lifetime of a marker. -/
def accessTtlSec (config : Config) : Int :=
  (config.accessTtlMs + 999) / 1000

/--
`SET key 1 EX ttl`.  It fails when Redis does not answer, and Redis refuses a
lifetime that is not positive.
-/
def revokeUserTokens (reachable : Bool) (ttlSec now : Int)
    (markers : Markers) (userId : String) : Bool × Markers :=
  if reachable && decide (0 < ttlSec) then
    (true, markers.put userId ⟨(), now + ttlSec * 1000⟩)
  else (false, markers)

/-- `isUserRevoked` fails open. -/
def isUserRevoked (reachable : Bool) (markers : Markers) (now : Int)
    (userId : String) : Bool :=
  reachable && (markers.get now userId).isSome

section Guards

variable (decodeAccess : String → Option (AccessPayload × Int))

/-- What `passport-jwt` accepts at an instant. -/
def verifyAccess (now : Int) (token : String) : Option AccessPayload :=
  match decodeAccess token with
  | some (payload, exp) => if now / 1000 < exp then some payload else none
  | none => none

/-- `JwtAuthGuard.canActivate`; an empty user id is not looked up. -/
def jwtGuard (reachable : Bool) (markers : Markers) (now : Int)
    (token : String) : Bool :=
  match verifyAccess decodeAccess now token with
  | none => false
  | some payload =>
      !(payload.sub != "" && isUserRevoked reachable markers now payload.sub)

/-- `AdminGuard.canActivate`, which runs after it. -/
def adminGuard (now : Int) (token : String) : Bool :=
  (verifyAccess decodeAccess now token).any fun payload =>
    payload.role == .admin

end Guards

/-! ## Operations -/

inductive Operation where
  | updateUser (id : String) (role : Option Role)
      (emailVerified : Option Bool)
  | deleteUser (actingUserId id : String)
  | deleteAccount (userId password : String)
  deriving DecidableEq, Repr

namespace Operation

/-- The account an operation is about. -/
def target : Operation → String
  | .updateUser id _ _ | .deleteUser _ id => id
  | .deleteAccount userId _ => userId

def deletes : Operation → Bool
  | .updateUser _ _ _ => false
  | .deleteUser _ _ | .deleteAccount _ _ => true

/-- The operation takes the role `ADMIN` from an account that has it. -/
def unseats : Operation → Bool
  | .updateUser _ role _ => role == some .user
  | .deleteUser _ _ | .deleteAccount _ _ => true

/-- The role an operation changes, given the one it has read. -/
def changesRole (operation : Operation) (current : Role) : Bool :=
  match operation with
  | .updateUser _ role _ => role.any (· != current)
  | .deleteUser _ _ | .deleteAccount _ _ => false

end Operation

/-- What an operation waits for next; `marked` is the instant of its marker. -/
inductive Stage where
  | waiting
  | reading
  | counting (current : Role)
  | writing (current : Role)
  | marking
  | answering (marked : Option Int)
  | returned (marked : Option Int)
  | rejected
  deriving DecidableEq, Repr

inductive Label (n m : Nat) where
  | session (label : Auth.Label n)
  | begin (operation : Fin m)
  | read (operation : Fin m)
  | count (operation : Fin m)
  | write (operation : Fin m)
  | mark (operation : Fin m) (reachable : Bool)
  | answer (operation : Fin m)
  deriving DecidableEq, Repr

structure System (n m : Nat) where
  sessions : Auth.State n
  markers : Markers
  stage : Fin m → Stage

variable {n m : Nat}

def System.stageTo (system : System n m) (operation : Fin m)
    (stage : Stage) : System n m :=
  { system with stage := Function.update system.stage operation stage }

section Step

variable (crypto : Crypto) (config : Config) (requests : Fin n → Request)
  (operations : Fin m → Operation)

def opening : Operation → Stage
  | .deleteUser actingUserId id =>
      if actingUserId = id then .rejected else .reading
  | .updateUser _ _ _ | .deleteAccount _ _ => .reading

/-- Deleting one's own account takes the password. -/
def authorised (operation : Operation) (user : UserRow) : Bool :=
  match operation with
  | .deleteAccount _ password =>
      crypto.comparePassword password user.passwordHash
  | .updateUser _ _ _ | .deleteUser _ _ => true

/-- What follows on the row that was read. -/
def afterRead (operation : Operation) (user : UserRow) : Stage :=
  if !authorised crypto operation user then .rejected
  else if user.role = .admin ∧ operation.unseats then .counting user.role
  else .writing user.role

/--
The last-admin check.  `AdminService` counts the other administrators,
`UsersService` counts all of them.
-/
def passesLastAdmin (users : List UserRow) : Operation → Bool
  | .updateUser id _ _ | .deleteUser _ id =>
      users.countP (fun user => user.role == .admin && user.id != id) != 0
  | .deleteAccount _ _ =>
      users.countP (fun user => user.role == .admin) != 1

/-- The row that `updateUser` writes. -/
def updated (role : Option Role) (emailVerified : Option Bool)
    (user : UserRow) : UserRow :=
  { user with
    role := role.getD user.role
    emailVerified := emailVerified.getD user.emailVerified }

def updateUsers (users : List UserRow) (id : String) (role : Option Role)
    (emailVerified : Option Bool) : List UserRow :=
  users.map fun user =>
    if user.id = id then updated role emailVerified user else user

/-- The write of an operation on a row that exists. -/
def written (system : System n m) (operation : Fin m) (current : Role) :
    Option (System n m) :=
  match operations operation with
  | .updateUser id role emailVerified =>
      let next := if (operations operation).changesRole current then
        Stage.marking else .answering none
      some { system.stageTo operation next with
        sessions := { system.sessions with
          users := updateUsers system.sessions.users id role
            emailVerified } }
  | .deleteUser _ id | .deleteAccount id _ =>
      (Auth.step crypto config requests system.sessions (.deleteUser id)).map
        fun sessions =>
          { system.stageTo operation .marking with sessions := sessions }

def step (system : System n m) : Label n m → Option (System n m)
  | .session label =>
      -- an account is deleted by the operations below only
      if label.deletesUser then none
      else
        (Auth.step crypto config requests system.sessions label).map
          fun sessions => { system with sessions := sessions }
  | .begin operation =>
      match system.stage operation with
      | .waiting =>
          some (system.stageTo operation (opening (operations operation)))
      | _ => none
  | .read operation =>
      match system.stage operation with
      | .reading =>
          match system.sessions.users.find? fun user =>
              user.id == (operations operation).target with
          | none => some (system.stageTo operation .rejected)
          | some user =>
              some (system.stageTo operation
                (afterRead crypto (operations operation) user))
      | _ => none
  | .count operation =>
      match system.stage operation with
      | .counting current =>
          if passesLastAdmin system.sessions.users (operations operation) then
            some (system.stageTo operation (.writing current))
          else some (system.stageTo operation .rejected)
      | _ => none
  | .write operation =>
      match system.stage operation with
      | .writing current =>
          if hasUser system.sessions.users (operations operation).target then
            written crypto config requests operations system operation current
          else some (system.stageTo operation .rejected)
      | _ => none
  | .mark operation reachable =>
      match system.stage operation with
      | .marking =>
          let outcome := revokeUserTokens reachable (accessTtlSec config)
            system.sessions.clock system.markers
              (operations operation).target
          let marked := if outcome.1 then some system.sessions.clock else none
          let next := if (operations operation).deletes then
            Stage.returned marked else .answering marked
          some { system.stageTo operation next with markers := outcome.2 }
      | _ => none
  | .answer operation =>
      match system.stage operation with
      | .answering marked =>
          -- `getUser`, for the response body
          if hasUser system.sessions.users (operations operation).target then
            some (system.stageTo operation (.returned marked))
          else some (system.stageTo operation .rejected)
      | _ => none

def machine : Machine (System n m) (Label n m) where
  step := step crypto config requests operations

end Step

/-- Nothing has begun; every user has an id that was drawn and is not empty. -/
structure Initial (system : System n m) : Prop where
  sessions : Auth.Initial system.sessions
  waiting : ∀ operation, system.stage operation = .waiting
  registered : ∀ user, hasUser system.sessions.users user = true →
    user ∈ system.sessions.issued ∧ user ≠ ""

/-! ## What one step can do -/

/-- Every step, with the stage that enabled it and the system it leads to. -/
inductive Acted (crypto : Crypto) (config : Config)
    (requests : Fin n → Request) (operations : Fin m → Operation)
    (system : System n m) : Label n m → System n m → Prop where
  | session {label : Auth.Label n} {sessions : Auth.State n}
      (undeleted : label.deletesUser = false)
      (stepped : Auth.step crypto config requests system.sessions label =
        some sessions) :
      Acted crypto config requests operations system (.session label)
        { system with sessions := sessions }
  | begin {operation : Fin m} (found : system.stage operation = .waiting) :
      Acted crypto config requests operations system (.begin operation)
        (system.stageTo operation (opening (operations operation)))
  | readMissing {operation : Fin m}
      (found : system.stage operation = .reading) :
      Acted crypto config requests operations system (.read operation)
        (system.stageTo operation .rejected)
  | read {operation : Fin m} {user : UserRow}
      (found : system.stage operation = .reading)
      (stored : (system.sessions.users.find? fun user =>
        user.id == (operations operation).target) = some user) :
      Acted crypto config requests operations system (.read operation)
        (system.stageTo operation
          (afterRead crypto (operations operation) user))
  | counted {operation : Fin m} {current : Role}
      (found : system.stage operation = .counting current)
      (passes : passesLastAdmin system.sessions.users
        (operations operation) = true) :
      Acted crypto config requests operations system (.count operation)
        (system.stageTo operation (.writing current))
  | lastAdmin {operation : Fin m} {current : Role}
      (found : system.stage operation = .counting current) :
      Acted crypto config requests operations system (.count operation)
        (system.stageTo operation .rejected)
  | updated {operation : Fin m} {current : Role} {id : String}
      {role : Option Role} {emailVerified : Option Bool} {next : Stage}
      (found : system.stage operation = .writing current)
      (asked : operations operation = .updateUser id role emailVerified)
      (present : hasUser system.sessions.users id = true)
      (follows : next = if (operations operation).changesRole current then
        Stage.marking else .answering none) :
      Acted crypto config requests operations system (.write operation)
        { system.stageTo operation next with
          sessions := { system.sessions with
            users := updateUsers system.sessions.users id role
              emailVerified } }
  | deleted {operation : Fin m} {current : Role} {sessions : Auth.State n}
      (found : system.stage operation = .writing current)
      (asked : (operations operation).deletes = true)
      (present : hasUser system.sessions.users
        (operations operation).target = true)
      (stepped : Auth.step crypto config requests system.sessions
        (.deleteUser (operations operation).target) = some sessions) :
      Acted crypto config requests operations system (.write operation)
        { system.stageTo operation .marking with sessions := sessions }
  | writeMissing {operation : Fin m} {current : Role}
      (found : system.stage operation = .writing current)
      (gone : hasUser system.sessions.users
        (operations operation).target = false) :
      Acted crypto config requests operations system (.write operation)
        (system.stageTo operation .rejected)
  | marked {operation : Fin m}
      (found : system.stage operation = .marking)
      (positive : 0 < accessTtlSec config) {next : Stage}
      (follows : next = if (operations operation).deletes then
        Stage.returned (some system.sessions.clock)
        else .answering (some system.sessions.clock)) :
      Acted crypto config requests operations system (.mark operation true)
        { system.stageTo operation next with
          markers := system.markers.put (operations operation).target
            ⟨(), system.sessions.clock + accessTtlSec config * 1000⟩ }
  | unmarked {operation : Fin m} {reachable : Bool}
      (found : system.stage operation = .marking) {next : Stage}
      (follows : next = if (operations operation).deletes then
        Stage.returned none else .answering none) :
      Acted crypto config requests operations system
        (.mark operation reachable) (system.stageTo operation next)
  | answered {operation : Fin m} {marked : Option Int}
      (found : system.stage operation = .answering marked) :
      Acted crypto config requests operations system (.answer operation)
        (system.stageTo operation (.returned marked))
  | answerMissing {operation : Fin m} {marked : Option Int}
      (found : system.stage operation = .answering marked) :
      Acted crypto config requests operations system (.answer operation)
        (system.stageTo operation .rejected)

section Inversion

variable {crypto : Crypto} {config : Config} {requests : Fin n → Request}
  {operations : Fin m → Operation} {system next : System n m}

theorem acted_of_written {operation : Fin m} {current : Role}
    (found : system.stage operation = .writing current)
    (present : hasUser system.sessions.users
      (operations operation).target = true)
    (action : written crypto config requests operations system operation
      current = some next) :
    Acted crypto config requests operations system (.write operation)
      next := by
  unfold written at action
  split at action
  next id role emailVerified asked =>
    cases action
    rw [asked] at present
    exact .updated found asked present rfl
  next asked =>
    rcases Option.map_eq_some_iff.mp action with ⟨sessions, stepped, rfl⟩
    have same : (operations operation).target = _ :=
      congrArg Operation.target asked
    exact .deleted found (by rw [asked]; rfl) present
      (by rw [same]; exact stepped)
  next asked =>
    rcases Option.map_eq_some_iff.mp action with ⟨sessions, stepped, rfl⟩
    have same : (operations operation).target = _ :=
      congrArg Operation.target asked
    exact .deleted found (by rw [asked]; rfl) present
      (by rw [same]; exact stepped)

theorem acted_of_step {label : Label n m}
    (stepped : step crypto config requests operations system label =
      some next) :
    Acted crypto config requests operations system label next := by
  cases label with
  | session label =>
      simp only [step] at stepped
      split at stepped
      next => cases stepped
      next undeleted =>
        rcases Option.map_eq_some_iff.mp stepped with ⟨sessions, inner, rfl⟩
        exact .session (Bool.eq_false_iff.mpr undeleted) inner
  | begin operation =>
      simp only [step] at stepped
      split at stepped
      next found =>
        cases stepped
        exact .begin found
      next => cases stepped
  | read operation =>
      simp only [step] at stepped
      split at stepped
      next found =>
        split at stepped
        next =>
          cases stepped
          exact .readMissing found
        next stored =>
          cases stepped
          exact .read found stored
      next => cases stepped
  | count operation =>
      simp only [step] at stepped
      split at stepped
      next found =>
        split at stepped
        next passes =>
          cases stepped
          exact .counted found passes
        next =>
          cases stepped
          exact .lastAdmin found
      next => cases stepped
  | write operation =>
      simp only [step] at stepped
      split at stepped
      next found =>
        split at stepped
        next present => exact acted_of_written found present stepped
        next gone =>
          cases stepped
          exact .writeMissing found (Bool.eq_false_iff.mpr gone)
      next => cases stepped
  | mark operation reachable =>
      simp only [step] at stepped
      split at stepped
      next found =>
        cases stepped
        by_cases usable :
            (reachable && decide (0 < accessTtlSec config)) = true
        · simp only [revokeUserTokens, if_pos usable, if_true]
          rw [Bool.and_eq_true, decide_eq_true_eq] at usable
          rcases usable with ⟨rfl, positive⟩
          exact .marked found positive rfl
        · simp only [revokeUserTokens, if_neg usable, Bool.false_eq_true,
            if_false]
          exact .unmarked found rfl
      next => cases stepped
  | answer operation =>
      simp only [step] at stepped
      split at stepped
      next found =>
        split at stepped
        next =>
          cases stepped
          exact .answered found
        next =>
          cases stepped
          exact .answerMissing found
      next => cases stepped

end Inversion

theorem stage_stageTo (system : System n m) (operation : Fin m)
    (stage : Stage) :
    (system.stageTo operation stage).stage operation = stage :=
  Function.update_self _ _ _

theorem stage_stageTo_of_ne {system : System n m} {operation other : Fin m}
    (different : other ≠ operation) (stage : Stage) :
    (system.stageTo operation stage).stage other = system.stage other :=
  Function.update_of_ne different _ _

namespace Stage

/-- The operation's write has taken effect. -/
def pastWrite : Stage → Bool
  | .marking | .answering _ | .returned _ => true
  | _ => false

/-- When its marker was written. -/
def markedAt : Stage → Option Int
  | .answering marked | .returned marked => marked
  | _ => none

end Stage

theorem hasUser_updateUsers (users : List UserRow) (id : String)
    (role : Option Role) (emailVerified : Option Bool) (user : String) :
    hasUser (updateUsers users id role emailVerified) user =
      hasUser users user := by
  rw [hasUser, hasUser, updateUsers, List.any_map]
  refine List.any_congr rfl fun stored => ?_
  simp only [Function.comp_apply]
  split <;> rfl

section Consequences

variable {crypto : Crypto} {config : Config} {requests : Fin n → Request}
  {operations : Fin m → Operation} {system next : System n m}
  {label : Label n m}

/-- Where the sessions of the next system come from. -/
inductive SessionsStep (crypto : Crypto) (config : Config)
    (requests : Fin n → Request) (before : Auth.State n) :
    Auth.State n → Prop where
  | same : SessionsStep crypto config requests before before
  | stepped {label : Auth.Label n} {after : Auth.State n}
      (stepped : Auth.step crypto config requests before label =
        some after) : SessionsStep crypto config requests before after
  | updated {id : String} {role : Option Role}
      {emailVerified : Option Bool} :
      SessionsStep crypto config requests before
        { before with
          users := updateUsers before.users id role emailVerified }

theorem Acted.sessions
    (acted : Acted crypto config requests operations system label next) :
    SessionsStep crypto config requests system.sessions next.sessions := by
  cases acted with
  | session undeleted stepped => exact .stepped stepped
  | deleted found asked present stepped => exact .stepped stepped
  | updated => exact .updated
  | begin | readMissing | read | counted | lastAdmin | writeMissing | marked
  | unmarked | answered | answerMissing => exact .same

/-- A marker stays, or is written anew one lifetime ahead. -/
theorem Acted.markers
    (acted : Acted crypto config requests operations system label next)
    (user : String) :
    next.markers user = system.markers user ∨
      next.sessions = system.sessions ∧
        next.markers user = some ⟨(),
          system.sessions.clock + accessTtlSec config * 1000⟩ := by
  cases acted with
  | @marked operation found positive stage follows =>
      by_cases same : user = (operations operation).target
      · refine Or.inr ⟨rfl, ?_⟩
        rw [same]
        exact Expiring.put_self _ _ _
      · exact Or.inl (Expiring.put_of_ne _ same _)
  | session | begin | readMissing | read | counted | lastAdmin | updated
  | deleted | writeMissing | unmarked | answered | answerMissing =>
      exact Or.inl rfl

/-- The moves of one operation, and what they do to the system. -/
inductive Advances (crypto : Crypto) (config : Config)
    (operation : Operation) (system next : System n m) :
    Stage → Stage → Prop where
  | begin : Advances crypto config operation system next .waiting
      (opening operation)
  | refused {stage : Stage} :
      Advances crypto config operation system next stage .rejected
  | read {user : UserRow}
      (stored : (system.sessions.users.find? fun user =>
        user.id == operation.target) = some user) :
      Advances crypto config operation system next .reading
        (afterRead crypto operation user)
  | counted {current : Role}
      (passes : passesLastAdmin system.sessions.users operation = true) :
      Advances crypto config operation system next (.counting current)
        (.writing current)
  | updated {current : Role} (asked : operation.deletes = false)
      (present : hasUser system.sessions.users operation.target = true) :
      Advances crypto config operation system next (.writing current)
        (if operation.changesRole current then .marking
          else .answering none)
  | deleted {current : Role} (asked : operation.deletes = true)
      (present : hasUser system.sessions.users operation.target = true)
      (gone : hasUser next.sessions.users operation.target = false) :
      Advances crypto config operation system next (.writing current)
        .marking
  | marked (positive : 0 < accessTtlSec config)
      (same : next.sessions = system.sessions)
      (written : next.markers operation.target = some ⟨(),
        system.sessions.clock + accessTtlSec config * 1000⟩) :
      Advances crypto config operation system next .marking
        (if operation.deletes then .returned (some system.sessions.clock)
          else .answering (some system.sessions.clock))
  | unmarked :
      Advances crypto config operation system next .marking
        (if operation.deletes then .returned none else .answering none)
  | answered {marked : Option Int} :
      Advances crypto config operation system next (.answering marked)
        (.returned marked)

theorem advances_of_stageTo {system after : System n m} {operation : Fin m}
    {before : Stage} (stage : Stage)
    (found : system.stage operation = before)
    (stages : after.stage = (system.stageTo operation stage).stage)
    (advances : Advances crypto config (operations operation) system after
      before stage) (other : Fin m) :
    after.stage other = system.stage other ∨
      Advances crypto config (operations other) system after
        (system.stage other) (after.stage other) := by
  rw [stages]
  by_cases same : other = operation
  · rw [same, stage_stageTo, found]
    exact Or.inr advances
  · exact Or.inl (stage_stageTo_of_ne same _)

theorem hasUser_deleteUser {crypto : Crypto} {config : Config}
    {requests : Fin n → Request} {before after : Auth.State n}
    {userId : String}
    (stepped : Auth.step crypto config requests before
      (.deleteUser userId) = some after) :
    hasUser after.users userId = false := by
  rcases Option.map_eq_some_iff.mp stepped with ⟨reached, action, rfl⟩
  cases action
  change hasUser (before.users.filter _) userId = false
  rw [hasUser_filter, bne_self_eq_false, Bool.and_false]

theorem Acted.advances
    (acted : Acted crypto config requests operations system label next)
    (operation : Fin m) :
    next.stage operation = system.stage operation ∨
      Advances crypto config (operations operation) system next
        (system.stage operation) (next.stage operation) := by
  cases acted with
  | session => exact Or.inl rfl
  | begin found => exact advances_of_stageTo _ found rfl .begin _
  | readMissing found | lastAdmin found | writeMissing found
  | answerMissing found => exact advances_of_stageTo _ found rfl .refused _
  | read found stored => exact advances_of_stageTo _ found rfl (.read stored) _
  | counted found passes =>
      exact advances_of_stageTo _ found rfl (.counted passes) _
  | @updated _ _ _ _ _ stage found asked present follows =>
      refine advances_of_stageTo stage found ?_ ?_ _
      · rfl
      · rw [follows]
        refine .updated (by rw [asked]; rfl) ?_
        rw [asked]
        exact present
  | deleted found asked present stepped =>
      refine advances_of_stageTo .marking found ?_ ?_ _
      · rfl
      · exact .deleted asked present (hasUser_deleteUser stepped)
  | @marked _ found positive stage follows =>
      refine advances_of_stageTo stage found ?_ ?_ _
      · rfl
      · rw [follows]
        exact .marked positive rfl (Expiring.put_self _ _ _)
  | unmarked found follows =>
      refine advances_of_stageTo _ found rfl ?_ _
      rw [follows]
      exact .unmarked
  | answered found => exact advances_of_stageTo _ found rfl .answered _

namespace Advances

variable {operation : Operation} {before after : Stage}

theorem opening_fresh (operation : Operation) :
    (opening operation).pastWrite = false ∧
      (opening operation).markedAt = none := by
  unfold opening
  split
  · split <;> exact ⟨rfl, rfl⟩
  · exact ⟨rfl, rfl⟩
  · exact ⟨rfl, rfl⟩

theorem afterRead_fresh (crypto : Crypto) (operation : Operation)
    (user : UserRow) :
    (afterRead crypto operation user).pastWrite = false ∧
      (afterRead crypto operation user).markedAt = none := by
  unfold afterRead
  split
  · exact ⟨rfl, rfl⟩
  · split <;> exact ⟨rfl, rfl⟩

/-- How an operation gets past its write. -/
theorem pastWrite
    (advances : Advances crypto config operation system next before after)
    (past : after.pastWrite = true) :
    before.pastWrite = true ∨
      hasUser system.sessions.users operation.target = true ∧
        (operation.deletes = true →
          hasUser next.sessions.users operation.target = false) := by
  cases advances with
  | begin =>
      rw [(opening_fresh operation).1] at past
      cases past
  | read =>
      rw [(afterRead_fresh crypto operation _).1] at past
      cases past
  | updated asked present =>
      refine Or.inr ⟨present, fun deletes => ?_⟩
      rw [asked] at deletes
      cases deletes
  | deleted asked present gone => exact Or.inr ⟨present, fun _ => gone⟩
  | marked | unmarked | answered => exact Or.inl rfl
  | refused | counted => cases past

/-- How its marker comes to be written. -/
theorem markedAt
    (advances : Advances crypto config operation system next before after)
    {instant : Int} (marked : after.markedAt = some instant) :
    before.markedAt = some instant ∨
      instant = system.sessions.clock ∧
        next.sessions = system.sessions ∧
        next.markers operation.target = some ⟨(),
          instant + accessTtlSec config * 1000⟩ := by
  cases advances with
  | begin =>
      rw [(opening_fresh operation).2] at marked
      cases marked
  | read =>
      rw [(afterRead_fresh crypto operation _).2] at marked
      cases marked
  | updated =>
      split at marked <;> cases marked
  | marked positive same written =>
      have now : instant = system.sessions.clock := by
        split at marked <;> cases marked <;> rfl
      rw [now]
      exact Or.inr ⟨rfl, same, written⟩
  | unmarked => split at marked <;> cases marked
  | answered => exact Or.inl marked
  | refused | counted | deleted => cases marked

end Advances

theorem Acted.pastWrite
    (acted : Acted crypto config requests operations system label next)
    {operation : Fin m}
    (past : (next.stage operation).pastWrite = true) :
    (system.stage operation).pastWrite = true ∨
      hasUser system.sessions.users (operations operation).target = true ∧
        ((operations operation).deletes = true →
          hasUser next.sessions.users (operations operation).target =
            false) := by
  rcases acted.advances operation with same | advances
  · exact Or.inl (same ▸ past)
  · exact advances.pastWrite past

theorem Acted.markedAt
    (acted : Acted crypto config requests operations system label next)
    {operation : Fin m} {instant : Int}
    (marked : (next.stage operation).markedAt = some instant) :
    (system.stage operation).markedAt = some instant ∨
      instant = system.sessions.clock ∧
        next.sessions = system.sessions ∧
        next.markers (operations operation).target = some ⟨(),
          instant + accessTtlSec config * 1000⟩ := by
  rcases acted.advances operation with same | advances
  · exact Or.inl (same ▸ marked)
  · exact advances.markedAt marked

end Consequences

end WeatherNotify.Accounts

import Mathlib.Data.List.Nodup
import WeatherNotify.Transition.Machine

/-!
# One-time tokens: reset links, verification links, Telegram links

Each flow keeps the fingerprint of its current token in two columns of the
user row.  Issuing overwrites them, unlinking clears them, and a consumption
looks its token up, then writes its effect by user id in a later statement.
Any number of requests run interleaved, one database statement at a time.

One field is a ghost: `retired` lists the fingerprints that have left their
column, whoever removed them.
-/

namespace WeatherNotify.OneTime

open WeatherNotify.Transition

/-! ## Rows and requests -/

inductive Flow where
  | passwordReset
  | emailVerification
  | telegramLink
  deriving DecidableEq, Repr

/-- `RESET_TTL_MS`, `VERIFY_TTL_MS` and `TELEGRAM_LINK_TTL_MS`. -/
def Flow.ttlMs : Flow → Int
  | .passwordReset => 60 * 60 * 1000
  | .emailVerification => 24 * 60 * 60 * 1000
  | .telegramLink => 15 * 60 * 1000

/-- The two columns a flow has in the user row. -/
structure Slot where
  tokenHash : Option String
  expiresAt : Option Int
  deriving DecidableEq, Repr

def Slot.empty : Slot where
  tokenHash := none
  expiresAt := none

/-- A `User` row, as far as these tokens are concerned. -/
structure Account where
  id : String
  email : String
  passwordHash : String
  emailVerified : Bool
  telegramChatId : Option String
  slot : Flow → Slot

def Account.setSlot (account : Account) (flow : Flow) (slot : Slot) :
    Account :=
  { account with slot := Function.update account.slot flow slot }

/-- The three operations that consume a token. -/
inductive Consumption where
  | resetPassword (token : String)
  | verifyEmail (token : String)
  | bindTelegram (token chatId : String)
  deriving DecidableEq, Repr

namespace Consumption

def flow : Consumption → Flow
  | .resetPassword _ => .passwordReset
  | .verifyEmail _ => .emailVerification
  | .bindTelegram _ _ => .telegramLink

def token : Consumption → String
  | .resetPassword token | .verifyEmail token | .bindTelegram token _ => token

/-- The update of a successful consumption. -/
def applied (consumption : Consumption) (passwordHash : String)
    (account : Account) : Account :=
  match consumption with
  | .resetPassword _ =>
      { account with
        passwordHash := passwordHash
        emailVerified := true }.setSlot .passwordReset .empty
  | .verifyEmail _ =>
      { account with emailVerified := true }.setSlot .emailVerification .empty
  | .bindTelegram _ chatId =>
      { account with
        telegramChatId := some chatId }.setSlot .telegramLink .empty

end Consumption

inductive Request where
  | forgotPassword (email : String)
  | resendVerification (userId : String)
  | createTelegramLink (userId : String)
  | unlinkTelegram (userId : String)
  | consume (consumption : Consumption)
  deriving DecidableEq, Repr

/-- What a request waits for next. -/
inductive Phase where
  | waiting
  | findingByEmail (email : String)
  | findingById (userId : String)
  | findingByToken (consumption : Consumption)
  | storing (flow : Flow) (userId : String)
  | consuming (consumption : Consumption) (userId : String)
  | clearingExpired (userId : String)
  | unlinking (userId : String)
  | finished
  | consumed
  | rejected
  deriving DecidableEq, Repr

inductive Label (n : Nat) where
  | tick (elapsed : Nat)
  | begin (request : Fin n)
  | find (request : Fin n)
  | store (request : Fin n) (token : String)
  | consume (request : Fin n) (passwordHash : String)
  | clear (request : Fin n)
  deriving DecidableEq, Repr

structure State (n : Nat) where
  clock : Int
  accounts : List Account
  issued : List String
  phase : Fin n → Phase
  retired : List (Flow × String)

variable {n : Nat}

def State.moveTo (state : State n) (request : Fin n) (phase : Phase) :
    State n :=
  { state with phase := Function.update state.phase request phase }

/-! ## Statements on the user table -/

/-- `update` of the row with an id. -/
def updateById (accounts : List Account) (userId : String)
    (change : Account → Account) : List Account :=
  accounts.map fun account =>
    if account.id = userId then change account else account

def hasId (accounts : List Account) (userId : String) : Bool :=
  accounts.any fun account => account.id == userId

/-- Some row holds this fingerprint in the columns of the flow. -/
def holds (accounts : List Account) (flow : Flow) (tokenHash : String) :
    Bool :=
  accounts.any fun account =>
    (account.slot flow).tokenHash == some tokenHash

/-- The fingerprints a statement removed from their columns. -/
def removed (before after : List Account) : List (Flow × String) :=
  [Flow.passwordReset, .emailVerification, .telegramLink].flatMap fun flow =>
    (before.filterMap fun account => (account.slot flow).tokenHash).filterMap
      fun tokenHash =>
        if holds after flow tokenHash then none else some (flow, tokenHash)

section Step

variable (hashToken : String → String) (requests : Fin n → Request)

/-- The first statement of a request. -/
def opening : Request → Phase
  | .forgotPassword email => .findingByEmail email
  | .resendVerification userId => .findingById userId
  | .createTelegramLink userId => .storing .telegramLink userId
  | .unlinkTelegram userId => .unlinking userId
  | .consume consumption => .findingByToken consumption

def findByToken (accounts : List Account) (flow : Flow) (token : String) :
    Option Account :=
  accounts.find? fun account =>
    (account.slot flow).tokenHash == some (hashToken token)

/-- What a consumption does with the row it found. -/
def checked (now : Int) (consumption : Consumption) (account : Account) :
    Phase :=
  if (account.slot consumption.flow).expiresAt.any (now ≤ ·) then
    .consuming consumption account.id
  else
    match consumption with
    -- only the bot clears an expired token
    | .bindTelegram _ _ => .clearingExpired account.id
    | _ => .rejected

/-- `update` by id, which fails when there is no such row. -/
def State.update (state : State n) (request : Fin n) (userId : String)
    (change : Account → Account) (phase : Phase) : State n :=
  if hasId state.accounts userId then
    { state.moveTo request phase with
      accounts := updateById state.accounts userId change }
  else state.moveTo request .rejected

/-- The effect of a step on everything but the ghost. -/
def act (state : State n) : Label n → Option (State n)
  | .tick elapsed => some { state with clock := state.clock + elapsed }
  | .begin request =>
      match state.phase request with
      | .waiting => some (state.moveTo request (opening (requests request)))
      | _ => none
  | .find request =>
      match state.phase request with
      | .findingByEmail email =>
          match state.accounts.find? fun account => account.email == email with
          | none => some (state.moveTo request .finished)
          | some account =>
              some (state.moveTo request (.storing .passwordReset account.id))
      | .findingById userId =>
          match state.accounts.find? fun account => account.id == userId with
          | none => some (state.moveTo request .rejected)
          | some account =>
              if account.emailVerified then
                some (state.moveTo request .finished)
              else
                some (state.moveTo request
                  (.storing .emailVerification account.id))
      | .findingByToken consumption =>
          match findByToken hashToken state.accounts consumption.flow
              consumption.token with
          | none => some (state.moveTo request .rejected)
          | some account =>
              some (state.moveTo request
                (checked state.clock consumption account))
      | _ => none
  | .store request token =>
      match state.phase request with
      | .storing flow userId =>
          -- `randomUUID` never repeats a token
          if token ∈ state.issued then none
          else
            let slot : Slot := {
              tokenHash := some (hashToken token)
              expiresAt := some (state.clock + flow.ttlMs) }
            some { state.update request userId
                (fun account => account.setSlot flow slot) .finished with
              issued := state.issued ++ [token] }
      | _ => none
  | .consume request passwordHash =>
      match state.phase request with
      | .consuming consumption userId =>
          some (state.update request userId
            (consumption.applied passwordHash) .consumed)
      | _ => none
  | .clear request =>
      match state.phase request with
      | .clearingExpired userId =>
          some (state.update request userId
            (fun account => account.setSlot .telegramLink .empty) .rejected)
      | .unlinking userId =>
          some (state.update request userId
            (fun account =>
              { account with telegramChatId := none }.setSlot
                .telegramLink .empty) .finished)
      | _ => none

/-- `after` with the fingerprints removed since `before` put on record. -/
def State.recorded (before after : State n) : State n :=
  { after with
    retired := before.retired ++ removed before.accounts after.accounts }

def step (state : State n) (label : Label n) : Option (State n) :=
  (act hashToken requests state label).map state.recorded

def machine : Machine (State n) (Label n) where
  step := step hashToken requests

end Step

/--
No request has begun.  Ids and fingerprints are unique, as the schema demands,
and every stored fingerprint is that of a token drawn earlier.
-/
structure Initial (hashToken : String → String) (state : State n) :
    Prop where
  waiting : ∀ request, state.phase request = .waiting
  distinct : (state.accounts.map Account.id).Nodup
  unique : ∀ flow tokenHash, ∀ left ∈ state.accounts,
    ∀ right ∈ state.accounts,
      (left.slot flow).tokenHash = some tokenHash →
        (right.slot flow).tokenHash = some tokenHash → left = right
  drawn : ∀ flow tokenHash, holds state.accounts flow tokenHash = true →
    ∃ token ∈ state.issued, hashToken token = tokenHash
  unrecorded : state.retired = []

/-! ## What one step can do -/

namespace Phase

/-- The columns that the next statement of a request writes. -/
def writes : Phase → Option (Flow × String)
  | .storing flow userId => some (flow, userId)
  | .consuming consumption userId => some (consumption.flow, userId)
  | .clearingExpired userId | .unlinking userId => some (.telegramLink, userId)
  | _ => none

/-- The phases that no token is involved in. -/
def plain : Phase → Bool
  | .findingByToken _ | .consuming _ _ | .consumed => false
  | _ => true

end Phase

/-- The request whose update the step is. -/
def Label.writer : Label n → Option (Fin n)
  | .store request _ | .consume request _ | .clear request => some request
  | .tick _ | .begin _ | .find _ => none

/-- An update of the columns of one flow in one row. -/
structure Write (hashToken : String → String) (state : State n)
    (request : Fin n) where
  flow : Flow
  userId : String
  slot : Slot
  change : Account → Account
  issued : List String
  after : Phase
  waits : (state.phase request).writes = some (flow, userId)
  present : hasId state.accounts userId = true
  keepsId : ∀ account, (change account).id = account.id
  setsSlot : ∀ account,
    (change account).slot = Function.update account.slot flow slot
  fresh : (slot.tokenHash = none ∧ issued = state.issued) ∨
    ∃ token, token ∉ state.issued ∧ issued = state.issued ++ [token] ∧
      slot.tokenHash = some (hashToken token)
  ends : after.plain = true ∨ (after = .consumed ∧
    ∃ consumption, state.phase request = .consuming consumption userId)

/-- The state after the update. -/
def Write.target {hashToken : String → String} {state : State n}
    {request : Fin n} (write : Write hashToken state request) : State n :=
  { state.moveTo request write.after with
    accounts := updateById state.accounts write.userId write.change
    issued := write.issued }

/-- Every step; all updates that hit their row are one case. -/
inductive Acted (hashToken : String → String) (requests : Fin n → Request)
    (state : State n) : Label n → State n → Prop where
  | tick (elapsed : Nat) :
      Acted hashToken requests state (.tick elapsed)
        { state with clock := state.clock + elapsed }
  | begin {request : Fin n} (found : state.phase request = .waiting) :
      Acted hashToken requests state (.begin request)
        (state.moveTo request (opening (requests request)))
  | looked {request : Fin n} {consumption : Consumption}
      {account : Account}
      (found : state.phase request = .findingByToken consumption)
      (stored : findByToken hashToken state.accounts consumption.flow
        consumption.token = some account) :
      Acted hashToken requests state (.find request)
        (state.moveTo request (checked state.clock consumption account))
  | answered {request : Fin n} {after : Phase}
      (found : (state.phase request).writes = none)
      (plain : after.plain = true) :
      Acted hashToken requests state (.find request)
        (state.moveTo request after)
  | refused {request : Fin n} {label : Label n} {flow : Flow}
      {userId : String} {issued : List String}
      (writer : label.writer = some request)
      (found : (state.phase request).writes = some (flow, userId))
      (gone : hasId state.accounts userId = false)
      (kept : state.issued ⊆ issued) :
      Acted hashToken requests state label
        { state.moveTo request .rejected with issued := issued }
  | wrote {request : Fin n} {label : Label n}
      (writer : label.writer = some request)
      (write : Write hashToken state request) :
      Acted hashToken requests state label write.target

theorem applied_slot (consumption : Consumption) (passwordHash : String)
    (account : Account) :
    (consumption.applied passwordHash account).slot =
      Function.update account.slot consumption.flow .empty := by
  cases consumption <;> rfl

theorem applied_id (consumption : Consumption) (passwordHash : String)
    (account : Account) :
    (consumption.applied passwordHash account).id = account.id := by
  cases consumption <;> rfl

theorem update_issued (state : State n) (request : Fin n)
    (userId : String) (change : Account → Account) (after : Phase) :
    (state.update request userId change after).issued = state.issued := by
  unfold State.update
  split <;> rfl

theorem acted_update {hashToken : String → String}
    {requests : Fin n → Request} {state : State n} {request : Fin n}
    {label : Label n} {flow : Flow} {userId : String} {slot : Slot}
    {change : Account → Account} {issued : List String} {after : Phase}
    (writer : label.writer = some request)
    (waits : (state.phase request).writes = some (flow, userId))
    (keepsId : ∀ account, (change account).id = account.id)
    (setsSlot : ∀ account,
      (change account).slot = Function.update account.slot flow slot)
    (fresh : (slot.tokenHash = none ∧ issued = state.issued) ∨
      ∃ token, token ∉ state.issued ∧ issued = state.issued ++ [token] ∧
        slot.tokenHash = some (hashToken token))
    (ends : after.plain = true ∨ (after = .consumed ∧
      ∃ consumption, state.phase request = .consuming consumption userId)) :
    Acted hashToken requests state label
      { state.update request userId change after with issued := issued } := by
  unfold State.update
  split
  next present =>
    exact .wrote writer
      ⟨flow, userId, slot, change, issued, after, waits, present, keepsId,
        setsSlot, fresh, ends⟩
  next gone =>
    refine .refused writer waits (Bool.eq_false_iff.mpr gone) ?_
    rcases fresh with ⟨_, same⟩ | ⟨token, _, grown, _⟩
    · rw [same]
      exact List.Subset.refl _
    · rw [grown]
      exact List.subset_append_left _ _

/-- An update that draws no token. -/
theorem acted_clear {hashToken : String → String}
    {requests : Fin n → Request} {state : State n} {request : Fin n}
    {label : Label n} {flow : Flow} {userId : String}
    {change : Account → Account} {after : Phase}
    (writer : label.writer = some request)
    (waits : (state.phase request).writes = some (flow, userId))
    (keepsId : ∀ account, (change account).id = account.id)
    (setsSlot : ∀ account,
      (change account).slot = Function.update account.slot flow .empty)
    (ends : after.plain = true ∨ (after = .consumed ∧
      ∃ consumption, state.phase request = .consuming consumption userId)) :
    Acted hashToken requests state label
      (state.update request userId change after) := by
  have same := update_issued state request userId change after
  have acted : Acted hashToken requests state label
      { state.update request userId change after with
        issued := (state.update request userId change after).issued } :=
    acted_update writer waits keepsId setsSlot (Or.inl ⟨rfl, same⟩) ends
  exact acted

theorem acted_of_act {hashToken : String → String}
    {requests : Fin n → Request} {state next : State n} {label : Label n}
    (action : act hashToken requests state label = some next) :
    Acted hashToken requests state label next := by
  cases label with
  | tick elapsed =>
      cases action
      exact .tick elapsed
  | begin request =>
      simp only [act] at action
      split at action
      next found =>
        cases action
        exact .begin found
      next => cases action
  | find request =>
      simp only [act] at action
      split at action
      next found =>
        split at action <;> cases action <;>
          exact .answered (by rw [found]; rfl) rfl
      next found =>
        split at action
        · cases action
          exact .answered (by rw [found]; rfl) rfl
        · split at action <;> cases action <;>
            exact .answered (by rw [found]; rfl) rfl
      next found =>
        split at action
        next =>
          cases action
          exact .answered (by rw [found]; rfl) rfl
        next stored =>
          cases action
          exact .looked found stored
      next => cases action
  | store request token =>
      simp only [act] at action
      split at action
      next found =>
        split at action
        next => cases action
        next unused =>
          cases action
          exact acted_update rfl (by rw [found]; rfl) (fun _ => rfl)
            (fun _ => rfl) (Or.inr ⟨token, unused, rfl, rfl⟩) (Or.inl rfl)
      next => cases action
  | consume request passwordHash =>
      simp only [act] at action
      split at action
      next consumption userId found =>
        cases action
        exact acted_clear rfl (by rw [found]; rfl)
          (applied_id consumption passwordHash)
          (applied_slot consumption passwordHash)
          (Or.inr ⟨rfl, consumption, found⟩)
      next => cases action
  | clear request =>
      simp only [act] at action
      split at action
      next found =>
        cases action
        exact acted_clear rfl (by rw [found]; rfl) (fun _ => rfl)
          (fun _ => rfl) (Or.inl rfl)
      next found =>
        cases action
        exact acted_clear rfl (by rw [found]; rfl) (fun _ => rfl)
          (fun _ => rfl) (Or.inl rfl)
      next => cases action

end WeatherNotify.OneTime

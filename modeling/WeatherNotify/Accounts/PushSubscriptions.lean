import Mathlib.Logic.Function.Basic
import WeatherNotify.Transition.Machine

/-!
# Push subscriptions, statement by statement

A registration looks the endpoint up, refuses one that belongs to somebody else
and then upserts.  The upsert is atomic, but its update half writes the keys of
whatever row holds the endpoint by then.  Along a run every row carries keys
its owner submitted for it exactly when every such overwrite does.
-/

namespace WeatherNotify.PushSubscriptions

open WeatherNotify.Transition

/-! ## Requests and rows -/

structure Keys where
  p256dh : String
  auth : String
  deriving DecidableEq

structure CreatePushSubscriptionDto where
  endpoint : String
  keys : Keys
  deriving DecidableEq

structure DeletePushSubscriptionDto where
  endpoint : String
  deriving DecidableEq

structure PushSubscription where
  id : String
  userId : String
  endpoint : String
  p256dh : String
  auth : String
  createdAt : Nat
  deriving DecidableEq

inductive Request where
  | add (userId : String) (dto : CreatePushSubscriptionDto)
  | remove (userId : String) (dto : DeletePushSubscriptionDto)
  deriving DecidableEq

/-- How a request ends; a refusal carries its status and message. -/
inductive Response where
  | saved (id endpoint : String) (createdAt : Nat)
  | success
  | refused (status : Nat) (message : String)
  | failed
  deriving DecidableEq

/-- The response leaves the keys out. -/
def toPushSubscriptionResponse (row : PushSubscription) : Response :=
  .saved row.id row.endpoint row.createdAt

/-! ## Statements -/

def findUnique (table : List PushSubscription) (endpoint : String) :
    Option PushSubscription :=
  table.find? fun row => row.endpoint = endpoint

def createdRow (userId id : String) (createdAt : Nat)
    (dto : CreatePushSubscriptionDto) : PushSubscription where
  id := id
  userId := userId
  endpoint := dto.endpoint
  p256dh := dto.keys.p256dh
  auth := dto.keys.auth
  createdAt := createdAt

/-- The update half leaves the owner alone. -/
def PushSubscription.updated (row : PushSubscription) (keys : Keys) :
    PushSubscription :=
  { row with p256dh := keys.p256dh, auth := keys.auth }

def updateKeys (table : List PushSubscription)
    (dto : CreatePushSubscriptionDto) : List PushSubscription :=
  table.map fun row =>
    if row.endpoint = dto.endpoint then row.updated dto.keys else row

/-- The saved row and the table; `none` is the error of the primary key. -/
def upsert (table : List PushSubscription) (userId id : String)
    (createdAt : Nat) (dto : CreatePushSubscriptionDto) :
    Option (PushSubscription × List PushSubscription) :=
  match findUnique table dto.endpoint with
  | some row => some (row.updated dto.keys, updateKeys table dto)
  | none =>
      if table.any fun row => row.id = id then none
      else
        let row := createdRow userId id createdAt dto
        some (row, table ++ [row])

def deleteMany (table : List PushSubscription) (userId endpoint : String) :
    List PushSubscription :=
  table.filter fun row => ¬ (row.userId = userId ∧ row.endpoint = endpoint)

/-! ## Requests over one table -/

/-- Which statement of its method a request runs next. -/
inductive Phase where
  | waiting
  | finding (userId : String) (dto : CreatePushSubscriptionDto)
  | upserting (userId : String) (dto : CreatePushSubscriptionDto)
  | removing (userId : String) (dto : DeletePushSubscriptionDto)
  | answered (response : Response)
  deriving DecidableEq

inductive Action where
  | receive (request : Request)
  | execute
  | upsert (id : String) (createdAt : Nat)
  | fail
  deriving DecidableEq

def Request.first : Request → Phase
  | .add userId dto => .finding userId dto
  | .remove userId dto => .removing userId dto

/-- The next phase of a request together with the table it leaves. -/
def advance (table : List PushSubscription) :
    Phase → Action → Option (Phase × List PushSubscription)
  | .waiting, .receive request => some (request.first, table)
  | .finding userId dto, .execute =>
      match findUnique table dto.endpoint with
      | none => some (.upserting userId dto, table)
      | some existing =>
          -- never reassign an endpoint that already belongs to another user
          if existing.userId ≠ userId then
            some (.answered (.refused 403 "Endpoint already registered"),
              table)
          else some (.upserting userId dto, table)
  | .upserting userId dto, .upsert id createdAt =>
      match PushSubscriptions.upsert table userId id createdAt dto with
      | none => some (.answered .failed, table)
      | some (saved, written) =>
          some (.answered (toPushSubscriptionResponse saved), written)
  | .removing userId dto, .execute =>
      some (.answered .success, deleteMany table userId dto.endpoint)
  | .waiting, .fail | .answered _, .fail => none
  | _, .fail => some (.answered .failed, table)
  | _, _ => none

/-- `submitted` is a ghost: the requests received so far. -/
structure State (n : Nat) where
  table : List PushSubscription
  requests : Fin n → Phase
  submitted : List Request

/-- No subscription is stored and no request has arrived. -/
def State.start (n : Nat) : State n where
  table := []
  requests := fun _ => .waiting
  submitted := []

structure Label (n : Nat) where
  request : Fin n
  action : Action

def Action.submits : Action → List Request
  | .receive request => [request]
  | _ => []

variable {n : Nat}

def step (state : State n) (label : Label n) : Option (State n) :=
  (advance state.table (state.requests label.request) label.action).map
    fun next =>
      { table := next.2
        requests := Function.update state.requests label.request next.1
        submitted := label.action.submits ++ state.submitted }

def machine (n : Nat) : Machine (State n) (Label n) where
  step := step

/-! ## What one statement does -/

def Unregistered (table : List PushSubscription) (endpoint : String) : Prop :=
  ∀ row ∈ table, row.endpoint ≠ endpoint

theorem unregistered_of_findUnique {table : List PushSubscription}
    {endpoint : String} (missing : findUnique table endpoint = none) :
    Unregistered table endpoint := by
  intro row member equal
  have different := List.find?_eq_none.mp missing row member
  exact different (decide_eq_true equal)

def Action.isUpsert : Action → Bool
  | .upsert _ _ => true
  | _ => false

inductive Advanced (table : List PushSubscription) :
    Phase → Action → Phase → List PushSubscription → Prop where
  | arrived (request : Request) :
      Advanced table .waiting (.receive request) request.first table
  | admitted (userId : String) (dto : CreatePushSubscriptionDto) :
      Advanced table (.finding userId dto) .execute (.upserting userId dto)
        table
  | ended (phase : Phase) (action : Action) (response : Response)
      (other : action.isUpsert = false) :
      Advanced table phase action (.answered response) table
  | rejected (userId id : String) (createdAt : Nat)
      (dto : CreatePushSubscriptionDto)
      (unused : Unregistered table dto.endpoint) :
      Advanced table (.upserting userId dto) (.upsert id createdAt)
        (.answered .failed) table
  | inserted (userId id : String) (createdAt : Nat)
      (dto : CreatePushSubscriptionDto) (response : Response)
      (unused : Unregistered table dto.endpoint) :
      Advanced table (.upserting userId dto) (.upsert id createdAt)
        (.answered response) (table ++ [createdRow userId id createdAt dto])
  | overwritten (userId id : String) (createdAt : Nat)
      (dto : CreatePushSubscriptionDto) (response : Response) :
      Advanced table (.upserting userId dto) (.upsert id createdAt)
        (.answered response) (updateKeys table dto)
  | removed (userId : String) (dto : DeletePushSubscriptionDto) :
      Advanced table (.removing userId dto) .execute (.answered .success)
        (deleteMany table userId dto.endpoint)

theorem advanced_of_advance {table written : List PushSubscription}
    {phase next : Phase} {action : Action}
    (moved : advance table phase action = some (next, written)) :
    Advanced table phase action next written := by
  unfold advance at moved
  split at moved
  case h_1 request =>
    cases moved
    exact .arrived request
  case h_2 userId dto =>
    split at moved
    · cases moved
      exact .admitted userId dto
    · split at moved <;> cases moved
      · exact .ended _ _ _ rfl
      · exact .admitted userId dto
  case h_3 userId dto id createdAt =>
    unfold upsert at moved
    cases found : findUnique table dto.endpoint with
    | some row =>
        rw [found] at moved
        cases moved
        exact .overwritten userId id createdAt dto _
    | none =>
        have unused := unregistered_of_findUnique found
        rw [found] at moved
        dsimp only at moved
        split at moved
        · rename_i refused
          split at refused
          · cases moved
            exact .rejected userId id createdAt dto unused
          · cases refused
        · rename_i saved stored accepted
          split at accepted
          · cases accepted
          · cases accepted
            cases moved
            exact .inserted userId id createdAt dto _ unused
  case h_4 userId dto =>
    cases moved
    exact .removed userId dto
  case h_5 => cases moved
  case h_6 => cases moved
  case h_7 =>
    cases moved
    exact .ended _ _ _ rfl
  case h_8 => cases moved

theorem advanced_of_step {state target : State n} {label : Label n}
    (stepped : step state label = some target) :
    ∃ next, target.requests =
        Function.update state.requests label.request next ∧
      target.submitted = label.action.submits ++ state.submitted ∧
      Advanced state.table (state.requests label.request) label.action next
        target.table := by
  rcases Option.map_eq_some_iff.mp stepped with ⟨⟨next, written⟩, moved, rfl⟩
  exact ⟨next, rfl, rfl, advanced_of_advance moved⟩

end WeatherNotify.PushSubscriptions

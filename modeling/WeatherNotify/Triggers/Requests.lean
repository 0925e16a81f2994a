import WeatherNotify.Transition.Machine
import WeatherNotify.Triggers.Repository

/-!
# Trigger requests, statement by statement

Any number of requests run over one trigger table.  Each handler is a short
sequence of statements, and other requests may run between any two of them: a
creation reads the owner, counts the owner's rows and only then inserts; an
update or a deletion looks for the owned row first and then acts by key.
-/

namespace WeatherNotify.Triggers

open WeatherNotify.Transition

def maxTriggersPerUser : Nat := 10

inductive Request where
  | create (userId : String) (dto : CreateTriggerDto)
  | update (userId id : String) (dto : UpdateTriggerDto)
  | delete (userId id : String)
  | clear (userId : String)
  deriving DecidableEq

/-- How a request ends; a refusal carries its status and message. -/
inductive Response where
  | saved
  | deleted (id : String)
  | cleared (count : Nat)
  | refused (status : Nat) (message : String)
  | failed
  deriving DecidableEq

/-- Which statement of its handler a request runs next. -/
inductive Phase where
  | waiting
  | verifying (userId : String) (dto : CreateTriggerDto)
  | counting (userId : String) (dto : CreateTriggerDto)
  | inserting (userId : String) (dto : CreateTriggerDto)
  | finding (userId id : String) (dto : UpdateTriggerDto)
  | updating (id : String) (dto : UpdateTriggerDto)
  | checking (userId id : String)
  | deleting (id : String)
  | clearing (userId : String)
  | answered (response : Response)
  deriving DecidableEq

/-- What happens to a request: it arrives, runs a statement or is cut off. -/
inductive Action where
  | receive (request : Request)
  | verified (answer : Bool)
  | insert (id : String)
  | execute
  | fail
  deriving DecidableEq

def Request.first : Request → Phase
  | .create userId dto => .verifying userId dto
  | .update userId id dto => .finding userId id dto
  | .delete userId id => .checking userId id
  | .clear userId => .clearing userId

/-- A failed statement leaves the table and ends the request. -/
def settled (table : List TriggerRow) (response : Response) :
    Option (List TriggerRow) → Phase × List TriggerRow
  | some written => (.answered response, written)
  | none => (.answered .failed, table)

/-- The next phase of a request together with the table it leaves. -/
def advance (round : Rat → Rat) (table : List TriggerRow) :
    Phase → Action → Option (Phase × List TriggerRow)
  | .waiting, .receive request => some (request.first, table)
  | .verifying userId dto, .verified answer =>
      if answer then some (.counting userId dto, table)
      else some (.answered (.refused 403
        "Please verify your email before creating triggers"), table)
  | .counting userId dto, .execute =>
      if maxTriggersPerUser ≤ countForUser table userId then
        some (.answered (.refused 400 ("Trigger limit reached (max " ++
          toString maxTriggersPerUser ++ ")")), table)
      else some (.inserting userId dto, table)
  | .inserting userId dto, .insert id =>
      some (settled table .saved (create round table userId id dto))
  | .finding userId id dto, .execute =>
      -- an update must not confirm that a foreign id exists
      match findOwned table userId id with
      | none => some (.answered (.refused 404 "Trigger not found"), table)
      | some _ => some (.updating id dto, table)
  | .updating id dto, .execute =>
      some (settled table .saved (update round table id dto))
  | .checking userId id, .execute =>
      match findOwned table userId id with
      | none => some (.answered (.refused 404 "Trigger not found"), table)
      | some _ => some (.deleting id, table)
  | .deleting id, .execute =>
      some (settled table (.deleted id) (delete table id))
  | .clearing userId, .execute =>
      some (.answered (.cleared (countForUser table userId)),
        deleteAllForUser table userId)
  | .waiting, .fail | .answered _, .fail => none
  | _, .fail => some (.answered .failed, table)
  | _, _ => none

structure State (n : Nat) where
  table : List TriggerRow
  requests : Fin n → Phase

/-- No request has arrived. -/
def State.start (n : Nat) (table : List TriggerRow) : State n where
  table := table
  requests := fun _ => .waiting

structure Label (n : Nat) where
  request : Fin n
  action : Action

variable {n : Nat} {round : Rat → Rat}

def step (round : Rat → Rat) (state : State n) (label : Label n) :
    Option (State n) :=
  (advance round state.table (state.requests label.request) label.action).map
    fun next =>
      { table := next.2
        requests := Function.update state.requests label.request next.1 }

def machine (n : Nat) (round : Rat → Rat) : Machine (State n) (Label n) where
  step := step round

/-! ## What one statement does -/

/-- A phase that does not stand between a passed count and its insertion. -/
def Phase.isInserting : Phase → Bool
  | .inserting _ _ => true
  | _ => false

inductive Advanced (round : Rat → Rat) (table : List TriggerRow) :
    Phase → Action → Phase → List TriggerRow → Prop where
  | read {phase next : Phase} {action : Action}
      (plain : next.isInserting = false) :
      Advanced round table phase action next table
  | counted {userId : String} {dto : CreateTriggerDto}
      (below : countForUser table userId < maxTriggersPerUser) :
      Advanced round table (.counting userId dto) .execute
        (.inserting userId dto) table
  | created {userId id : String} {dto : CreateTriggerDto}
      {written : List TriggerRow}
      (inserted : create round table userId id dto = some written) :
      Advanced round table (.inserting userId dto) (.insert id)
        (.answered .saved) written
  | updated {id : String} {dto : UpdateTriggerDto} {written : List TriggerRow}
      (changed : update round table id dto = some written) :
      Advanced round table (.updating id dto) .execute (.answered .saved)
        written
  | deleted {id : String} {written : List TriggerRow}
      (removed : delete table id = some written) :
      Advanced round table (.deleting id) .execute (.answered (.deleted id))
        written
  | cleared {userId : String} :
      Advanced round table (.clearing userId) .execute
        (.answered (.cleared (countForUser table userId)))
        (deleteAllForUser table userId)

theorem Request.first_isInserting (request : Request) :
    request.first.isInserting = false := by
  cases request <;> rfl

/-- A statement that may fail either writes what it computed or nothing. -/
theorem eq_of_settled {table written : List TriggerRow} {response : Response}
    {result : Option (List TriggerRow)} {next : Phase}
    (equal : settled table response result = (next, written)) :
    (result = some written ∧ next = .answered response) ∨
      (written = table ∧ next = .answered .failed) := by
  cases result with
  | none =>
      cases equal
      exact Or.inr ⟨rfl, rfl⟩
  | some other =>
      cases equal
      exact Or.inl ⟨rfl, rfl⟩

theorem advanced_of_advance {table written : List TriggerRow}
    {phase next : Phase} {action : Action}
    (moved : advance round table phase action = some (next, written)) :
    Advanced round table phase action next written := by
  unfold advance at moved
  split at moved
  case h_1 request =>
    cases moved
    exact .read request.first_isInserting
  case h_2 =>
    split at moved <;> cases moved <;> exact .read rfl
  case h_3 userId dto =>
    split at moved
    · cases moved
      exact .read rfl
    · rename_i below
      cases moved
      exact .counted (Nat.lt_of_not_le below)
  case h_4 =>
    rcases eq_of_settled (Option.some.inj moved) with
      ⟨inserted, rfl⟩ | ⟨rfl, rfl⟩
    · exact .created inserted
    · exact .read rfl
  case h_5 =>
    split at moved <;> cases moved <;> exact .read rfl
  case h_6 =>
    rcases eq_of_settled (Option.some.inj moved) with
      ⟨changed, rfl⟩ | ⟨rfl, rfl⟩
    · exact .updated changed
    · exact .read rfl
  case h_7 =>
    split at moved <;> cases moved <;> exact .read rfl
  case h_8 =>
    rcases eq_of_settled (Option.some.inj moved) with
      ⟨removed, rfl⟩ | ⟨rfl, rfl⟩
    · exact .deleted removed
    · exact .read rfl
  case h_9 =>
    cases moved
    exact .cleared
  case h_10 => cases moved
  case h_11 => cases moved
  case h_12 =>
    cases moved
    exact .read rfl
  case h_13 => cases moved

theorem advanced_of_step {state target : State n} {label : Label n}
    (stepped : step round state label = some target) :
    ∃ next, target.requests =
        Function.update state.requests label.request next ∧
      Advanced round state.table (state.requests label.request) label.action
        next target.table := by
  rcases Option.map_eq_some_iff.mp stepped with ⟨⟨next, written⟩, moved, rfl⟩
  exact ⟨next, rfl, advanced_of_advance moved⟩

end WeatherNotify.Triggers

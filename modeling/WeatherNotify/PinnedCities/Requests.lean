import WeatherNotify.Transition.Machine
import WeatherNotify.Js.Text

/-!
# Pinned city requests, statement by statement

A creation counts the owner's rows and inserts with that count as its order;
the unique index on the owner and the coordinates refuses a city that is
already pinned.  A removal is one statement, restricted to the owner's rows.
Any number of requests run over one table.
-/

namespace WeatherNotify.PinnedCities

open WeatherNotify.Transition

def maxPinnedCities : Nat := 12

structure CreatePinnedCityDto where
  name : String
  country : Option String
  admin1 : Option String
  latitude : Rat
  longitude : Rat
  deriving DecidableEq

structure PinnedCityRow where
  id : String
  userId : String
  name : String
  country : Option String
  admin1 : Option String
  latitude : Rat
  longitude : Rat
  order : Nat
  deriving DecidableEq

/-! ## Statements -/

def countForUser (table : List PinnedCityRow) (userId : String) : Nat :=
  table.countP fun row => row.userId = userId

/-- The two unique constraints of the table. -/
def violatesUnique (table : List PinnedCityRow) (row : PinnedCityRow) :
    Bool :=
  table.any fun other =>
    decide (other.id = row.id) ||
      decide (other.userId = row.userId ∧ other.latitude = row.latitude ∧
        other.longitude = row.longitude)

def createdRow (userId id : String) (dto : CreatePinnedCityDto)
    (count : Nat) : PinnedCityRow where
  id := id
  userId := userId
  name := dto.name
  country := dto.country
  admin1 := dto.admin1
  latitude := dto.latitude
  longitude := dto.longitude
  order := count

/-- The insertion; `none` is the error of a unique constraint. -/
def create (table : List PinnedCityRow) (row : PinnedCityRow) :
    Option (List PinnedCityRow) :=
  if violatesUnique table row then none else some (table ++ [row])

def deleteMany (table : List PinnedCityRow) (id userId : String) :
    List PinnedCityRow :=
  table.filter fun row => ¬ (row.id = id ∧ row.userId = userId)

/-! ## Requests -/

inductive Request where
  | create (userId : String) (dto : CreatePinnedCityDto)
  | remove (userId id : String)
  deriving DecidableEq

inductive Response where
  | created (row : PinnedCityRow)
  | removed (id : String)
  | refused (status : Nat) (message : String)
  | failed
  deriving DecidableEq

inductive Phase where
  | waiting
  | counting (userId : String) (dto : CreatePinnedCityDto)
  | inserting (userId : String) (dto : CreatePinnedCityDto) (count : Nat)
  | removing (userId id : String)
  | answered (response : Response)
  deriving DecidableEq

inductive Action where
  | receive (request : Request)
  | insert (id : String)
  | execute
  | fail
  deriving DecidableEq

def Request.first : Request → Phase
  | .create userId dto => .counting userId dto
  | .remove userId id => .removing userId id

/-- The next phase of a request together with the table it leaves. -/
def advance (table : List PinnedCityRow) :
    Phase → Action → Option (Phase × List PinnedCityRow)
  | .waiting, .receive request => some (request.first, table)
  | .counting userId dto, .execute =>
      let count := countForUser table userId
      if maxPinnedCities ≤ count then
        some (.answered (.refused 400 ("Pinned city limit reached (max " ++
          toString maxPinnedCities ++ ")")), table)
      else some (.inserting userId dto count, table)
  | .inserting userId dto count, .insert id =>
      let row := createdRow userId id dto count
      match create table row with
      | none => some (.answered (.refused 400 "City is already pinned"), table)
      | some written => some (.answered (.created row), written)
  | .removing userId id, .execute =>
      some (.answered (.removed id), deleteMany table id userId)
  | .waiting, .fail | .answered _, .fail => none
  | _, .fail => some (.answered .failed, table)
  | _, _ => none

structure State (n : Nat) where
  table : List PinnedCityRow
  requests : Fin n → Phase

/-- No request has arrived. -/
def State.start (n : Nat) (table : List PinnedCityRow) : State n where
  table := table
  requests := fun _ => .waiting

structure Label (n : Nat) where
  request : Fin n
  action : Action

variable {n : Nat}

def step (state : State n) (label : Label n) : Option (State n) :=
  (advance state.table (state.requests label.request) label.action).map
    fun next =>
      { table := next.2
        requests := Function.update state.requests label.request next.1 }

def machine (n : Nat) : Machine (State n) (Label n) where
  step := step

/-! ## What one statement does -/

/-- A phase that does not stand between a passed count and its insertion. -/
def Phase.isInserting : Phase → Bool
  | .inserting _ _ _ => true
  | _ => false

inductive Advanced (table : List PinnedCityRow) :
    Phase → Action → Phase → List PinnedCityRow → Prop where
  | read {phase next : Phase} {action : Action}
      (plain : next.isInserting = false) :
      Advanced table phase action next table
  | counted {userId : String} {dto : CreatePinnedCityDto}
      (below : countForUser table userId < maxPinnedCities) :
      Advanced table (.counting userId dto) .execute
        (.inserting userId dto (countForUser table userId)) table
  | created {userId id : String} {dto : CreatePinnedCityDto} {count : Nat}
      (unique : violatesUnique table (createdRow userId id dto count) =
        false) :
      Advanced table (.inserting userId dto count) (.insert id)
        (.answered (.created (createdRow userId id dto count)))
        (table ++ [createdRow userId id dto count])
  | removed {userId id : String} :
      Advanced table (.removing userId id) .execute (.answered (.removed id))
        (deleteMany table id userId)

theorem Request.first_isInserting (request : Request) :
    request.first.isInserting = false := by
  cases request <;> rfl

theorem advanced_of_advance {table written : List PinnedCityRow}
    {phase next : Phase} {action : Action}
    (moved : advance table phase action = some (next, written)) :
    Advanced table phase action next written := by
  unfold advance at moved
  split at moved
  case h_1 request =>
    cases moved
    exact .read request.first_isInserting
  case h_2 userId dto =>
    dsimp only at moved
    split at moved
    · cases moved
      exact .read rfl
    · rename_i below
      cases moved
      exact .counted (Nat.lt_of_not_le below)
  case h_3 userId dto count id =>
    dsimp only at moved
    split at moved
    · cases moved
      exact .read rfl
    · rename_i inserted
      cases moved
      unfold create at inserted
      split at inserted
      · cases inserted
      · rename_i unique
        cases inserted
        exact .created (Bool.eq_false_of_not_eq_true unique)
  case h_4 =>
    cases moved
    exact .removed
  case h_5 => cases moved
  case h_6 => cases moved
  case h_7 =>
    cases moved
    exact .read rfl
  case h_8 => cases moved

theorem advanced_of_step {state target : State n} {label : Label n}
    (stepped : step state label = some target) :
    ∃ next, target.requests =
        Function.update state.requests label.request next ∧
      Advanced state.table (state.requests label.request) label.action next
        target.table := by
  rcases Option.map_eq_some_iff.mp stepped with ⟨⟨next, written⟩, moved, rfl⟩
  exact ⟨next, rfl, advanced_of_advance moved⟩

end WeatherNotify.PinnedCities

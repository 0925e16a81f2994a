import WeatherNotify.Contracts.Routing
import WeatherNotify.Domain.Location

/-!
# Triggers and the statements on their table

The request bodies, the stored rows and what each repository call does to the
table.  A body property can be missing, `null` or a value: the partial body of
an update admits all three, and the database client rejects a `null` for a
column that is not nullable before it runs the statement.
-/

namespace WeatherNotify.Triggers

open WeatherNotify.Contracts
open WeatherNotify.Domain

/-! ## Request bodies -/

/-- A property of a request body. -/
inductive Property (Value : Type) where
  | absent
  | null
  | given (value : Value)
  deriving DecidableEq

namespace Property

variable {Value : Type}

def isNull : Property Value → Bool
  | .null => true
  | _ => false

def getD (default : Value) : Property Value → Value
  | .given value => value
  | _ => default

@[simp]
theorem getD_given (default value : Value) :
    (Property.given value).getD default = value :=
  rfl

@[simp]
theorem getD_absent (default : Value) :
    (Property.absent : Property Value).getD default = default :=
  rfl

@[simp]
theorem getD_null (default : Value) :
    (Property.null : Property Value).getD default = default :=
  rfl

end Property

inductive Metric where
  | temperature
  | apparentTemp
  | windSpeed
  | precipitation
  | humidity
  | severe
  deriving DecidableEq

inductive Operator where
  | gt
  | gte
  | lt
  | lte
  | eq
  deriving DecidableEq

inductive ConditionLogic where
  | and
  | or
  deriving DecidableEq

structure ConditionDto where
  metric : Metric
  operator : Operator
  threshold : Rat
  deriving DecidableEq

structure CreateTriggerDto where
  name : String
  city : String
  latitude : Rat
  longitude : Rat
  conditions : List ConditionDto
  conditionLogic : Property ConditionLogic := .absent
  channels : List Channel
  cooldownMin : Property Nat := .absent
  isActive : Property Bool := .absent
  deriving DecidableEq

/-- Every property of a creation, each of them optional. -/
structure UpdateTriggerDto where
  name : Property String := .absent
  city : Property String := .absent
  latitude : Property Rat := .absent
  longitude : Property Rat := .absent
  conditions : Property (List ConditionDto) := .absent
  conditionLogic : Property ConditionLogic := .absent
  channels : Property (List Channel) := .absent
  cooldownMin : Property Nat := .absent
  isActive : Property Bool := .absent
  deriving DecidableEq

/-! ## Rows -/

structure ConditionRow extends ConditionDto where
  order : Nat
  deriving DecidableEq

structure TriggerRow where
  id : String
  userId : String
  name : String
  city : String
  latitude : Rat
  longitude : Rat
  conditionLogic : ConditionLogic
  conditions : List ConditionRow
  channels : List Channel
  cooldownMin : Nat
  isActive : Bool
  locationBucket : Int
  deriving DecidableEq

def conditionRows (conditions : List ConditionDto) : List ConditionRow :=
  conditions.mapIdx fun order condition =>
    { condition with order := order }

section Rounding

variable (round : Rat → Rat)

/-- The row stores the bucket of its own coordinates. -/
def TriggerRow.Matches (row : TriggerRow) : Prop :=
  row.locationBucket = Domain.locationBucket round row.latitude row.longitude

instance (row : TriggerRow) : Decidable (row.Matches round) :=
  inferInstanceAs (Decidable (_ = _))

/-- The bucket update for a patch: only one that carries both coordinates. -/
def bucketPatch : Property Rat → Property Rat → Option Int
  | .given latitude, .given longitude =>
      some (locationBucket round latitude longitude)
  | _, _ => none

/-- The row a creation inserts; `none` for a `null` the client rejects. -/
def createdRow (userId id : String) (dto : CreateTriggerDto) :
    Option TriggerRow :=
  if dto.cooldownMin.isNull || dto.isActive.isNull then none
  else some
    { id := id
      userId := userId
      name := dto.name
      city := dto.city
      latitude := dto.latitude
      longitude := dto.longitude
      conditionLogic := dto.conditionLogic.getD .and
      conditions := conditionRows dto.conditions
      channels := dto.channels
      cooldownMin := dto.cooldownMin.getD 60
      isActive := dto.isActive.getD true
      locationBucket := locationBucket round dto.latitude dto.longitude }

/-- A `null` for a column that is not nullable. -/
def UpdateTriggerDto.isRejected (dto : UpdateTriggerDto) : Bool :=
  dto.name.isNull || dto.city.isNull || dto.latitude.isNull ||
    dto.longitude.isNull || dto.channels.isNull || dto.cooldownMin.isNull ||
    dto.isActive.isNull

/-- What an update makes of the row it finds. -/
def TriggerRow.updated (row : TriggerRow) (dto : UpdateTriggerDto) :
    TriggerRow :=
  { row with
    name := dto.name.getD row.name
    city := dto.city.getD row.city
    latitude := dto.latitude.getD row.latitude
    longitude := dto.longitude.getD row.longitude
    channels := dto.channels.getD row.channels
    cooldownMin := dto.cooldownMin.getD row.cooldownMin
    isActive := dto.isActive.getD row.isActive
    conditionLogic := dto.conditionLogic.getD row.conditionLogic
    locationBucket :=
      (bucketPatch round dto.latitude dto.longitude).getD row.locationBucket
    conditions :=
      match dto.conditions with
      | .given conditions => conditionRows conditions
      | _ => row.conditions }

/-! ## Statements -/

def countForUser (table : List TriggerRow) (userId : String) : Nat :=
  table.countP fun row => row.userId = userId

def findOwned (table : List TriggerRow) (userId id : String) :
    Option TriggerRow :=
  table.find? fun row => row.id = id ∧ row.userId = userId

/-- The insertion; `none` when it is rejected or the key is taken. -/
def create (table : List TriggerRow) (userId id : String)
    (dto : CreateTriggerDto) : Option (List TriggerRow) :=
  if table.any fun row => row.id = id then none
  else (createdRow round userId id dto).map fun row => table ++ [row]

/-- The update by key; `none` when it is rejected or the row is gone. -/
def update (table : List TriggerRow) (id : String) (dto : UpdateTriggerDto) :
    Option (List TriggerRow) :=
  if dto.isRejected then none
  else if table.any fun row => row.id = id then
    some (table.map fun row =>
      if row.id = id then row.updated round dto else row)
  else none

/-- The deletion by key; `none` when the row is gone. -/
def delete (table : List TriggerRow) (id : String) :
    Option (List TriggerRow) :=
  if table.any fun row => row.id = id then
    some (table.filter fun row => row.id ≠ id)
  else none

def deleteAllForUser (table : List TriggerRow) (userId : String) :
    List TriggerRow :=
  table.filter fun row => row.userId ≠ userId

end Rounding

end WeatherNotify.Triggers

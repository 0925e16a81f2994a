import WeatherNotify.Js.Number

/-!
# Values and what schemas read off them

A parsed text is a value; a schema reads a typed record off it or rejects it
as a whole.  Writing a record down and reading it back gives the same record.
-/

namespace WeatherNotify.Js

/-- A value as `JSON.parse` returns it. -/
inductive Value where
  | null
  | bool (value : Bool)
  | num (value : Number)
  | str (text : String)
  | arr (items : List Value)
  | obj (fields : List (String × Value))

namespace Value

variable {α : Type*}

/-- Whether `if (value)` takes its branch. -/
def truthy : Value → Bool
  | .null | .num .nan | .str "" => false
  | .bool value => value
  | .num (.finite value) => value ≠ 0
  | .num (.infinity _) | .str _ | .arr _ | .obj _ => true

/-! ## Schemas -/

/-- `z.number()`: neither infinite nor NaN. -/
def number : Value → Option Rat
  | .num (.finite value) => some value
  | _ => none

/-- `z.string()` -/
def string : Value → Option String
  | .str text => some text
  | _ => none

/-- `schema.nullable()` -/
def nullable (schema : Value → Option α) : Value → Option (Option α)
  | .null => some none
  | value => (schema value).map some

/-- `z.array(schema)` -/
def array (schema : Value → Option α) : Value → Option (List α)
  | .arr items => items.mapM schema
  | _ => none

/-- The member of that name, or undefined. -/
def member (fields : List (String × Value)) (name : String) : Option Value :=
  (fields.find? fun field => field.1 = name).map Prod.snd

/-- The members of `z.object`. -/
def object : Value → Option (List (String × Value))
  | .obj fields => some fields
  | _ => none

/-- A member that has to be there. -/
def required (fields : List (String × Value)) (name : String)
    (schema : Value → Option α) : Option α :=
  (member fields name).bind schema

/-- `schema.optional()`: a member that may be undefined. -/
def optional (fields : List (String × Value)) (name : String)
    (schema : Value → Option α) : Option (Option α) :=
  match member fields name with
  | none => some none
  | some value => (schema value).map some

/-! ## Writing -/

/-- A finite number. -/
def ofNumber (value : Rat) : Value :=
  .num (.finite value)

def ofNullable (write : α → Value) : Option α → Value
  | none => .null
  | some value => write value

/-- A member that is left out when undefined. -/
def ofOptional (name : String) (write : α → Value) :
    Option α → List (String × Value)
  | none => []
  | some value => [(name, write value)]

/-! ## Reading back what was written -/

@[simp]
theorem number_ofNumber (value : Rat) : number (ofNumber value) = some value :=
  rfl

@[simp]
theorem string_str (text : String) : string (.str text) = some text :=
  rfl

@[simp]
theorem object_obj (fields : List (String × Value)) :
    object (.obj fields) = some fields :=
  rfl

@[simp]
theorem truthy_obj (fields : List (String × Value)) :
    truthy (.obj fields) = true :=
  rfl

@[simp]
theorem truthy_arr (items : List Value) : truthy (.arr items) = true :=
  rfl

theorem array_map {schema : Value → Option α} {write : α → Value}
    (back : ∀ item, schema (write item) = some item) (items : List α) :
    array schema (.arr (items.map write)) = some items := by
  simp only [array]
  induction items with
  | nil => rfl
  | cons item rest induction =>
      rw [List.map_cons, List.mapM_cons, back, induction]
      rfl

end Value

end WeatherNotify.Js

import WeatherNotify.Js.Number
import WeatherNotify.Order.Pages

/-!
# Requests for one page of a list

The query of a list endpoint after its checks, and the envelope of the answer.
Both properties are optional; what is given must be a whole number within its
bounds, or the request is refused before it reaches the service.
-/

namespace WeatherNotify.Common

open WeatherNotify.Js
open WeatherNotify.Order

universe u v

/-! ## The query -/

/-- `@IsInt() @Min(1)`. -/
abbrev PageNumber := {value : Nat // 1 ≤ value}

/-- `@IsInt() @Min(1) @Max(100)`. -/
abbrev PageLimit := {value : Nat // 1 ≤ value ∧ value ≤ 100}

structure PaginationDto where
  page : Option PageNumber := some ⟨1, by decide⟩
  limit : Option PageLimit := some ⟨20, by decide⟩
  deriving DecidableEq

/-- `@Type(() => Number) @IsInt()` on a text without a negative value. -/
def wholeNumber (text : String) : Option Nat :=
  match Number.ofString text with
  | .finite value =>
      if value.isInt ∧ 0 ≤ value then some value.num.toNat else none
  | _ => none

/-- A property that is not in the query keeps the default of the class. -/
def optionalProperty {Value : Type} (default : Value)
    (accept : Nat → Option Value) : Option String → Option Value
  | none => some default
  | some text => (wholeNumber text).bind accept

def acceptPage (value : Nat) : Option PageNumber :=
  if accepted : 1 ≤ value then some ⟨value, accepted⟩ else none

def acceptLimit (value : Nat) : Option PageLimit :=
  if accepted : 1 ≤ value ∧ value ≤ 100 then some ⟨value, accepted⟩ else none

namespace PaginationDto

/-- What the validation pipe hands over; `none` is a refused request. -/
def ofQuery (page limit : Option String) : Option PaginationDto := do
  let page ← optionalProperty ⟨1, by decide⟩ acceptPage page
  let limit ← optionalProperty ⟨20, by decide⟩ acceptLimit limit
  return { page := some page, limit := some limit }

/-- After the pipe the defaults of a service have nothing left to fill. -/
theorem ofQuery_given {page limit : Option String} {dto : PaginationDto}
    (accepted : ofQuery page limit = some dto) :
    dto.page.isSome = true ∧ dto.limit.isSome = true := by
  rcases Option.bind_eq_some_iff.mp accepted with ⟨number, _, rest⟩
  rcases Option.bind_eq_some_iff.mp rest with ⟨size, _, built⟩
  cases built
  exact ⟨rfl, rfl⟩

/-- `page = 1` where a service takes the query apart. -/
def pageOrDefault (dto : PaginationDto) : Nat :=
  (dto.page.map Subtype.val).getD 1

/-- `limit = 20` where a service takes the query apart. -/
def limitOrDefault (dto : PaginationDto) : Nat :=
  (dto.limit.map Subtype.val).getD 20

/-- The same request for another page; the first one is number one. -/
def atPage (dto : PaginationDto) (index : Nat) : PaginationDto :=
  { dto with page := some ⟨index + 1, Nat.succ_pos index⟩ }

@[simp]
theorem pageOrDefault_atPage (dto : PaginationDto) (index : Nat) :
    (dto.atPage index).pageOrDefault = index + 1 :=
  rfl

@[simp]
theorem limitOrDefault_atPage (dto : PaginationDto) (index : Nat) :
    (dto.atPage index).limitOrDefault = dto.limitOrDefault :=
  rfl

theorem limitOrDefault_bounds (dto : PaginationDto) :
    1 ≤ dto.limitOrDefault ∧ dto.limitOrDefault ≤ 100 := by
  rcases dto with ⟨page, _ | ⟨limit, accepted⟩⟩
  · show 1 ≤ 20 ∧ 20 ≤ 100
    decide
  · exact accepted

end PaginationDto

/-! ## The answer -/

structure PaginatedResult (Row : Type u) where
  items : List Row
  total : Nat
  page : Nat
  limit : Nat

section Query

variable {Row : Type u} {Key : Type v} [LinearOrder Key] {key : Row → Key}
  {rows : List Row}

/-- `findMany({ orderBy: { key: 'desc' }, skip, take })`. -/
def findMany (ranking : Ranking key rows) (skip take : Nat) : List Row :=
  (ranking.rows.drop skip).take take

/-- The request for the page after `index` others reads that window. -/
theorem findMany_atPage (ranking : Ranking key rows) (dto : PaginationDto)
    (index : Nat) :
    findMany ranking (((dto.atPage index).pageOrDefault - 1) *
        (dto.atPage index).limitOrDefault) (dto.atPage index).limitOrDefault =
      window dto.limitOrDefault index ranking.rows :=
  rfl

end Query

end WeatherNotify.Common

import WeatherNotify.Order.Arrivals
import WeatherNotify.PinnedCities.Requests

/-!
# The order of pinned cities

The calls of `PinnedCitiesService` one after another.  A creation stores the
number of the owner's cities as the position of the new one, and `findAll`
lists by position and then by creation time.  A removal makes the count smaller
than positions that are in use, so a new city is listed last exactly when no
position of its owner is above the count it stores.
-/

namespace WeatherNotify.PinnedCities

open WeatherNotify.Order
open WeatherNotify.Transition

/-! ## The calls -/

/-- A stored row with its creation time. -/
structure StoredCity where
  row : PinnedCityRow
  createdAt : Int
  deriving DecidableEq

structure PinnedCityResponseDto where
  id : String
  name : String
  country : Option String
  admin1 : Option String
  latitude : Rat
  longitude : Rat
  order : Nat
  createdAt : Int
  deriving DecidableEq

def toPinnedCityResponse (city : StoredCity) : PinnedCityResponseDto where
  id := city.row.id
  name := city.row.name
  country := city.row.country
  admin1 := city.row.admin1
  latitude := city.row.latitude
  longitude := city.row.longitude
  order := city.row.order
  createdAt := city.createdAt

/-- The rows in the order of their insertion. -/
abbrev Table := List StoredCity

def Table.rows (table : Table) : List PinnedCityRow :=
  table.map StoredCity.row

def citiesOf (table : Table) (userId : String) : List StoredCity :=
  table.filter fun city => city.row.userId = userId

def position (city : StoredCity) : Nat :=
  city.row.order

/-- Ordered by `order`, then by `createdAt`. -/
def findAll (table : Table) (userId : String) :
    List PinnedCityResponseDto :=
  (listing position StoredCity.createdAt (citiesOf table userId)).map
    toPinnedCityResponse

/-- The city a creation would insert, if the two checks let it. -/
def newCity (table : Table) (userId : String) (dto : CreatePinnedCityDto)
    (id : String) (createdAt : Int) : StoredCity where
  row := createdRow userId id dto (countForUser table.rows userId)
  createdAt := createdAt

/-- The creation passes its count and the unique constraints. -/
def isInserted (table : Table) (city : StoredCity) : Bool :=
  decide (countForUser table.rows city.row.userId < maxPinnedCities) &&
    !violatesUnique table.rows city.row

def createCity (table : Table) (userId : String)
    (dto : CreatePinnedCityDto) (id : String) (createdAt : Int) :
    Response × Table :=
  let city := newCity table userId dto id createdAt
  if maxPinnedCities ≤ countForUser table.rows userId then
    (.refused 400 ("Pinned city limit reached (max " ++
      toString maxPinnedCities ++ ")"), table)
  else
    match create table.rows city.row with
    | none => (.refused 400 "City is already pinned", table)
    | some _ => (.created city.row, table ++ [city])

def removeCity (table : Table) (userId id : String) : Table :=
  table.filter fun city => ¬ (city.row.id = id ∧ city.row.userId = userId)

inductive Call where
  | create (userId : String) (dto : CreatePinnedCityDto) (id : String)
      (createdAt : Int)
  | remove (userId id : String)
  deriving DecidableEq

/-- A city is created after all that are stored. -/
def callStep (table : Table) : Call → Option Table
  | .create userId dto id createdAt =>
      if ∀ city ∈ table, city.createdAt < createdAt then
        some (createCity table userId dto id createdAt).2
      else none
  | .remove userId id => some (removeCity table userId id)

def callMachine : Machine Table Call where
  step := callStep

/-! ## A call runs the statements of its request -/

theorem createCity_runs_request (table : Table) (userId : String)
    (dto : CreatePinnedCityDto) (id : String) (createdAt : Int) :
    (advance table.rows (.counting userId dto) .execute = some
        (.answered (createCity table userId dto id createdAt).1,
          (createCity table userId dto id createdAt).2.rows)) ∨
      ∃ count, advance table.rows (.counting userId dto) .execute =
          some (.inserting userId dto count, table.rows) ∧
        advance table.rows (.inserting userId dto count) (.insert id) = some
          (.answered (createCity table userId dto id createdAt).1,
            (createCity table userId dto id createdAt).2.rows) := by
  by_cases full : maxPinnedCities ≤ countForUser table.rows userId
  · left
    simp only [advance, createCity, if_pos full]
  · right
    refine ⟨countForUser table.rows userId, ?_, ?_⟩
    · simp only [advance, if_neg full]
    · simp only [advance, createCity, if_neg full, newCity]
      cases written : create table.rows (createdRow userId id dto
        (countForUser table.rows userId)) with
      | none => rfl
      | some rows =>
          rcases Option.ite_none_left_eq_some.mp written with ⟨_, appended⟩
          cases appended
          simp [Table.rows]

theorem removeCity_runs_request (table : Table) (userId id : String) :
    advance table.rows (.removing userId id) .execute =
      some (.answered (.removed id), (removeCity table userId id).rows) := by
  simp only [advance, deleteMany, removeCity, Table.rows, List.filter_map]
  rfl

/-! ## What a call does to the table -/

theorem createCity_snd (table : Table) (userId : String)
    (dto : CreatePinnedCityDto) (id : String) (createdAt : Int) :
    (createCity table userId dto id createdAt).2 =
      if isInserted table (newCity table userId dto id createdAt) then
        table ++ [newCity table userId dto id createdAt]
      else table := by
  unfold createCity isInserted create
  show (if maxPinnedCities ≤ countForUser table.rows userId then _
    else _ : Response × Table).2 = if decide (countForUser table.rows userId <
      maxPinnedCities) && _ then _ else _
  by_cases full : maxPinnedCities ≤ countForUser table.rows userId
  · rw [if_pos full, decide_eq_false (Nat.not_lt.mpr full)]
    rfl
  · rw [if_neg full, decide_eq_true (Nat.lt_of_not_le full)]
    cases violatesUnique table.rows (newCity table userId dto id
      createdAt).row with
    | true => rfl
    | false => rfl

/-- The new city of a call that inserts one. -/
def Call.inserted (table : Table) : Call → Option StoredCity
  | .create userId dto id createdAt =>
      let city := newCity table userId dto id createdAt
      if isInserted table city then some city else none
  | .remove _ _ => none

/-- A call appends a city that is later than all others, or drops some. -/
theorem callStep_cases {table next : Table} {call : Call}
    (stepped : callStep table call = some next) :
    (∃ city, call.inserted table = some city ∧ next = table ++ [city] ∧
        ∀ other ∈ table, other.createdAt < city.createdAt) ∨
      call.inserted table = none ∧ next.Sublist table := by
  cases call with
  | create userId dto id createdAt =>
      rcases Option.ite_none_right_eq_some.mp stepped with ⟨later, written⟩
      cases written
      rw [createCity_snd]
      simp only [Call.inserted]
      by_cases inserts :
          isInserted table (newCity table userId dto id createdAt) = true
      · left
        rw [if_pos inserts, if_pos inserts]
        exact ⟨_, rfl, rfl, later⟩
      · right
        rw [if_neg inserts, if_neg inserts]
        exact ⟨rfl, List.Sublist.refl table⟩
  | remove userId id =>
      cases stepped
      right
      exact ⟨rfl, List.filter_sublist⟩

/-! ## Listed in the order of pinning -/

/-- `findAll` lists the user's cities in the order of their creation. -/
def InPinnedOrder (userId : String) (table : Table) : Prop :=
  (findAll table userId).Pairwise fun left right =>
    left.createdAt < right.createdAt

/-- No city of the user has a position above the count a new one stores. -/
def AppendsLast (userId : String) (taken : Taken Table Call) : Prop :=
  ∀ city ∈ taken.label.inserted taken.source, city.row.userId = userId →
    ∀ other ∈ citiesOf taken.source userId,
      other.row.order ≤ countForUser taken.source.rows userId

variable {userId : String} {table next : Table} {call : Call}

theorem citiesOf_arrived (arrived : Arrived StoredCity.createdAt table) :
    Arrived StoredCity.createdAt (citiesOf table userId) :=
  arrived.filter _

theorem inPinnedOrder_iff (arrived : Arrived StoredCity.createdAt table) :
    InPinnedOrder userId table ↔
      (citiesOf table userId).Pairwise fun left right =>
        position left ≤ position right := by
  rw [← arrived_listing_iff (citiesOf_arrived arrived)]
  exact List.pairwise_map

/-- Rows are stored in the order of their creation. -/
theorem arrived_step (stepped : callStep table call = some next)
    (arrived : Arrived StoredCity.createdAt table) :
    Arrived StoredCity.createdAt next := by
  rcases callStep_cases stepped with ⟨city, _, rfl, later⟩ | ⟨_, fewer⟩
  · apply List.pairwise_append.mpr
    refine ⟨arrived, List.pairwise_singleton _ city, ?_⟩
    intro other member last lastMember
    cases List.mem_singleton.mp lastMember
    exact later other member
  · exact arrived.sublist fewer

theorem row_of_inserted {city : StoredCity}
    (inserted : call.inserted table = some city) :
    city.row.order = countForUser table.rows city.row.userId := by
  cases call with
  | create userId dto id createdAt =>
      simp only [Call.inserted] at inserted
      split at inserted
      case isTrue =>
        cases inserted
        rfl
      case isFalse => cases inserted
  | remove userId id => cases inserted

theorem citiesOf_append (table : Table) (city : StoredCity)
    (userId : String) :
    citiesOf (table ++ [city]) userId =
      citiesOf table userId ++
        if city.row.userId = userId then [city] else [] := by
  simp only [citiesOf, List.filter_append, List.filter_singleton,
    Bool.cond_decide]

/-- From a good listing a call leads to a good one exactly if it appends last. -/
theorem inPinnedOrder_step_iff (taken : Taken Table Call)
    (stepped : callStep taken.source taken.label = some taken.target)
    (arrived : Arrived StoredCity.createdAt taken.source)
    (ordered : InPinnedOrder userId taken.source) :
    InPinnedOrder userId taken.target ↔ AppendsLast userId taken := by
  have before := (inPinnedOrder_iff arrived).mp ordered
  rw [inPinnedOrder_iff (arrived_step stepped arrived)]
  rcases callStep_cases stepped with ⟨city, inserted, target, later⟩ |
    ⟨none, fewer⟩
  · have stored := row_of_inserted inserted
    rw [target, citiesOf_append]
    by_cases own : city.row.userId = userId
    · rw [if_pos own, List.pairwise_append]
      constructor
      · rintro ⟨_, _, below⟩ other found _ earlier member
        have same : city = other := by
          rw [inserted] at found
          exact Option.some.inj found
        have bound := below earlier member city (List.mem_singleton_self city)
        rw [← own, ← stored]
        exact bound
      · intro appends
        refine ⟨before, List.pairwise_singleton _ city, ?_⟩
        intro earlier member last lastMember
        cases List.mem_singleton.mp lastMember
        show earlier.row.order ≤ city.row.order
        rw [stored, own]
        exact appends city inserted own earlier member
    · rw [if_neg own, List.append_nil]
      constructor
      · intro _ other found foreign
        rw [inserted] at found
        cases found
        exact absurd foreign own
      · intro _
        exact before
  · constructor
    · intro _ city found
      rw [none] at found
      cases found
    · intro _
      exact before.sublist (fewer.filter _)

/-- A new city is listed last exactly if no position is above its own. -/
theorem inserted_last_iff {taken : Taken Table Call} {city : StoredCity}
    (stepped : callStep taken.source taken.label = some taken.target)
    (inserted : taken.label.inserted taken.source = some city)
    (own : city.row.userId = userId) :
    (findAll taken.target userId).getLast? =
        some (toPinnedCityResponse city) ↔
      AppendsLast userId taken := by
  rcases callStep_cases stepped with ⟨other, found, target, later⟩ |
    ⟨none, _⟩
  case inr =>
    rw [none] at inserted
    cases inserted
  rw [inserted] at found
  cases found
  have latest : ∀ other ∈ citiesOf taken.source userId,
      other.createdAt < city.createdAt :=
    fun other member => later other (List.mem_of_mem_filter member)
  have listed : citiesOf taken.target userId =
      citiesOf taken.source userId ++ [city] := by
    rw [target, citiesOf_append, if_pos own]
  have positions := getLast?_listing_append_iff position latest
  rw [findAll, listed, List.getLast?_map, Option.map_eq_some_iff]
  constructor
  · rintro ⟨last, isLast, same⟩ found foundHere _ other member
    have itself : last = city := by
      have stamps : last.createdAt = city.createdAt :=
        congrArg PinnedCityResponseDto.createdAt same
      have lastMember := mem_listing.mp (List.mem_of_getLast? isLast)
      rcases List.mem_append.mp lastMember with earlier | new
      · exact absurd stamps (ne_of_lt (latest last earlier))
      · exact List.mem_singleton.mp new
    rw [itself] at isLast
    have below := positions.mp isLast other member
    rw [← own, ← row_of_inserted inserted]
    exact below
  · intro appends
    refine ⟨city, positions.mpr ?_, rfl⟩
    intro other member
    show other.row.order ≤ city.row.order
    rw [row_of_inserted inserted, own]
    exact appends city inserted own other member

/--
The cities of a user are listed in the order in which they were pinned after
every call exactly if no creation finds a position of the user's above the
number of the user's cities; and the city of a creation is listed last exactly
if that creation does not.
-/
theorem pinned_order_iff (userId : String) (calls : List Call) :
    ((∀ taken ∈ callMachine.transitions [] calls,
        InPinnedOrder userId taken.target) ↔
      ∀ taken ∈ callMachine.transitions [] calls,
        AppendsLast userId taken) ∧
      ∀ taken ∈ callMachine.transitions [] calls,
        ∀ city ∈ taken.label.inserted taken.source,
          city.row.userId = userId →
            ((findAll taken.target userId).getLast? =
                some (toPinnedCityResponse city) ↔
              AppendsLast userId taken) := by
  constructor
  · have iff : (∀ taken ∈ callMachine.transitions [] calls,
          Arrived StoredCity.createdAt taken.target ∧
            InPinnedOrder userId taken.target) ↔
        ∀ taken ∈ callMachine.transitions [] calls,
          AppendsLast userId taken := by
      apply Machine.transitions_forall_iff fun table =>
        Arrived StoredCity.createdAt table ∧ InPinnedOrder userId table
      · rintro taken stepped ⟨arrived, ordered⟩
        rw [and_iff_right (arrived_step stepped arrived)]
        exact inPinnedOrder_step_iff taken stepped arrived ordered
      · exact ⟨List.Pairwise.nil, List.Pairwise.nil⟩
    have arrivedAlways : ∀ taken ∈ callMachine.transitions [] calls,
        Arrived StoredCity.createdAt taken.target := by
      intro taken member
      have source := Machine.source_preserves
        (Arrived StoredCity.createdAt)
        (fun stepped arrived => arrived_step stepped arrived)
        List.Pairwise.nil member
      exact arrived_step (callMachine.step_of_mem_transitions member) source
    rw [← iff]
    constructor
    · intro ordered taken member
      exact ⟨arrivedAlways taken member, ordered taken member⟩
    · intro both taken member
      exact (both taken member).2
  · intro taken member city inserted own
    exact inserted_last_iff (callMachine.step_of_mem_transitions member)
      inserted own

/-- A city by its name, on the equator. -/
def equatorCity (name : String) (longitude : Rat) : CreatePinnedCityDto where
  name := name
  country := none
  admin1 := none
  latitude := 0
  longitude := longitude

/-- Four cities are pinned, the first two removed, and a fifth one pinned. -/
def repinning : List Call :=
  [.create "ann" (equatorCity "A" 1) "a" 1,
    .create "ann" (equatorCity "B" 2) "b" 2,
    .create "ann" (equatorCity "C" 3) "c" 3,
    .create "ann" (equatorCity "D" 4) "d" 4,
    .remove "ann" "a", .remove "ann" "b",
    .create "ann" (equatorCity "E" 5) "e" 5]

/-- The city pinned last is listed between the two that are left. -/
theorem new_city_listed_in_the_middle :
    ∃ table, callMachine.run [] repinning = some table ∧
      (findAll table "ann").map PinnedCityResponseDto.name =
        ["C", "E", "D"] ∧
      ¬ InPinnedOrder "ann" table := by
  refine ⟨_, rfl, by decide, ?_⟩
  unfold InPinnedOrder
  decide

end WeatherNotify.PinnedCities

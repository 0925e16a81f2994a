import WeatherNotify.Triggers.BucketDrift

/-!
# What the validated bodies make of the stored triggers

Every property of a body is checked by itself, by the same rules in a creation
and in an update, where a property that is missing or `null` is not checked.
Rows are written from such bodies only, a few columns at a time, so a stored
trigger keeps within the limits of the API whatever requests interleave.
-/

namespace WeatherNotify.Triggers

open WeatherNotify.Contracts
open WeatherNotify.Domain
open WeatherNotify.Transition

variable {n : Nat} {round : Rat → Rat}

/-! ## The limits -/

def maxConditionsPerTrigger : Nat := 5

def minCooldownMin : Nat := 10

def maxCooldownMin : Nat := 1440

def maxChannelsPerTrigger : Nat := 3

/-- The two selectors that only say how the character before them looks. -/
def isPresentation (char : Char) : Bool :=
  char.toNat == 0xFE0E || char.toNat == 0xFE0F

/-- What `Length` counts: code points without presentation selectors. -/
def isLength (low high : Nat) (text : String) : Prop :=
  let length := text.toList.countP fun char => !isPresentation char
  low ≤ length ∧ length ≤ high

instance (low high : Nat) (text : String) :
    Decidable (isLength low high text) :=
  inferInstanceAs (Decidable (_ ∧ _))

/-! ## The checks of the properties -/

def ValidName (name : String) : Prop :=
  isLength 1 80 name

def ValidCity (city : String) : Prop :=
  isLength 1 120 city

def ValidLatitude (latitude : Rat) : Prop :=
  -90 ≤ latitude ∧ latitude ≤ 90

def ValidLongitude (longitude : Rat) : Prop :=
  -180 ≤ longitude ∧ longitude ≤ 180

instance : DecidablePred ValidName :=
  fun name => inferInstanceAs (Decidable (isLength 1 80 name))

instance : DecidablePred ValidCity :=
  fun city => inferInstanceAs (Decidable (isLength 1 120 city))

instance : DecidablePred ValidLatitude :=
  fun latitude => inferInstanceAs (Decidable (-90 ≤ latitude ∧ latitude ≤ 90))

instance : DecidablePred ValidLongitude :=
  fun longitude =>
    inferInstanceAs (Decidable (-180 ≤ longitude ∧ longitude ≤ 180))

def ValidConditions {Condition : Type} (conditions : List Condition) : Prop :=
  conditions ≠ [] ∧ conditions.length ≤ maxConditionsPerTrigger

def ValidChannels (channels : List Channel) : Prop :=
  channels ≠ [] ∧ channels.Nodup ∧ channels.length ≤ maxChannelsPerTrigger

def ValidCooldownMin (cooldownMin : Nat) : Prop :=
  minCooldownMin ≤ cooldownMin ∧ cooldownMin ≤ maxCooldownMin

instance {Condition : Type} :
    DecidablePred (ValidConditions : List Condition → Prop) :=
  fun conditions => decidable_of_iff (conditions.isEmpty = false ∧
    conditions.length ≤ maxConditionsPerTrigger)
    (and_congr_left fun _ => List.isEmpty_eq_false_iff)

instance : DecidablePred ValidChannels :=
  fun channels => inferInstanceAs (Decidable (channels ≠ [] ∧
    channels.Nodup ∧ channels.length ≤ maxChannelsPerTrigger))

instance : DecidablePred ValidCooldownMin :=
  fun cooldownMin => inferInstanceAs (Decidable
    (minCooldownMin ≤ cooldownMin ∧ cooldownMin ≤ maxCooldownMin))

/-- `IsOptional` skips the checks of what is missing or `null`. -/
def Property.Optionally {Value : Type} (check : Value → Prop) :
    Property Value → Prop
  | .given value => check value
  | _ => True

instance {Value : Type} (check : Value → Prop) [DecidablePred check] :
    DecidablePred (Property.Optionally check)
  | .given value => inferInstanceAs (Decidable (check value))
  | .absent | .null => isTrue trivial

structure CreateTriggerDto.Valid (dto : CreateTriggerDto) : Prop where
  name : ValidName dto.name
  city : ValidCity dto.city
  latitude : ValidLatitude dto.latitude
  longitude : ValidLongitude dto.longitude
  conditions : ValidConditions dto.conditions
  channels : ValidChannels dto.channels
  cooldownMin : dto.cooldownMin.Optionally ValidCooldownMin

instance (dto : CreateTriggerDto) : Decidable dto.Valid :=
  decidable_of_iff (ValidName dto.name ∧ ValidCity dto.city ∧
    ValidLatitude dto.latitude ∧ ValidLongitude dto.longitude ∧
    ValidConditions dto.conditions ∧ ValidChannels dto.channels ∧
    dto.cooldownMin.Optionally ValidCooldownMin)
    ⟨fun ⟨name, city, latitude, longitude, conditions, channels, cooldown⟩ =>
        ⟨name, city, latitude, longitude, conditions, channels, cooldown⟩,
      fun valid => ⟨valid.name, valid.city, valid.latitude, valid.longitude,
        valid.conditions, valid.channels, valid.cooldownMin⟩⟩

/-- The same rules, each for a property that may be left out. -/
structure UpdateTriggerDto.Valid (dto : UpdateTriggerDto) : Prop where
  name : dto.name.Optionally ValidName
  city : dto.city.Optionally ValidCity
  latitude : dto.latitude.Optionally ValidLatitude
  longitude : dto.longitude.Optionally ValidLongitude
  conditions : dto.conditions.Optionally ValidConditions
  channels : dto.channels.Optionally ValidChannels
  cooldownMin : dto.cooldownMin.Optionally ValidCooldownMin

instance (dto : UpdateTriggerDto) : Decidable dto.Valid :=
  decidable_of_iff (dto.name.Optionally ValidName ∧
    dto.city.Optionally ValidCity ∧ dto.latitude.Optionally ValidLatitude ∧
    dto.longitude.Optionally ValidLongitude ∧
    dto.conditions.Optionally ValidConditions ∧
    dto.channels.Optionally ValidChannels ∧
    dto.cooldownMin.Optionally ValidCooldownMin)
    ⟨fun ⟨name, city, latitude, longitude, conditions, channels, cooldown⟩ =>
        ⟨name, city, latitude, longitude, conditions, channels, cooldown⟩,
      fun valid => ⟨valid.name, valid.city, valid.latitude, valid.longitude,
        valid.conditions, valid.channels, valid.cooldownMin⟩⟩

/-- What the validation pipe lets through to the handlers. -/
def Request.Valid : Request → Prop
  | .create _ dto => dto.Valid
  | .update _ _ dto => dto.Valid
  | .delete _ _ | .clear _ => True

instance : DecidablePred Request.Valid
  | .create _ dto => inferInstanceAs (Decidable dto.Valid)
  | .update _ _ dto => inferInstanceAs (Decidable dto.Valid)
  | .delete _ _ | .clear _ => isTrue trivial

def Action.Valid : Action → Prop
  | .receive request => request.Valid
  | _ => True

instance : DecidablePred Action.Valid
  | .receive request => inferInstanceAs (Decidable request.Valid)
  | .verified _ | .insert _ | .execute | .fail => isTrue trivial

/-! ## Rows -/

/-- A stored trigger within the limits, its conditions numbered from zero. -/
structure TriggerRow.WellFormed (row : TriggerRow) : Prop where
  name : ValidName row.name
  city : ValidCity row.city
  latitude : ValidLatitude row.latitude
  longitude : ValidLongitude row.longitude
  conditions : ValidConditions row.conditions
  numbered : row.conditions.map ConditionRow.order =
    List.range row.conditions.length
  channels : ValidChannels row.channels
  cooldownMin : ValidCooldownMin row.cooldownMin
  bucket : 0 ≤ row.locationBucket ∧ row.locationBucket < locationBuckets

/-- A default that passes the check stands in for what is not given. -/
theorem Property.Optionally.getD {Value : Type} {check : Value → Prop}
    {property : Property Value} {default : Value}
    (optional : property.Optionally check) (fallback : check default) :
    check (property.getD default) := by
  cases property with
  | absent => exact fallback
  | null => exact fallback
  | given value => exact optional

theorem numbered_conditionRows (conditions : List ConditionDto) :
    (conditionRows conditions).map ConditionRow.order =
      List.range (conditionRows conditions).length := by
  apply List.ext_getElem
  · rw [List.length_map, List.length_range]
  · intro index _ _
    simp only [conditionRows, List.getElem_map, List.getElem_mapIdx,
      List.getElem_range]

theorem validConditions_conditionRows {conditions : List ConditionDto}
    (valid : ValidConditions conditions) :
    ValidConditions (conditionRows conditions) := by
  obtain ⟨some, few⟩ := valid
  refine ⟨?_, ?_⟩
  · rw [conditionRows, ne_eq, List.mapIdx_eq_nil_iff]
    exact some
  · rw [conditionRows, List.length_mapIdx]
    exact few

theorem createdRow_wellFormed {userId id : String} {dto : CreateTriggerDto}
    {row : TriggerRow} (valid : dto.Valid)
    (created : createdRow round userId id dto = some row) :
    row.WellFormed := by
  unfold createdRow at created
  split at created
  · cases created
  · cases created
    exact
      { name := valid.name
        city := valid.city
        latitude := valid.latitude
        longitude := valid.longitude
        conditions := validConditions_conditionRows valid.conditions
        numbered := numbered_conditionRows dto.conditions
        channels := valid.channels
        cooldownMin := valid.cooldownMin.getD (by decide)
        bucket := locationBucket_bounds round dto.latitude dto.longitude }

theorem bucketPatch_bounds (latitude longitude : Property Rat) {bucket : Int}
    (bounds : 0 ≤ bucket ∧ bucket < locationBuckets) :
    0 ≤ (bucketPatch round latitude longitude).getD bucket ∧
      (bucketPatch round latitude longitude).getD bucket <
        locationBuckets := by
  unfold bucketPatch
  split
  · exact locationBucket_bounds round _ _
  · exact bounds

/-- The properties are merged one by one, and so are their checks. -/
theorem updated_wellFormed {row : TriggerRow} {dto : UpdateTriggerDto}
    (valid : dto.Valid) (wellFormed : row.WellFormed) :
    (row.updated round dto).WellFormed := by
  have conditions : ValidConditions (row.updated round dto).conditions ∧
      (row.updated round dto).conditions.map ConditionRow.order =
        List.range (row.updated round dto).conditions.length := by
    have checked := valid.conditions
    unfold TriggerRow.updated
    cases given : dto.conditions with
    | absent => exact ⟨wellFormed.conditions, wellFormed.numbered⟩
    | null => exact ⟨wellFormed.conditions, wellFormed.numbered⟩
    | given conditions =>
        rw [given] at checked
        exact ⟨validConditions_conditionRows checked,
          numbered_conditionRows conditions⟩
  exact
    { name := valid.name.getD wellFormed.name
      city := valid.city.getD wellFormed.city
      latitude := valid.latitude.getD wellFormed.latitude
      longitude := valid.longitude.getD wellFormed.longitude
      conditions := conditions.1
      numbered := conditions.2
      channels := valid.channels.getD wellFormed.channels
      cooldownMin := valid.cooldownMin.getD wellFormed.cooldownMin
      bucket := bucketPatch_bounds dto.latitude dto.longitude
        wellFormed.bucket }

/-! ## Statements and requests -/

def AllWellFormed (table : List TriggerRow) : Prop :=
  ∀ row ∈ table, row.WellFormed

/-- The body a request is at work on has passed its checks. -/
def Phase.Valid : Phase → Prop
  | .verifying _ dto | .counting _ dto | .inserting _ dto => dto.Valid
  | .finding _ _ dto | .updating _ dto => dto.Valid
  | _ => True

theorem Request.valid_first {request : Request} (valid : request.Valid) :
    request.first.Valid := by
  cases request with
  | create userId dto => exact valid
  | update userId id dto => exact valid
  | delete userId id => trivial
  | clear userId => trivial

theorem Phase.Valid.next {table written : List TriggerRow}
    {phase next : Phase} {action : Action} (valid : phase.Valid)
    (passed : action.Valid)
    (moved : advance round table phase action = some (next, written)) :
    next.Valid := by
  have settles : ∀ {response : Response} {result : Option (List TriggerRow)},
      some (settled table response result) = some (next, written) →
        next.Valid := by
    intro response result ended
    rcases eq_of_settled (Option.some.inj ended) with ⟨_, rfl⟩ | ⟨_, rfl⟩
    · trivial
    · trivial
  unfold advance at moved
  split at moved
  case h_1 request =>
    cases moved
    exact Request.valid_first passed
  case h_2 =>
    split at moved
    · cases moved
      exact valid
    · cases moved
      trivial
  case h_3 =>
    split at moved
    · cases moved
      trivial
    · cases moved
      exact valid
  case h_5 =>
    split at moved
    · cases moved
      trivial
    · cases moved
      exact valid
  case h_7 => split at moved <;> cases moved <;> trivial
  case h_4 => exact settles moved
  case h_6 => exact settles moved
  case h_8 => exact settles moved
  case h_9 =>
    cases moved
    trivial
  case h_10 => cases moved
  case h_11 => cases moved
  case h_12 =>
    cases moved
    trivial
  case h_13 => cases moved

theorem advanced_wellFormed {table written : List TriggerRow}
    {phase next : Phase} {action : Action} (valid : phase.Valid)
    (advanced : Advanced round table phase action next written)
    (wellFormed : AllWellFormed table) : AllWellFormed written := by
  cases advanced with
  | read plain => exact wellFormed
  | counted below => exact wellFormed
  | created inserted =>
      unfold create at inserted
      split at inserted
      · cases inserted
      · rcases Option.map_eq_some_iff.mp inserted with ⟨row, created, rfl⟩
        exact List.forall_mem_append.mpr ⟨wellFormed,
          List.forall_mem_singleton.mpr
            (createdRow_wellFormed valid created)⟩
  | updated changed =>
      rcases update_eq_some_iff.mp changed with ⟨-, -, rfl⟩
      refine List.forall_mem_map.mpr fun row member => ?_
      split
      · exact updated_wellFormed valid (wellFormed row member)
      · exact wellFormed row member
  | deleted removed =>
      unfold delete at removed
      split at removed
      · cases removed
        exact fun row member => wellFormed row (List.mem_of_mem_filter member)
      · cases removed
  | cleared =>
      exact fun row member => wellFormed row (List.mem_of_mem_filter member)

structure State.WellFormed (state : State n) : Prop where
  table : AllWellFormed state.table
  requests : ∀ request, (state.requests request).Valid

theorem State.WellFormed.step {state target : State n} {label : Label n}
    (wellFormed : state.WellFormed) (passed : label.action.Valid)
    (stepped : Triggers.step round state label = some target) :
    target.WellFormed := by
  have valid := wellFormed.requests label.request
  rcases Option.map_eq_some_iff.mp stepped with ⟨⟨next, written⟩, moved, rfl⟩
  refine ⟨advanced_wellFormed valid (advanced_of_advance moved)
    wellFormed.table, ?_⟩
  exact (Function.forall_update_iff _ fun _ => Phase.Valid).mpr
    ⟨valid.next passed moved, fun other _ => wellFormed.requests other⟩

end WeatherNotify.Triggers

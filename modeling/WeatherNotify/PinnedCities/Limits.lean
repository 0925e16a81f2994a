import WeatherNotify.PinnedCities.Requests
import WeatherNotify.Triggers.Limits

/-!
# The limits under concurrency

A pinned city is admitted like a trigger, by a count that runs before its
insertion.  Both limits are kept by every run in which no count passes while
the rows of the user and the insertions on their way already fill the quota;
creations that all count before any of them inserts go past both limits.
-/

namespace WeatherNotify.PinnedCities

open WeatherNotify.Transition

variable {n : Nat}

/-! ## The pinned city limit -/

/-- The user whose insertion a phase has admitted. -/
def Phase.reserves : Phase → Option String
  | .inserting userId _ _ => some userId
  | _ => none

/-- The user's rows together with the user's admitted insertions. -/
def State.load (state : State n) (userId : String) : Nat :=
  Transition.load PinnedCityRow.userId Phase.reserves state.table
    state.requests userId

/-- The user whose rows the phase is about to count. -/
def Phase.counts : Phase → Option String
  | .counting userId _ => some userId
  | _ => none

/-- The count that admits an insertion leaves room for those on their way. -/
def CountsInFlight (taken : Taken (State n) (Label n)) : Prop :=
  ∀ userId ∈ (taken.source.requests taken.label.request).counts,
    taken.label.action = .execute →
      countForUser taken.source.table userId < maxPinnedCities →
        taken.source.load userId < maxPinnedCities

instance (taken : Taken (State n) (Label n)) :
    Decidable (CountsInFlight taken) :=
  inferInstanceAs (Decidable (∀ userId ∈ (_ : Option String), _))

def WithinLimit (state : State n) : Prop :=
  ∀ userId, state.load userId ≤ maxPinnedCities

theorem reserves_of_not_isInserting {phase : Phase}
    (plain : phase.isInserting = false) : phase.reserves = none := by
  cases phase with
  | inserting owner dto count => cases plain
  | _ => rfl

/-- A count that passes admits an insertion; no other statement does. -/
theorem covered_of_advanced {table written : List PinnedCityRow}
    {phase next : Phase} {action : Action}
    (advanced : Advanced table phase action next written) (userId : String) :
    (∃ dto, phase = .counting userId dto ∧ action = .execute ∧
        written = table ∧ countForUser table userId < maxPinnedCities) ∨
      Covered PinnedCityRow.userId Phase.reserves table written phase next
        userId := by
  cases advanced with
  | read plain =>
      exact Or.inr (covered_of_none (reserves_of_not_isInserting plain) le_rfl)
  | @counted owner dto below =>
      by_cases same : owner = userId
      · subst same
        exact Or.inl ⟨dto, rfl, rfl, rfl, below⟩
      · exact Or.inr (covered_of_other rfl same)
  | created unique =>
      right
      apply covered_of_inserted
      · rfl
      · rfl
  | removed => exact Or.inr (covered_of_none rfl (owned_filter_le _ _ _))

theorem withinLimit_step (taken : Taken (State n) (Label n))
    (stepped : (machine n).step taken.source taken.label =
      some taken.target)
    (counts : CountsInFlight taken) (within : WithinLimit taken.source) :
    WithinLimit taken.target := by
  rcases advanced_of_step stepped with ⟨next, requests, advanced⟩
  intro userId
  have before := within userId
  unfold State.load at before ⊢
  rw [requests]
  refine load_update_le_quota before ?_
  rcases covered_of_advanced advanced userId with
    ⟨dto, counting, execute, written, below⟩ | covered
  · have counted : userId ∈
        (taken.source.requests taken.label.request).counts := by
      rw [counting]
      exact rfl
    exact Or.inl ⟨written, counts userId counted execute below⟩
  · exact Or.inr covered

theorem withinLimit_start (n : Nat) : WithinLimit (State.start n []) := by
  intro userId
  have empty : (State.start n []).load userId = 0 :=
    load_nil (fun _ => rfl) userId
  rw [empty]
  exact Nat.zero_le _

/-! ## Both limits -/

/-- Trigger requests and pinned city requests side by side. -/
def limitsMachine (m n : Nat) (round : Rat → Rat) :=
  parallel (Triggers.machine m round) (machine n)

/-- Nobody owns anything and no request has arrived. -/
def nothingOwned (m n : Nat) : Triggers.State m × State n :=
  (Triggers.State.start m [], State.start n [])

def rainTrigger : Triggers.CreateTriggerDto where
  name := "rain"
  city := "Bern"
  latitude := 47
  longitude := 7
  conditions := [{ metric := .precipitation, operator := .gt, threshold := 0 }]
  channels := [.email]

def pin (order : Nat) : CreatePinnedCityDto where
  name := "Bern"
  country := none
  admin1 := none
  latitude := 47
  longitude := order

/-- The statements of one creation up to its count, then its insertion. -/
def triggerCounted {m : Nat} (request : Fin m) : List (Triggers.Label m) :=
  [⟨request, .receive (.create "ann" rainTrigger)⟩,
    ⟨request, .verified true⟩, ⟨request, .execute⟩]

def cityCounted (request : Fin n) : List (Label n) :=
  [⟨request, .receive (.create "ann" (pin request))⟩, ⟨request, .execute⟩]

def triggerInserted {m : Nat} (request : Fin m) : Triggers.Label m :=
  ⟨request, .insert (toString request.val)⟩

def cityInserted (request : Fin n) : Label n :=
  ⟨request, .insert (toString request.val)⟩

/-- Every creation counts before the first of them inserts. -/
def burst (m n : Nat) : List (Triggers.Label m ⊕ Label n) :=
  ((List.finRange m).flatMap triggerCounted).map .inl ++
    ((List.finRange n).flatMap cityCounted).map .inr ++
    ((List.finRange m).map triggerInserted).map .inl ++
    ((List.finRange n).map cityInserted).map .inr

/--
As long as every count that passes leaves room for the insertions on their way,
no user ever owns more rows than the limits allow.
-/
theorem limits_hold_of_counts_in_flight {m n : Nat} (round : Rat → Rat)
    {labels : List (Triggers.Label m ⊕ Label n)}
    {final : Triggers.State m × State n}
    (reached : (limitsMachine m n round).run (nothingOwned m n) labels =
      some final)
    (counts : ∀ taken ∈
      (limitsMachine m n round).transitions (nothingOwned m n) labels,
      eitherGuard Triggers.CountsInFlight CountsInFlight taken)
    (userId : String) :
    Triggers.countForUser final.1.table userId ≤
        Triggers.maxTriggersPerUser ∧
      countForUser final.2.table userId ≤ maxPinnedCities := by
  have within : Both Triggers.WithinLimit WithinLimit final :=
    parallel_invariant Triggers.withinLimit_step withinLimit_step
      ⟨Triggers.withinLimit_start m, withinLimit_start n⟩ counts reached
  constructor
  · exact (owned_le_load _ _ _).trans (within.1 userId)
  · exact (owned_le_load _ _ _).trans (within.2 userId)

theorem limits_hold_of_counts_in_flight_pair :
    ∃ final, (limitsMachine 2 2 Js.Number.nearest).run
        (nothingOwned 2 2) (burst 2 2) = some final ∧
      Triggers.countForUser final.1.table "ann" ≤
          Triggers.maxTriggersPerUser ∧
        countForUser final.2.table "ann" ≤ maxPinnedCities := by
  have finished : ((limitsMachine 2 2 Js.Number.nearest).run
      (nothingOwned 2 2) (burst 2 2)).isSome = true := by
    decide +kernel
  have counts : ∀ taken ∈
      (limitsMachine 2 2 Js.Number.nearest).transitions (nothingOwned 2 2)
        (burst 2 2),
      eitherGuard Triggers.CountsInFlight CountsInFlight taken := by
    decide +kernel
  rcases Option.isSome_iff_exists.mp finished with ⟨final, reached⟩
  exact ⟨final, reached,
    limits_hold_of_counts_in_flight Js.Number.nearest reached counts "ann"⟩

/-- Eleven and thirteen creations at once leave eleven and thirteen rows. -/
theorem burst_passes_both_limits :
    ∃ final, (limitsMachine 11 13 Js.Number.nearest).run
        (nothingOwned 11 13) (burst 11 13) = some final ∧
      Triggers.maxTriggersPerUser <
        Triggers.countForUser final.1.table "ann" ∧
      maxPinnedCities < countForUser final.2.table "ann" := by
  have counted : ((limitsMachine 11 13 Js.Number.nearest).run
      (nothingOwned 11 13) (burst 11 13)).map (fun final =>
        (Triggers.countForUser final.1.table "ann",
          countForUser final.2.table "ann")) = some (11, 13) := by
    decide +kernel
  rcases Option.map_eq_some_iff.mp counted with ⟨final, reached, equal⟩
  have triggers : Triggers.countForUser final.1.table "ann" = 11 :=
    congrArg Prod.fst equal
  have cities : countForUser final.2.table "ann" = 13 :=
    congrArg Prod.snd equal
  refine ⟨final, reached, ?_, ?_⟩
  · rw [triggers]
    decide
  · rw [cities]
    decide

end WeatherNotify.PinnedCities

import WeatherNotify.Triggers.Requests

/-!
# The stored bucket and the stored coordinates

A creation stamps the bucket of its coordinates and an update that carries both
coordinates moves the bucket with them.  An update that carries one coordinate
writes that coordinate and leaves the bucket, so the row keeps matching only
when the half move happens to stay in the bucket.  Along a run the rows match
in every state exactly when every half move does.
-/

namespace WeatherNotify.Triggers

open WeatherNotify.Domain
open WeatherNotify.Transition

variable {n : Nat} {round : Rat → Rat}

/-! ## One row -/

/-- The patch carries a value for exactly one of the coordinates. -/
def UpdateTriggerDto.carriesOneCoordinate (dto : UpdateTriggerDto) : Bool :=
  match dto.latitude, dto.longitude with
  | .given _, .given _ => false
  | .given _, _ => true
  | _, .given _ => true
  | _, _ => false

/-- The coordinates after the patch lie in the bucket of those before it. -/
def TriggerRow.StaysInBucket (round : Rat → Rat) (row : TriggerRow)
    (dto : UpdateTriggerDto) : Prop :=
  Domain.locationBucket round (dto.latitude.getD row.latitude)
      (dto.longitude.getD row.longitude) =
    Domain.locationBucket round row.latitude row.longitude

theorem createdRow_matches {userId id : String} {dto : CreateTriggerDto}
    {row : TriggerRow} (created : createdRow round userId id dto = some row) :
    row.Matches round := by
  unfold createdRow at created
  split at created
  · cases created
  · cases created
    rfl

/-- A matching row keeps matching unless half of it moves out of its bucket. -/
theorem updated_matches_iff {row : TriggerRow} (matching : row.Matches round)
    (dto : UpdateTriggerDto) :
    (row.updated round dto).Matches round ↔
      (dto.carriesOneCoordinate = true → row.StaysInBucket round dto) := by
  unfold TriggerRow.Matches at matching
  unfold TriggerRow.Matches TriggerRow.updated TriggerRow.StaysInBucket
    UpdateTriggerDto.carriesOneCoordinate
  cases dto.latitude <;> cases dto.longitude <;>
    simp [bucketPatch, matching, eq_comm]

/-! ## One statement -/

def AllMatch (round : Rat → Rat) (table : List TriggerRow) : Prop :=
  ∀ row ∈ table, row.Matches round

theorem create_allMatch {table written : List TriggerRow}
    {userId id : String} {dto : CreateTriggerDto}
    (inserted : create round table userId id dto = some written)
    (matching : AllMatch round table) : AllMatch round written := by
  unfold create at inserted
  split at inserted
  · cases inserted
  · rcases Option.map_eq_some_iff.mp inserted with ⟨row, created, rfl⟩
    intro other member
    rcases List.mem_append.mp member with old | new
    · exact matching other old
    · rw [List.mem_singleton.mp new]
      exact createdRow_matches created

theorem update_eq_some_iff {table written : List TriggerRow} {id : String}
    {dto : UpdateTriggerDto} :
    update round table id dto = some written ↔
      dto.isRejected = false ∧ (∃ row ∈ table, row.id = id) ∧
        written = table.map fun row =>
          if row.id = id then row.updated round dto else row := by
  unfold update
  by_cases rejected : dto.isRejected = true
  · simp [rejected]
  · by_cases found : ∃ row ∈ table, row.id = id
    · simp only [List.any_eq_true, decide_eq_true_eq, rejected, found,
        Bool.false_eq_true, ↓reduceIte, Option.some.injEq, true_and,
        eq_comm (a := written)]
    · simp only [List.any_eq_true, decide_eq_true_eq, rejected, found,
        Bool.false_eq_true, ↓reduceIte, reduceCtorEq, false_and, and_false]

theorem update_allMatch_iff {table written : List TriggerRow} {id : String}
    {dto : UpdateTriggerDto}
    (changed : update round table id dto = some written)
    (matching : AllMatch round table) :
    AllMatch round written ↔
      (dto.carriesOneCoordinate = true →
        ∀ row ∈ table, row.id = id → row.StaysInBucket round dto) := by
  rcases update_eq_some_iff.mp changed with ⟨-, -, rfl⟩
  constructor
  · intro stored carriesOne row member isTarget
    have atRow := stored _ (List.mem_map_of_mem member)
    rw [if_pos isTarget] at atRow
    exact (updated_matches_iff (matching row member) dto).mp atRow carriesOne
  · intro stays other member
    rcases List.mem_map.mp member with ⟨row, inTable, rfl⟩
    split
    · rename_i isTarget
      exact (updated_matches_iff (matching row inTable) dto).mpr
        fun carriesOne => stays carriesOne row inTable isTarget
    · exact matching row inTable

theorem AllMatch.filter {table : List TriggerRow}
    (matching : AllMatch round table) (keep : TriggerRow → Bool) :
    AllMatch round (table.filter keep) :=
  fun row member => matching row (List.mem_of_mem_filter member)

/-! ## One step of the machine -/

/--
The step runs no update statement that writes one coordinate of a row and
thereby moves the row out of its bucket.
-/
def KeepsBuckets (round : Rat → Rat) (taken : Taken (State n) (Label n)) :
    Prop :=
  ∀ id dto, taken.source.requests taken.label.request = .updating id dto →
    taken.label.action = .execute → dto.isRejected = false →
      dto.carriesOneCoordinate = true →
        ∀ row ∈ taken.source.table, row.id = id →
          row.StaysInBucket round dto

/-- A failed update found no row or was rejected, so it moved none. -/
theorem update_eq_none {table : List TriggerRow} {id : String}
    {dto : UpdateTriggerDto} (failed : update round table id dto = none)
    (accepted : dto.isRejected = false) {row : TriggerRow}
    (member : row ∈ table) : row.id ≠ id := by
  intro isTarget
  have changed : update round table id dto = some _ :=
    update_eq_some_iff.mpr ⟨accepted, ⟨row, member, isTarget⟩, rfl⟩
  rw [failed] at changed
  cases changed

/-- Every statement but an update preserves the match. -/
theorem advanced_allMatch {table written : List TriggerRow}
    {phase next : Phase} {action : Action}
    (advanced : Advanced round table phase action next written)
    (other : ∀ id dto, ¬ (phase = .updating id dto ∧ action = .execute))
    (matching : AllMatch round table) : AllMatch round written := by
  cases advanced with
  | read plain => exact matching
  | counted below => exact matching
  | created inserted => exact create_allMatch inserted matching
  | updated changed => exact absurd ⟨rfl, rfl⟩ (other _ _)
  | deleted removed =>
      unfold delete at removed
      split at removed
      · cases removed
        exact matching.filter _
      · cases removed
  | cleared => exact matching.filter _

theorem step_allMatch_iff (taken : Taken (State n) (Label n))
    (stepped : (machine n round).step taken.source taken.label =
      some taken.target)
    (matching : AllMatch round taken.source.table) :
    AllMatch round taken.target.table ↔ KeepsBuckets round taken := by
  by_cases updates : ∃ id dto,
      taken.source.requests taken.label.request = .updating id dto ∧
        taken.label.action = .execute
  · rcases updates with ⟨id, dto, phase, action⟩
    rcases Option.map_eq_some_iff.mp stepped with ⟨next, moved, target⟩
    rw [phase, action] at moved
    have written : taken.target.table =
        (settled taken.source.table .saved
          (update round taken.source.table id dto)).2 := by
      rw [← target, ← Option.some.inj moved]
    cases result : update round taken.source.table id dto with
    | none =>
        rw [result] at written
        rw [written]
        refine ⟨fun _ => ?_, fun _ => matching⟩
        intro otherId otherDto otherPhase _ accepted _ row member isTarget
        cases phase.symm.trans otherPhase
        exact absurd isTarget (update_eq_none result accepted member)
    | some table =>
        rw [result] at written
        rw [written]
        refine (update_allMatch_iff result matching).trans ⟨?_, ?_⟩
        · intro stays otherId otherDto otherPhase _ _
          cases phase.symm.trans otherPhase
          exact stays
        · intro keeps
          exact keeps id dto phase action (update_eq_some_iff.mp result).1
  · rcases advanced_of_step stepped with ⟨next, -, advanced⟩
    push Not at updates
    refine ⟨fun _ => ?_, fun _ => ?_⟩
    · intro id dto phase action
      exact absurd action (updates id dto phase)
    · refine advanced_allMatch advanced ?_ matching
      rintro id dto ⟨phase, action⟩
      exact updates id dto phase action

/-! ## Every run -/

/--
From a table of matching rows, every row matches in every state of a run
exactly when no update of the run moves half of a row out of its bucket.
-/
theorem buckets_match_iff (start : State n)
    (matching : AllMatch round start.table) (labels : List (Label n)) :
    (∀ taken ∈ (machine n round).transitions start labels,
        AllMatch round taken.target.table) ↔
      ∀ taken ∈ (machine n round).transitions start labels,
        KeepsBuckets round taken :=
  Machine.transitions_forall_iff
    (fun state : State n => AllMatch round state.table) step_allMatch_iff matching
    labels

/-! ## A half move -/

/-- A trigger of a user in Berlin. -/
def berlinTrigger : CreateTriggerDto where
  name := "Heat"
  city := "Berlin"
  latitude := 105 / 2
  longitude := 27 / 2
  conditions := [⟨.temperature, .gt, 30⟩]
  channels := [.email]

/-- The trigger is created, then a request moves its latitude only. -/
def halfMove (creation move : Fin n) : List (Label n) :=
  [⟨creation, .receive (.create "ann" berlinTrigger)⟩, ⟨creation, .verified true⟩,
    ⟨creation, .execute⟩, ⟨creation, .insert "t1"⟩,
    ⟨move, .receive (.update "ann" "t1" { latitude := .given (193 / 4) })⟩,
    ⟨move, .execute⟩, ⟨move, .execute⟩]

/-- The half move leaves a row whose bucket belongs to its old coordinates. -/
theorem halfMove_leaves_stale_bucket :
    ∃ final row,
      (machine 2 Js.Number.nearest).run (State.start 2 [])
          (halfMove 0 1) =
          some final ∧
        row ∈ final.table ∧ ¬ row.Matches Js.Number.nearest := by
  have stale : ((machine 2 Js.Number.nearest).run (State.start 2 [])
      (halfMove 0 1)).map (fun final =>
        final.table.any fun row => ¬ row.Matches Js.Number.nearest) =
      some true := by
    decide +kernel
  rcases Option.map_eq_some_iff.mp stale with ⟨final, reached, found⟩
  rcases List.any_eq_true.mp found with ⟨row, member, drifted⟩
  exact ⟨final, row, reached, member, of_decide_eq_true drifted⟩

theorem buckets_match_iff_halfMove :
    (∀ taken ∈ (machine 2 Js.Number.nearest).transitions (State.start 2 [])
        (halfMove 0 1), AllMatch Js.Number.nearest taken.target.table) ↔
      ∀ taken ∈ (machine 2 Js.Number.nearest).transitions (State.start 2 [])
        (halfMove 0 1), KeepsBuckets Js.Number.nearest taken :=
  buckets_match_iff (State.start 2 []) (fun _ member => by cases member)
    (halfMove 0 1)

end WeatherNotify.Triggers

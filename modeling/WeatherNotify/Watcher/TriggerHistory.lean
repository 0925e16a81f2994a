import WeatherNotify.Domain.TriggerStateMachine
import WeatherNotify.Transition.Machine

/-!
# One trigger over its whole life

Evaluations of one trigger, one after another, and the edits its owner makes
at any moment, also between the read and the write of an evaluation.  An
evaluation decides on the row as `findActive` returned it and writes only the
fields of its patch, so an edit made meanwhile survives.

The history is a ghost.  It lists the evaluations, the latest first, with the
cooldown each of them read and the row each of them left.
-/

namespace WeatherNotify.Watcher

open WeatherNotify.Domain
open WeatherNotify.Transition

variable {Details : Type}

/-! ## Rows and patches -/

/--
A `Trigger` row.  `details` are the fields the owner may edit and the decision
does not read.
-/
structure TriggerRow (Details : Type) where
  state : TriggerState
  lastFiredAt : Option Int
  lastEvaluatedAt : Option Int
  cooldownMin : Int
  details : Details
  deriving DecidableEq, Repr

/-- A trigger as it is created; the column default is an hour. -/
def TriggerRow.created (cooldownMin : Option Int) (details : Details) :
    TriggerRow Details where
  state := .armed
  lastFiredAt := none
  lastEvaluatedAt := none
  cooldownMin := cooldownMin.getD 60
  details := details

def TriggerRow.input (row : TriggerRow Details) : TriggerStateInput where
  state := row.state
  lastFiredAt := row.lastFiredAt
  cooldownMin := row.cooldownMin

/-- Trigger-level fields a cycle may write. -/
structure TriggerStatePatch where
  lastEvaluatedAt : Int
  state : Option TriggerState
  lastFiredAt : Option Int
  deriving DecidableEq, Repr

def TriggerRow.patched (row : TriggerRow Details)
    (patch : TriggerStatePatch) : TriggerRow Details where
  state := patch.state.getD row.state
  lastFiredAt := patch.lastFiredAt.or row.lastFiredAt
  lastEvaluatedAt := some patch.lastEvaluatedAt
  cooldownMin := row.cooldownMin
  details := row.details

/-- The patch `processTrigger` writes, or `fire` when the decision is to. -/
def statePatch (decision : TriggerDecision) (evaluatedAt stampedAt : Int) :
    TriggerStatePatch :=
  match decision with
  | .fire => ⟨evaluatedAt, some .fired, some stampedAt⟩
  | .rearm => ⟨evaluatedAt, some .armed, none⟩
  | .suppress _ | .noop => ⟨evaluatedAt, none, none⟩

/-- An `UpdateTrigger` patch. -/
structure TriggerEdit (Details : Type) where
  cooldownMin : Option Int
  details : Details → Details

def TriggerRow.edited (row : TriggerRow Details)
    (edit : TriggerEdit Details) : TriggerRow Details :=
  { row with
    cooldownMin := edit.cooldownMin.getD row.cooldownMin
    details := edit.details row.details }

namespace History

/-! ## Runs -/

/--
What an evaluation is given.  `stampedAt` is the second reading of the clock,
made only when the trigger fires.
-/
structure Evaluation where
  matched : Bool
  quietHours : Option QuietHours
  evaluatedAt : Int
  stampedAt : Int
  deriving DecidableEq, Repr

/-- One evaluation on record. -/
structure Outcome (Details : Type) where
  evaluation : Evaluation
  cooldownMin : Int
  decision : TriggerDecision
  row : TriggerRow Details

structure State (Details : Type) where
  row : TriggerRow Details
  clock : Int
  history : List (Outcome Details)

def State.created (cooldownMin : Option Int) (details : Details)
    (clock : Int) : State Details where
  row := .created cooldownMin details
  clock := clock
  history := []

inductive Operation (Details : Type) where
  | evaluate (evaluation : Evaluation)
      (meanwhile : List (TriggerEdit Details))
  | update (edit : TriggerEdit Details)

section Step

variable (zones : Zones)

/-- The outcome of an evaluation that read `row`. -/
def processTrigger (row : TriggerRow Details) (evaluation : Evaluation)
    (meanwhile : List (TriggerEdit Details)) : Outcome Details :=
  let decision := decide zones row.input evaluation.matched
    evaluation.evaluatedAt evaluation.quietHours
  { evaluation := evaluation
    cooldownMin := row.cooldownMin
    decision := decision
    row := (meanwhile.foldl TriggerRow.edited row).patched
      (statePatch decision evaluation.evaluatedAt evaluation.stampedAt) }

/-- The last reading of the clock an evaluation makes. -/
def Outcome.finishedAt (outcome : Outcome Details) : Int :=
  if outcome.decision = .fire then outcome.evaluation.stampedAt
  else outcome.evaluation.evaluatedAt

/-- A step is refused when the clock would run backwards. -/
def step (state : State Details) :
    Operation Details → Option (State Details)
  | .evaluate evaluation meanwhile =>
      let outcome := processTrigger zones state.row evaluation meanwhile
      if state.clock ≤ evaluation.evaluatedAt ∧
          evaluation.evaluatedAt ≤ outcome.finishedAt then
        some {
          row := outcome.row
          clock := outcome.finishedAt
          history := outcome :: state.history }
      else none
  | .update edit => some { state with row := state.row.edited edit }

def machine : Machine (State Details) (Operation Details) where
  step := step zones

end Step

/-! ## Reading a history -/

namespace Outcome

def fires (outcome : Outcome Details) : Bool :=
  outcome.decision == .fire

def quiet (zones : Zones) (outcome : Outcome Details) : Bool :=
  outcome.evaluation.quietHours.any fun window =>
    isInQuietHours zones window outcome.evaluation.evaluatedAt

/-- The cooldown this evaluation read has passed since an earlier firing. -/
def elapsedSince (outcome earlier : Outcome Details) : Prop :=
  ∃ recorded, earlier.row.lastFiredAt = some recorded ∧
    recorded + outcome.cooldownMin * 60000 ≤ outcome.evaluation.evaluatedAt

end Outcome

/-- Some firing has been followed by matching evaluations only. -/
def StandingFiring (history : List (Outcome Details)) : Prop :=
  ∃ since firing earlier, history = since ++ firing :: earlier ∧
    firing.fires = true ∧
    ∀ later ∈ since, later.evaluation.matched = true

/-- Why an evaluation fired or not, and the state it left. -/
structure Accounted (zones : Zones) (outcome : Outcome Details)
    (earlier : List (Outcome Details)) : Prop where
  fires_iff : outcome.fires = true ↔
    outcome.evaluation.matched = true ∧ outcome.quiet zones = false ∧
      ∀ last, earlier.find? Outcome.fires = some last →
        outcome.elapsedSince last
  state_iff : outcome.row.state = .fired ↔
    StandingFiring (outcome :: earlier)

/-- The row and the clock explained by the history, and the history sound. -/
structure Explained (zones : Zones) (state : State Details) : Prop where
  latest : state.row.lastFiredAt =
    (state.history.find? Outcome.fires).bind fun firing =>
      firing.row.lastFiredAt
  past : ∀ last, state.row.lastFiredAt = some last → last ≤ state.clock
  recorded : ∀ outcome ∈ state.history, outcome.fires = true →
    ∃ stamp last, outcome.row.lastFiredAt = some stamp ∧
      state.row.lastFiredAt = some last ∧ stamp ≤ last
  standing : state.row.state = .fired ↔ StandingFiring state.history
  spaced : state.history.Pairwise fun later earlier =>
    later.fires = true → earlier.fires = true → later.elapsedSince earlier
  accounted : ∀ outcome earlier, outcome :: earlier <:+ state.history →
    Accounted zones outcome earlier

theorem explained_created (zones : Zones) (cooldownMin : Option Int)
    (details : Details) (clock : Int) :
    Explained zones (State.created cooldownMin details clock) where
  latest := rfl
  past _ found := by cases found
  recorded _ member := by cases member
  standing := by
    simp [State.created, TriggerRow.created, StandingFiring]
  spaced := List.Pairwise.nil
  accounted _ _ suffix := by
    cases List.eq_nil_of_suffix_nil suffix

/-! ## One evaluation -/

@[simp]
theorem edited_state (row : TriggerRow Details)
    (edit : TriggerEdit Details) : (row.edited edit).state = row.state :=
  rfl

@[simp]
theorem edited_lastFiredAt (row : TriggerRow Details)
    (edit : TriggerEdit Details) :
    (row.edited edit).lastFiredAt = row.lastFiredAt :=
  rfl

/-- Edits move neither the state nor the last firing. -/
theorem foldl_edited (edits : List (TriggerEdit Details))
    (row : TriggerRow Details) :
    (edits.foldl TriggerRow.edited row).state = row.state ∧
      (edits.foldl TriggerRow.edited row).lastFiredAt =
        row.lastFiredAt := by
  induction edits generalizing row with
  | nil => exact ⟨rfl, rfl⟩
  | cons edit rest induction =>
      exact induction (row.edited edit)

section ProcessTrigger

variable {zones : Zones} {row : TriggerRow Details} {evaluation : Evaluation}
variable {meanwhile : List (TriggerEdit Details)}

theorem processTrigger_fires_iff :
    (processTrigger zones row evaluation meanwhile).fires = true ↔
      evaluation.matched = true ∧
        (processTrigger zones row evaluation meanwhile).quiet zones =
          false ∧
        ∀ last, row.lastFiredAt = some last →
          last + row.cooldownMin * 60000 ≤ evaluation.evaluatedAt := by
  have elapsed : isCooldownElapsed row.input evaluation.evaluatedAt = true ↔
      ∀ last, row.lastFiredAt = some last →
        last + row.cooldownMin * 60000 ≤ evaluation.evaluatedAt := by
    unfold isCooldownElapsed TriggerRow.input
    cases row.lastFiredAt with
    | none => simp
    | some last =>
        simp only [decide_eq_true_eq, Option.some.injEq, forall_eq']
        omega
  simp only [Outcome.fires, processTrigger, beq_iff_eq,
    decide_eq_fire_iff, elapsed, Outcome.quiet]
  tauto

theorem processTrigger_row :
    (processTrigger zones row evaluation meanwhile).row =
      (meanwhile.foldl TriggerRow.edited row).patched
        (statePatch
          (processTrigger zones row evaluation meanwhile).decision
          evaluation.evaluatedAt evaluation.stampedAt) :=
  rfl

/-- A firing stamps the row; nothing else moves the stamp. -/
theorem processTrigger_lastFiredAt :
    (processTrigger zones row evaluation meanwhile).row.lastFiredAt =
      if (processTrigger zones row evaluation meanwhile).fires then
        some evaluation.stampedAt
      else row.lastFiredAt := by
  have kept := (foldl_edited meanwhile row).2
  rw [processTrigger_row]
  split
  next fires =>
    have decided := beq_iff_eq.mp fires
    simp [TriggerRow.patched, decided, statePatch]
  next silent =>
    cases found :
        (processTrigger zones row evaluation meanwhile).decision with
    | fire => exact (silent (beq_iff_eq.mpr found)).elim
    | suppress reason | rearm | noop =>
        simp [TriggerRow.patched, statePatch, kept]

/-- `FIRED` is set by a firing and survives exactly the matching rest. -/
theorem processTrigger_state :
    (processTrigger zones row evaluation meanwhile).row.state = .fired ↔
      (processTrigger zones row evaluation meanwhile).fires = true ∨
        evaluation.matched = true ∧ row.state = .fired := by
  have rearmed :
      (processTrigger zones row evaluation meanwhile).decision = .rearm ↔
        evaluation.matched = false ∧ row.state = .fired :=
    decide_eq_rearm_iff
  have matchedOfFire :
      (processTrigger zones row evaluation meanwhile).decision = .fire →
        evaluation.matched = true :=
    fun fire => (decide_eq_fire_iff.mp fire).1
  rw [processTrigger_row]
  simp only [Outcome.fires, TriggerRow.patched,
    (foldl_edited meanwhile row).1]
  cases found : (processTrigger zones row evaluation meanwhile).decision
      with
  | fire => simp [statePatch]
  | rearm =>
      have unmatched := (rearmed.mp found).1
      simp [statePatch, unmatched]
  | suppress reason | noop =>
      have kept : ¬ (evaluation.matched = false ∧ row.state = .fired) := by
        rw [← rearmed, found]
        simp
      simp only [statePatch, Option.getD_none]
      cases matched : evaluation.matched <;> simp_all

end ProcessTrigger

theorem standingFiring_cons {outcome : Outcome Details}
    {earlier : List (Outcome Details)} :
    StandingFiring (outcome :: earlier) ↔
      outcome.fires = true ∨
        outcome.evaluation.matched = true ∧ StandingFiring earlier := by
  constructor
  · rintro ⟨since, firing, rest, split, fires, matched⟩
    cases since with
    | nil =>
        cases split
        exact Or.inl fires
    | cons latest since =>
        cases split
        exact Or.inr ⟨matched _ List.mem_cons_self, since, firing, rest,
          rfl, fires, fun later member =>
            matched later (List.mem_cons_of_mem _ member)⟩
  · rintro (fires | ⟨matched, since, firing, rest, split, fires, others⟩)
    · exact ⟨[], outcome, earlier, rfl, fires, by simp⟩
    · refine ⟨outcome :: since, firing, rest, by rw [split]; rfl, fires, ?_⟩
      intro later member
      rcases List.mem_cons.mp member with rfl | member
      · exact matched
      · exact others later member

/-! ## The run -/

namespace Explained

variable {zones : Zones} {state : State Details}

/-- The latest firing on record is the one the row remembers. -/
theorem elapsed_iff (explained : Explained zones state)
    {outcome : Outcome Details} :
    (∀ last, state.history.find? Outcome.fires = some last →
        outcome.elapsedSince last) ↔
      ∀ last, state.row.lastFiredAt = some last →
        last + outcome.cooldownMin * 60000 ≤
          outcome.evaluation.evaluatedAt := by
  have latest := explained.latest
  cases found : state.history.find? Outcome.fires with
  | none =>
      rw [found] at latest
      simp only [Option.bind_none] at latest
      simp [latest]
  | some firing =>
      have member := List.mem_of_find?_eq_some found
      have fires : firing.fires = true := List.find?_some found
      obtain ⟨stamp, _, stamped, _, _⟩ :=
        explained.recorded firing member fires
      rw [found, Option.bind_some, stamped] at latest
      simp only [Option.some.injEq, forall_eq', latest]
      constructor
      · rintro ⟨recorded, same, passed⟩
        rw [stamped] at same
        cases same
        exact passed
      · intro passed
        exact ⟨stamp, stamped, passed⟩

theorem evaluated (explained : Explained zones state)
    {evaluation : Evaluation} {meanwhile : List (TriggerEdit Details)}
    {outcome : Outcome Details}
    (processed : processTrigger zones state.row evaluation meanwhile =
      outcome)
    (notBefore : state.clock ≤ evaluation.evaluatedAt)
    (notAfter : evaluation.evaluatedAt ≤ outcome.finishedAt) :
    Explained zones {
      row := outcome.row
      clock := outcome.finishedAt
      history := outcome :: state.history } := by
  have given : outcome.evaluation = evaluation := by
    rw [← processed]
    rfl
  have read : outcome.cooldownMin = state.row.cooldownMin := by
    rw [← processed]
    rfl
  have stamp : outcome.row.lastFiredAt =
      if outcome.fires then some evaluation.stampedAt
      else state.row.lastFiredAt := by
    rw [← processed]
    exact processTrigger_lastFiredAt
  have moved : outcome.row.state = .fired ↔
      StandingFiring (outcome :: state.history) := by
    rw [standingFiring_cons, ← explained.standing, given, ← processed]
    exact processTrigger_state
  have reason : outcome.fires = true ↔
      outcome.evaluation.matched = true ∧ outcome.quiet zones = false ∧
        ∀ last, state.row.lastFiredAt = some last →
          last + outcome.cooldownMin * 60000 ≤
            outcome.evaluation.evaluatedAt := by
    rw [given, read, ← processed]
    exact processTrigger_fires_iff
  have finished : outcome.finishedAt =
      if outcome.fires then evaluation.stampedAt
      else evaluation.evaluatedAt := by
    rw [← given]
    simp [Outcome.finishedAt, Outcome.fires]
  refine ⟨?_, ?_, ?_, moved, ?_, ?_⟩
  · by_cases fires : outcome.fires = true
    · simp [stamp, fires]
    · simp [stamp, fires, explained.latest]
  · intro last found
    by_cases fires : outcome.fires = true
    · simp only [stamp, fires, if_true, Option.some.injEq] at found
      simp [finished, fires, found]
    · simp only [stamp, fires] at found
      exact (explained.past last found).trans
        (notBefore.trans notAfter)
  · intro other member fires
    by_cases latest : outcome.fires = true
    · have current : outcome.row.lastFiredAt =
          some evaluation.stampedAt := by
        simp [stamp, latest]
      rcases List.mem_cons.mp member with rfl | member
      · exact ⟨_, _, current, current, le_rfl⟩
      · obtain ⟨recorded, last, recordedAt, lastAt, ordered⟩ :=
          explained.recorded other member fires
        refine ⟨recorded, evaluation.stampedAt, recordedAt, current, ?_⟩
        have bound := explained.past last lastAt
        simp only [finished, latest, if_true] at notAfter
        omega
    · have unchanged : outcome.row.lastFiredAt =
          state.row.lastFiredAt := by
        simp [stamp, latest]
      rcases List.mem_cons.mp member with rfl | member
      · exact (latest fires).elim
      · simp only [unchanged]
        exact explained.recorded other member fires
  · refine List.pairwise_cons.mpr ⟨?_, explained.spaced⟩
    intro earlier member fires earlierFires
    obtain ⟨recorded, last, recordedAt, lastAt, ordered⟩ :=
      explained.recorded earlier member earlierFires
    have passed := (reason.mp fires).2.2 last lastAt
    exact ⟨recorded, recordedAt, by omega⟩
  · intro other earlier suffix
    rcases List.suffix_cons_iff.mp suffix with same | suffix
    · cases same
      exact ⟨by rw [explained.elapsed_iff]; exact reason, moved⟩
    · exact explained.accounted other earlier suffix

theorem updated (explained : Explained zones state)
    (edit : TriggerEdit Details) :
    Explained zones { state with row := state.row.edited edit } :=
  ⟨explained.latest, explained.past, explained.recorded,
    explained.standing, explained.spaced, explained.accounted⟩

end Explained

theorem explained_step {zones : Zones} {state next : State Details}
    {operation : Operation Details}
    (stepped : step zones state operation = some next)
    (explained : Explained zones state) :
    Explained zones next := by
  cases operation with
  | evaluate evaluation meanwhile =>
      simp only [step] at stepped
      split at stepped
      next clocked =>
        cases stepped
        exact explained.evaluated rfl clocked.1 clocked.2
      next => cases stepped
  | update edit =>
      cases stepped
      exact explained.updated edit

/--
Over the whole life of a trigger: two firings are a cooldown apart, an
evaluation fires exactly when it matched outside quiet hours and the latest
firing is a cooldown ago, and the row is `FIRED` exactly while a firing has
been followed by matching evaluations only.
-/
theorem firings_and_state_of_run (zones : Zones)
    {cooldownMin : Option Int} {details : Details} {clock : Int}
    {operations : List (Operation Details)} {final : State Details}
    (reached : (machine zones).run
      (State.created cooldownMin details clock) operations = some final) :
    (final.history.Pairwise fun later earlier =>
      later.fires = true → earlier.fires = true →
        later.elapsedSince earlier) ∧
    ∀ outcome earlier, outcome :: earlier <:+ final.history →
      Accounted zones outcome earlier := by
  have explained : Explained zones final :=
    Machine.run_preserves (Explained zones) explained_step
      (explained_created zones cooldownMin details clock) reached
  exact ⟨explained.spaced, explained.accounted⟩

/--
A flapping condition: it holds, clears, comes back inside the cooldown, and
holds again when the cooldown has just passed.
-/
def flapping : List (Operation Unit) :=
  [.evaluate ⟨true, none, 0, 2⟩ [],
    .evaluate ⟨false, none, 300000, 300000⟩ [],
    .evaluate ⟨true, none, 600000, 600000⟩ [],
    .evaluate ⟨true, none, 3600002, 3600003⟩ []]

theorem flapping_fires_twice :
    ∃ final,
      (machine fun _ _ => none).run (State.created none () 0) flapping =
          some final ∧
        final.history.map Outcome.fires = [true, false, false, true] ∧
        final.history.Pairwise fun later earlier =>
          later.fires = true → earlier.fires = true →
            later.elapsedSince earlier := by
  obtain ⟨final, reached⟩ :
      ∃ final, (machine fun _ _ => none).run (State.created none () 0)
        flapping = some final :=
    ⟨_, rfl⟩
  refine ⟨final, reached, ?_, ?_⟩
  · cases reached
    rfl
  · exact (firings_and_state_of_run (fun _ _ => none) reached).1

end History

end WeatherNotify.Watcher

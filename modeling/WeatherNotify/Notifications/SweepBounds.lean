import Mathlib.Data.List.Nodup
import Mathlib.Tactic.Linarith
import WeatherNotify.Notifications.Sweep

/-!
# The retention sweep ends and deletes what has expired

The cut-off does not lie after the start of the sweep, so nothing that is
inserted meanwhile has expired.  The ids of a chunk keep naming expired rows
until they are deleted, and each chunk takes at least one of them: the expired
rows not yet doomed pay for the steps of the sweep.
-/

namespace WeatherNotify.Notifications.Sweep

open WeatherNotify.Transition

def Setting.expires (setting : Setting) (row : HistoryRow) : Bool :=
  setting.before.any fun before => row.createdAt < before

variable {setting : Setting} {state next : State} {label : Label}

theorem expires_iff {row : HistoryRow} {before : Int}
    (valid : setting.before = some before) :
    setting.expires row = true ↔ row.createdAt < before := by
  rw [Setting.expires, valid, Option.any_some, decide_eq_true_eq]

/-- Dropping the fraction of an instant before an integer stays before it. -/
theorem tdiv_le_of_lt {instant : Rat} {bound : Int}
    (below : instant < bound) : instant.num.tdiv instant.den ≤ bound := by
  have den : (0 : Int) < instant.den := Int.natCast_pos.mpr instant.den_pos
  have scaled : instant.num < bound * instant.den := by
    have cleared := Rat.lt_iff instant bound |>.mp below
    simpa using cleared
  rcases lt_or_ge instant.num 0 with negative | positive
  · have ceiling : instant.num.tdiv instant.den =
        -((-instant.num) / instant.den) := by
      rw [← Int.tdiv_eq_ediv_of_nonneg (by omega), Int.neg_tdiv, neg_neg]
    rw [ceiling]
    have division := Int.lt_ediv_add_one_mul_self (-instant.num) den
    by_contra above
    have beyond : bound + 1 ≤ -((-instant.num) / instant.den) := by omega
    nlinarith
  · rw [Int.tdiv_eq_ediv_of_nonneg positive]
    exact le_of_lt (Int.ediv_lt_of_lt_mul den scaled)

theorem before_le_start (days : 0 < setting.retentionDays) {before : Int}
    (valid : setting.before = some before) : before ≤ setting.start := by
  have cutoff := Option.some.inj (Option.ite_none_right_eq_some.mp valid).2
  rw [← cutoff]
  apply tdiv_le_of_lt
  linarith

/-- What was not created before the sweep began has not expired. -/
theorem not_expires_of_start_le (days : 0 < setting.retentionDays)
    {row : HistoryRow} (late : setting.start ≤ row.createdAt) :
    setting.expires row = false := by
  cases valid : setting.before with
  | none => rw [Setting.expires, valid, Option.any_none]
  | some before =>
      have bound := before_le_start days valid
      rw [Setting.expires, valid, Option.any_some]
      apply decide_eq_false
      omega

/-! ## Chunks -/

section Chunks

variable {chunk : Nat} {table : List HistoryRow} {before : Int}
  {ids : List String}

theorem exists_row_of_chunk (isOne : isChunkOf chunk table before ids = true)
    {id : String} (member : id ∈ ids) :
    ∃ row ∈ table, row.createdAt < before ∧ row.id = id := by
  rw [isChunkOf, Bool.and_eq_true] at isOne
  have subperm := List.isSubperm_iff.mp isOne.1
  rcases List.mem_map.mp (subperm.subset member) with ⟨row, expired, named⟩
  rcases List.mem_filter.mp expired with ⟨stored, early⟩
  exact ⟨row, stored, of_decide_eq_true early, named⟩

/-- A read that answers nothing found nothing that has expired. -/
theorem none_expired_of_empty_chunk (positive : 0 < chunk)
    (isOne : isChunkOf chunk table before [] = true) :
    ∀ row ∈ table, ¬ row.createdAt < before := by
  intro row stored early
  rw [isChunkOf, Bool.and_eq_true, decide_eq_true_eq] at isOne
  have expired : row ∈ table.filter fun row => row.createdAt < before :=
    List.mem_filter.mpr ⟨stored, decide_eq_true early⟩
  have some := List.length_pos_of_mem expired
  have length := isOne.2
  rw [List.length_nil, List.length_map] at length
  omega

/-- There always is a chunk to read. -/
theorem exists_chunk (chunk : Nat) (table : List HistoryRow)
    (before : Int) : ∃ ids, isChunkOf chunk table before ids = true := by
  refine ⟨((table.filter fun row => row.createdAt < before).map
    HistoryRow.id).take chunk, ?_⟩
  rw [isChunkOf, Bool.and_eq_true, decide_eq_true_eq]
  constructor
  · exact List.isSubperm_iff.mpr (List.take_sublist _ _).subperm
  · exact List.length_take

end Chunks

/-! ## What is known between two statements -/

structure Sound (setting : Setting) (state : State) : Prop where
  distinct : (state.table.map HistoryRow.id).Nodup
  issued : ∀ row ∈ state.table, row.id ∈ state.issued
  named : ∀ ids, state.phase = .deleting ids → ∀ id ∈ ids, id ∈ state.issued
  doomed : ∀ ids, state.phase = .deleting ids →
    ∀ row ∈ state.table, hasId ids row = true → setting.expires row = true
  deleted : ∀ row ∈ state.deleted, setting.expires row = true

theorem sound_begin (table : KeyedTable) :
    Sound setting (State.begin table) where
  distinct := table.distinct
  issued row member := List.mem_map_of_mem member
  named ids deleting := by cases deleting
  doomed ids deleting := by cases deleting
  deleted row member := by cases member

namespace Sound

/-- A move that does not name rows for deletion. -/
theorem moveTo (sound : Sound setting state) {phase : Phase}
    (plain : ∀ ids, phase ≠ .deleting ids) :
    Sound setting (state.moveTo phase) where
  distinct := sound.distinct
  issued := sound.issued
  named ids deleting := absurd deleting (plain ids)
  doomed ids deleting := absurd deleting (plain ids)
  deleted := sound.deleted

/-- A row is known by its id. -/
theorem unique (sound : Sound setting state) {left right : HistoryRow}
    (leftMember : left ∈ state.table) (rightMember : right ∈ state.table)
    (same : left.id = right.id) : left = right :=
  List.inj_on_of_nodup_map sound.distinct leftMember rightMember same

theorem insert (sound : Sound setting state) {row : HistoryRow}
    (fresh : row.id ∉ state.issued) :
    Sound setting { state with
      table := state.table ++ [row]
      issued := row.id :: state.issued } where
  distinct := by
    rw [List.map_append]
    apply List.nodup_append.mpr
    refine ⟨sound.distinct, List.nodup_singleton _, ?_⟩
    rintro id member other otherMember rfl
    cases List.mem_singleton.mp otherMember
    rcases List.mem_map.mp member with ⟨stored, storedMember, same⟩
    exact fresh (same ▸ sound.issued stored storedMember)
  issued := by
    intro other member
    rcases List.mem_append.mp member with earlier | new
    · exact List.mem_cons_of_mem _ (sound.issued other earlier)
    · cases List.mem_singleton.mp new
      exact List.mem_cons_self
  named ids deleting id member :=
    List.mem_cons_of_mem _ (sound.named ids deleting id member)
  doomed := by
    intro ids deleting other member hit
    rcases List.mem_append.mp member with earlier | new
    · exact sound.doomed ids deleting other earlier hit
    · cases List.mem_singleton.mp new
      -- a new id is none of those the sweep has read
      exact absurd (sound.named ids deleting row.id (of_decide_eq_true hit))
        fresh
  deleted := sound.deleted

theorem discard (sound : Sound setting state) (ids : List String) :
    Sound setting { state with
      table := deleteMany state.table (hasId ids) } where
  distinct := (List.filter_sublist.map _).nodup sound.distinct
  issued row member := sound.issued row (List.mem_of_mem_filter member)
  named := sound.named
  doomed others deleting row member :=
    sound.doomed others deleting row (List.mem_of_mem_filter member)
  deleted := sound.deleted

theorem read (sound : Sound setting state) {before : Int}
    (valid : setting.before = some before) {ids : List String}
    (isOne : isChunkOf setting.chunk state.table before ids = true) :
    Sound setting (state.moveTo (.deleting ids)) where
  distinct := sound.distinct
  issued := sound.issued
  named := by
    rintro others ⟨⟩ id member
    rcases exists_row_of_chunk isOne member with ⟨row, stored, _, rfl⟩
    exact sound.issued row stored
  doomed := by
    rintro others ⟨⟩ row stored hit
    rcases exists_row_of_chunk isOne (of_decide_eq_true hit) with
      ⟨other, otherStored, early, same⟩
    rw [sound.unique stored otherStored same.symm]
    exact (expires_iff valid).mpr early
  deleted := sound.deleted

theorem delete (sound : Sound setting state) {ids : List String}
    (deleting : state.phase = .deleting ids) :
    Sound setting { state with
      table := deleteMany state.table (hasId ids)
      phase := .renewing
      deleted := state.deleted ++ state.table.filter (hasId ids) } where
  distinct := (List.filter_sublist.map _).nodup sound.distinct
  issued row member := sound.issued row (List.mem_of_mem_filter member)
  named others impossible := by cases impossible
  doomed others impossible := by cases impossible
  deleted := by
    intro row member
    rcases List.mem_append.mp member with earlier | now
    · exact sound.deleted row earlier
    · rcases List.mem_filter.mp now with ⟨stored, hit⟩
      exact sound.doomed ids deleting row stored hit

end Sound

/-! ## One step -/

/-- Everything a step of the sweep can do to its own state. -/
inductive Moved (setting : Setting) (state : State) : Label → State → Prop
  | inserted {row : HistoryRow} (late : setting.start ≤ row.createdAt)
      (fresh : row.id ∉ state.issued) :
      Moved setting state (.insert row) { state with
        table := state.table ++ [row]
        issued := row.id :: state.issued }
  | discarded (ids : List String) :
      Moved setting state (.discard ids) { state with
        table := deleteMany state.table (hasId ids) }
  | acquired (acquiring : state.phase = .acquiring) (granted : Bool) :
      Moved setting state (.acquire granted) (state.moveTo
        (if granted then .renewing else .ended .skipped))
  | renewed (renewing : state.phase = .renewing) (held : Bool) :
      Moved setting state (.renew held) (state.moveTo
        (if held then .finding else .ended .lockLost))
  | drained (finding : state.phase = .finding) {before : Int}
      (valid : setting.before = some before)
      (isOne : isChunkOf setting.chunk state.table before [] = true) :
      Moved setting state (.find []) (state.moveTo (.ended .drained))
  | read (finding : state.phase = .finding) {before : Int}
      (valid : setting.before = some before) {ids : List String}
      (isOne : isChunkOf setting.chunk state.table before ids = true)
      (some : ids ≠ []) :
      Moved setting state (.find ids) (state.moveTo (.deleting ids))
  | refused (finding : state.phase = .finding) (ids : List String)
      (invalid : setting.before = none) :
      Moved setting state (.find ids) (state.moveTo (.ended .rejected))
  | deleted {ids : List String} (deleting : state.phase = .deleting ids) :
      Moved setting state .delete { state with
        table := deleteMany state.table (hasId ids)
        phase := .renewing
        deleted := state.deleted ++ state.table.filter (hasId ids) }
  | failed (asking : state.phase = .finding ∨
        ∃ ids, state.phase = .deleting ids) :
      Moved setting state .fail (state.moveTo (.ended .rejected))

theorem moved_of_step (stepped : step setting state label = some next) :
    Moved setting state label next := by
  cases label with
  | insert row =>
      rcases Option.ite_none_right_eq_some.mp stepped with
        ⟨⟨late, fresh⟩, moved⟩
      cases moved
      exact .inserted late fresh
  | discard ids =>
      cases stepped
      exact .discarded ids
  | acquire granted =>
      simp only [step] at stepped
      split at stepped
      case h_1 found =>
        cases stepped
        exact .acquired found granted
      case h_2 => cases stepped
  | renew held =>
      simp only [step] at stepped
      split at stepped
      case h_1 found =>
        cases stepped
        exact .renewed found held
      case h_2 => cases stepped
  | find ids =>
      simp only [step] at stepped
      split at stepped
      case h_1 found valid =>
        rcases Option.ite_none_right_eq_some.mp stepped with ⟨isOne, moved⟩
        cases moved
        by_cases empty : ids = []
        · subst empty
          exact .drained found valid isOne
        · rw [if_neg empty]
          exact .read found valid isOne empty
      case h_2 found invalid =>
        cases stepped
        exact .refused found ids invalid
      case h_3 => cases stepped
  | delete =>
      simp only [step] at stepped
      split at stepped
      case h_1 ids found =>
        cases stepped
        exact .deleted found
      case h_2 => cases stepped
  | fail =>
      simp only [step] at stepped
      split at stepped
      case h_1 found =>
        cases stepped
        exact .failed (Or.inl found)
      case h_2 ids found =>
        cases stepped
        exact .failed (Or.inr ⟨ids, found⟩)
      case h_3 => cases stepped

theorem Sound.step (sound : Sound setting state)
    (moved : Moved setting state label next) : Sound setting next := by
  cases moved with
  | inserted late fresh => exact sound.insert fresh
  | discarded ids => exact sound.discard ids
  | acquired acquiring granted =>
      cases granted <;> exact sound.moveTo fun _ => Phase.noConfusion
  | renewed renewing held =>
      cases held <;> exact sound.moveTo fun _ => Phase.noConfusion
  | drained | refused | failed =>
      exact sound.moveTo fun _ => Phase.noConfusion
  | read finding valid isOne some => exact sound.read valid isOne
  | deleted deleting => exact sound.delete deleting

/-! ## The potential -/

/-- The rows whose chunk is still to be read. -/
def Phase.spares : Phase → HistoryRow → Bool
  | .deleting ids, row => !hasId ids row
  | .ended _, _ => false
  | _, _ => true

/-- What the calls cost from a phase to the end, without another chunk. -/
def Phase.reserve : Phase → Nat
  | .acquiring => 4
  | .renewing => 3
  | .finding => 2
  | .deleting _ => 4
  | .ended _ => 0

def spared (setting : Setting) (phase : Phase) (table : List HistoryRow) :
    Nat :=
  table.countP fun row => setting.expires row && phase.spares row

/-- Three calls for each expired row that no read has named yet. -/
def potential (setting : Setting) (state : State) : Nat :=
  3 * spared setting state.phase state.table + state.phase.reserve

section Spared

variable {table : List HistoryRow} {ids : List String}

theorem spared_ended (ending : Ending) :
    spared setting (.ended ending) table = 0 := by
  apply List.countP_eq_zero.mpr
  intro row _ counted
  rw [Phase.spares, Bool.and_false] at counted
  cases counted

theorem spared_renewing :
    spared setting .renewing table = table.countP setting.expires := by
  apply List.countP_congr
  intro row _
  show (setting.expires row && true) = true ↔ _
  rw [Bool.and_true]

/-- The expired rows are those a chunk names and those it spares. -/
theorem countP_expires_eq (setting : Setting) (table : List HistoryRow)
    (ids : List String) :
    table.countP setting.expires =
      (table.filter (hasId ids)).countP setting.expires +
        spared setting (.deleting ids) table := by
  rw [List.countP_eq_countP_filter_add table setting.expires (hasId ids)]
  congr 1
  rw [List.countP_filter]
  apply List.countP_congr
  intro row _
  simp [Phase.spares]

/-- A chunk that is not empty names a row that has expired. -/
theorem spared_deleting_lt {chunk : Nat} {before : Int}
    (valid : setting.before = some before)
    (isOne : isChunkOf chunk table before ids = true) (some : ids ≠ []) :
    spared setting (.deleting ids) table < table.countP setting.expires := by
  rcases List.exists_mem_of_ne_nil ids some with ⟨id, member⟩
  rcases exists_row_of_chunk isOne member with ⟨row, stored, early, rfl⟩
  have hit : row ∈ table.filter (hasId ids) :=
    List.mem_filter.mpr ⟨stored, decide_eq_true member⟩
  have named : 0 < (table.filter (hasId ids)).countP setting.expires :=
    List.countP_pos_iff.mpr ⟨row, hit, (expires_iff valid).mpr early⟩
  have parts := countP_expires_eq setting table ids
  omega

theorem spared_discard_le (setting : Setting) (phase : Phase)
    (table : List HistoryRow) (ids : List String) :
    spared setting phase (deleteMany table (hasId ids)) ≤
      spared setting phase table :=
  List.filter_sublist.countP_le

theorem spared_insert {row : HistoryRow}
    (late : setting.expires row = false) (phase : Phase)
    (table : List HistoryRow) :
    spared setting phase (table ++ [row]) = spared setting phase table := by
  rw [spared, List.countP_append, List.countP_singleton, late]
  rfl

theorem countP_deleted_le (setting : Setting) (table : List HistoryRow)
    (ids : List String) :
    (deleteMany table (hasId ids)).countP setting.expires ≤
      spared setting (.deleting ids) table := by
  rw [deleteMany, List.countP_filter]
  exact Nat.le_of_eq rfl

end Spared

theorem potential_of_phase {phase : Phase} (found : state.phase = phase) :
    potential setting state =
      3 * spared setting phase state.table + phase.reserve := by
  rw [potential, found]

/-- A sweep that has ended costs nothing more. -/
theorem potential_ended (ending : Ending) :
    potential setting (state.moveTo (.ended ending)) = 0 := by
  show 3 * spared setting (.ended ending) state.table + 0 = 0
  rw [spared_ended]

theorem potential_pos {phase : Phase} (found : state.phase = phase)
    (running : phase.isEnded = false) : 0 < potential setting state := by
  rw [potential_of_phase found]
  cases phase with
  | ended ending => cases running
  | _ => exact Nat.succ_pos _

/-- Every call of the sweep is paid for, and no other request refunds it. -/
theorem pays_of_moved (days : 0 < setting.retentionDays)
    (moved : Moved setting state label next) :
    (if label.ofSweep then 1 else 0) + potential setting next ≤
      potential setting state := by
  cases moved with
  | @inserted row late fresh =>
      have same := spared_insert (not_expires_of_start_le days late)
        state.phase state.table
      show 0 + (3 * spared setting state.phase (state.table ++ [row]) +
        state.phase.reserve) ≤ _
      rw [same, Nat.zero_add]
      exact Nat.le_refl _
  | discarded ids =>
      have fewer := spared_discard_le setting state.phase state.table ids
      show 0 + (3 * spared setting state.phase
          (deleteMany state.table (hasId ids)) + state.phase.reserve) ≤
        3 * spared setting state.phase state.table + state.phase.reserve
      omega
  | acquired acquiring granted =>
      cases granted with
      | true =>
          rw [potential_of_phase acquiring]
          show 1 + (3 * spared setting .renewing state.table + 3) ≤
            3 * spared setting .renewing state.table + 4
          omega
      | false =>
          show 1 + potential setting (state.moveTo (.ended .skipped)) ≤ _
          rw [potential_ended]
          exact potential_pos acquiring rfl
  | renewed renewing held =>
      cases held with
      | true =>
          rw [potential_of_phase renewing]
          show 1 + (3 * spared setting .finding state.table + 2) ≤
            3 * spared setting .finding state.table + 3
          omega
      | false =>
          show 1 + potential setting (state.moveTo (.ended .lockLost)) ≤ _
          rw [potential_ended]
          exact potential_pos renewing rfl
  | drained finding valid isOne =>
      rw [potential_ended]
      exact potential_pos finding rfl
  | @read finding before valid ids isOne some =>
      have fewer := spared_deleting_lt valid isOne some
      rw [potential_of_phase finding]
      show 1 + (3 * spared setting (.deleting ids) state.table + 4) ≤
        3 * spared setting .finding state.table + 2
      rw [show spared setting .finding state.table =
        state.table.countP setting.expires from spared_renewing]
      omega
  | refused finding ids invalid =>
      rw [potential_ended]
      exact potential_pos finding rfl
  | @deleted ids deleting =>
      have fewer := countP_deleted_le setting state.table ids
      rw [potential_of_phase deleting]
      show 1 + (3 * spared setting .renewing
          (deleteMany state.table (hasId ids)) + 3) ≤
        3 * spared setting (.deleting ids) state.table + 4
      rw [spared_renewing]
      omega
  | failed asking =>
      rw [potential_ended]
      rcases asking with finding | ⟨ids, deleting⟩
      · exact potential_pos finding rfl
      · exact potential_pos deleting rfl

/-! ## The end of a sweep -/

/-- A statement fails, or the lock is not given or not prolonged. -/
def Label.fails : Label → Bool
  | .acquire granted => !granted
  | .renew held => !held
  | .fail => true
  | _ => false

/-- A sweep that has not ended has a call to make. -/
theorem exists_step_of_running (running : state.phase.isEnded = false) :
    ∃ label next, label.ofSweep = true ∧ label.fails = false ∧
      step setting state label = some next := by
  cases found : state.phase with
  | acquiring =>
      exact ⟨.acquire true, state.moveTo .renewing, rfl, rfl,
        by rw [step, found]; rfl⟩
  | renewing =>
      exact ⟨.renew true, state.moveTo .finding, rfl, rfl,
        by rw [step, found]; rfl⟩
  | finding =>
      cases valid : setting.before with
      | none =>
          exact ⟨.find [], state.moveTo (.ended .rejected), rfl, rfl,
            by rw [step, found, valid]⟩
      | some before =>
          rcases exists_chunk setting.chunk state.table before with
            ⟨ids, isOne⟩
          refine ⟨.find ids, state.moveTo
            (if ids = [] then .ended .drained else .deleting ids), rfl, rfl,
            ?_⟩
          rw [step, found, valid]
          exact if_pos isOne
  | deleting ids =>
      exact ⟨.delete, _, rfl, rfl, by rw [step, found]⟩
  | ended ending =>
      rw [found] at running
      cases running

/-- A sweep that has ended makes no call. -/
theorem not_ofSweep_of_ended (ended : state.phase.isEnded = true)
    (moved : Moved setting state label next) : label.ofSweep = false := by
  cases moved with
  | inserted | discarded => rfl
  | acquired found | renewed found | drained found | read found
  | refused found | deleted found =>
      rw [found] at ended
      cases ended
  | failed asking =>
      rcases asking with found | ⟨ids, found⟩ <;>
        · rw [found] at ended
          cases ended

theorem ended_of_lost (moved : Moved setting state (.renew false) next) :
    next.phase = .ended .lockLost := by
  cases moved
  rfl

/-- Without a failure a sweep ends on a read that answers nothing. -/
def Undisturbed (state : State) : Prop :=
  ∀ ending, state.phase = .ended ending → ending = .drained

theorem undisturbed_of_moved (valid : setting.before ≠ none)
    (moved : Moved setting state label next) (smooth : label.fails = false)
    (held : Undisturbed state) : Undisturbed next := by
  cases moved with
  | inserted | discarded => exact held
  | acquired acquiring granted =>
      cases granted with
      | true => exact fun _ ended => Phase.noConfusion ended
      | false => cases smooth
  | renewed renewing held =>
      cases held with
      | true => exact fun _ ended => Phase.noConfusion ended
      | false => cases smooth
  | drained => exact fun ending ended => (Phase.ended.inj ended).symm
  | read | deleted => exact fun _ ended => Phase.noConfusion ended
  | refused finding ids invalid => exact absurd invalid valid
  | failed => cases smooth

/-- The read that ends the sweep found nothing that has expired. -/
theorem none_expires_of_drained (positive : 0 < setting.chunk)
    (moved : Moved setting state label next)
    (running : state.phase.isEnded = false)
    (drained : next.phase = .ended .drained) :
    ∀ row ∈ state.table, setting.expires row = false := by
  cases moved with
  | inserted | discarded =>
      rw [show state.phase = _ from drained] at running
      cases running
  | acquired acquiring granted => cases granted <;> cases drained
  | renewed renewing held => cases held <;> cases drained
  | drained finding valid isOne =>
      intro row stored
      apply Bool.eq_false_iff.mpr
      intro expired
      exact none_expired_of_empty_chunk positive isOne row stored
        ((expires_iff valid).mp expired)
  | read | refused | deleted | failed => cases drained

/--
However other requests insert and delete rows between its statements, a sweep
makes at most three calls for each row that had expired when it began, and
four more; it can always go on until it has ended, and then makes none; it
deletes only rows before the cut-off; its last read leaves none of them; it
ends on that read unless a call fails, and a lost lock ends it at once.
-/
theorem sweep_drains_expired (setting : Setting)
    (positive : 0 < setting.chunk) (days : 0 < setting.retentionDays)
    (table : KeyedTable) (labels : List Label) (final : State)
    (reached : (machine setting).run (State.begin table) labels =
      some final) :
    labels.countP Label.ofSweep ≤
        3 * table.rows.countP setting.expires + 4 ∧
      (final.phase.isEnded = false →
        ∃ label next, label.ofSweep = true ∧ label.fails = false ∧
          (machine setting).step final label = some next) ∧
      (∀ row ∈ final.deleted, setting.expires row = true) ∧
      (setting.before ≠ none → (∀ label ∈ labels, label.fails = false) →
        ∀ ending, final.phase = .ended ending → ending = .drained) ∧
      ∀ taken ∈ (machine setting).transitions (State.begin table) labels,
        (taken.source.phase.isEnded = true →
          taken.label.ofSweep = false) ∧
        (taken.label = .renew false →
          taken.target.phase = .ended .lockLost) ∧
        (taken.source.phase.isEnded = false →
          taken.target.phase = .ended .drained →
            ∀ row ∈ taken.source.table, setting.expires row = false) := by
  have sound : Sound setting final :=
    Machine.run_preserves (Sound setting)
      (fun stepped held => held.step (moved_of_step stepped))
      (sound_begin table) reached
  refine ⟨?_, exists_step_of_running, sound.deleted, ?_, ?_⟩
  · have paid : labels.countP Label.ofSweep + potential setting final ≤
        potential setting (State.begin table) :=
      Machine.countP_add_potential_le
        (fun stepped => pays_of_moved days (moved_of_step stepped)) reached
    have start : potential setting (State.begin table) =
        3 * table.rows.countP setting.expires + 4 :=
      congrArg (3 * · + 4) spared_renewing
    omega
  · intro valid smooth
    have guarded : ∀ taken ∈ (machine setting).transitions
        (State.begin table) labels, taken.label.fails = false := by
      intro taken member
      exact smooth _ ((machine setting).label_mem_of_mem_transitions member)
    have undisturbed : Undisturbed final :=
      Machine.run_invariant
        (fun taken stepped smooth held =>
          undisturbed_of_moved valid (moved_of_step stepped) smooth held)
        (fun ending ended => Phase.noConfusion ended) guarded reached
    exact undisturbed
  · intro taken member
    have moved := moved_of_step
      ((machine setting).step_of_mem_transitions member)
    refine ⟨fun ended => not_ofSweep_of_ended ended moved, ?_,
      none_expires_of_drained positive moved⟩
    intro lost
    rw [lost] at moved
    exact ended_of_lost moved

/-- A sweep in chunks of one row. -/
def oneByOne : Setting where
  chunk := 1
  retentionDays := 1
  start := 100000000

/-- A row of a delivered alert. -/
def deliveredRow (id : String) (createdAt : Int) : HistoryRow where
  id := id
  userId := "ann"
  eventId := some id
  channel := .telegram
  delivery := { status := .sent, claimedAt := none }
  createdAt := createdAt

def twoExpired : KeyedTable where
  rows := [deliveredRow "a" 0, deliveredRow "b" 1]
  distinct := by decide

/-- A new row comes between two statements, and "b" goes before its turn. -/
def besideOthers : List Label :=
  [.acquire true, .renew true, .find ["a"],
    .insert (deliveredRow "c" 100000000), .delete, .renew true,
    .find ["b"], .discard ["b"], .delete, .renew true, .find []]

/-- Nine calls for two expired rows; the new row stays. -/
theorem sweep_drains_expired_beside_others :
    ∃ final, (machine oneByOne).run (State.begin twoExpired) besideOthers =
        some final ∧
      final.table = [deliveredRow "c" 100000000] ∧
      besideOthers.countP Label.ofSweep ≤
        3 * twoExpired.rows.countP oneByOne.expires + 4 := by
  have reached : ∃ final,
      (machine oneByOne).run (State.begin twoExpired) besideOthers =
          some final ∧
        final.table = [deliveredRow "c" 100000000] :=
    ⟨{ table := [deliveredRow "c" 100000000]
       phase := .ended .drained
       issued := ["c", "a", "b"]
       deleted := [deliveredRow "a" 0] }, by decide +kernel, rfl⟩
  rcases reached with ⟨final, reached, kept⟩
  exact ⟨final, reached, kept,
    (sweep_drains_expired oneByOne (by decide) (by decide) twoExpired
      besideOthers final reached).1⟩

end WeatherNotify.Notifications.Sweep

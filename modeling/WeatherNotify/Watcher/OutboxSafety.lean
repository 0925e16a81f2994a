import Mathlib.Data.List.Nodup
import WeatherNotify.Watcher.Outbox

/-!
# The outbox loses nothing

A row leaves the pending state only through an id in some pass's list of
published rows, and an id enters such a list only when its publish resolved.
Hence every row ever inserted is still pending or was handed over, whatever
fails and however passes overlap; and every staged key has such a row, because
an insert is skipped only in favour of a row with the same key.
-/

namespace WeatherNotify.Watcher.Outbox

open WeatherNotify.Transition

variable {n : Nat}

/-! ## Statements -/

theorem skipDuplicates_sublist (stored rows : List OutboxRow) :
    (skipDuplicates stored rows).Sublist rows := by
  induction rows generalizing stored with
  | nil => exact List.Sublist.refl _
  | cons row rest induction =>
      unfold skipDuplicates
      split
      · exact (induction stored).cons row
      · exact (induction _).cons_cons row

/-- Every key of the batch has a row afterwards. -/
theorem exists_key_of_mem (stored : List OutboxRow)
    {rows : List OutboxRow} {row : OutboxRow} (member : row ∈ rows) :
    ∃ present ∈ stored ++ skipDuplicates stored rows,
      present.key = row.key := by
  induction rows generalizing stored with
  | nil => cases member
  | cons first rest induction =>
      unfold skipDuplicates
      rcases List.mem_cons.mp member with rfl | later
      · split
        next skipped =>
          obtain ⟨other, otherMember, same⟩ := List.any_eq_true.mp skipped
          exact ⟨other, List.mem_append_left _ otherMember,
            beq_iff_eq.mp same⟩
        next =>
          exact ⟨row, by simp, rfl⟩
      · split
        next => exact induction stored later
        next =>
          obtain ⟨present, presentMember, same⟩ :=
            induction (stored ++ [first]) later
          refine ⟨present, ?_, same⟩
          simpa [List.append_assoc] using presentMember

theorem mem_markPublished_iff {ids : List Nat} {now : Int}
    {rows : List OutboxRow} {row : OutboxRow} :
    row ∈ markPublished ids now rows ↔
      ∃ stored ∈ rows,
        (if stored.id ∈ ids then { stored with publishedAt := some now }
          else stored) = row :=
  List.mem_map

/-! ## The invariant -/

/-- `stored` is the row that was inserted as `origin`. -/
def OutboxRow.StemsFrom (stored origin : OutboxRow) : Prop :=
  stored.id = origin.id ∧ stored.key = origin.key

/-- Every row is pending or handed over, and every list of ids is earned. -/
structure Kept (state : State n) : Prop where
  distinct : (state.inserted.map OutboxRow.id).Nodup
  stems : ∀ row ∈ state.rows,
    ∃ origin ∈ state.inserted, row.StemsFrom origin
  batches : ∀ pass, ∀ row ∈ (state.passes pass).batch,
    ∃ origin ∈ state.inserted, row.StemsFrom origin
  earned : ∀ pass, ∀ id ∈ (state.passes pass).published,
    id ∈ state.resolved
  marked : ∀ row ∈ state.rows, row.isPending = false →
    row.id ∈ state.resolved
  known : ∀ id ∈ state.resolved, id ∈ state.inserted.map OutboxRow.id
  present : ∀ origin ∈ state.inserted,
    (∃ row ∈ state.rows, row.StemsFrom origin ∧ row.isPending = true) ∨
      origin.id ∈ state.resolved
  delivered : ∀ origin ∈ state.inserted, origin.id ∈ state.resolved →
    origin.key ∈ state.accepted
  covered : ∀ key ∈ state.staged,
    ∃ origin ∈ state.inserted, origin.key = key

theorem kept_empty : Kept (State.empty n) := by
  constructor <;> simp [State.empty, Pass.batch, Pass.published]

namespace Kept

variable {state : State n}

/-- Two inserted rows with one id are one row. -/
theorem origin_unique (kept : Kept state) {left right : OutboxRow}
    (leftMember : left ∈ state.inserted)
    (rightMember : right ∈ state.inserted)
    (same : left.id = right.id) : left = right :=
  List.inj_on_of_nodup_map kept.distinct leftMember rightMember same

/-- A pass moves without touching the table or the broker. -/
theorem moveTo (kept : Kept state) {pass : Fin n} {phase : Pass}
    (batch : ∀ row ∈ phase.batch,
      ∃ origin ∈ state.inserted, row.StemsFrom origin)
    (published : ∀ id ∈ phase.published, id ∈ state.resolved) :
    Kept (state.moveTo pass phase) where
  distinct := kept.distinct
  stems := kept.stems
  batches other := by
    by_cases same : other = pass
    · subst same
      simpa [State.moveTo] using batch
    · simpa [State.moveTo, same] using kept.batches other
  earned other := by
    by_cases same : other = pass
    · subst same
      simpa [State.moveTo] using published
    · simpa [State.moveTo, same] using kept.earned other
  marked := kept.marked
  known := kept.known
  present := kept.present
  delivered := kept.delivered
  covered := kept.covered

theorem withLock (kept : Kept state) (lock : Common.LockKey (Fin n)) :
    Kept { state with lock := lock } :=
  ⟨kept.distinct, kept.stems, kept.batches, kept.earned, kept.marked,
    kept.known, kept.present, kept.delivered, kept.covered⟩

theorem accept (kept : Kept state) (row : OutboxRow) :
    Kept (state.accept row) where
  distinct := kept.distinct
  stems := kept.stems
  batches := kept.batches
  earned := kept.earned
  marked := kept.marked
  known := kept.known
  present := kept.present
  delivered origin member resolved :=
    List.mem_append_left _ (kept.delivered origin member resolved)
  covered := kept.covered

/-- The publish of a row that was inserted resolves. -/
theorem resolve (kept : Kept state) {row : OutboxRow}
    (stems : ∃ origin ∈ state.inserted, row.StemsFrom origin) :
    Kept (state.resolve row) where
  distinct := kept.distinct
  stems := kept.stems
  batches := kept.batches
  earned pass id member :=
    List.mem_append_left _ (kept.earned pass id member)
  marked stored member published :=
    List.mem_append_left _ (kept.marked stored member published)
  known id member := by
    rcases List.mem_append.mp member with earlier | now
    · exact kept.known id earlier
    · obtain ⟨source, sourceMember, sameId, _⟩ := stems
      rw [List.mem_singleton.mp now, sameId]
      exact List.mem_map_of_mem sourceMember
  present origin member :=
    (kept.present origin member).imp id (List.mem_append_left _)
  delivered origin member resolved := by
    rcases List.mem_append.mp resolved with earlier | now
    · exact List.mem_append_left _ (kept.delivered origin member earlier)
    · obtain ⟨source, sourceMember, sameId, sameKey⟩ := stems
      have same : origin = source := by
        refine kept.origin_unique member sourceMember ?_
        rw [List.mem_singleton.mp now, sameId]
      rw [same, ← sameKey]
      exact List.mem_append_right _ (List.mem_singleton_self _)
  covered := kept.covered

theorem commitFire (kept : Kept state) {rows : List OutboxRow}
    (fresh : Fresh state.inserted rows) :
    Kept (state.commitFire rows) := by
  have sublist := skipDuplicates_sublist state.rows rows
  have stems : ∀ row ∈ state.rows ++ skipDuplicates state.rows rows,
      ∃ origin ∈ state.inserted ++ skipDuplicates state.rows rows,
        row.StemsFrom origin := by
    intro row member
    rcases List.mem_append.mp member with old | new
    · obtain ⟨origin, originMember, same⟩ := kept.stems row old
      exact ⟨origin, List.mem_append_left _ originMember, same⟩
    · exact ⟨row, List.mem_append_right _ new, rfl, rfl⟩
  have unresolved : ∀ origin ∈ skipDuplicates state.rows rows,
      origin.isPending = true :=
    fun origin member => (fresh.1 origin (sublist.mem member)).1
  refine ⟨?_, stems, ?_, kept.earned, ?_, ?_, ?_, ?_, ?_⟩
  · change ((state.inserted ++ skipDuplicates state.rows rows).map
      OutboxRow.id).Nodup
    rw [List.map_append]
    refine List.nodup_append.mpr
      ⟨kept.distinct, fresh.2.sublist (sublist.map _), ?_⟩
    rintro id oldMember other newMember rfl
    obtain ⟨row, rowMember, rfl⟩ := List.mem_map.mp newMember
    exact (fresh.1 row (sublist.mem rowMember)).2 oldMember
  · intro pass row member
    obtain ⟨origin, originMember, same⟩ := kept.batches pass row member
    exact ⟨origin, List.mem_append_left _ originMember, same⟩
  · intro row member published
    rcases List.mem_append.mp member with old | new
    · exact kept.marked row old published
    · rw [unresolved row new] at published
      cases published
  · intro id member
    change id ∈ (state.inserted ++ _).map OutboxRow.id
    rw [List.map_append]
    exact List.mem_append_left _ (kept.known id member)
  · intro origin member
    rcases List.mem_append.mp member with old | new
    · refine (kept.present origin old).imp ?_ id
      rintro ⟨row, rowMember, pending⟩
      exact ⟨row, List.mem_append_left _ rowMember, pending⟩
    · exact Or.inl ⟨origin, List.mem_append_right _ new, ⟨rfl, rfl⟩,
        unresolved origin new⟩
  · intro origin member resolved
    rcases List.mem_append.mp member with old | new
    · exact kept.delivered origin old resolved
    · exact ((fresh.1 origin (sublist.mem new)).2
        (kept.known origin.id resolved)).elim
  · intro key member
    rcases List.mem_append.mp member with old | new
    · obtain ⟨origin, originMember, same⟩ := kept.covered key old
      exact ⟨origin, List.mem_append_left _ originMember, same⟩
    · obtain ⟨row, rowMember, rfl⟩ := List.mem_map.mp new
      obtain ⟨stored, storedMember, sameKey⟩ :=
        exists_key_of_mem state.rows rowMember
      obtain ⟨origin, originMember, stem⟩ := stems stored storedMember
      exact ⟨origin, originMember, stem.2.symm.trans sameKey⟩

/-- Rows are rewritten or dropped, pending ones only where it is earned. -/
theorem withRows (kept : Kept state) {rows : List OutboxRow}
    (stems : ∀ row ∈ rows, ∃ stored ∈ state.rows, row.StemsFrom stored ∧
      (row.isPending = false →
        stored.isPending = false ∨ row.id ∈ state.resolved))
    (survives : ∀ stored ∈ state.rows, stored.isPending = true →
      stored ∈ rows ∨ stored.id ∈ state.resolved) :
    Kept { state with rows := rows } where
  distinct := kept.distinct
  stems row member := by
    obtain ⟨stored, storedMember, stem, _⟩ := stems row member
    obtain ⟨origin, originMember, older⟩ := kept.stems stored storedMember
    exact ⟨origin, originMember, stem.1.trans older.1,
      stem.2.trans older.2⟩
  batches := kept.batches
  earned := kept.earned
  marked row member published := by
    obtain ⟨stored, storedMember, stem, earned⟩ := stems row member
    rcases earned published with already | resolved
    · have resolved := kept.marked stored storedMember already
      rw [← stem.1] at resolved
      exact resolved
    · exact resolved
  known := kept.known
  present origin member := by
    rcases kept.present origin member with present | resolved
    · obtain ⟨row, rowMember, stem, pending⟩ := present
      rcases survives row rowMember pending with still | resolved
      · exact Or.inl ⟨row, still, stem, pending⟩
      · rw [stem.1] at resolved
        exact Or.inr resolved
    · exact Or.inr resolved
  delivered := kept.delivered
  covered := kept.covered

theorem markPublished (kept : Kept state) {ids : List Nat}
    (earned : ∀ id ∈ ids, id ∈ state.resolved) (now : Int) :
    Kept { state with
      rows := Outbox.markPublished ids now state.rows } := by
  refine kept.withRows ?_ ?_
  · intro row member
    obtain ⟨stored, storedMember, rfl⟩ := mem_markPublished_iff.mp member
    refine ⟨stored, storedMember, ?_⟩
    split
    next listed =>
      exact ⟨⟨rfl, rfl⟩, fun _ => Or.inr (earned stored.id listed)⟩
    next => exact ⟨⟨rfl, rfl⟩, Or.inl⟩
  · intro stored member pending
    by_cases listed : stored.id ∈ ids
    · exact Or.inr (earned stored.id listed)
    · exact Or.inl (mem_markPublished_iff.mpr
        ⟨stored, member, by simp [listed]⟩)

theorem prunePublished (kept : Kept state) (before : Int) :
    Kept { state with
      rows := Outbox.prunePublished before state.rows } := by
  refine kept.withRows ?_ ?_
  · intro row member
    exact ⟨row, (List.mem_filter.mp member).1, ⟨rfl, rfl⟩, Or.inl⟩
  · intro stored member pending
    refine Or.inl (List.mem_filter.mpr ⟨member, ?_⟩)
    simp only [OutboxRow.isPending, Option.isNone_iff_eq_none] at pending
    simp [pending]

end Kept

theorem Pass.batch_next (rest : List OutboxRow) (published : List Nat) :
    (Pass.next rest published).batch = rest := by
  cases rest <;> rfl

theorem Pass.published_next (rest : List OutboxRow)
    (published : List Nat) :
    (Pass.next rest published).published = published := by
  cases rest <;> rfl

/-! ## Runs -/

theorem kept_step {limit : Nat} {state next : State n} {label : Label n}
    (stepped : step limit state label = some next)
    (kept : Kept state) :
    Kept next := by
  cases stepped_of_step stepped with
  | commitFire fresh => exact kept.commitFire fresh
  | acquired found free =>
      exact (kept.moveTo (by simp [Pass.batch])
        (by simp [Pass.published])).withLock _
  | expire => exact kept.withLock _
  | busy | acquireFails | drained | findPendingFails | markLost
  | releaseFails | crash =>
      exact kept.moveTo (by simp [Pass.batch]) (by simp [Pass.published])
  | findPending found answer nonempty =>
      refine kept.moveTo ?_ (by simp [Pass.published])
      exact fun row member => kept.stems row (answer.1 row member).1
  | @publishResolves pass row rest published found =>
      have stems := kept.batches pass
      have earned := kept.earned pass
      rw [found] at stems earned
      have resolved : Kept (state.resolve row) :=
        kept.resolve (stems row List.mem_cons_self)
      refine resolved.moveTo ?_ ?_
      · rw [Pass.batch_next]
        exact fun other member =>
          stems other (List.mem_cons_of_mem _ member)
      · rw [Pass.published_next]
        intro id member
        rcases List.mem_append.mp member with earlier | now
        · exact List.mem_append_left _ (earned id earlier)
        · exact List.mem_append_right _ now
  | @publishRejects pass row rest published found accepted =>
      have earned := kept.earned pass
      rw [found] at earned
      have stopped : Kept (state.moveTo pass (.marking published)) :=
        kept.moveTo (by simp [Pass.batch]) earned
      split
      · exact stopped.accept row
      · exact stopped
  | @markPublished pass published now found
  | @markUnreported pass published now found =>
      have earned := kept.earned pass
      rw [found] at earned
      have stopped : Kept (state.moveTo pass .releasing) :=
        kept.moveTo (by simp [Pass.batch]) (by simp [Pass.published])
      exact stopped.markPublished earned now
  | release found =>
      exact (kept.moveTo (by simp [Pass.batch])
        (by simp [Pass.published])).withLock _
  | prune now => exact kept.prunePublished _

/--
At every point of every run, each staged key still has a pending row or was
accepted by the broker, and each row ever inserted is still pending unless its
own publish resolved.
-/
theorem staged_pending_or_accepted (limit : Nat)
    {labels : List (Label n)} {final : State n}
    (reached : (machine limit).run (State.empty n) labels = some final) :
    (∀ key ∈ final.staged,
      (∃ row ∈ final.rows, row.key = key ∧ row.publishedAt = none) ∨
        key ∈ final.accepted) ∧
    ∀ origin ∈ final.inserted,
      (∃ row ∈ final.rows, row.id = origin.id ∧ row.publishedAt = none) ∨
        origin.id ∈ final.resolved := by
  have kept : Kept final :=
    Machine.run_preserves Kept kept_step kept_empty reached
  have pending : ∀ origin ∈ final.inserted,
      (∃ row ∈ final.rows, row.StemsFrom origin ∧
        row.publishedAt = none) ∨ origin.id ∈ final.resolved := by
    simpa only [OutboxRow.isPending, Option.isNone_iff_eq_none]
      using kept.present
  constructor
  · intro key member
    obtain ⟨origin, originMember, rfl⟩ := kept.covered key member
    rcases pending origin originMember with present | resolved
    · obtain ⟨row, rowMember, stem, unpublished⟩ := present
      exact Or.inl ⟨row, rowMember, stem.2, unpublished⟩
    · exact Or.inr (kept.delivered origin originMember resolved)
  · intro origin originMember
    refine (pending origin originMember).imp ?_ id
    rintro ⟨row, rowMember, stem, unpublished⟩
    exact ⟨row, rowMember, stem.1, unpublished⟩

def firedOnEmail : OutboxRow :=
  ⟨1, "event", "email.fired", 10, none⟩

def firedOnTelegram : OutboxRow :=
  ⟨2, "event", "telegram.fired", 10, none⟩

/--
The first pass loses its lock after one publish and crashes before marking;
the second reads both rows again and gives up on the first.
-/
def overlappingLabels {n : Nat} (first second : Fin n) : List (Label n) :=
  [.commitFire [firedOnEmail, firedOnTelegram], .acquire first,
    .findPending first [firedOnEmail, firedOnTelegram],
    .publishResolves first, .expire, .acquire second,
    .findPending second [firedOnTelegram, firedOnEmail], .crash first,
    .publishRejects second false, .markPublished second 20,
    .release second, .prune 86400100]

theorem staged_kept_when_overlapping :
    ∃ final : State 2,
      (machine 200).run (State.empty 2) (overlappingLabels 0 1) = some final ∧
        final.accepted = [("event", "email.fired")] ∧
        ∀ key ∈ [("event", "email.fired"), ("event", "telegram.fired")],
          (∃ row ∈ final.rows, row.key = key ∧ row.publishedAt = none) ∨
            key ∈ final.accepted := by
  obtain ⟨final, reached⟩ :
      ∃ final : State 2,
        (machine 200).run (State.empty 2) (overlappingLabels 0 1) = some final :=
    ⟨_, rfl⟩
  have staged : final.staged =
      [("event", "email.fired"), ("event", "telegram.fired")] := by
    cases reached
    rfl
  refine ⟨final, reached, ?_, ?_⟩
  · cases reached
    rfl
  · rw [← staged]
    exact (staged_pending_or_accepted 200 reached).1

end WeatherNotify.Watcher.Outbox

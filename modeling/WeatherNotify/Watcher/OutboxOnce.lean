import Mathlib.Data.List.Perm.Subperm
import WeatherNotify.Watcher.OutboxOrder

/-!
# Handing over once when nothing fails

While no call fails, no pass crashes and no pass outlives its lock, at most one
pass is between its acquire and its release.  What that pass reads as pending
was not handed over before, because everything handed over is marked before
the lock is given back; so no row is handed over twice, and a row the pass read
is handed over when it releases.
-/

namespace WeatherNotify.Watcher.Outbox

open WeatherNotify.Transition

variable {n : Nat}

/-! ## Runs without a fault -/

/-- No failed call, no crash, and no expiry under a pass in progress. -/
def FaultFree (taken : Taken (State n) (Label n)) : Prop :=
  match taken.label with
  | .acquireFails _ | .findPendingFails _ | .publishRejects _ _
  | .markPublishedFails _ _ | .releaseFails _ | .crash _ => False
  | .expire => ∀ pass, taken.source.lock = some pass →
      taken.source.passes pass = .finished
  | _ => True

instance (taken : Taken (State n) (Label n)) : Decidable (FaultFree taken) := by
  unfold FaultFree
  split <;> infer_instance

/-- The row stands among the first `limit` pending ones, whatever the order of ties. -/
def WithinLimit (limit : Nat) (rows : List OutboxRow) (row : OutboxRow) :
    Prop :=
  rows.countP (fun other => other.isPending && other.id != row.id &&
    decide (other.createdAt ≤ row.createdAt)) < limit

/-- Between its acquire and its release. -/
def Pass.inProgress : Pass → Bool
  | .waiting | .finished => false
  | _ => true

theorem Pass.inProgress_of_published {phase : Pass} {id : Nat}
    (member : id ∈ phase.published) : phase.inProgress = true := by
  cases phase with
  | publishing | marking => rfl
  | _ => cases member

theorem Pass.inProgress_of_batch {phase : Pass} {row : OutboxRow}
    (member : row ∈ phase.batch) : phase.inProgress = true := by
  cases phase with
  | publishing => rfl
  | _ => cases member

/-! ## The invariant -/

/-- One pass at a time, and nothing handed over is read again. -/
structure Exclusive (state : State n) : Prop where
  kept : Kept state
  ids : (state.rows.map OutboxRow.id).Sublist
    (state.inserted.map OutboxRow.id)
  holds : ∀ pass, (state.passes pass).inProgress = true →
    state.lock = some pass
  once : state.resolved.Nodup
  batchIds : ∀ pass, ((state.passes pass).batch.map OutboxRow.id).Nodup
  unsent : ∀ pass, ∀ row ∈ (state.passes pass).batch,
    row.id ∉ state.resolved
  unmarked : ∀ row ∈ state.rows, row.isPending = true →
    row.id ∈ state.resolved → ∃ pass, row.id ∈ (state.passes pass).published

namespace Exclusive

variable {state : State n}

theorem empty : Exclusive (State.empty n) where
  kept := kept_empty
  ids := List.Sublist.refl _
  holds pass running := by cases running
  once := List.nodup_nil
  batchIds _ := List.nodup_nil
  unsent pass row member := by cases member
  unmarked row member := by cases member

theorem rowIds_nodup (exclusive : Exclusive state) :
    (state.rows.map OutboxRow.id).Nodup :=
  exclusive.kept.distinct.sublist exclusive.ids

/-- Two passes in progress are one pass. -/
theorem unique (exclusive : Exclusive state) {left right : Fin n}
    (leftRuns : (state.passes left).inProgress = true)
    (rightRuns : (state.passes right).inProgress = true) : left = right := by
  have held := exclusive.holds left leftRuns
  rw [exclusive.holds right rightRuns] at held
  exact (Option.some.inj held).symm

/-- A pass that reads sees only rows that were never handed over. -/
theorem pending_not_resolved (exclusive : Exclusive state) {pass : Fin n}
    (reading : state.passes pass = .reading) {row : OutboxRow}
    (member : row ∈ state.rows) (pending : row.isPending = true) :
    row.id ∉ state.resolved := by
  intro resolved
  rcases exclusive.unmarked row member pending resolved with ⟨other, listed⟩
  have same : other = pass :=
    exclusive.unique (Pass.inProgress_of_published listed) (by rw [reading]; rfl)
  rw [same, reading] at listed
  cases listed

/-- A pass moves to a phase that publishes nothing and forgets no id. -/
theorem moveTo (exclusive : Exclusive state) {pass : Fin n} {phase : Pass}
    (kept : Kept (state.moveTo pass phase))
    (holds : phase.inProgress = true → state.lock = some pass)
    (batch : phase.batch = [])
    (published : ∀ row ∈ state.rows, row.isPending = true →
      row.id ∈ (state.passes pass).published → row.id ∈ phase.published) :
    Exclusive (state.moveTo pass phase) where
  kept := kept
  ids := exclusive.ids
  holds :=
    (Function.forall_update_iff state.passes fun other phase =>
      phase.inProgress = true → state.lock = some other).mpr
        ⟨holds, fun other _ => exclusive.holds other⟩
  once := exclusive.once
  batchIds := by
    refine (Function.forall_update_iff state.passes fun _ phase =>
      (phase.batch.map OutboxRow.id).Nodup).mpr
        ⟨?_, fun other _ => exclusive.batchIds other⟩
    rw [batch]
    exact List.nodup_nil
  unsent := by
    refine (Function.forall_update_iff state.passes fun _ phase =>
      ∀ row ∈ phase.batch, row.id ∉ state.resolved).mpr
        ⟨?_, fun other _ => exclusive.unsent other⟩
    rw [batch]
    exact fun row member => by cases member
  unmarked row member pending resolved := by
    rcases exclusive.unmarked row member pending resolved with
      ⟨other, listed⟩
    by_cases same : other = pass
    · subst same
      refine ⟨other, ?_⟩
      simpa [State.moveTo] using published row member pending listed
    · refine ⟨other, ?_⟩
      simpa [State.moveTo, same] using listed

theorem withLock (exclusive : Exclusive state)
    (lock : Common.LockKey (Fin n))
    (holds : ∀ pass, (state.passes pass).inProgress = true →
      lock = some pass) :
    Exclusive { state with lock := lock } :=
  ⟨exclusive.kept.withLock lock, exclusive.ids, holds, exclusive.once,
    exclusive.batchIds, exclusive.unsent, exclusive.unmarked⟩

/-- The table is rewritten; what is pending afterwards was pending before. -/
theorem withRows (exclusive : Exclusive state) {rows : List OutboxRow}
    (kept : Kept { state with rows := rows })
    (ids : (rows.map OutboxRow.id).Sublist (state.rows.map OutboxRow.id))
    (pending : ∀ row ∈ rows, row.isPending = true → row ∈ state.rows) :
    Exclusive { state with rows := rows } where
  kept := kept
  ids := ids.trans exclusive.ids
  holds := exclusive.holds
  once := exclusive.once
  batchIds := exclusive.batchIds
  unsent := exclusive.unsent
  unmarked row member isPending :=
    exclusive.unmarked row (pending row member isPending) isPending

theorem commitFire (exclusive : Exclusive state) {rows : List OutboxRow}
    (fresh : Fresh state.inserted rows) :
    Exclusive (state.commitFire rows) where
  kept := exclusive.kept.commitFire fresh
  ids := by
    simp only [State.commitFire, List.map_append]
    exact exclusive.ids.append (List.Sublist.refl _)
  holds := exclusive.holds
  once := exclusive.once
  batchIds := exclusive.batchIds
  unsent := exclusive.unsent
  unmarked row member pending resolved := by
    rcases List.mem_append.mp member with old | new
    · exact exclusive.unmarked row old pending resolved
    · have unused :=
        (fresh.1 row ((skipDuplicates_sublist _ _).mem new)).2
      exact absurd (exclusive.kept.known row.id resolved) unused

/-- A pass that reads takes over a batch of rows never handed over. -/
theorem findPending (exclusive : Exclusive state) {limit : Nat}
    {pass : Fin n} {batch : List OutboxRow}
    (reading : state.passes pass = .reading)
    (answer : FindPending limit state.rows batch)
    (kept : Kept (state.moveTo pass (.publishing batch []))) :
    Exclusive (state.moveTo pass (.publishing batch [])) where
  kept := kept
  ids := exclusive.ids
  holds := by
    refine (Function.forall_update_iff state.passes fun other phase =>
      phase.inProgress = true → state.lock = some other).mpr
        ⟨fun _ => ?_, fun other _ => exclusive.holds other⟩
    exact exclusive.holds pass (by rw [reading]; rfl)
  once := exclusive.once
  batchIds := by
    refine (Function.forall_update_iff state.passes fun _ phase =>
      (phase.batch.map OutboxRow.id).Nodup).mpr
        ⟨?_, fun other _ => exclusive.batchIds other⟩
    refine List.Nodup.map_on ?_ answer.2.1
    intro left leftIn right rightIn same
    exact List.inj_on_of_nodup_map exclusive.rowIds_nodup
      (answer.1 left leftIn).1 (answer.1 right rightIn).1 same
  unsent := by
    refine (Function.forall_update_iff state.passes fun _ phase =>
      ∀ row ∈ phase.batch, row.id ∉ state.resolved).mpr
        ⟨?_, fun other _ => exclusive.unsent other⟩
    intro row member
    exact exclusive.pending_not_resolved reading (answer.1 row member).1
      (answer.1 row member).2
  unmarked row member pending resolved :=
    absurd resolved (exclusive.pending_not_resolved reading member pending)

/-- The head of the batch is handed over and listed for the marking. -/
theorem publish (exclusive : Exclusive state) {pass : Fin n}
    {row : OutboxRow} {rest : List OutboxRow} {published : List Nat}
    (found : state.passes pass = .publishing (row :: rest) published)
    (kept : Kept ((state.moveTo pass
      (.next rest (published ++ [row.id]))).resolve row)) :
    Exclusive ((state.moveTo pass
      (.next rest (published ++ [row.id]))).resolve row) := by
  have running : (state.passes pass).inProgress = true := by
    rw [found]
    rfl
  have batchIds := exclusive.batchIds pass
  have unsent := exclusive.unsent pass
  rw [found] at batchIds unsent
  rcases List.nodup_cons.mp batchIds with ⟨headUnique, restNodup⟩
  have others : ∀ other, other ≠ pass → (state.passes other).batch = [] := by
    intro other different
    rw [List.eq_nil_iff_forall_not_mem]
    intro waiting member
    exact different
      (exclusive.unique (Pass.inProgress_of_batch member) running)
  refine ⟨kept, exclusive.ids, ?_, ?_, ?_, ?_, ?_⟩
  · exact (Function.forall_update_iff state.passes fun other phase =>
      phase.inProgress = true → state.lock = some other).mpr
        ⟨fun _ => exclusive.holds pass running,
          fun other _ => exclusive.holds other⟩
  · exact List.nodup_append.mpr ⟨exclusive.once, List.nodup_singleton _,
      fun id earlier other now => by
        rintro rfl
        rw [List.mem_singleton.mp now] at earlier
        exact unsent row List.mem_cons_self earlier⟩
  · refine (Function.forall_update_iff state.passes fun _ phase =>
      (phase.batch.map OutboxRow.id).Nodup).mpr
        ⟨?_, fun other _ => exclusive.batchIds other⟩
    rw [Pass.batch_next]
    exact restNodup
  · refine (Function.forall_update_iff state.passes fun _ phase =>
      ∀ waiting ∈ phase.batch,
        waiting.id ∉ state.resolved ++ [row.id]).mpr ⟨?_, ?_⟩
    · rw [Pass.batch_next]
      intro waiting member sent
      rcases List.mem_append.mp sent with earlier | now
      · exact unsent waiting (List.mem_cons_of_mem _ member) earlier
      · rw [← List.mem_singleton.mp now] at headUnique
        exact headUnique (List.mem_map_of_mem member)
    · intro other different waiting member
      rw [others other different] at member
      cases member
  · intro stored member pending resolved
    have listed : ∀ id, id ∈ published ++ [row.id] →
        id ∈ ((state.moveTo pass
          (.next rest (published ++ [row.id]))).passes pass).published := by
      intro id inList
      simpa [State.moveTo, Pass.published_next] using inList
    rcases List.mem_append.mp resolved with earlier | now
    · rcases exclusive.unmarked stored member pending earlier with
        ⟨other, inOther⟩
      have same : other = pass :=
        exclusive.unique (Pass.inProgress_of_published inOther) running
      rw [same, found] at inOther
      exact ⟨pass, listed _ (List.mem_append_left _ inOther)⟩
    · exact ⟨pass, listed _ (List.mem_append_right _ now)⟩

end Exclusive

/-! ## One step -/

theorem map_id_markPublished (ids : List Nat) (now : Int)
    (rows : List OutboxRow) :
    (markPublished ids now rows).map OutboxRow.id =
      rows.map OutboxRow.id := by
  rw [markPublished, List.map_map]
  refine List.map_congr_left fun row _ => ?_
  simp only [Function.comp_apply]
  split <;> rfl

theorem exclusive_step {limit : Nat} (taken : Taken (State n) (Label n))
    (stepped : (machine limit).step taken.source taken.label =
      some taken.target)
    (faultFree : FaultFree taken) (exclusive : Exclusive taken.source) :
    Exclusive taken.target := by
  rcases taken with ⟨source, label, target⟩
  replace stepped : step limit source label = some target := stepped
  replace exclusive : Exclusive source := exclusive
  have kept := kept_step stepped exclusive.kept
  cases stepped_of_step stepped with
  | acquireFails | findPendingFails | publishRejects | markLost
  | markUnreported | releaseFails | crash => exact faultFree.elim
  | commitFire fresh => exact exclusive.commitFire fresh
  | @acquired pass found free =>
      have idle : ∀ other, (source.passes other).inProgress = false := by
        intro other
        by_contra running
        rw [Bool.not_eq_false] at running
        have held := exclusive.holds other running
        rw [free] at held
        cases held
      have locked : Exclusive { source with lock := some pass } := by
        refine exclusive.withLock _ fun other running => ?_
        rw [idle other] at running
        cases running
      refine locked.moveTo kept (fun _ => rfl) rfl ?_
      intro row member pending listed
      rw [found] at listed
      cases listed
  | @busy pass holder found held =>
      refine exclusive.moveTo kept (fun running => by cases running) rfl ?_
      intro row member pending listed
      rw [found] at listed
      exact listed
  | expire =>
      refine exclusive.withLock none fun pass running => ?_
      rw [faultFree pass (exclusive.holds pass running)] at running
      cases running
  | @drained pass found answer =>
      have held := exclusive.holds pass (by rw [found]; rfl)
      refine exclusive.moveTo kept (fun _ => held) rfl ?_
      intro row member pending listed
      rw [found] at listed
      cases listed
  | @findPending pass batch found answer nonempty =>
      exact exclusive.findPending found answer kept
  | publishResolves found => exact exclusive.publish found kept
  | @markPublished pass published now found =>
      have held := exclusive.holds pass (by rw [found]; rfl)
      have earned := exclusive.kept.earned pass
      rw [found] at earned
      have unmarked : ∀ row ∈ markPublished published now source.rows,
          row.isPending = true → row ∈ source.rows ∧ row.id ∉ published := by
        intro row member pending
        rcases mem_markPublished_iff.mp member with ⟨stored, inRows, rfl⟩
        split
        · rename_i listed
          rw [if_pos listed] at pending
          cases pending
        · rename_i unlisted
          exact ⟨inRows, unlisted⟩
      have marked : Exclusive { source with
          rows := Outbox.markPublished published now source.rows } := by
        refine exclusive.withRows (exclusive.kept.markPublished earned now)
          ?_ fun row member pending => (unmarked row member pending).1
        rw [map_id_markPublished]
      refine marked.moveTo kept (fun _ => held) rfl ?_
      intro row member pending listed
      have inPublished : row.id ∈ (source.passes pass).published := listed
      rw [found] at inPublished
      exact absurd inPublished (unmarked row member pending).2
  | @release pass found =>
      have running : (source.passes pass).inProgress = true := by
        rw [found]
        rfl
      have finished : Exclusive (source.moveTo pass .finished) := by
        refine exclusive.moveTo ?_ (fun finished => by cases finished) rfl ?_
        · exact exclusive.kept.moveTo (by simp [Pass.batch])
            (by simp [Pass.published])
        · intro row member pending listed
          rw [found] at listed
          cases listed
      refine finished.withLock _ fun other inProgress => ?_
      by_cases same : other = pass
      · subst same
        simp [State.moveTo, Pass.inProgress] at inProgress
      · have otherRuns : (source.passes other).inProgress = true := by
          simpa [State.moveTo, same] using inProgress
        exact absurd (exclusive.unique otherRuns running) same
  | prune now =>
      refine exclusive.withRows kept ?_ ?_
      · exact List.filter_sublist.map OutboxRow.id
      · exact fun row member _ => List.mem_of_mem_filter member

/-! ## The row a pass read is handed over -/

/-- Past its read, the pass has the row still ahead or handed over. -/
def Served (id : Nat) (resolved : List Nat) : Pass → Prop
  | .publishing rest _ => id ∈ resolved ∨ ∃ row ∈ rest, row.id = id
  | .marking _ | .releasing => id ∈ resolved
  | _ => True

theorem served_next {id : Nat} {resolved : List Nat} {row : OutboxRow}
    {rest : List OutboxRow} {published : List Nat}
    (served : Served id resolved (.publishing (row :: rest) published))
    (more : List Nat) :
    Served id (resolved ++ [row.id]) (.next rest more) := by
  have ahead : id ∈ resolved ++ [row.id] ∨ ∃ later ∈ rest, later.id = id := by
    rcases served with earlier | ⟨waiting, member, isRow⟩
    · exact Or.inl (List.mem_append_left _ earlier)
    · rcases List.mem_cons.mp member with rfl | later
      · exact Or.inl (List.mem_append_right _ (by simp [isRow]))
      · exact Or.inr ⟨waiting, later, isRow⟩
  cases rest with
  | nil => exact ahead.resolve_right fun ⟨_, absent, _⟩ => by cases absent
  | cons next rest => exact ahead

theorem Served.mono {id : Nat} {resolved : List Nat} {phase : Pass}
    (served : Served id resolved phase) (more : List Nat) :
    Served id (resolved ++ more) phase := by
  cases phase with
  | publishing rest published =>
      exact Or.imp_left (List.mem_append_left _) served
  | marking | releasing => exact List.mem_append_left _ served
  | _ => trivial

theorem served_moveTo {id : Nat} {resolved : List Nat} {state : State n}
    {pass mover : Fin n} {phase : Pass}
    (served : Served id resolved (state.passes pass))
    (moved : mover = pass → Served id resolved phase) :
    Served id resolved ((state.moveTo mover phase).passes pass) := by
  by_cases same : pass = mover
  · subst same
    simpa [State.moveTo] using moved rfl
  · simpa [State.moveTo, same] using served

/-- A duplicate-free list of rows with a property is no longer than their count. -/
theorem length_le_countP {batch rows : List OutboxRow}
    {property : OutboxRow → Bool} (nodup : batch.Nodup)
    (found : ∀ row ∈ batch, row ∈ rows ∧ property row = true) :
    batch.length ≤ rows.countP property := by
  rw [List.countP_eq_length_filter]
  refine (nodup.subperm fun row member => ?_).length_le
  exact List.mem_filter.mpr (found row member)

/-- A read takes every pending row within its limit. -/
theorem mem_of_withinLimit {limit : Nat} {rows batch : List OutboxRow}
    {row : OutboxRow} (answer : FindPending limit rows batch)
    (ids : (rows.map OutboxRow.id).Nodup) (member : row ∈ rows)
    (pending : row.isPending = true) (within : WithinLimit limit rows row) :
    row ∈ batch := by
  by_contra absent
  have older : ∀ taken ∈ batch, taken.createdAt ≤ row.createdAt :=
    answer.2.2.2.2 row member pending absent
  have few : batch.length < limit := by
    refine Nat.lt_of_le_of_lt (length_le_countP answer.2.1 ?_) within
    intro taken inBatch
    have different : taken.id ≠ row.id := by
      intro same
      have equal := List.inj_on_of_nodup_map ids (answer.1 taken inBatch).1
        member same
      exact absent (equal ▸ inBatch)
    refine ⟨(answer.1 taken inBatch).1, ?_⟩
    simp [(answer.1 taken inBatch).2, different, older taken inBatch]
  -- below the limit the read takes every pending row, this one too
  have whole : batch.length + 1 ≤ rows.countP OutboxRow.isPending := by
    have nodup : (row :: batch).Nodup :=
      List.nodup_cons.mpr ⟨absent, answer.2.1⟩
    refine length_le_countP nodup fun taken inBatch => ?_
    rcases List.mem_cons.mp inBatch with rfl | inBatch
    · exact ⟨member, pending⟩
    · exact answer.1 taken inBatch
  have size := answer.2.2.1
  omega

/-- The batch limit of a pass admits the row whenever the pass reads. -/
def ReadsWithin (limit : Nat) (pass : Fin n) (row : OutboxRow)
    (taken : Taken (State n) (Label n)) : Prop :=
  ∀ batch, taken.label = .findPending pass batch →
    WithinLimit limit taken.source.rows row

/-- A row staged before the read, and where its pass stands with it. -/
structure Serving (pass : Fin n) (row : OutboxRow) (state : State n) :
    Prop where
  exclusive : Exclusive state
  dated : Dated state
  staged : row ∈ state.inserted
  served : Served row.id state.resolved (state.passes pass)

theorem withinLimit_congr {limit : Nat} {rows : List OutboxRow}
    {row other : OutboxRow} (sameId : other.id = row.id)
    (sameDate : other.createdAt = row.createdAt)
    (within : WithinLimit limit rows row) : WithinLimit limit rows other := by
  unfold WithinLimit
  rw [sameId, sameDate]
  exact within

/-- A read within the limit takes the row unless it was handed over. -/
theorem Serving.read {limit : Nat} {pass : Fin n} {row : OutboxRow}
    {state : State n} {batch : List OutboxRow}
    (serving : Serving pass row state)
    (answer : FindPending limit state.rows batch)
    (within : WithinLimit limit state.rows row) :
    row.id ∈ state.resolved ∨ ∃ taken ∈ batch, taken.id = row.id := by
  have kept := serving.exclusive.kept
  rcases kept.present row serving.staged with
    ⟨stored, member, ⟨sameId, -⟩, pending⟩ | resolved
  · rcases serving.dated stored member with
      ⟨origin, inserted, originId, originDate⟩
    have same : origin = row :=
      kept.origin_unique inserted serving.staged (originId.trans sameId)
    have sameDate : stored.createdAt = row.createdAt := by
      rw [← originDate, same]
    refine Or.inr ⟨stored, ?_, sameId⟩
    exact mem_of_withinLimit answer serving.exclusive.rowIds_nodup member
      pending (withinLimit_congr sameId sameDate within)
  · exact Or.inl resolved

theorem serving_step {limit : Nat} {pass : Fin n} {row : OutboxRow}
    (taken : Taken (State n) (Label n))
    (stepped : (machine limit).step taken.source taken.label =
      some taken.target)
    (guarded : FaultFree taken ∧ ReadsWithin limit pass row taken)
    (serving : Serving pass row taken.source) :
    Serving pass row taken.target := by
  rcases taken with ⟨source, label, target⟩
  have exclusive := exclusive_step _ stepped guarded.1 serving.exclusive
  replace stepped : step limit source label = some target := stepped
  have dated := dated_step stepped serving.dated
  have staged := inserted_step stepped serving.staged
  refine ⟨exclusive, dated, staged, ?_⟩
  have served : Served row.id source.resolved (source.passes pass) :=
    serving.served
  cases stepped_of_step stepped with
  | acquireFails | findPendingFails | publishRejects | markLost
  | markUnreported | releaseFails | crash => exact guarded.1.elim
  | commitFire | expire | prune => exact served
  | acquired | busy | release =>
      exact served_moveTo served fun _ => trivial
  | @drained mover found answer =>
      refine served_moveTo served ?_
      rintro rfl
      rcases serving.read answer (guarded.2 [] rfl) with
        resolved | ⟨_, absent, _⟩
      · exact resolved
      · cases absent
  | @findPending mover batch found answer nonempty =>
      refine served_moveTo served ?_
      rintro rfl
      exact serving.read answer (guarded.2 batch rfl)
  | @publishResolves mover first rest published found =>
      refine served_moveTo (served.mono [first.id]) ?_
      rintro rfl
      rw [found] at served
      exact served_next served _
  | @markPublished mover published now found =>
      refine served_moveTo served ?_
      rintro rfl
      rw [found] at served
      exact served

/-! ## The record of a run without a fault -/

/-- Without a fault, what the broker accepted is what was resolved. -/
theorem history_eq_resolved {limit : Nat} {labels : List (Label n)}
    {final : State n}
    (reached : (machine limit).run (State.empty n) labels = some final)
    (faultFree : ∀ taken ∈
      (machine limit).transitions (State.empty n) labels, FaultFree taken) :
    (machine limit).history acceptedIds (State.empty n) labels =
      final.resolved := by
  have recorded : final.resolved =
      [] ++ (machine limit).history acceptedIds (State.empty n) labels := by
    refine Machine.history_invariant
      (fun ids (state : State n) => state.resolved = ids) ?_ rfl faultFree
      reached
    rintro ⟨source, label, target⟩ ids stepped guarded same
    replace stepped : step limit source label = some target := stepped
    replace same : source.resolved = ids := same
    cases stepped_of_step stepped with
    | acquireFails | findPendingFails | publishRejects | markLost
    | markUnreported | releaseFails | crash => exact guarded.elim
    | publishResolves found =>
        simp only [acceptedIds, acceptedRow, found, Pass.publishing?,
          Option.map_some, Option.toList_some, State.resolve, ← same]
        rfl
    | _ =>
        rw [← same]
        exact (List.append_nil _).symm
  rw [recorded, List.nil_append]

theorem exclusive_run {limit : Nat} {labels : List (Label n)}
    {final : State n}
    (reached : (machine limit).run (State.empty n) labels = some final)
    (faultFree : ∀ taken ∈
      (machine limit).transitions (State.empty n) labels, FaultFree taken) :
    Exclusive final :=
  Machine.run_invariant exclusive_step Exclusive.empty faultFree reached

/-- Right after its acquire a pass is reading or gave up. -/
theorem served_of_acquire {limit : Nat} {state next : State n}
    {pass : Fin n}
    (stepped : step limit state (.acquire pass) = some next) (id : Nat) :
    Served id next.resolved (next.passes pass) := by
  cases stepped_of_step stepped with
  | acquired found free => simp [State.moveTo, Served]
  | busy found held => simp [State.moveTo, Served]

/-- When a pass releases, the rows it served have been handed over. -/
theorem mem_resolved_of_release {limit : Nat} {state next : State n}
    {pass : Fin n} {id : Nat}
    (stepped : step limit state (.release pass) = some next)
    (served : Served id state.resolved (state.passes pass)) :
    id ∈ state.resolved := by
  cases stepped_of_step stepped with
  | release found =>
      rw [found] at served
      exact served

/--
Without a fault no row is handed over twice, and a row staged before a pass
acquired the lock and within its batch limit has been handed over exactly once
when that pass releases.
-/
theorem handed_over_exactly_once (limit : Nat) {labels : List (Label n)}
    {final : State n}
    (reached : (machine limit).run (State.empty n) labels = some final)
    (faultFree : ∀ taken ∈
      (machine limit).transitions (State.empty n) labels, FaultFree taken) :
    ((machine limit).history acceptedIds (State.empty n) labels).Nodup ∧
      ∀ (pass : Fin n) (before middle after : List (Label n))
        (source : State n) (row : OutboxRow),
        labels =
          before ++ .acquire pass :: (middle ++ .release pass :: after) →
        (machine limit).run (State.empty n) before = some source →
        row ∈ source.inserted →
        (∀ taken ∈ (machine limit).transitions (State.empty n) labels,
          ReadsWithin limit pass row taken) →
        ((machine limit).history acceptedIds (State.empty n)
          (before ++ .acquire pass :: middle)).count row.id = 1 := by
  constructor
  · rw [history_eq_resolved reached faultFree]
    exact (exclusive_run reached faultFree).once
  · intro pass before middle after source row split beforeRun staged within
    subst split
    rw [Machine.run_append, beforeRun, Option.bind_some, Machine.run_cons]
      at reached
    rcases Option.bind_eq_some_iff.mp reached with ⟨holding, acquired, rest⟩
    rw [Machine.run_append] at rest
    rcases Option.bind_eq_some_iff.mp rest with ⟨last, worked, ending⟩
    rcases Option.bind_eq_some_iff.mp ending with ⟨next, released, -⟩
    -- the steps before the acquire, the acquire, those of the pass, the rest
    rw [Machine.forall_transitions_append _ beforeRun,
      Machine.forall_transitions_cons _ acquired,
      Machine.forall_transitions_append _ worked] at faultFree within
    rcases faultFree with ⟨early, first, passing, -⟩
    have atSource := exclusive_run beforeRun early
    have datedSource : Dated source :=
      Machine.run_preserves Dated dated_step
        (fun row member => by cases member) beforeRun
    have stepped : step limit source (.acquire pass) = some holding :=
      acquired
    have acquiring : Serving pass row holding :=
      { exclusive := exclusive_step _ acquired first atSource
        dated := dated_step stepped datedSource
        staged := inserted_step stepped staged
        served := served_of_acquire stepped row.id }
    have serving : Serving pass row last := by
      refine Machine.run_invariant serving_step acquiring ?_ worked
      intro taken member
      exact ⟨passing taken member, within.2.2.1 taken member⟩
    have releasing : step limit last (.release pass) = some next := released
    have resolved := mem_resolved_of_release releasing serving.served
    have wholeRun : (machine limit).run (State.empty n)
        (before ++ .acquire pass :: middle) = some last := by
      rw [Machine.run_append, beforeRun, Option.bind_some, Machine.run_cons,
        acquired, Option.bind_some, worked]
    have wholeFaultFree : ∀ taken ∈ (machine limit).transitions
        (State.empty n) (before ++ .acquire pass :: middle),
        FaultFree taken := by
      rw [Machine.forall_transitions_append _ beforeRun,
        Machine.forall_transitions_cons _ acquired]
      exact ⟨early, first, passing⟩
    rw [history_eq_resolved wholeRun wholeFaultFree]
    exact List.count_eq_one_of_mem serving.exclusive.once resolved

/-- Two callers flush at once while another firing commits. -/
def twoCallers (holder loser : Fin n) : List (Label n) :=
  [.commitFire [stagedFirst], .acquire holder, .acquire loser,
    .findPending holder [stagedFirst], .publishResolves holder,
    .commitFire [stagedLater], .markPublished holder 30, .release holder]

theorem handed_over_exactly_once_two_callers :
    ((machine 200).history acceptedIds (State.empty 2)
        (twoCallers 0 1)).Nodup ∧
      ((machine 200).history acceptedIds (State.empty 2)
        [.commitFire [stagedFirst], .acquire 0, .acquire 1,
          .findPending 0 [stagedFirst], .publishResolves 0,
          .commitFire [stagedLater], .markPublished 0 30]).count 1 = 1 := by
  rcases (show ∃ final : State 2,
      (machine 200).run (State.empty 2) (twoCallers 0 1) = some final from
        ⟨_, rfl⟩) with ⟨final, reached⟩
  have once := handed_over_exactly_once 200 reached (by decide +kernel)
  refine ⟨once.1, ?_⟩
  refine once.2 0 [.commitFire [stagedFirst]]
    [.acquire 1, .findPending 0 [stagedFirst], .publishResolves 0,
      .commitFire [stagedLater], .markPublished 0 30] [] _ stagedFirst rfl
    rfl ?_ ?_
  · decide +kernel
  · have short : ∀ taken ∈ (machine 200).transitions (State.empty 2)
        (twoCallers 0 1), taken.source.rows.length < 200 := by
      decide +kernel
    intro taken member batch _
    exact Nat.lt_of_le_of_lt List.countP_le_length (short taken member)

end WeatherNotify.Watcher.Outbox

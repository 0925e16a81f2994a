import WeatherNotify.Watcher.OutboxSafety

/-!
# Firing order at the broker

Every pass works through a snapshot of the pending rows, oldest first, and
stops at the first publish that fails.  Several snapshots may be in progress at
once and all of them may be stale.  What keeps the order is that a row is never
ahead of an older one that was visible with it: in the snapshot of any pass,
every older row was accepted already or comes before it in the same snapshot.
-/

namespace WeatherNotify.Watcher.Outbox

open WeatherNotify.Transition

variable {n : Nat}

/-! ## What the broker accepts -/

/-- The row whose publish a pass has under way. -/
def Pass.publishing? : Pass → Option OutboxRow
  | .publishing (row :: _) _ => some row
  | _ => none

/-- The row the broker accepts in a step, if it accepts one. -/
def acceptedRow (state : State n) : Label n → Option OutboxRow
  | .publishResolves pass => (state.passes pass).publishing?
  | .publishRejects pass accepted =>
      if accepted then (state.passes pass).publishing? else none
  | _ => none

/-- What a step puts on record: the id of the row the broker accepts in it. -/
def acceptedIds (taken : Taken (State n) (Label n)) : List Nat :=
  ((acceptedRow taken.source taken.label).map OutboxRow.id).toList

/-! ## Rows keep the instant of their creation -/

/-- Every stored row has the creation instant it was inserted with. -/
def Dated (state : State n) : Prop :=
  ∀ row ∈ state.rows, ∃ origin ∈ state.inserted,
    origin.id = row.id ∧ origin.createdAt = row.createdAt

theorem Dated.commitFire {state : State n} (dated : Dated state)
    (rows : List OutboxRow) : Dated (state.commitFire rows) := by
  intro row member
  rcases List.mem_append.mp member with old | new
  · rcases dated row old with ⟨origin, inserted, same⟩
    exact ⟨origin, List.mem_append_left _ inserted, same⟩
  · exact ⟨row, List.mem_append_right _ new, rfl, rfl⟩

theorem Dated.markPublished {state : State n} (dated : Dated state)
    (ids : List Nat) (now : Int) :
    Dated { state with rows := Outbox.markPublished ids now state.rows } := by
  intro row member
  rcases mem_markPublished_iff.mp member with ⟨stored, inRows, rfl⟩
  rcases dated stored inRows with ⟨origin, inserted, same⟩
  refine ⟨origin, inserted, ?_⟩
  split <;> exact same

theorem Dated.prunePublished {state : State n} (dated : Dated state)
    (before : Int) :
    Dated { state with rows := Outbox.prunePublished before state.rows } :=
  fun row member => dated row (List.mem_of_mem_filter member)

theorem dated_step {limit : Nat} {state next : State n} {label : Label n}
    (stepped : step limit state label = some next)
    (dated : Dated state) : Dated next := by
  cases stepped_of_step stepped with
  | commitFire fresh => exact dated.commitFire _
  | markPublished found => exact dated.markPublished _ _
  | markUnreported found => exact dated.markPublished _ _
  | prune now => exact dated.prunePublished _
  | publishRejects found accepted =>
      split <;> exact dated
  | _ => exact dated

/-! ## Snapshots respect the order -/

/--
Wherever the newer row stands in the snapshot, the older one is on record or
stands before it.
-/
def Preceded (older newer : Nat) (ids : List Nat)
    (batch : List OutboxRow) : Prop :=
  ∀ before row after, batch = before ++ row :: after → row.id = newer →
    older ∈ ids ∨ ∃ ahead ∈ before, ahead.id = older

theorem preceded_nil (older newer : Nat) (ids : List Nat) :
    Preceded older newer ids [] := by
  intro before row after split
  simp at split

theorem Preceded.mono {older newer : Nat} {ids more : List Nat}
    {batch : List OutboxRow} (preceded : Preceded older newer ids batch) :
    Preceded older newer (ids ++ more) batch := by
  intro before row after split isNewer
  exact (preceded before row after split isNewer).imp
    (List.mem_append_left _) id

/-- The head of the snapshot goes on record. -/
theorem Preceded.tail {older newer : Nat} {ids : List Nat} {row : OutboxRow}
    {rest : List OutboxRow}
    (preceded : Preceded older newer ids (row :: rest)) :
    Preceded older newer (ids ++ [row.id]) rest := by
  intro before other after split isNewer
  have whole : row :: rest = (row :: before) ++ other :: after := by
    rw [split, List.cons_append]
  rcases preceded (row :: before) other after whole isNewer with
    recorded | ⟨ahead, member, isOlder⟩
  · exact Or.inl (List.mem_append_left _ recorded)
  · rcases List.mem_cons.mp member with rfl | later
    · exact Or.inl (List.mem_append_right _ (by simp [isOlder]))
    · exact Or.inr ⟨ahead, later, isOlder⟩

/-- The order of one pair of rows, for the ids on record. -/
structure Ordered (older newer : OutboxRow) (ids : List Nat)
    (state : State n) : Prop where
  kept : Kept state
  dated : Dated state
  recorded : ∀ id ∈ state.resolved, id ∈ ids
  batches : ∀ pass, Preceded older.id newer.id ids (state.passes pass).batch

/-- The older row is visible wherever a row under the newer one's id is. -/
def Visible (older newer : OutboxRow) (taken : Taken (State n) (Label n)) :
    Prop :=
  ∀ origin ∈ taken.source.inserted, origin.id = newer.id →
    newer ∈ taken.source.inserted ∧ older ∈ taken.source.inserted

/-- A fresh snapshot has the older row before the newer one or on record. -/
theorem preceded_of_findPending {limit : Nat} {state : State n}
    {older newer : OutboxRow} {ids : List Nat} {batch : List OutboxRow}
    (earlier : older.createdAt < newer.createdAt)
    (ordered : Ordered older newer ids state)
    (visible : ∀ origin ∈ state.inserted, origin.id = newer.id →
      newer ∈ state.inserted ∧ older ∈ state.inserted)
    (answer : FindPending limit state.rows batch) :
    Preceded older.id newer.id ids batch := by
  have dates : ∀ row ∈ state.rows, ∀ origin ∈ state.inserted,
      origin.id = row.id → row.createdAt = origin.createdAt := by
    intro row member origin inserted sameId
    rcases ordered.dated row member with ⟨dated, datedMember, id, createdAt⟩
    have same : dated = origin := ordered.kept.origin_unique datedMember
      inserted (id.trans sameId.symm)
    rw [← createdAt, same]
  intro before row after split isNewer
  have inBatch : row ∈ batch := by
    rw [split]
    simp
  have stored := (answer.1 row inBatch).1
  rcases ordered.dated row stored with ⟨origin, inserted, sameId, -⟩
  rcases visible origin inserted (sameId.trans isNewer) with
    ⟨newerIn, olderIn⟩
  have newerDate := dates row stored newer newerIn isNewer.symm
  rcases ordered.kept.present older olderIn with
    ⟨first, firstStored, ⟨firstId, -⟩, pending⟩ | resolved
  · have firstDate := dates first firstStored older olderIn firstId.symm
    right
    have firstIn : first ∈ batch := by
      by_contra absent
      have := answer.2.2.2.2 first firstStored pending absent row inBatch
      omega
    rw [split] at firstIn
    rcases List.mem_append.mp firstIn with ahead | behind
    · exact ⟨first, ahead, firstId⟩
    · -- behind the newer row it would have to be younger
      have sorted := answer.2.2.2.1
      rw [split, List.pairwise_append] at sorted
      rcases List.mem_cons.mp behind with rfl | later
      · omega
      · have := (List.pairwise_cons.mp sorted.2.1).1 first later
        omega
  · exact Or.inl (ordered.recorded older.id resolved)

theorem batches_moveTo {older newer : Nat} {ids : List Nat}
    {state : State n} {pass : Fin n} {phase : Pass}
    (batches : ∀ other, Preceded older newer ids (state.passes other).batch)
    (moved : Preceded older newer ids phase.batch) :
    ∀ other, Preceded older newer ids
      ((state.moveTo pass phase).passes other).batch := by
  exact (Function.forall_update_iff state.passes
    (fun _ phase => Preceded older newer ids phase.batch)).mpr
      ⟨moved, fun other _ => batches other⟩

/-! ## One step -/

/-- A step that publishes nothing leaves the record as it is. -/
theorem Ordered.keeps {older newer : OutboxRow} {ids more : List Nat}
    {source target : State n} (ordered : Ordered older newer ids source)
    (kept : Kept target) (dated : Dated target)
    (resolved : target.resolved = source.resolved)
    (batches : ∀ pass,
      Preceded older.id newer.id ids (target.passes pass).batch) :
    Ordered older newer (ids ++ more) target where
  kept := kept
  dated := dated
  recorded id member := by
    rw [resolved] at member
    exact List.mem_append_left _ (ordered.recorded id member)
  batches pass := (batches pass).mono

theorem ordered_step {limit : Nat} {older newer : OutboxRow}
    (earlier : older.createdAt < newer.createdAt)
    (taken : Taken (State n) (Label n)) (ids : List Nat)
    (stepped : (machine limit).step taken.source taken.label =
      some taken.target)
    (visible : Visible older newer taken)
    (ordered : Ordered older newer ids taken.source) :
    Ordered older newer (ids ++ acceptedIds taken) taken.target := by
  rcases taken with ⟨source, label, target⟩
  replace stepped : step limit source label = some target := stepped
  replace ordered : Ordered older newer ids source := ordered
  have kept := kept_step stepped ordered.kept
  have dated := dated_step stepped ordered.dated
  have stopped : ∀ pass : Fin n, ∀ phase : Pass, phase.batch = [] →
      ∀ other, Preceded older.id newer.id ids
        ((source.moveTo pass phase).passes other).batch := by
    intro pass phase empty
    refine batches_moveTo ordered.batches ?_
    rw [empty]
    exact preceded_nil _ _ _
  cases stepped_of_step stepped with
  | @publishResolves pass row rest published found =>
      have preceded := ordered.batches pass
      rw [found] at preceded
      have record : ∀ target : State n,
          acceptedIds ⟨source, .publishResolves pass, target⟩ = [row.id] := by
        intro target
        simp only [acceptedIds, acceptedRow, found, Pass.publishing?,
          Option.map_some, Option.toList_some]
      rw [record]
      refine ⟨kept, dated, ?_, ?_⟩
      · intro id member
        rcases List.mem_append.mp member with old | new
        · exact List.mem_append_left _ (ordered.recorded id old)
        · exact List.mem_append_right _ new
      · refine batches_moveTo (fun other => (ordered.batches other).mono) ?_
        rw [Pass.batch_next]
        exact preceded.tail
  | @publishRejects pass row rest published found accepted =>
      refine ordered.keeps kept dated ?_ ?_
      · cases accepted <;> rfl
      · cases accepted <;> exact stopped pass _ rfl
  | @findPending pass batch found answer nonempty =>
      refine ordered.keeps kept dated rfl
        (batches_moveTo ordered.batches ?_)
      exact preceded_of_findPending earlier ordered visible answer
  | commitFire | expire | prune =>
      exact ordered.keeps kept dated rfl ordered.batches
  | acquired | busy | acquireFails | drained | findPendingFails
  | markPublished | markLost | markUnreported | release | releaseFails
  | crash =>
      exact ordered.keeps kept dated rfl (stopped _ _ rfl)

/-! ## Every run -/

theorem ordered_empty (older newer : OutboxRow) :
    Ordered older newer [] (State.empty n) where
  kept := kept_empty
  dated row member := by cases member
  recorded id member := by cases member
  batches _ := preceded_nil _ _ _

theorem inserted_step {limit : Nat} {state next : State n} {label : Label n}
    (stepped : step limit state label = some next) :
    state.inserted ⊆ next.inserted := by
  cases stepped_of_step stepped with
  | commitFire fresh => exact List.subset_append_left _ _
  | publishRejects found accepted => split <;> exact List.Subset.refl _
  | _ => exact List.Subset.refl _

theorem inserted_run {limit : Nat} {state final : State n}
    {labels : List (Label n)}
    (reached : (machine limit).run state labels = some final) :
    state.inserted ⊆ final.inserted :=
  Machine.run_preserves (fun later => state.inserted ⊆ later.inserted)
    (fun stepped subset => List.Subset.trans subset (inserted_step stepped))
    (List.Subset.refl _) reached

/-- An accepted row heads the snapshot of a pass. -/
theorem exists_publishing_of_acceptedRow {state : State n} {label : Label n}
    {row : OutboxRow} (accepts : acceptedRow state label = some row) :
    ∃ pass rest published,
      state.passes pass = .publishing (row :: rest) published := by
  have heads : ∀ pass, (state.passes pass).publishing? = some row →
      ∃ pass rest published,
        state.passes pass = .publishing (row :: rest) published := by
    intro pass head
    refine ⟨pass, ?_⟩
    generalize state.passes pass = phase at head
    unfold Pass.publishing? at head
    split at head
    · cases head
      exact ⟨_, _, rfl⟩
    · cases head
  unfold acceptedRow at accepts
  split at accepts
  · exact heads _ accepts
  · split at accepts
    · exact heads _ accepts
    · cases accepts
  · cases accepts

/-- What was inserted when a step was taken is inserted at the end. -/
theorem inserted_of_mem_transitions {limit : Nat} {state final : State n}
    {labels : List (Label n)}
    (reached : (machine limit).run state labels = some final)
    {taken : Taken (State n) (Label n)}
    (member : taken ∈ (machine limit).transitions state labels) :
    taken.source.inserted ⊆ final.inserted := by
  rcases (Machine.mem_transitions_iff _).mp member with
    ⟨before, after, rfl, source, -⟩
  rw [Machine.run_append, source, Option.bind_some] at reached
  exact inserted_run reached

/--
Whatever overlaps, fails or crashes: whenever the broker accepts the newer of
two rows that became visible in order, it has accepted the older one before.
-/
theorem accepted_in_firing_order (limit : Nat) {labels : List (Label n)}
    {final : State n}
    (reached : (machine limit).run (State.empty n) labels = some final)
    {older newer : OutboxRow} (earlier : older.createdAt < newer.createdAt)
    (inserted : newer ∈ final.inserted)
    (visible : ∀ taken ∈ (machine limit).transitions (State.empty n) labels,
      newer ∈ taken.source.inserted → older ∈ taken.source.inserted)
    {before after : List (Label n)} {label : Label n}
    (split : labels = before ++ label :: after) {state : State n}
    (source : (machine limit).run (State.empty n) before = some state)
    (accepts : (acceptedRow state label).map OutboxRow.id =
      some newer.id) :
    older.id ∈
      (machine limit).history acceptedIds (State.empty n) before := by
  have keptFinal : Kept final :=
    Machine.run_preserves Kept kept_step kept_empty reached
  have visibleAt : ∀ other ∈
      (machine limit).transitions (State.empty n) labels,
      Visible older newer other := by
    intro other member origin originIn sameId
    have originFinal := inserted_of_mem_transitions reached member originIn
    have same := keptFinal.origin_unique originFinal inserted sameId
    rw [same] at originIn
    exact ⟨originIn, visible other member originIn⟩
  have guarded : ∀ other ∈
      (machine limit).transitions (State.empty n) before,
      Visible older newer other := by
    rw [split] at visibleAt
    exact ((Machine.forall_transitions_append _ source _).mp visibleAt).1
  have ordered : Ordered older newer
      ((machine limit).history acceptedIds (State.empty n) before) state :=
    Machine.history_invariant (Ordered older newer)
      (fun other ids => ordered_step earlier other ids)
      (ordered_empty older newer) guarded source
  rcases Option.map_eq_some_iff.mp accepts with ⟨row, accepted, isNewer⟩
  rcases exists_publishing_of_acceptedRow accepted with
    ⟨pass, rest, published, found⟩
  have preceded := ordered.batches pass
  rw [found] at preceded
  rcases preceded [] row rest rfl isNewer with recorded | ⟨_, absent, _⟩
  · exact recorded
  · cases absent

def stagedFirst : OutboxRow :=
  ⟨1, "heat", "email.fired", 10, none⟩

def stagedLater : OutboxRow :=
  ⟨2, "storm", "email.fired", 20, none⟩

/-- One pass loses its lock and goes on beside the next one. -/
def staleSnapshot (stale current : Fin n) : List (Label n) :=
  [.commitFire [stagedFirst], .commitFire [stagedLater], .acquire stale,
    .findPending stale [stagedFirst, stagedLater], .expire, .acquire current,
    .findPending current [stagedFirst, stagedLater], .publishResolves current]

theorem accepted_in_firing_order_stale :
    ∃ state : State 2,
      (machine 200).run (State.empty 2) (staleSnapshot 0 1) = some state ∧
        1 ∈ (machine 200).history acceptedIds (State.empty 2)
          (staleSnapshot 0 1) := by
  rcases Option.map_eq_some_iff.mp (show ((machine 200).run (State.empty 2)
      (staleSnapshot 0 1)).map (fun state => (state.passes 1).publishing?) =
        some (some stagedLater) by decide +kernel) with
    ⟨state, reached, found⟩
  refine ⟨state, reached, ?_⟩
  rcases Option.map_eq_some_iff.mp (show ((machine 200).run (State.empty 2)
      (staleSnapshot 0 1 ++ [.publishResolves 1])).map State.inserted =
        some [stagedFirst, stagedLater] by decide +kernel) with
    ⟨final, whole, inserted⟩
  have earlier : stagedFirst.createdAt < stagedLater.createdAt := by decide
  refine accepted_in_firing_order 200 whole earlier ?_ (by decide +kernel)
    rfl reached ?_
  · rw [inserted]
    decide
  · simp only [acceptedRow, found]
    rfl

end WeatherNotify.Watcher.Outbox

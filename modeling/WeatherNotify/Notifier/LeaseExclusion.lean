import WeatherNotify.Notifier.Lease

/-!
# What the lease excludes

A handling whose lease is still running owns the row: its claim is the latest
one and the row carries its stamp.  The invariant survives every step except
one, the release of a handling that has outlived its lease, because
`releaseClaim` names the row and not the holder.  Runs in which holders
finish in time never take that step, and there the claim excludes concurrent
senders.
-/

namespace WeatherNotify.Notifier.Lease

open WeatherNotify.Contracts
open WeatherNotify.Transition

variable {n : Nat}

/-- The handling holds nothing, or its lease is still running. -/
def Phase.inTime (clock : Int) (phase : Phase) : Bool :=
  match phase.lease with
  | none => true
  | some stamp => clock ≤ stamp + claimLeaseMs

/-- Every holder is within its lease. -/
def Timely (state : State n) : Prop :=
  ∀ consumer, (state.phase consumer).inTime state.clock = true

instance (state : State n) : Decidable (Timely state) :=
  inferInstanceAs
    (Decidable (∀ consumer,
      (state.phase consumer).inTime state.clock = true))

/-- A running lease belongs to the latest claim and is written on the row. -/
structure Honoured (state : State n) : Prop where
  leased : ∀ consumer stamp,
    (state.phase consumer).lease = some stamp →
      state.clock ≤ stamp + claimLeaseMs →
        state.owner = some consumer ∧
          ∃ status, state.row = some ⟨status, some stamp⟩
  cutoffs : ∀ consumer leaseCutoff,
    (state.phase consumer).cutoff = some leaseCutoff →
      leaseCutoff + claimLeaseMs ≤ state.clock
  present : ∀ consumer,
    (state.phase consumer).sawRow = true → state.row ≠ none

theorem Initial.honoured {state : State n} (initial : Initial state) :
    Honoured state where
  leased consumer stamp holds := by
    simp [initial.waiting consumer, Phase.lease] at holds
  cutoffs consumer leaseCutoff waits := by
    simp [initial.waiting consumer, Phase.cutoff] at waits
  present consumer saw := by
    simp [initial.waiting consumer, Phase.sawRow] at saw

/-! ## Phases after a failure hold nothing -/

@[simp]
theorem lease_afterFailure (maxAttempts attempts : Nat) (permanent : Bool) :
    (Phase.afterFailure maxAttempts attempts permanent).lease = none := by
  unfold Phase.afterFailure
  split <;> rfl

@[simp]
theorem cutoff_afterFailure (maxAttempts attempts : Nat) (permanent : Bool) :
    (Phase.afterFailure maxAttempts attempts permanent).cutoff = none := by
  unfold Phase.afterFailure
  split <;> rfl

@[simp]
theorem sawRow_afterFailure (maxAttempts attempts : Nat) (permanent : Bool) :
    (Phase.afterFailure maxAttempts attempts permanent).sawRow = false := by
  unfold Phase.afterFailure
  split <;> rfl

/-- A rejected database call ends the hold on the row. -/
theorem afterDatabaseFailure_phase
    {maxAttempts : Nat} {attempts : Fin n → Nat} {consumer : Fin n}
    {phase next : Phase}
    (rejected :
      afterDatabaseFailure maxAttempts attempts consumer phase =
        some next) :
    next.lease = none ∧ next.cutoff = none ∧ next.sawRow = false := by
  cases phase <;> cases rejected <;>
    first
      | exact ⟨rfl, rfl, rfl⟩
      | simp

/-! ## Steps keep the invariant -/

namespace Honoured

variable {state : State n}

/-- Moving one handling without touching the row. -/
theorem moveTo (honoured : Honoured state)
    (consumer : Fin n) {phase : Phase}
    (sameLease : phase.lease = none ∨
      phase.lease = (state.phase consumer).lease)
    (cutoffPast : ∀ leaseCutoff, phase.cutoff = some leaseCutoff →
      leaseCutoff + claimLeaseMs ≤ state.clock)
    (rowSeen : phase.sawRow = true → state.row ≠ none) :
    Honoured (state.moveTo consumer phase) where
  leased other stamp holds running := by
    by_cases same : other = consumer
    · subst same
      simp only [State.moveTo, Function.update_self] at holds running ⊢
      rcases sameLease with none | kept
      · rw [none] at holds
        cases holds
      · exact honoured.leased other stamp (kept ▸ holds) running
    · simp only [State.moveTo, Function.update_of_ne same]
        at holds running ⊢
      exact honoured.leased other stamp holds running
  cutoffs other leaseCutoff waits := by
    by_cases same : other = consumer
    · subst same
      simp only [State.moveTo, Function.update_self] at waits ⊢
      exact cutoffPast leaseCutoff waits
    · simp only [State.moveTo, Function.update_of_ne same] at waits ⊢
      exact honoured.cutoffs other leaseCutoff waits
  present other saw := by
    by_cases same : other = consumer
    · subst same
      simp only [State.moveTo, Function.update_self] at saw ⊢
      exact rowSeen saw
    · simp only [State.moveTo, Function.update_of_ne same] at saw ⊢
      exact honoured.present other saw

/-- A granted claim, when no other lease was running. -/
theorem granted (honoured : Honoured state) (consumer : Fin n)
    (stamp : Int)
    (idle : ∀ other otherStamp,
      (state.phase other).lease = some otherStamp →
        ¬ state.clock ≤ otherStamp + claimLeaseMs) :
    Honoured (state.granted consumer stamp (Row.leasedAt stamp)) where
  leased other otherStamp holds running := by
    by_cases same : other = consumer
    · subst same
      simp only [State.granted, State.moveTo, Function.update_self,
        Phase.lease, Option.some.injEq] at holds
      subst holds
      exact ⟨rfl, .pending, rfl⟩
    · simp only [State.granted, State.moveTo, Function.update_of_ne same]
        at holds running
      exact (idle other otherStamp holds running).elim
  cutoffs other leaseCutoff waits := by
    by_cases same : other = consumer
    · subst same
      simp [State.granted, State.moveTo, Phase.cutoff] at waits
    · simp only [State.granted, State.moveTo, Function.update_of_ne same]
        at waits ⊢
      exact honoured.cutoffs other leaseCutoff waits
  present _ _ := by
    simp [State.granted]

/-- A handling leaves the row, rewriting it in a way its successor allows. -/
theorem rewrite (honoured : Honoured state) (consumer : Fin n)
    {phase : Phase} {row : Option Row}
    (noLease : phase.lease = none) (noCutoff : phase.cutoff = none)
    (notSeen : phase.sawRow = false)
    (rowKept : row = none → state.row = none)
    (leaseKept : ∀ other, other ≠ consumer →
      ∀ status stamp, state.owner = some other →
        state.row = some ⟨status, some stamp⟩ →
          ∃ later, row = some ⟨later, some stamp⟩) :
    Honoured { state.moveTo consumer phase with row := row } where
  leased other stamp holds running := by
    by_cases same : other = consumer
    · subst same
      simp [State.moveTo, noLease] at holds
    · simp only [State.moveTo, Function.update_of_ne same]
        at holds running ⊢
      obtain ⟨owned, status, found⟩ :=
        honoured.leased other stamp holds running
      exact ⟨owned, leaseKept other same status stamp owned found⟩
  cutoffs other leaseCutoff waits := by
    by_cases same : other = consumer
    · subst same
      simp [State.moveTo, noCutoff] at waits
    · simp only [State.moveTo, Function.update_of_ne same] at waits ⊢
      exact honoured.cutoffs other leaseCutoff waits
  present other saw gone := by
    by_cases same : other = consumer
    · subst same
      simp [State.moveTo, notSeen] at saw
    · simp only [State.moveTo, Function.update_of_ne same] at saw
      exact honoured.present other saw (rowKept gone)

/-- A row a claim can take over carries no running lease. -/
theorem idle_of_claimable (honoured : Honoured state)
    {consumer : Fin n} {leaseCutoff : Int} {row : Row}
    (waits : (state.phase consumer).cutoff = some leaseCutoff)
    (found : state.row = some row)
    (free : claimable leaseCutoff row.status row.claimedAt = true)
    (other : Fin n) (stamp : Int)
    (holds : (state.phase other).lease = some stamp) :
    ¬ state.clock ≤ stamp + claimLeaseMs := by
  intro running
  obtain ⟨_, status, leased⟩ := honoured.leased other stamp holds running
  have past := honoured.cutoffs consumer leaseCutoff waits
  rw [found] at leased
  cases leased
  simp only [claimable, Bool.and_eq_true, decide_eq_true_eq] at free
  have expired : stamp < leaseCutoff := free.2
  omega

end Honoured

/-- At every release the releasing handling is still within its lease. -/
def ReleasesInTime (taken : Taken (State n) (Label n)) : Prop :=
  ∀ consumer, taken.label = .release consumer →
    (taken.source.phase consumer).inTime taken.source.clock = true

theorem settled_keeps_lease (status later : NotifStatus) (stamp : Int) :
    settled later (some ⟨status, some stamp⟩) = ⟨later, some stamp⟩ :=
  rfl

/-- One step keeps the invariant unless it is a release that comes too late. -/
theorem honoured_step
    {maxAttempts : Nat} {attempts : Fin n → Nat}
    {state next : State n} {label : Label n}
    (stepped : step maxAttempts attempts state label = some next)
    (inTime : ReleasesInTime ⟨state, label, next⟩)
    (honoured : Honoured state) :
    Honoured next := by
  cases stepped_of_step stepped with
  | tick elapsed =>
      exact {
        leased := fun consumer stamp holds running =>
          honoured.leased consumer stamp holds (by simp at running; omega)
        cutoffs := fun consumer leaseCutoff waits => by
          have past := honoured.cutoffs consumer leaseCutoff waits
          simp only
          omega
        present := honoured.present }
  | readCutoff found =>
      refine honoured.moveTo _ (Or.inl rfl) ?_ (by simp [Phase.sawRow])
      intro leaseCutoff equal
      simp only [Phase.cutoff, Option.some.injEq] at equal
      omega
  | @readStamp consumer _ found =>
      refine honoured.moveTo _ (Or.inl rfl) ?_ (by simp [Phase.sawRow])
      intro leaseCutoff equal
      refine honoured.cutoffs consumer leaseCutoff ?_
      rw [found]
      exact equal
  | inserted found missing =>
      refine honoured.granted _ _ ?_
      intro other stamp holds running
      obtain ⟨_, _, present⟩ := honoured.leased other stamp holds running
      rw [missing] at present
      cases present
  | @collided consumer _ _ _ found present =>
      refine honoured.moveTo _ (Or.inl rfl) ?_ (by simp [present])
      intro leaseCutoff equal
      refine honoured.cutoffs consumer leaseCutoff ?_
      rw [found]
      exact equal
  | tookOver found present free =>
      refine honoured.granted _ _ ?_
      exact honoured.idle_of_claimable (by rw [found]; rfl) present free
  | @missed consumer _ _ found held =>
      refine honoured.moveTo _ (Or.inl rfl) (by simp [Phase.cutoff]) ?_
      intro _
      exact honoured.present consumer (by rw [found]; rfl)
  | @vanished consumer _ found missing =>
      exact (honoured.present consumer (by rw [found]; rfl) missing).elim
  | duplicate found present sent =>
      exact honoured.moveTo _ (Or.inl rfl) (by simp [Phase.cutoff])
        (by simp [Phase.sawRow])
  | inFlight found present unsent =>
      exact honoured.moveTo _ (Or.inl (lease_afterFailure _ _ _))
        (by simp) (by simp)
  | @sendResolves consumer stamp found =>
      have moved : Honoured
          (state.moveTo consumer (.settlingSent stamp)) :=
        honoured.moveTo consumer (Or.inr (by rw [found]; rfl))
          (by simp [Phase.cutoff]) (by simp [Phase.sawRow])
      exact ⟨moved.leased, moved.cutoffs, moved.present⟩
  | sendRejects found =>
      exact honoured.moveTo _ (Or.inr (by rw [found]; rfl))
        (by simp [Phase.cutoff]) (by simp [Phase.sawRow])
  | @release consumer stamp permanent found =>
      refine honoured.rewrite consumer (lease_afterFailure _ _ _)
        (cutoff_afterFailure _ _ _) (sawRow_afterFailure _ _ _)
        (by simp) ?_
      intro other different status _ owned _
      have running := inTime consumer rfl
      simp only [found, Phase.inTime, Phase.lease, decide_eq_true_eq]
        at running
      have own := (honoured.leased consumer stamp
        (by rw [found]; rfl) running).1
      rw [owned] at own
      cases own
      exact (different rfl).elim
  | settleSent found =>
      refine honoured.rewrite _ rfl rfl rfl (by simp) ?_
      intro other _ status stamp _ present
      exact ⟨.sent, by rw [present, settled_keeps_lease]⟩
  | settleFailed found =>
      refine honoured.rewrite _ rfl rfl rfl (by simp) ?_
      intro other _ status stamp _ present
      exact ⟨.failed, by rw [present, settled_keeps_lease]⟩
  | republish found =>
      exact honoured.moveTo _ (Or.inl rfl) (by simp [Phase.cutoff])
        (by simp [Phase.sawRow])
  | databaseFails rejected =>
      obtain ⟨noLease, noCutoff, notSeen⟩ :=
        afterDatabaseFailure_phase rejected
      exact honoured.moveTo _ (Or.inl noLease) (by simp [noCutoff])
        (by simp [notSeen])

/-! ## Exclusion of senders -/

/-- A timely state satisfies what the release guard asks of its steps. -/
theorem Timely.releasesInTime {taken : Taken (State n) (Label n)}
    (timely : Timely taken.source) : ReleasesInTime taken :=
  fun consumer _ => timely consumer

/-- Two holders within their leases are the same consumer. -/
theorem Honoured.holder_unique {state : State n}
    (honoured : Honoured state) (timely : Timely state)
    {left right : Fin n} {leftStamp rightStamp : Int}
    (leftHolds : (state.phase left).lease = some leftStamp)
    (rightHolds : (state.phase right).lease = some rightStamp) :
    left = right := by
  have leftTime := timely left
  have rightTime := timely right
  simp only [Phase.inTime, leftHolds, decide_eq_true_eq] at leftTime
  simp only [Phase.inTime, rightHolds, decide_eq_true_eq] at rightTime
  have leftOwns := (honoured.leased left leftStamp leftHolds leftTime).1
  have rightOwns :=
    (honoured.leased right rightStamp rightHolds rightTime).1
  rw [leftOwns] at rightOwns
  exact Option.some.inj rightOwns

/--
In every run whose holders finish within the lease, at most one consumer is
between a granted claim and the end of its send.
-/
theorem sender_unique
    (maxAttempts : Nat) (attempts : Fin n → Nat)
    {start final : State n} {labels : List (Label n)}
    (initial : Initial start)
    (reached : (machine maxAttempts attempts).run start labels = some final)
    (timely : ∀ taken ∈
      (machine maxAttempts attempts).transitions start labels,
        Timely taken.source)
    (timelyNow : Timely final)
    {left right : Fin n} {leftStamp rightStamp : Int}
    (leftSends : final.phase left = .sending leftStamp)
    (rightSends : final.phase right = .sending rightStamp) :
    left = right := by
  have honoured : Honoured final :=
    Machine.run_invariant
      (fun taken stepped inTime => honoured_step stepped inTime)
      initial.honoured
      (fun taken member => (timely taken member).releasesInTime) reached
  exact honoured.holder_unique timelyNow
    (by rw [leftSends]; rfl) (by rw [rightSends]; rfl)

/-- Two consumers, nothing begun, no row yet. -/
def fresh (n : Nat) : State n where
  clock := 0
  row := none
  phase _ := .waiting
  owner := none
  sends := 0

theorem fresh_initial (n : Nat) : Initial (fresh n) where
  waiting _ := rfl
  unowned := rfl
  unsent := rfl

/-- The first consumer is inside its send while the second finds the row held. -/
def racingLabels (first second : Fin n) : List (Label n) :=
  [.readCutoff first, .readCutoff second, .readStamp first,
    .readStamp second, .insert first, .insert second, .takeOver second,
    .readBack second]

theorem sender_unique_racing :
    ∃ final, (machine 4 fun _ => 0).run (fresh 2) (racingLabels 0 1) =
        some final ∧
      ∀ other stamp, final.phase other = .sending stamp → other = 0 := by
  obtain ⟨final, reached⟩ :
      ∃ final, (machine 4 fun _ => 0).run (fresh 2) (racingLabels 0 1) =
        some final :=
    ⟨_, rfl⟩
  refine ⟨final, reached, fun other stamp sends => ?_⟩
  have timelyNow : Timely final := by
    cases reached
    decide
  have firstSends : final.phase 0 = .sending 0 := by
    cases reached
    rfl
  exact sender_unique 4 (fun _ => 0) (fresh_initial 2) reached
    (by decide) timelyNow sends firstSends

/-! ## Fencing of releases -/

/-- The row carries a lease that has not expired. -/
def LeaseRunning (state : State n) : Prop :=
  ∃ status stamp, state.row = some ⟨status, some stamp⟩ ∧
    state.clock ≤ stamp + claimLeaseMs

/--
A release by a consumer other than the latest claimant, while the lease of
that claimant runs, leaves the lease in place and the row unclaimable.
-/
def ReleaseFenced (taken : Taken (State n) (Label n)) : Prop :=
  ∀ consumer owner, taken.label = .release consumer →
    taken.source.owner = some owner → owner ≠ consumer →
      LeaseRunning taken.source →
        taken.target.row = taken.source.row ∧
          claimableAt taken.target.clock taken.target.row = false

/-- Such a release finds the row settled already, not pending. -/
def ReleaseFindsSettled (taken : Taken (State n) (Label n)) : Prop :=
  ∀ consumer owner, taken.label = .release consumer →
    taken.source.owner = some owner → owner ≠ consumer →
      LeaseRunning taken.source →
        ∀ row, taken.source.row = some row → row.status ≠ .pending

/-- A release rewrites the row with `Row.released` and keeps the clock. -/
theorem release_target
    {maxAttempts : Nat} {attempts : Fin n → Nat}
    {state next : State n} {consumer : Fin n}
    (stepped :
      step maxAttempts attempts state (.release consumer) = some next) :
    next.row = state.row.map Row.released ∧ next.clock = state.clock := by
  cases stepped_of_step stepped with
  | release found => exact ⟨rfl, rfl⟩

theorem release_source
    {maxAttempts : Nat} {attempts : Fin n → Nat}
    {state next : State n} {consumer : Fin n}
    (stepped :
      step maxAttempts attempts state (.release consumer) = some next) :
    ∃ stamp permanent,
      state.phase consumer = .releasing stamp permanent := by
  cases stepped_of_step stepped with
  | release found => exact ⟨_, _, found⟩

theorem released_eq_self_iff {row : Row} {stamp : Int}
    (leased : row.claimedAt = some stamp) :
    row.released = row ↔ row.status ≠ .pending := by
  unfold Row.released
  split
  next pending =>
    simp only [pending, ne_eq, not_true_eq_false, iff_false]
    intro equal
    have cleared := congrArg Row.claimedAt equal
    rw [leased] at cleared
    cases cleared
  next settledAlready => simp [settledAlready]

theorem claimableAt_of_running {status : NotifStatus} {stamp clock : Int}
    (running : clock ≤ stamp + claimLeaseMs) :
    claimableAt clock (some ⟨status, some stamp⟩) = false := by
  have held : ¬ stamp < clock - claimLeaseMs := by omega
  simp [claimableAt, claimable, held]

/-- One release is fenced exactly when it does not find the row pending. -/
theorem releaseFenced_iff
    {maxAttempts : Nat} {attempts : Fin n → Nat}
    {taken : Taken (State n) (Label n)}
    (stepped : (machine maxAttempts attempts).step taken.source taken.label =
      some taken.target) :
    ReleaseFenced taken ↔ ReleaseFindsSettled taken := by
  constructor
  · intro fenced consumer owner released owned different running row found
    obtain ⟨status, stamp, leased, inTime⟩ := running
    have kept := (fenced consumer owner released owned different
      ⟨status, stamp, leased, inTime⟩).1
    rw [released] at stepped
    rw [(release_target stepped).1, found] at kept
    rw [found] at leased
    have stamped : row.claimedAt = some stamp :=
      congrArg Row.claimedAt (Option.some.inj leased)
    exact (released_eq_self_iff stamped).mp (Option.some.inj kept)
  · intro findsSettled consumer owner released owned different running
    have status := findsSettled consumer owner released owned different
      running
    obtain ⟨current, stamp, leased, inTime⟩ := running
    rw [released] at stepped
    obtain ⟨row, clock⟩ := release_target stepped
    have unchanged :
        Row.released ⟨current, some stamp⟩ = ⟨current, some stamp⟩ :=
      (released_eq_self_iff rfl).mpr (status _ leased)
    rw [row, clock, leased, Option.map_some, unchanged]
    exact ⟨rfl, claimableAt_of_running inTime⟩

/-- A consumer that releases in time is itself the latest claimant. -/
theorem releaseFenced_of_inTime
    {maxAttempts : Nat} {attempts : Fin n → Nat}
    {taken : Taken (State n) (Label n)}
    (stepped : (machine maxAttempts attempts).step taken.source taken.label =
      some taken.target)
    (honoured : Honoured taken.source)
    (inTime : ReleasesInTime taken) :
    ReleaseFenced taken := by
  intro consumer owner released owned different _
  rw [released] at stepped
  have running := inTime consumer released
  obtain ⟨stamp, permanent, found⟩ := release_source stepped
  simp only [found, Phase.inTime, Phase.lease, decide_eq_true_eq]
    at running
  have own := (honoured.leased consumer stamp
    (by rw [found]; rfl) running).1
  rw [owned] at own
  exact (different (Option.some.inj own)).elim

/--
Along every run, releases are fenced exactly when each release issued after
another consumer took the row over finds the row settled already; releasing
within one's own lease is enough for that.
-/
theorem releases_fenced_iff
    (maxAttempts : Nat) (attempts : Fin n → Nat)
    {start : State n} (initial : Initial start)
    (labels : List (Label n)) :
    ((∀ taken ∈ (machine maxAttempts attempts).transitions start labels,
        ReleaseFenced taken) ↔
      ∀ taken ∈ (machine maxAttempts attempts).transitions start labels,
        ReleaseFindsSettled taken) ∧
    ((∀ taken ∈ (machine maxAttempts attempts).transitions start labels,
        ReleasesInTime taken) →
      ∀ taken ∈ (machine maxAttempts attempts).transitions start labels,
        ReleaseFenced taken) := by
  refine ⟨forall₂_congr fun taken member => ?_, ?_⟩
  · exact releaseFenced_iff
      (Machine.step_of_mem_transitions _ member)
  · intro inTime taken member
    have honoured : Honoured taken.source :=
      (Machine.transitions_invariant
        (fun _ stepped guard => honoured_step stepped guard)
        initial.honoured inTime member).1
    exact releaseFenced_of_inTime
      (Machine.step_of_mem_transitions _ member) honoured
      (inTime taken member)

/--
The first holder's send outlasts its lease, the second consumer takes the row
over, and then the first one's send fails and it releases.
-/
def outlivedLabels (first second : Fin n) : List (Label n) :=
  [.readCutoff first, .readStamp first, .insert first, .tick 60001,
    .readCutoff second, .readStamp second, .insert second,
    .takeOver second, .sendRejects first false, .release first]

/-- The release of the slow holder clears the lease of its successor. -/
theorem release_clears_successor_lease :
    ¬ ∀ (n maxAttempts : Nat) (attempts : Fin n → Nat) (start : State n)
        (labels : List (Label n)), Initial start →
          ∀ taken ∈
            (machine maxAttempts attempts).transitions start labels,
              ReleaseFenced taken := by
  intro everyReleaseFenced
  obtain ⟨taken, member, released, owned, row, clock, after⟩ :
      ∃ taken ∈ (machine 4 fun _ => 0).transitions (fresh 3)
          (outlivedLabels 0 1),
        taken.label = .release 0 ∧ taken.source.owner = some 1 ∧
          taken.source.row = some ⟨.pending, some 60001⟩ ∧
          taken.source.clock = 60001 ∧
          taken.target.row = some ⟨.pending, none⟩ :=
    ⟨_, List.mem_of_getElem? (i := 9) rfl, rfl, rfl, rfl, rfl, rfl⟩
  have kept := (everyReleaseFenced 3 4 (fun _ => 0) (fresh 3)
    (outlivedLabels 0 1) (fresh_initial 3) taken member 0 1 released owned
    (by decide) ⟨.pending, 60001, row, by rw [clock]; decide⟩).1
  rw [after, row] at kept
  cases kept

/-- In the race above nobody outlives a lease, so its releases are fenced. -/
theorem releases_fenced_racing :
    ∃ final, (machine 4 fun _ => 0).run (fresh 2)
        (racingLabels 0 1 ++ [.sendRejects 0 false, .release 0]) =
          some final ∧
      ∀ taken ∈ (machine 4 fun _ => 0).transitions (fresh 2)
        (racingLabels 0 1 ++ [.sendRejects 0 false, .release 0]),
        ReleaseFenced taken := by
  refine ⟨_, rfl,
    (releases_fenced_iff 4 (fun _ => 0) (fresh_initial 2) _).2 ?_⟩
  have timely :
      ∀ taken ∈ (machine 4 fun _ => 0).transitions (fresh 2)
          (racingLabels 0 1 ++ [.sendRejects 0 false, .release 0]),
        Timely taken.source := by
    decide
  exact fun taken member => (timely taken member).releasesInTime

end WeatherNotify.Notifier.Lease

import WeatherNotify.Notifier.LeaseExclusion

/-!
# Delivery at most once

While holders finish within their lease and no database call fails, a second
successful send needs a row that lost its `SENT` status.  Only one statement
can take it away: the `FAILED` settle of a handling that gave up earlier,
either because the row was held on its last attempt or because its own send
failed and it had already released the row.  If no such handling is on its
way when `SENT` is written, the status is terminal and the event is delivered
at most once.
-/

namespace WeatherNotify.Notifier.Lease

open WeatherNotify.Contracts
open WeatherNotify.Transition

variable {n : Nat}

/-- The row says that the event was delivered. -/
def State.isSent (state : State n) : Prop :=
  ∃ claimedAt, state.row = some ⟨.sent, claimedAt⟩

/-- Once written, `SENT` stays. -/
def SentStays (taken : Taken (State n) (Label n)) : Prop :=
  taken.source.isSent → taken.target.isSent

/-- The holder is timely and the pending database call succeeds. -/
def FaultFree (taken : Taken (State n) (Label n)) : Prop :=
  Timely taken.source ∧ ∀ consumer, taken.label ≠ .databaseFails consumer

instance (taken : Taken (State n) (Label n)) : Decidable (FaultFree taken) :=
  inferInstanceAs (Decidable (Timely taken.source ∧
    ∀ consumer, taken.label ≠ .databaseFails consumer))

/--
When a consumer settles `SENT`, no other handling has given the event up
without having written its `FAILED` yet.
-/
def NoPendingFailure (taken : Taken (State n) (Label n)) : Prop :=
  ∀ consumer, taken.label = .settleSent consumer →
    ∀ other, taken.source.phase other ≠ .settlingFailed

/-- What carries the argument from one step to the next. -/
structure Delivered (state : State n) : Prop where
  honoured : Honoured state
  quiet : state.isSent → ∀ consumer,
    (state.phase consumer).lease = none ∧
      state.phase consumer ≠ .settlingFailed
  counted : state.sends = 0 ∨
    state.sends = 1 ∧
      (state.isSent ∨
        ∃ consumer stamp, state.phase consumer = .settlingSent stamp)

theorem Initial.delivered {state : State n} (initial : Initial state) :
    Delivered state where
  honoured := initial.honoured
  quiet _ consumer := by
    simp [initial.waiting consumer, Phase.lease]
  counted := Or.inl initial.unsent

/-! ## Steps that leave the row alone -/

/-- The other handlings are where they were. -/
theorem phase_moveTo_of_ne {state : State n} {consumer other : Fin n}
    (different : other ≠ consumer) (phase : Phase) :
    (state.moveTo consumer phase).phase other = state.phase other :=
  Function.update_of_ne different _ _

theorem phase_moveTo_self (state : State n) (consumer : Fin n)
    (phase : Phase) :
    (state.moveTo consumer phase).phase consumer = phase :=
  Function.update_self _ _ _

namespace Delivered

variable {state : State n}

/-- Moving a handling that is not about to settle `SENT`. -/
theorem moveTo (delivered : Delivered state)
    {consumer : Fin n} {phase : Phase}
    (honoured : Honoured (state.moveTo consumer phase))
    (notSettling : ∀ stamp, state.phase consumer ≠ .settlingSent stamp)
    (quietPhase : state.isSent →
      phase.lease = none ∧ phase ≠ .settlingFailed) :
    Delivered (state.moveTo consumer phase) where
  honoured := honoured
  quiet sent other := by
    by_cases same : other = consumer
    · subst same
      rw [phase_moveTo_self]
      exact quietPhase sent
    · rw [phase_moveTo_of_ne same]
      exact delivered.quiet sent other
  counted := by
    rcases delivered.counted with none | ⟨once, recorded⟩
    · exact Or.inl none
    · refine Or.inr ⟨once, recorded.imp id ?_⟩
      rintro ⟨settling, stamp, found⟩
      refine ⟨settling, stamp, ?_⟩
      rw [phase_moveTo_of_ne]
      · exact found
      · rintro rfl
        exact notSettling stamp found

/-- A claim is only ever granted on a row that is not `SENT`, and unsent. -/
theorem unsent_of_granted (delivered : Delivered state)
    (unsent : ¬ state.isSent)
    (idle : ∀ consumer, (state.phase consumer).lease = none) :
    state.sends = 0 := by
  rcases delivered.counted with none | ⟨_, sent | ⟨consumer, stamp, found⟩⟩
  · exact none
  · exact (unsent sent).elim
  · have holds := idle consumer
    rw [found] at holds
    cases holds

theorem granted (delivered : Delivered state)
    {consumer : Fin n} {stamp : Int}
    (honoured :
      Honoured (state.granted consumer stamp (Row.leasedAt stamp)))
    (unsent : ¬ state.isSent)
    (idle : ∀ other, (state.phase other).lease = none) :
    Delivered (state.granted consumer stamp (Row.leasedAt stamp)) where
  honoured := honoured
  quiet sent := by
    obtain ⟨claimedAt, found⟩ := sent
    cases found
  counted := Or.inl (delivered.unsent_of_granted unsent idle)

end Delivered

/-- In a timely state only the owner of the row can hold it. -/
theorem Honoured.idle_of_not_running {state : State n}
    (timely : Timely state)
    (idle : ∀ other stamp, (state.phase other).lease = some stamp →
      ¬ state.clock ≤ stamp + claimLeaseMs) :
    ∀ other, (state.phase other).lease = none := by
  intro other
  cases holds : (state.phase other).lease with
  | none => rfl
  | some stamp =>
      have inTime := timely other
      simp only [Phase.inTime, holds, decide_eq_true_eq] at inTime
      exact (idle other stamp holds inTime).elim

theorem not_isSent_of_claimable {state : State n} {row : Row}
    {leaseCutoff : Int} (found : state.row = some row)
    (free : claimable leaseCutoff row.status row.claimedAt = true) :
    ¬ state.isSent := by
  rintro ⟨claimedAt, sent⟩
  rw [found] at sent
  cases sent
  simp [claimable] at free

/-- Releasing never moves a row into or out of `SENT`. -/
theorem isSent_map_released_iff {row : Option Row} :
    (∃ claimedAt, row.map Row.released = some ⟨.sent, claimedAt⟩) ↔
      ∃ claimedAt, row = some ⟨.sent, claimedAt⟩ := by
  cases row with
  | none => simp
  | some row =>
      obtain ⟨status, claimedAt⟩ := row
      cases status <;> simp [Row.released]

/-! ## Holders of the row -/

namespace Delivered

variable {state : State n} {consumer : Fin n} {stamp : Int}

/-- A held row has not been settled. -/
theorem not_isSent_of_holder (delivered : Delivered state)
    (holds : (state.phase consumer).lease = some stamp) :
    ¬ state.isSent := by
  intro sent
  rw [(delivered.quiet sent consumer).1] at holds
  cases holds

/-- While the holder has not sent, nobody has. -/
theorem unsent_of_holder (delivered : Delivered state)
    (timely : Timely state)
    (holds : (state.phase consumer).lease = some stamp)
    (notSettling : ∀ other, state.phase consumer ≠ .settlingSent other) :
    state.sends = 0 := by
  rcases delivered.counted with none | ⟨_, sent | settling⟩
  · exact none
  · exact (delivered.not_isSent_of_holder holds sent).elim
  · obtain ⟨other, otherStamp, otherFound⟩ := settling
    have otherHolds : (state.phase other).lease = some otherStamp := by
      rw [otherFound]
      rfl
    -- the one that sent holds the row as well, so it is the same handling
    have same := delivered.honoured.holder_unique timely holds otherHolds
    rw [← same] at otherFound
    exact (notSettling otherStamp otherFound).elim

/-- The `SENT` settle, with no other handling left to disturb the row. -/
theorem settleSent (delivered : Delivered state)
    (honoured : Honoured { state.moveTo consumer .finished with
      row := some (settled .sent state.row) })
    (timely : Timely state)
    (found : state.phase consumer = .settlingSent stamp)
    (noPending : ∀ other, state.phase other ≠ .settlingFailed) :
    Delivered { state.moveTo consumer .finished with
      row := some (settled .sent state.row) } where
  honoured := honoured
  quiet _ other := by
    change ((state.moveTo consumer .finished).phase other).lease = none ∧
      (state.moveTo consumer .finished).phase other ≠ .settlingFailed
    by_cases same : other = consumer
    · subst same
      rw [phase_moveTo_self]
      exact ⟨rfl, by simp⟩
    · rw [phase_moveTo_of_ne same]
      refine ⟨?_, noPending other⟩
      have holds : (state.phase consumer).lease = some stamp := by
        rw [found]
        rfl
      cases otherHolds : (state.phase other).lease with
      | none => rfl
      | some otherStamp =>
          exact (same (delivered.honoured.holder_unique timely
            otherHolds holds)).elim
  counted := by
    rcases delivered.counted with none | ⟨once, _⟩
    · exact Or.inl none
    · refine Or.inr ⟨once, Or.inl ?_⟩
      cases row : state.row with
      | none => exact ⟨none, by simp [settled]⟩
      | some stored => exact ⟨stored.claimedAt, by simp [settled]⟩

/-- The `FAILED` settle, which no handling reaches once `SENT` is written. -/
theorem settleFailed (delivered : Delivered state)
    (honoured : Honoured { state.moveTo consumer .finished with
      row := some (settled .failed state.row) })
    (found : state.phase consumer = .settlingFailed) :
    Delivered { state.moveTo consumer .finished with
      row := some (settled .failed state.row) } where
  honoured := honoured
  quiet := by
    rintro ⟨claimedAt, sent⟩
    cases row : state.row <;> simp [settled, row] at sent
  counted := by
    rcases delivered.counted with none | ⟨once, sent | settling⟩
    · exact Or.inl none
    · exact ((delivered.quiet sent consumer).2 found).elim
    · obtain ⟨other, otherStamp, otherFound⟩ := settling
      refine Or.inr ⟨once, Or.inr ⟨other, otherStamp, ?_⟩⟩
      refine (phase_moveTo_of_ne ?_ _).trans otherFound
      rintro rfl
      rw [found] at otherFound
      cases otherFound

end Delivered

/-! ## The run -/

/-- One fault-free step with no failure pending keeps the invariant. -/
theorem delivered_step
    {maxAttempts : Nat} {attempts : Fin n → Nat}
    {state next : State n} {label : Label n}
    (stepped : step maxAttempts attempts state label = some next)
    (faultFree : FaultFree ⟨state, label, next⟩)
    (noPending : NoPendingFailure ⟨state, label, next⟩)
    (delivered : Delivered state) :
    Delivered next := by
  obtain ⟨timely, noFault⟩ := faultFree
  have inTime : ReleasesInTime ⟨state, label, next⟩ :=
    Timely.releasesInTime timely
  have honoured : Honoured next :=
    honoured_step stepped inTime delivered.honoured
  cases stepped_of_step stepped with
  | tick elapsed =>
      exact ⟨honoured, delivered.quiet, delivered.counted⟩
  | readCutoff found | readStamp found | collided found | missed found
  | republish found =>
      exact delivered.moveTo honoured (by simp [found])
        (fun _ => ⟨rfl, by simp⟩)
  | duplicate found =>
      exact delivered.moveTo honoured (by simp [found])
        (fun _ => ⟨rfl, by simp⟩)
  | inserted found missing =>
      refine delivered.granted honoured ?_ ?_
      · rintro ⟨claimedAt, sent⟩
        rw [missing] at sent
        cases sent
      · refine Honoured.idle_of_not_running timely ?_
        intro other stamp holds running
        obtain ⟨_, _, present⟩ :=
          delivered.honoured.leased other stamp holds running
        rw [missing] at present
        cases present
  | tookOver found present free =>
      exact delivered.granted honoured
        (not_isSent_of_claimable present free)
        (Honoured.idle_of_not_running timely
          (delivered.honoured.idle_of_claimable
            (by rw [found]; rfl) present free))
  | @vanished consumer _ found missing =>
      exact (delivered.honoured.present consumer
        (by rw [found]; rfl) missing).elim
  | inFlight found present unsent =>
      refine delivered.moveTo honoured (by simp [found]) ?_
      rintro ⟨claimedAt, sent⟩
      rw [present] at sent
      cases sent
      exact (unsent rfl).elim
  | @sendResolves consumer stamp found =>
      have holds : (state.phase consumer).lease = some stamp := by
        rw [found]
        rfl
      have first : state.sends = 0 :=
        delivered.unsent_of_holder timely holds (by simp [found])
      refine ⟨honoured, fun sent => ?_, Or.inr ⟨?_, ?_⟩⟩
      · exact (delivered.not_isSent_of_holder holds sent).elim
      · simp [first]
      · exact Or.inr ⟨consumer, stamp, phase_moveTo_self _ _ _⟩
  | @sendRejects consumer stamp _ found =>
      have holds : (state.phase consumer).lease = some stamp := by
        rw [found]
        rfl
      refine delivered.moveTo honoured (by simp [found]) fun sent => ?_
      exact (delivered.not_isSent_of_holder holds sent).elim
  | @release consumer stamp permanent found =>
      have holds : (state.phase consumer).lease = some stamp := by
        rw [found]
        rfl
      refine ⟨honoured, fun sent => ?_, Or.inl ?_⟩
      · exact (delivered.not_isSent_of_holder holds
          (isSent_map_released_iff.mp sent)).elim
      · exact delivered.unsent_of_holder timely holds (by simp [found])
  | @settleSent consumer stamp found =>
      exact delivered.settleSent honoured timely found
        (noPending consumer rfl)
  | settleFailed found => exact delivered.settleFailed honoured found
  | databaseFails rejected => exact (noFault _ rfl).elim

/-- Only the `FAILED` settle of a handling takes `SENT` away. -/
theorem isSent_of_step
    {maxAttempts : Nat} {attempts : Fin n → Nat}
    {state next : State n} {label : Label n}
    (stepped : step maxAttempts attempts state label = some next)
    (notFailed : ∀ consumer, label ≠ .settleFailed consumer)
    (sent : state.isSent) :
    next.isSent := by
  cases stepped_of_step stepped with
  | inserted found missing =>
      obtain ⟨claimedAt, found⟩ := sent
      rw [missing] at found
      cases found
  | tookOver found present free =>
      exact (not_isSent_of_claimable present free sent).elim
  | vanished found missing =>
      obtain ⟨claimedAt, found⟩ := sent
      rw [missing] at found
      cases found
  | release found => exact isSent_map_released_iff.mpr sent
  | settleSent found =>
      obtain ⟨claimedAt, row⟩ := sent
      change state.row = _ at row
      exact ⟨claimedAt, by simp [row, settled]⟩
  | settleFailed found => exact absurd rfl (notFailed _)
  | tick | readCutoff | readStamp | collided | missed | duplicate
  | inFlight | sendResolves | sendRejects | republish | databaseFails =>
      exact sent

/-- From an invariant state no fault-free step takes `SENT` away. -/
theorem sentStays_of_delivered
    {maxAttempts : Nat} {attempts : Fin n → Nat}
    {state next : State n} {label : Label n}
    (stepped : step maxAttempts attempts state label = some next)
    (delivered : Delivered state) :
    SentStays ⟨state, label, next⟩ := by
  intro sent
  refine isSent_of_step stepped ?_ sent
  rintro consumer rfl
  cases stepped_of_step stepped with
  | settleFailed found => exact (delivered.quiet sent consumer).2 found

/--
A handling that gave up before `SENT` was written is free to overwrite it with
its next statement.
-/
theorem pending_failure_overwrites
    {maxAttempts : Nat} {attempts : Fin n → Nat}
    {state next : State n} {label : Label n}
    (stepped : step maxAttempts attempts state label = some next)
    (faultFree : FaultFree ⟨state, label, next⟩)
    (pending : ¬ NoPendingFailure ⟨state, label, next⟩) :
    ∃ other last,
      step maxAttempts attempts next (.settleFailed other) = some last ∧
        FaultFree ⟨next, .settleFailed other, last⟩ ∧
        ¬ SentStays ⟨next, .settleFailed other, last⟩ := by
  simp only [NoPendingFailure, not_forall, not_not] at pending
  obtain ⟨consumer, rfl, other, gaveUp⟩ := pending
  cases stepped_of_step stepped with
  | @settleSent _ stamp found =>
      have different : other ≠ consumer := by
        rintro rfl
        rw [found] at gaveUp
        cases gaveUp
      have kept : (state.moveTo consumer .finished).phase other =
          .settlingFailed :=
        (phase_moveTo_of_ne different _).trans gaveUp
      refine ⟨other, _, by simp only [step, kept]; rfl,
        ⟨?_, by simp⟩, ?_⟩
      · intro holder
        change ((state.moveTo consumer .finished).phase holder).inTime
          state.clock = true
        by_cases same : holder = consumer
        · subst same
          rw [phase_moveTo_self]
          rfl
        · rw [phase_moveTo_of_ne same]
          exact faultFree.1 holder
      · intro stays
        obtain ⟨claimedAt, row⟩ := stays
          (by cases row : state.row <;> simp [State.isSent, settled])
        simp [settled] at row

/--
In every fault-free run in which no failure is pending when a consumer settles
`SENT`, the status is terminal and at most one send completes.  A pending
failure is a real danger: the run may go on with its `FAILED`.
-/
theorem sent_terminal_and_send_once
    (maxAttempts : Nat) (attempts : Fin n → Nat)
    {start final : State n} {labels : List (Label n)}
    (initial : Initial start)
    (reached : (machine maxAttempts attempts).run start labels = some final)
    (faultFree : ∀ taken ∈
      (machine maxAttempts attempts).transitions start labels,
        FaultFree taken) :
    ((∀ taken ∈ (machine maxAttempts attempts).transitions start labels,
        NoPendingFailure taken) →
      (∀ taken ∈ (machine maxAttempts attempts).transitions start labels,
        SentStays taken) ∧ final.sends ≤ 1) ∧
    ∀ taken ∈ (machine maxAttempts attempts).transitions start labels,
      ¬ NoPendingFailure taken →
        ∃ other last,
          (machine maxAttempts attempts).step taken.target
              (.settleFailed other) = some last ∧
            FaultFree ⟨taken.target, .settleFailed other, last⟩ ∧
            ¬ SentStays ⟨taken.target, .settleFailed other, last⟩ := by
  refine ⟨fun noPending => ?_, fun taken member pending => ?_⟩
  · have guarded : ∀ taken ∈
        (machine maxAttempts attempts).transitions start labels,
          FaultFree taken ∧ NoPendingFailure taken :=
      fun taken member => ⟨faultFree taken member, noPending taken member⟩
    have preserved : ∀ taken : Taken (State n) (Label n),
        (machine maxAttempts attempts).step taken.source taken.label =
            some taken.target →
          FaultFree taken ∧ NoPendingFailure taken →
            Delivered taken.source → Delivered taken.target :=
      fun _ stepped guard =>
        delivered_step stepped guard.1 guard.2
    refine ⟨fun taken member => ?_, ?_⟩
    · exact sentStays_of_delivered
        (Machine.step_of_mem_transitions _ member)
        (Machine.transitions_invariant preserved initial.delivered guarded
          member).1
    · have delivered : Delivered final :=
        Machine.run_invariant preserved initial.delivered guarded reached
      rcases delivered.counted with none | ⟨once, _⟩ <;> omega
  · exact pending_failure_overwrites
      (Machine.step_of_mem_transitions _ member)
      (faultFree taken member) pending

/--
The second consumer is on its last attempt and finds the row held; its
`FAILED` lands after the first one's `SENT`, and a third copy sends again.
-/
def overwrittenLabels (first second third : Fin n) : List (Label n) :=
  [.readCutoff first, .readStamp first, .insert first,
    .readCutoff second, .readStamp second, .insert second,
    .takeOver second, .readBack second, .sendResolves first,
    .settleSent first, .settleFailed second, .tick 60001,
    .readCutoff third, .readStamp third, .insert third, .takeOver third,
    .sendResolves third]

def overwrittenAttempts (consumer : Fin 3) : Nat :=
  if consumer.val = 1 then 3 else 0

/-- `SENT` is overwritten and two sends complete, all within their leases. -/
theorem sent_overwritten_and_sent_twice :
    ∃ final,
      (machine 4 overwrittenAttempts).run (fresh 3)
        (overwrittenLabels 0 1 2) =
          some final ∧
        (∀ taken ∈ (machine 4 overwrittenAttempts).transitions (fresh 3)
            (overwrittenLabels 0 1 2), FaultFree taken) ∧
        (∃ taken ∈ (machine 4 overwrittenAttempts).transitions (fresh 3)
            (overwrittenLabels 0 1 2), ¬ SentStays taken) ∧
        final.sends = 2 := by
  refine ⟨_, rfl, by decide, ?_, rfl⟩
  refine ⟨_, List.mem_of_getElem? (i := 10) rfl, fun stays => ?_⟩
  obtain ⟨claimedAt, row⟩ := stays ⟨some 0, rfl⟩
  cases row

/-- In the race of two consumers the loser still has attempts left. -/
theorem sent_once_racing :
    ∃ final, (machine 4 fun _ => 0).run (fresh 2)
        (racingLabels 0 1 ++ [.sendResolves 0, .settleSent 0]) = some final ∧
      final.isSent ∧ final.sends ≤ 1 := by
  obtain ⟨final, reached⟩ :
      ∃ final, (machine 4 fun _ => 0).run (fresh 2)
        (racingLabels 0 1 ++ [.sendResolves 0, .settleSent 0]) = some final :=
    ⟨_, rfl⟩
  refine ⟨final, reached, ?_, ?_⟩
  · cases reached
    exact ⟨some 0, rfl⟩
  · refine ((sent_terminal_and_send_once 4 (fun _ => 0) (fresh_initial 2)
      reached (by decide)).1 ?_).2
    unfold NoPendingFailure
    decide

end WeatherNotify.Notifier.Lease

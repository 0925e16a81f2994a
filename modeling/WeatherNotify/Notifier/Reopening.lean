import WeatherNotify.Notifier.AtMostOnce

/-!
# When a delivery is open

While the row says `SENT` no claim is granted, whatever else goes on.  A row
that is missing is open to the next handling at once, and one that says
`FAILED` as soon as the lease left on it has run out.
-/

namespace WeatherNotify.Notifier.Lease

open WeatherNotify.Contracts
open WeatherNotify.Transition

variable {n : Nat} {maxAttempts : Nat} {attempts : Fin n → Nat}
  {state next : State n} {consumer : Fin n}

/-- The channel's send is running. -/
def Phase.isSending : Phase → Bool
  | .sending _ => true
  | _ => false

/-- Every statement of the repository but one that rejects. -/
def Label.succeeds : Label n → Bool
  | .databaseFails _ => false
  | _ => true

/-! ## A row that says `SENT` -/

theorem isSending_afterFailure (maxAttempts attempts : Nat)
    (permanent : Bool) :
    (Phase.afterFailure maxAttempts attempts permanent).isSending = false := by
  unfold Phase.afterFailure
  split <;> rfl

theorem isSending_afterDatabaseFailure {phase after : Phase}
    (rejected : afterDatabaseFailure maxAttempts attempts consumer phase =
      some after) :
    after.isSending = false := by
  cases phase <;> cases rejected <;>
    first
      | exact isSending_afterFailure _ _ _
      | rfl

/-- A handling that moves elsewhere starts no send. -/
theorem isSending_of_moveTo {other : Fin n} {phase : Phase}
    (idle : phase.isSending = false)
    (sends : ((state.moveTo consumer phase).phase other).isSending = true) :
    (state.phase other).isSending = true := by
  by_cases same : other = consumer
  · subst same
    rw [phase_moveTo_self, idle] at sends
    cases sends
  · rw [phase_moveTo_of_ne same] at sends
    exact sends

/-- No step calls the channel while the row says `SENT`. -/
theorem isSending_of_isSent {label : Label n}
    (stepped : step maxAttempts attempts state label = some next)
    (sent : state.isSent) {other : Fin n}
    (sends : (next.phase other).isSending = true) :
    (state.phase other).isSending = true := by
  cases stepped_of_step stepped with
  | tick => exact sends
  | inserted found missing =>
      rcases sent with ⟨claimedAt, present⟩
      rw [missing] at present
      cases present
  | tookOver found present free =>
      exact (not_isSent_of_claimable present free sent).elim
  | vanished found missing =>
      rcases sent with ⟨claimedAt, present⟩
      rw [missing] at present
      cases present
  | inFlight found present unsent =>
      exact isSending_of_moveTo (isSending_afterFailure _ _ _) sends
  | release found =>
      exact isSending_of_moveTo (isSending_afterFailure _ _ _) sends
  | databaseFails rejected =>
      exact isSending_of_moveTo (isSending_afterDatabaseFailure rejected)
        sends
  | readCutoff | readStamp | collided | missed | duplicate | sendResolves
  | sendRejects | settleSent | settleFailed | republish =>
      exact isSending_of_moveTo (by rfl) sends

theorem settled_status (status : NotifStatus) (row : Option Row) :
    (settled status row).status = status := by
  cases row <;> rfl

/-- A handling never deletes the row. -/
theorem row_ne_none_of_step {label : Label n}
    (stepped : step maxAttempts attempts state label = some next)
    (present : state.row ≠ none) : next.row ≠ none := by
  cases stepped_of_step stepped with
  | inserted | tookOver | settleSent | settleFailed =>
      exact Option.some_ne_none _
  | vanished found missing => exact absurd missing present
  | release found =>
      exact fun missing => present (Option.map_eq_none_iff.mp missing)
  | tick | readCutoff | readStamp | collided | missed | duplicate
  | inFlight | sendResolves | sendRejects | republish | databaseFails =>
      exact present

/-! ## A row that a claim wins -/

/-- A handling that has not begun can go on to call the channel. -/
def CanSend (maxAttempts : Nat) (attempts : Fin n → Nat) (state : State n)
    (consumer : Fin n) : Prop :=
  ∃ labels final,
    (machine maxAttempts attempts).run state labels = some final ∧
      (∀ label ∈ labels, label.succeeds = true) ∧
      (final.phase consumer).isSending = true

/-- The handling stands before its insertion. -/
def State.inserting (state : State n) (consumer : Fin n) : State n :=
  state.moveTo consumer
    (.inserting (state.clock - claimLeaseMs) state.clock)

theorem run_inserting (waiting : state.phase consumer = .waiting) :
    (machine maxAttempts attempts).run state
        [.readCutoff consumer, .readStamp consumer] =
      some (state.inserting consumer) := by
  simp [machine, step, waiting, State.moveTo, State.inserting]

/-- What is left to run once the handling stands before its insertion. -/
theorem canSend_of_inserting {labels : List (Label n)} {final : State n}
    (waiting : state.phase consumer = .waiting)
    (reached : (machine maxAttempts attempts).run (state.inserting consumer)
      labels = some final)
    (succeed : ∀ label ∈ labels, label.succeeds = true)
    (sends : (final.phase consumer).isSending = true) :
    CanSend maxAttempts attempts state consumer := by
  refine ⟨[.readCutoff consumer, .readStamp consumer] ++ labels, final, ?_,
    ?_, sends⟩
  · rw [Machine.run_append, run_inserting waiting]
    exact reached
  · intro label member
    rcases List.mem_append.mp member with first | later
    · rcases List.mem_pair.mp first with rfl | rfl <;> rfl
    · exact succeed label later

theorem isSending_granted (stamp : Int) (row : Option Row) :
    ((state.granted consumer stamp row).phase consumer).isSending = true := by
  have sending : (state.granted consumer stamp row).phase consumer =
      .sending stamp := Function.update_self _ _ _
  rw [sending]
  rfl

theorem canSend_of_missing (waiting : state.phase consumer = .waiting)
    (missing : state.row = none) :
    CanSend maxAttempts attempts state consumer := by
  have inserted : (machine maxAttempts attempts).run
      (state.inserting consumer) [.insert consumer] =
      some ((state.inserting consumer).granted consumer state.clock
        (Row.leasedAt state.clock)) := by
    simp [machine, step, State.inserting, State.moveTo, missing]
  exact canSend_of_inserting waiting inserted (by simp [Label.succeeds])
    (isSending_granted _ _)

theorem canSend_of_claimable {row : Row}
    (waiting : state.phase consumer = .waiting)
    (present : state.row = some row)
    (free : claimable (state.clock - claimLeaseMs) row.status row.claimedAt =
      true) :
    CanSend maxAttempts attempts state consumer := by
  have tookOver : (machine maxAttempts attempts).run
      (state.inserting consumer) [.insert consumer, .takeOver consumer] =
      some ((state.moveTo consumer
        (.takingOver (state.clock - claimLeaseMs) state.clock)).granted
          consumer state.clock (Row.leasedAt state.clock)) := by
    simp [machine, step, State.inserting, State.moveTo, present, free]
  exact canSend_of_inserting waiting tookOver (by simp [Label.succeeds])
    (isSending_granted _ _)

/-- A row that does not say `SENT` is free once its lease has run out. -/
theorem claimable_after (row : Row) (unsent : row.status ≠ .sent)
    (clock : Int) :
    ∃ elapsed : Nat, claimable (clock + elapsed - claimLeaseMs) row.status
      row.claimedAt = true := by
  cases stamped : row.claimedAt with
  | none => exact ⟨0, by simp [claimable, unsent]⟩
  | some stamp =>
      refine ⟨(stamp + claimLeaseMs + 1 - clock).toNat, ?_⟩
      simp only [claimable, bne_iff_ne, ne_eq, unsent, not_false_eq_true,
        Bool.and_eq_true, decide_eq_true_eq, true_and]
      omega

theorem canSend_of_unsent {row : Row}
    (waiting : state.phase consumer = .waiting)
    (present : state.row = some row) (unsent : row.status ≠ .sent) :
    CanSend maxAttempts attempts state consumer := by
  rcases claimable_after row unsent state.clock with ⟨elapsed, free⟩
  have later : CanSend maxAttempts attempts
      { state with clock := state.clock + elapsed } consumer :=
    canSend_of_claimable waiting present free
  rcases later with ⟨labels, final, reached, succeed, sends⟩
  refine ⟨.tick elapsed :: labels, final, reached, ?_, sends⟩
  exact List.forall_mem_cons.mpr ⟨rfl, succeed⟩

end WeatherNotify.Notifier.Lease

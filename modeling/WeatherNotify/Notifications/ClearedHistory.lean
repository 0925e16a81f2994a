import Mathlib.Data.List.Find
import WeatherNotify.Notifications.History
import WeatherNotify.Notifier.Reopening

/-!
# Deleting history re-opens a delivery

The `SENT` row in the history is also the record that the event was delivered.
As long as no deletion matches it and no handling that gave up earlier settles
it `FAILED`, no handling calls the channel again.  Any step that does either
leaves a row, or none, that the next handling claims.
-/

namespace WeatherNotify.Notifications

open WeatherNotify.Contracts
open WeatherNotify.Notifier
open WeatherNotify.Transition

variable {n m : Nat} {setting : Setting n} {table : List HistoryRow}
  {delivery : Delivery} {state next : State n m}

/-! ## What the table shows after a statement -/

/-- A deletion that matches no row of the delivery does not show. -/
theorem view_deleteMany_of_kept {hit : HistoryRow → Bool}
    (kept : ∀ row ∈ table, row.belongsTo delivery = true → hit row = false) :
    view (deleteMany table hit) delivery = view table delivery := by
  unfold view deleteMany
  rw [List.find?_filter]
  refine congrArg (Option.map HistoryRow.delivery)
    (List.find?_congr fun row member => ?_)
  cases belongs : row.belongsTo delivery with
  | true => simp [kept row member belongs]
  | false => simp

/-- The unique index over the event and the channel. -/
def Unique (table : List HistoryRow) (delivery : Delivery) : Prop :=
  ∀ left ∈ table, ∀ right ∈ table, left.belongsTo delivery = true →
    right.belongsTo delivery = true → left = right

/-- One that matches the row of the delivery leaves none. -/
theorem view_deleteMany_of_hit {hit : HistoryRow → Bool} {row : HistoryRow}
    (unique : Unique table delivery) (member : row ∈ table)
    (belongs : row.belongsTo delivery = true) (matched : hit row = true) :
    view (deleteMany table hit) delivery = none := by
  refine Option.map_eq_none_iff.mpr (List.find?_eq_none.mpr ?_)
  intro other left belongsToo
  rcases List.mem_filter.mp left with ⟨otherMember, spared⟩
  have same : other = row :=
    unique other otherMember row member belongsToo belongs
  rw [same, matched] at spared
  cases spared

theorem Unique.deleteMany (unique : Unique table delivery)
    (hit : HistoryRow → Bool) :
    Unique (deleteMany table hit) delivery :=
  fun left leftMember right rightMember =>
    unique left (List.mem_of_mem_filter leftMember) right
      (List.mem_of_mem_filter rightMember)

/-- The update half of a statement keeps the keys of every row. -/
theorem belongsTo_written (row : HistoryRow) (written : Lease.Row) :
    (if row.belongsTo delivery then { row with delivery := written }
      else row).belongsTo delivery = row.belongsTo delivery := by
  split <;> rfl

/-- The protocol sees what its statement left. -/
theorem view_store {written : Option Lease.Row} (id : String)
    (createdAt : Int) (kept : written = none → view table delivery = none) :
    view (store table delivery id createdAt written) delivery = written := by
  cases written with
  | none => exact kept rfl
  | some row =>
      simp only [view, store]
      split
      · rename_i found
        rcases Option.isSome_iff_exists.mp
          (List.find?_isSome.mpr (List.any_eq_true.mp found)) with
          ⟨stored, first⟩
        have belongs : stored.belongsTo delivery = true := by
          simpa using List.find?_some first
        rw [List.find?_map]
        simp only [Function.comp_def, belongsTo_written, first,
          Option.map_some, belongs, if_true]
      · rename_i missing
        have unseen : table.find? (fun row => row.belongsTo delivery) =
            none := by
          rw [List.find?_eq_none]
          intro other member belongs
          exact missing (List.any_eq_true.mpr ⟨other, member, belongs⟩)
        rw [List.find?_append, unseen]
        simp [HistoryRow.belongsTo]

/-- A row added for a delivery that had none is its only row. -/
theorem eq_of_mem_concat {created row : HistoryRow}
    (missing : ¬ table.any (fun row => row.belongsTo delivery) = true)
    (member : row ∈ table ++ [created])
    (belongs : row.belongsTo delivery = true) : row = created := by
  rcases List.mem_append.mp member with old | new
  · exact absurd (List.any_eq_true.mpr ⟨row, old, belongs⟩) missing
  · exact List.mem_singleton.mp new

theorem Unique.store (unique : Unique table delivery) (id : String)
    (createdAt : Int) (written : Option Lease.Row) :
    Unique (store table delivery id createdAt written) delivery := by
  cases written with
  | none => exact unique
  | some row =>
      intro left leftMember right rightMember leftBelongs rightBelongs
      simp only [Notifications.store] at leftMember rightMember
      split at leftMember
      · rename_i found
        rw [if_pos found] at rightMember
        rcases List.mem_map.mp leftMember with ⟨first, firstMember, rfl⟩
        rcases List.mem_map.mp rightMember with ⟨second, secondMember, rfl⟩
        rw [belongsTo_written] at leftBelongs rightBelongs
        rw [unique first firstMember second secondMember leftBelongs
          rightBelongs]
      · rename_i missing
        rw [if_neg missing] at rightMember
        exact (eq_of_mem_concat missing leftMember leftBelongs).trans
          (eq_of_mem_concat missing rightMember rightBelongs).symm

/-! ## What one step does -/

/-- The row says that the event was delivered. -/
def State.isSent (delivery : Delivery) (state : State n m) : Prop :=
  (state.protocol delivery).isSent

/--
The step is neither the `FAILED` settle of a handling nor a deletion that
matches the row of the delivery.
-/
def State.keepsRecord (delivery : Delivery) (state : State n m) :
    Label n m → Bool
  | .handle (.settleFailed _) _ => false
  | .handle _ _ => true
  | .history request .execute =>
      (state.requests request).deletes.all fun hit =>
        state.table.all fun row => !(row.belongsTo delivery && hit row)
  | .history _ _ => true

theorem keepsRecord_execute_iff {request : Fin m} {hit : HistoryRow → Bool}
    (deletes : (state.requests request).deletes = some hit) :
    state.keepsRecord delivery (.history request .execute) = true ↔
      ∀ row ∈ state.table, row.belongsTo delivery = true →
        hit row = false := by
  simp only [State.keepsRecord, deletes, Option.all_some, List.all_eq_true,
    Bool.not_eq_true', Bool.and_eq_false_imp]

/-- Some handling starts the channel's send. -/
def CallsSend (taken : Taken (State n m) (Label n m)) : Prop :=
  ∃ consumer, (taken.source.phase consumer).isSending = false ∧
    (taken.target.phase consumer).isSending = true

/-- Every statement of a handling but one that rejects. -/
def Label.succeeds : Label n m → Bool
  | .handle label _ => label.succeeds
  | .history _ _ => true

theorem protocol_handled (id : String) {label : Lease.Label n}
    {after : Lease.State n}
    (stepped : Lease.step setting.maxAttempts setting.attempts
      (state.protocol delivery) label = some after) :
    (state.handled delivery id after).protocol delivery = after := by
  have shown : view (state.handled delivery id after).table delivery =
      after.row := by
    refine view_store id state.clock fun written => ?_
    by_contra present
    exact Lease.row_ne_none_of_step stepped present written
  unfold State.protocol
  rw [shown]
  rfl

/-- Only a deletion changes the table. -/
theorem table_of_advance {retentionDays : Rat} {clock : Int}
    {phase after : Phase} {action : Action} {written : List HistoryRow}
    (moved : advance retentionDays clock table phase action =
      some (after, written)) :
    (action ≠ .execute ∧ written = table) ∨
      ∃ hit, phase.deletes = some hit ∧ action = .execute ∧
        written = deleteMany table hit := by
  cases action with
  | execute =>
      rcases Option.map_eq_some_iff.mp moved with ⟨hit, deletes, equal⟩
      cases equal
      exact Or.inr ⟨hit, deletes, rfl, rfl⟩
  | receive request =>
      simp only [advance] at moved
      split at moved <;> cases moved
      exact Or.inl ⟨by simp, rfl⟩
  | granted held =>
      simp only [advance] at moved
      split at moved
      · split at moved <;> cases moved <;> exact Or.inl ⟨by simp, rfl⟩
      · split at moved <;> cases moved <;> exact Or.inl ⟨by simp, rfl⟩
      · cases moved
  | found ids =>
      simp only [advance] at moved
      split at moved
      · split at moved
        · split at moved <;> cases moved <;> exact Or.inl ⟨by simp, rfl⟩
        · cases moved
      · cases moved

/-- A step that keeps the record keeps it `SENT` and calls no channel. -/
theorem isSent_of_keepsRecord {label : Label n m}
    (stepped : step setting state label = some next)
    (keeps : state.keepsRecord setting.delivery label = true)
    (sent : state.isSent setting.delivery) :
    next.isSent setting.delivery ∧
      ∀ consumer, (next.phase consumer).isSending = true →
        (state.phase consumer).isSending = true := by
  cases label with
  | handle label id =>
      rcases Option.map_eq_some_iff.mp stepped with ⟨after, moved, rfl⟩
      have notFailed : ∀ consumer, label ≠ .settleFailed consumer := by
        rintro consumer rfl
        cases keeps
      constructor
      · unfold State.isSent
        rw [protocol_handled id moved]
        exact Lease.isSent_of_step moved notFailed sent
      · exact fun consumer sends => Lease.isSending_of_isSent moved sent sends
  | history request action =>
      rcases Option.map_eq_some_iff.mp stepped with
        ⟨⟨after, written⟩, moved, rfl⟩
      refine ⟨?_, fun consumer sends => sends⟩
      rcases table_of_advance moved with ⟨-, same⟩ | ⟨hit, deletes, rfl, same⟩
      · subst same
        exact sent
      · subst same
        have spared : ∀ row ∈ state.table,
            row.belongsTo setting.delivery = true → hit row = false :=
          (keepsRecord_execute_iff deletes).mp keeps
        rcases sent with ⟨claimedAt, present⟩
        exact ⟨claimedAt, (view_deleteMany_of_kept spared).trans present⟩

/-! ## A step that loses the record -/

/-- The handling can go on to call the channel, whatever id its row gets. -/
def CanSend (setting : Setting n) (state : State n m) (consumer : Fin n) :
    Prop :=
  ∀ id, ∃ (labels : List (Lease.Label n)) (final : State n m),
    (machine setting m).run state
        (labels.map fun label => .handle label id) = some final ∧
      (∀ label ∈ labels, label.succeeds = true) ∧
      (final.phase consumer).isSending = true

/-- What the handlings can do on the row they see, they can do on the table. -/
theorem run_handle (id : String) {labels : List (Lease.Label n)}
    {state : State n m} {final : Lease.State n}
    (reached : (Lease.machine setting.maxAttempts setting.attempts).run
      (state.protocol setting.delivery) labels = some final) :
    ∃ target, (machine setting m).run state
        (labels.map fun label => .handle label id) = some target ∧
      target.protocol setting.delivery = final := by
  induction labels generalizing state with
  | nil =>
      cases reached
      exact ⟨state, rfl, rfl⟩
  | cons label rest induction =>
      rcases Option.bind_eq_some_iff.mp reached with ⟨after, stepped, later⟩
      rw [← protocol_handled id stepped] at later
      rcases induction later with ⟨target, run, protocol⟩
      refine ⟨target, Option.bind_eq_some_iff.mpr
        ⟨state.handled setting.delivery id after, ?_, run⟩, protocol⟩
      exact Option.map_eq_some_iff.mpr ⟨after, stepped, rfl⟩

theorem canSend_of_protocol {consumer : Fin n}
    (canSend : Lease.CanSend setting.maxAttempts setting.attempts
      (state.protocol setting.delivery) consumer) :
    CanSend setting state consumer := by
  intro id
  rcases canSend with ⟨labels, final, reached, succeed, sends⟩
  rcases run_handle id reached with ⟨target, run, rfl⟩
  exact ⟨labels, target, run, succeed, sends⟩

theorem unique_step {label : Label n m}
    (stepped : step setting state label = some next)
    (unique : Unique state.table setting.delivery) :
    Unique next.table setting.delivery := by
  cases label with
  | handle label id =>
      rcases Option.map_eq_some_iff.mp stepped with ⟨after, moved, rfl⟩
      exact unique.store id state.clock after.row
  | history request action =>
      rcases Option.map_eq_some_iff.mp stepped with
        ⟨⟨after, written⟩, moved, rfl⟩
      rcases table_of_advance moved with ⟨-, same⟩ | ⟨hit, -, -, same⟩
      · subst same
        exact unique
      · subst same
        exact unique.deleteMany hit

/-- After a step that loses the record the next handling calls the channel. -/
theorem canSend_of_lost {label : Label n m} {consumer : Fin n}
    (stepped : step setting state label = some next)
    (unique : Unique state.table setting.delivery)
    (loses : state.keepsRecord setting.delivery label = false)
    (waiting : next.phase consumer = .waiting) :
    CanSend setting next consumer := by
  apply canSend_of_protocol
  cases label with
  | handle label id =>
      rcases Option.map_eq_some_iff.mp stepped with ⟨after, moved, rfl⟩
      cases label with
      | settleFailed other =>
          rw [protocol_handled id moved]
          cases Lease.stepped_of_step moved with
          | settleFailed found =>
              refine Lease.canSend_of_unsent waiting rfl ?_
              rw [Lease.settled_status]
              decide
      | _ => cases loses
  | history request action =>
      rcases Option.map_eq_some_iff.mp stepped with
        ⟨⟨after, written⟩, moved, rfl⟩
      rcases table_of_advance moved with
        ⟨other, -⟩ | ⟨hit, deletes, rfl, same⟩
      · cases action with
        | execute => exact absurd rfl other
        | _ => cases loses
      · subst same
        rw [← Bool.not_eq_true, keepsRecord_execute_iff deletes] at loses
        push Not at loses
        rcases loses with ⟨row, member, belongs, matched⟩
        exact Lease.canSend_of_missing waiting
          (view_deleteMany_of_hit unique member belongs
            (Bool.eq_true_of_not_eq_false matched))

/-! ## Every run -/

def frostDelivery : Delivery where
  eventId := "e1"
  userId := "ann"
  channel := .email

/-- The ladder of four attempts, two copies and the default retention. -/
def frostSetting : Setting 2 where
  maxAttempts := 4
  attempts := fun _ => 0
  delivery := frostDelivery
  retentionDays := 90

def copyClaims (copy : Fin n) (id : String) : List (Label n m) :=
  [.handle (.readCutoff copy) id, .handle (.readStamp copy) id,
    .handle (.insert copy) id]

/-- A copy claims, sends and settles `SENT`. -/
def copySends (copy : Fin n) : List (Label n m) :=
  copyClaims copy "h1" ++
    [.handle (.sendResolves copy) "h1", .handle (.settleSent copy) "h1"]

/-- A copy that finds the row of another one. -/
def copySkips (copy : Fin n) : List (Label n m) :=
  copyClaims copy "h2" ++
    [.handle (.takeOver copy) "h2", .handle (.readBack copy) "h2"]

def ownerClears (request : Fin m) : List (Label n m) :=
  [.history request (.receive (.clear "ann")), .history request .execute]

/--
Once the event has been settled `SENT`, no handling calls the channel again
along any run whose steps all keep the record.  After a step that does not,
every handling that has not begun can go on to call the channel.
-/
theorem sent_event_stays_closed (setting : Setting n)
    {start settled : State n m} {before : List (Label n m)}
    (unique : Unique start.table setting.delivery)
    (reached : (machine setting m).run start before = some settled)
    (sent : settled.isSent setting.delivery) (after : List (Label n m)) :
    ((∀ taken ∈ (machine setting m).transitions settled after,
        taken.source.keepsRecord setting.delivery taken.label = true) →
      ∀ taken ∈ (machine setting m).transitions settled after,
        ¬ CallsSend taken) ∧
    ∀ taken ∈ (machine setting m).transitions settled after,
      taken.source.keepsRecord setting.delivery taken.label = false →
        ∀ consumer, taken.target.phase consumer = .waiting →
          CanSend setting taken.target consumer := by
  constructor
  · rintro keeps taken member ⟨consumer, idle, sends⟩
    have closed : taken.source.isSent setting.delivery :=
      (Machine.transitions_invariant
        (fun taken stepped keeps sent =>
          (isSent_of_keepsRecord stepped keeps sent).1)
        sent keeps member).1
    have already := (isSent_of_keepsRecord
      ((machine setting m).step_of_mem_transitions member)
      (keeps taken member) closed).2 consumer sends
    rw [idle] at already
    cases already
  · intro taken member loses consumer waiting
    have uniqueNow : Unique settled.table setting.delivery :=
      Machine.run_preserves
        (fun state => Unique state.table setting.delivery) unique_step unique
        reached
    have uniqueThere : Unique taken.source.table setting.delivery :=
      Machine.source_preserves
        (fun state => Unique state.table setting.delivery) unique_step
        uniqueNow member
    exact canSend_of_lost ((machine setting m).step_of_mem_transitions member)
      uniqueThere loses waiting

theorem sent_event_stays_closed_replay :
    ∃ settled,
      (machine frostSetting 1).run (.start 2 1 []) (copySends 0) =
        some settled ∧
      ∀ taken ∈ (machine frostSetting 1).transitions settled (copySkips 1),
        ¬ CallsSend taken := by
  have replayed : ((machine frostSetting 1).run (.start 2 1 [])
      (copySends 0)).map (fun settled =>
        (view settled.table frostDelivery,
          ((machine frostSetting 1).transitions settled (copySkips 1)).all
            fun taken => taken.source.keepsRecord frostDelivery taken.label)) =
      some (some ⟨.sent, some 0⟩, true) := by
    decide +kernel
  rcases Option.map_eq_some_iff.mp replayed with ⟨settled, reached, equal⟩
  have sent : settled.isSent frostDelivery :=
    ⟨some 0, congrArg Prod.fst equal⟩
  have keeps := List.all_eq_true.mp (congrArg Prod.snd equal)
  exact ⟨settled, reached,
    (sent_event_stays_closed frostSetting
      (fun left member => by cases member) reached sent (copySkips 1)).1
      keeps⟩

/--
The owner clears the history after the event was settled `SENT`, no statement
fails, and a copy that had not begun then calls the channel again.
-/
theorem cleared_history_sends_again :
    ∃ settled final,
      (machine frostSetting 1).run (.start 2 1 []) (copySends 0) =
          some settled ∧
      settled.isSent frostDelivery ∧ settled.phase 1 = .waiting ∧
      (machine frostSetting 1).run settled
          (ownerClears 0 ++ copyClaims 1 "h2") = some final ∧
      (final.phase 1).isSending = true ∧
      ∀ label ∈ copySends 0 ++ ownerClears 0 ++
          (copyClaims 1 "h2" : List (Label 2 1)), label.succeeds = true := by
  have settles : ((machine frostSetting 1).run (.start 2 1 [])
      (copySends 0)).map (fun settled =>
        (view settled.table frostDelivery, settled.phase 1,
          ((machine frostSetting 1).run settled
            (ownerClears 0 ++ copyClaims 1 "h2")).map fun final =>
              (final.phase 1).isSending)) =
      some (some ⟨.sent, some 0⟩, .waiting, some true) := by
    decide +kernel
  rcases Option.map_eq_some_iff.mp settles with ⟨settled, reached, equal⟩
  have again := congrArg (fun shown => shown.2.2) equal
  rcases Option.map_eq_some_iff.mp again with ⟨final, resumed, sends⟩
  exact ⟨settled, final, reached, ⟨some 0, congrArg Prod.fst equal⟩,
    congrArg (fun shown => shown.2.1) equal, resumed, sends,
    by decide +kernel⟩

end WeatherNotify.Notifications

import WeatherNotify.Notifier.Lease
import WeatherNotify.Notifier.Recordability

/-!
# The protocol's row and the table

The lease protocol moves one abstract row.  Over a table that keeps its unique
index, the statements of the repository for an event with a string id do to
that row exactly what the steps of the protocol do: they answer the same and
leave a table that shows the row the step leads to.
-/

namespace WeatherNotify.Notifier.Lease

open WeatherNotify.Contracts
open WeatherNotify.Transition

/-! ## What a table shows -/

/-- The columns of a stored row that the protocol acts on. -/
def Row.ofStored (stored : NotificationRow) : Row :=
  ⟨stored.status, stored.claimedAt⟩

/-- The table shows the row under a key that no two of its rows share. -/
structure Shows (eventId : String) (channel : Channel) (db : Db)
    (row : Option Row) : Prop where
  view : (db.find? eventId channel).map Row.ofStored = row
  unique : ∀ left ∈ db.notifications, ∀ right ∈ db.notifications,
    left.hasKey eventId channel = true →
      right.hasKey eventId channel = true → left = right

namespace Shows

variable {eventId : String} {channel : Channel} {db : Db}
  {row : Option Row}

theorem find?_eq_none (shown : Shows eventId channel db none) :
    db.find? eventId channel = none :=
  Option.map_eq_none_iff.mp shown.view

/-- An update that leaves the keys alone acts on the row it shows. -/
theorem updateMany (shown : Shows eventId channel db row)
    {hit : NotificationRow → Bool}
    {change : NotificationRow → NotificationRow}
    (keyed : ∀ stored,
      (change stored).hasKey eventId channel =
        stored.hasKey eventId channel)
    {act : Row → Row}
    (acts : ∀ stored, stored.hasKey eventId channel = true →
      Row.ofStored (if hit stored then change stored else stored) =
        act (Row.ofStored stored)) :
    Shows eventId channel (db.updateMany hit change) (row.map act) := by
  have kept : ∀ stored : NotificationRow,
      (if hit stored then change stored else stored).hasKey eventId
        channel = stored.hasKey eventId channel := by
    intro stored
    split
    · exact keyed stored
    · rfl
  constructor
  · rw [← shown.view, Db.find?_updateMany keyed]
    cases found : db.find? eventId channel with
    | none => rfl
    | some stored =>
        have foundKeyed : stored.hasKey eventId channel = true := by
          simpa using List.find?_some found
        exact congrArg some (acts stored foundKeyed)
  · intro left leftMember right rightMember leftKeyed rightKeyed
    obtain ⟨first, firstMember, rfl⟩ := List.mem_map.mp leftMember
    obtain ⟨second, secondMember, rfl⟩ := List.mem_map.mp rightMember
    rw [kept] at leftKeyed rightKeyed
    rw [shown.unique first firstMember second secondMember leftKeyed
      rightKeyed]

/-- A row inserted under a key that was free is the one shown. -/
theorem insert (shown : Shows eventId channel db none)
    {stored : NotificationRow}
    (keyed : stored.hasKey eventId channel = true) :
    Shows eventId channel
      { db with notifications := db.notifications ++ [stored] }
      (some (Row.ofStored stored)) := by
  have missing := shown.find?_eq_none
  rw [Db.find?] at missing
  have free : ∀ other ∈ db.notifications,
      other.hasKey eventId channel = false := by
    intro other member
    exact Bool.eq_false_iff.mpr (List.find?_eq_none.mp missing other member)
  constructor
  · simp only [Db.find?, List.find?_append, missing, Option.none_or]
    simp [keyed]
  · intro left leftMember right rightMember leftKeyed rightKeyed
    have only : ∀ {other : NotificationRow},
        other ∈ db.notifications ++ [stored] →
          other.hasKey eventId channel = true → other = stored := by
      intro other member otherKeyed
      rcases List.mem_append.mp member with earlier | last
      · rw [free other earlier] at otherKeyed
        cases otherKeyed
      · exact List.mem_singleton.mp last
    exact (only leftMember leftKeyed).trans
      (only rightMember rightKeyed).symm

end Shows

/-! ## The statements of one event -/

section Statements

variable {channel : Channel} {fields : List (String × Json)}
  {eventId userId : String} {triggerId : Option String} {db : Db}
  {row : Option Row}
  (eventField : fields.lookup "eventId" = some (.str eventId))
  (userField : fields.lookup "userId" = some (.str userId))
  (triggerField :
    nullableString (fields.lookup "triggerId") = .ok triggerId)

include eventField

theorem readBackClaim_shown (shown : Shows eventId channel db row) :
    readBackClaim channel (.obj fields) db =
      .ok (row.map Row.status, db) := by
  simp only [readBackClaim, Json.member, eventField, requiredString_str,
    bind, Except.bind, pure, Except.pure, ← shown.view, Option.map_map]
  rfl

theorem releaseClaimStatement_shown
    (shown : Shows eventId channel db row) :
    ∃ after,
      releaseClaimStatement channel (.obj fields) db = .ok ((), after) ∧
        Shows eventId channel after (row.map Row.released) := by
  have ran : releaseClaimStatement channel (.obj fields) db =
      .ok ((), db.updateMany
        (fun stored => stored.hasKey eventId channel &&
          stored.status == .pending)
        fun stored => { stored with claimedAt := none }) := by
    simp only [releaseClaimStatement, Json.member, eventField,
      stringFilter, bind, Except.bind, pure, Except.pure]
    rfl
  refine ⟨_, ran, shown.updateMany ?_ fun stored keyed => ?_⟩
  · exact fun _ => rfl
  · by_cases pending : stored.status = .pending
    · simp [Row.ofStored, Row.released, keyed, pending]
    · simp [Row.ofStored, Row.released, pending]

theorem takeOverClaim_shown (leaseCutoff stamp : Int)
    (shown : Shows eventId channel db row) :
    ∃ count after,
      takeOverClaim channel (.obj fields) leaseCutoff stamp db =
          .ok (count, after) ∧
        (0 < count ↔ ∃ stored, row = some stored ∧
          claimable leaseCutoff stored.status stored.claimedAt = true) ∧
        Shows eventId channel after (row.map fun stored =>
          if claimable leaseCutoff stored.status stored.claimedAt then
            Row.leasedAt stamp
          else stored) := by
  have ran : takeOverClaim channel (.obj fields) leaseCutoff stamp db =
      .ok (db.notifications.countP fun stored =>
          stored.hasKey eventId channel &&
            claimable leaseCutoff stored.status stored.claimedAt,
        db.updateMany
          (fun stored => stored.hasKey eventId channel &&
            claimable leaseCutoff stored.status stored.claimedAt)
          fun stored => { stored with
            status := .pending, claimedAt := some stamp, error := none }) := by
    simp only [takeOverClaim, Json.member, eventField, stringFilter, bind,
      Except.bind, pure, Except.pure]
    rfl
  refine ⟨_, _, ran, ?_, shown.updateMany ?_ fun stored keyed => ?_⟩
  · rw [List.countP_pos_iff, ← shown.view]
    constructor
    · rintro ⟨stored, member, hit⟩
      rw [Bool.and_eq_true] at hit
      obtain ⟨first, found⟩ : ∃ first, db.find? eventId channel =
          some first := by
        rw [← Option.isSome_iff_exists, Db.find?, List.find?_isSome]
        exact ⟨stored, member, hit.1⟩
      have firstKeyed : first.hasKey eventId channel = true := by
        simpa using List.find?_some found
      have same := shown.unique first (List.mem_of_find?_eq_some found)
        stored member firstKeyed hit.1
      subst same
      exact ⟨Row.ofStored first, by rw [found]; rfl, hit.2⟩
    · rintro ⟨stored, view, free⟩
      obtain ⟨first, found, rfl⟩ := Option.map_eq_some_iff.mp view
      have firstKeyed : first.hasKey eventId channel = true := by
        simpa using List.find?_some found
      refine ⟨first, List.mem_of_find?_eq_some found, ?_⟩
      rw [firstKeyed, Bool.true_and]
      exact free
  · exact fun _ => rfl
  · by_cases free :
        claimable leaseCutoff stored.status stored.claimedAt = true
    · simp [Row.ofStored, Row.leasedAt, keyed, free]
    · simp [Row.ofStored, free]

include userField triggerField

theorem insertClaim_shown (stamp : Int)
    (referenced : db.referencesExist userId triggerId = true)
    (shown : Shows eventId channel db none) :
    ∃ after,
      insertClaim channel (.obj fields) stamp db = .ok ((), after) ∧
        Shows eventId channel after (some (Row.leasedAt stamp)) := by
  have eventAccepted : nullableString (fields.lookup "eventId") =
      .ok (some eventId) := by rw [eventField]; rfl
  have userAccepted : requiredString (fields.lookup "userId") =
      .ok userId := requiredString_eq_ok_iff.mpr userField
  have keyed : NotificationRow.hasKey ⟨some eventId, triggerId, userId,
      channel, .pending, .obj fields, none, some stamp, []⟩ eventId channel =
        true := by
    simp [NotificationRow.hasKey]
  refine ⟨_, ?_, shown.insert keyed⟩
  rw [insertClaim_obj eventAccepted triggerField userAccepted]
  simp [Db.insert, shown.find?_eq_none, referenced, Except.map]

theorem insertClaim_collides (stamp : Int) {stored : Row}
    (shown : Shows eventId channel db (some stored)) :
    insertClaim channel (.obj fields) stamp db =
      .error .uniqueViolation := by
  have eventAccepted : nullableString (fields.lookup "eventId") =
      .ok (some eventId) := by rw [eventField]; rfl
  have userAccepted : requiredString (fields.lookup "userId") =
      .ok userId := requiredString_eq_ok_iff.mpr userField
  obtain ⟨first, found, _⟩ := Option.map_eq_some_iff.mp shown.view
  rw [insertClaim_obj eventAccepted triggerField userAccepted]
  simp [Db.insert, found, Except.map]

theorem settleStatement_shown (status : NotifStatus)
    (error : Option String)
    (referenced : db.referencesExist userId triggerId = true)
    (shown : Shows eventId channel db row) :
    ∃ after,
      settleStatement channel (.obj fields) status error db =
          .ok ((), after) ∧
        Shows eventId channel after (some (settled status row)) := by
  cases row with
  | none =>
      have keyed : NotificationRow.hasKey ⟨some eventId, triggerId, userId,
          channel, status, .obj fields, error, none, []⟩ eventId channel =
            true := by
        simp [NotificationRow.hasKey]
      refine ⟨_, ?_, shown.insert keyed⟩
      simp [settleStatement, Json.member, rowFor, RowInput.validate, bind,
        Except.bind, pure, Except.pure, eventField, userField, triggerField,
        requiredString_str, nullableString_str, shown.find?_eq_none,
        Db.insert, referenced]
  | some stored =>
      obtain ⟨first, found, _⟩ := Option.map_eq_some_iff.mp shown.view
      have ran : settleStatement channel (.obj fields) status error db =
          .ok ((), db.updateMany (fun stored => stored.hasKey eventId channel)
            fun stored => { stored with status := status, error := error }) := by
        simp [settleStatement, Json.member, rowFor, RowInput.validate, bind,
          Except.bind, pure, Except.pure, eventField, userField,
          triggerField, requiredString_str, nullableString_str, found]
      have updated : Shows eventId channel (db.updateMany
          (fun stored => stored.hasKey eventId channel)
          fun stored => { stored with status := status, error := error })
          ((some stored).map fun row => settled status (some row)) := by
        refine shown.updateMany ?_ fun other keyed => ?_
        · exact fun _ => rfl
        · simp [Row.ofStored, settled, keyed]
      exact ⟨_, ran, updated⟩

end Statements

/-! ## The table along a run -/

variable {n : Nat}

/-- What a statement leaves behind; a rejected one changes nothing. -/
def tableOf {α : Type} (db : Db) : Except Failure (α × Db) → Db
  | .ok (_, after) => after
  | .error _ => db

/-- The table after the statement that a step of the protocol stands for. -/
def tableAfter (channel : Channel) (event : Json) (error : Option String)
    (state : State n) (db : Db) : Label n → Db
  | .insert consumer =>
      match state.phase consumer with
      | .inserting _ stamp =>
          tableOf db (insertClaim channel event stamp db)
      | _ => db
  | .takeOver consumer =>
      match state.phase consumer with
      | .takingOver leaseCutoff stamp =>
          tableOf db (takeOverClaim channel event leaseCutoff stamp db)
      | _ => db
  | .release _ => tableOf db (releaseClaimStatement channel event db)
  | .settleSent _ =>
      tableOf db (settleStatement channel event .sent none db)
  | .settleFailed _ =>
      tableOf db (settleStatement channel event .failed error db)
  | _ => db

/-- The protocol together with the table its statements run against. -/
def tableMachine (maxAttempts : Nat) (attempts : Fin n → Nat)
    (channel : Channel) (event : Json) (error : Option String) :
    Machine (State n × Db) (Label n) where
  step current label :=
    (step maxAttempts attempts current.1 label).map fun next =>
      (next, tableAfter channel event error current.1 current.2 label)

section Runs

variable {channel : Channel} {fields : List (String × Json)}
  {eventId userId : String} {triggerId : Option String}
  (eventField : fields.lookup "eventId" = some (.str eventId))
  (userField : fields.lookup "userId" = some (.str userId))
  (triggerField :
    nullableString (fields.lookup "triggerId") = .ok triggerId)
  {maxAttempts : Nat} {attempts : Fin n → Nat}

include eventField userField triggerField

theorem shows_tableAfter (error : Option String) {state next : State n}
    {label : Label n} {db : Db}
    (stepped : step maxAttempts attempts state label = some next)
    (referenced : db.referencesExist userId triggerId = true)
    (shown : Shows eventId channel db state.row) :
    Shows eventId channel
      (tableAfter channel (.obj fields) error state db label) next.row := by
  cases stepped_of_step stepped with
  | tick | readCutoff | readStamp | duplicate | inFlight | sendResolves
  | sendRejects | republish | databaseFails => exact shown
  | vanished found missing =>
      rw [missing] at shown
      exact shown
  | @inserted consumer leaseCutoff stamp found missing =>
      rw [missing] at shown
      obtain ⟨after, accepted, leased⟩ := insertClaim_shown eventField
        userField triggerField stamp referenced shown
      simp only [tableAfter, found, accepted, tableOf]
      exact leased
  | @collided consumer leaseCutoff stamp row found present =>
      have same := shown
      rw [present] at same
      simp only [tableAfter, found, tableOf,
        insertClaim_collides eventField userField triggerField stamp same]
      exact shown
  | @tookOver consumer leaseCutoff stamp row found present free =>
      obtain ⟨count, after, accepted, _, leased⟩ :=
        takeOverClaim_shown eventField leaseCutoff stamp shown
      simp only [present, Option.map_some, free, if_true] at leased
      simp only [tableAfter, found, accepted, tableOf]
      exact leased
  | @missed consumer leaseCutoff stamp found held =>
      obtain ⟨count, after, accepted, _, kept⟩ :=
        takeOverClaim_shown eventField leaseCutoff stamp shown
      have unchanged : (state.row.map fun stored =>
          if claimable leaseCutoff stored.status stored.claimedAt then
            Row.leasedAt stamp
          else stored) = state.row := by
        cases present : state.row with
        | none => rfl
        | some row => simp [held row present]
      rw [unchanged] at kept
      simp only [tableAfter, found, accepted, tableOf]
      exact kept
  | release found =>
      obtain ⟨after, accepted, released⟩ :=
        releaseClaimStatement_shown eventField shown
      simp only [tableAfter, accepted, tableOf]
      exact released
  | settleSent found =>
      obtain ⟨after, accepted, written⟩ := settleStatement_shown eventField
        userField triggerField .sent none referenced shown
      simp only [tableAfter, accepted, tableOf]
      exact written
  | settleFailed found =>
      obtain ⟨after, accepted, written⟩ := settleStatement_shown eventField
        userField triggerField .failed error referenced shown
      simp only [tableAfter, accepted, tableOf]
      exact written

omit eventField userField triggerField in
theorem tableOf_changed {α : Type} {db : Db}
    {result : Except Failure (α × Db)}
    (changes : ∀ {value : α} {after : Db},
      result = .ok (value, after) → db.Changed after) :
    db.Changed (tableOf db result) := by
  cases result with
  | error failure => exact .unchanged
  | ok pair => exact changes rfl

omit eventField userField triggerField in
theorem tableAfter_changed (channel : Channel) (event : Json)
    (error : Option String) (state : State n) (db : Db) (label : Label n) :
    db.Changed (tableAfter channel event error state db label) := by
  cases label with
  | insert consumer =>
      simp only [tableAfter]
      split
      · exact tableOf_changed insertClaim_changed
      · exact .unchanged
  | takeOver consumer =>
      simp only [tableAfter]
      split
      · exact tableOf_changed takeOverClaim_changed
      · exact .unchanged
  | release => exact tableOf_changed releaseClaimStatement_changed
  | settleSent | settleFailed =>
      exact tableOf_changed settleStatement_changed
  | tick | readCutoff | readStamp | readBack | sendResolves | sendRejects
  | republish | databaseFails => exact .unchanged

/--
Every run of the protocol is a run of the repository's statements: the table
goes along and shows the protocol's row in the end.
-/
theorem table_follows_protocol (error : Option String)
    {state final : State n} {db : Db} {labels : List (Label n)}
    (reached : (machine maxAttempts attempts).run state labels =
      some final)
    (referenced : db.referencesExist userId triggerId = true)
    (shown : Shows eventId channel db state.row) :
    ∃ after,
      (tableMachine maxAttempts attempts channel (.obj fields) error).run
          (state, db) labels = some (final, after) ∧
        Shows eventId channel after final.row := by
  induction labels generalizing state db with
  | nil =>
      cases reached
      exact ⟨db, rfl, shown⟩
  | cons label rest induction =>
      obtain ⟨next, stepped, later⟩ := Option.bind_eq_some_iff.mp reached
      have kept := shows_tableAfter eventField userField triggerField error
        stepped referenced shown
      have changed := tableAfter_changed channel (.obj fields) error
        state db label
      obtain ⟨after, ran, last⟩ := induction later
        ((changed.referencesExist userId triggerId).trans referenced) kept
      refine ⟨after, ?_, last⟩
      have moved : (tableMachine maxAttempts attempts channel (.obj fields)
          error).step (state, db) label =
            some (next, tableAfter channel (.obj fields) error state db
              label) := by
        have taken : step maxAttempts attempts state label = some next :=
          stepped
        simp only [tableMachine, taken, Option.map_some]
      rw [Machine.run_cons, moved, Option.bind_some, ran]

end Runs

end WeatherNotify.Notifier.Lease

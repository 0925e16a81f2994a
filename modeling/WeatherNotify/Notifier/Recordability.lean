import WeatherNotify.Notifier.HandlerEffects

/-!
# Which outcomes the delivery log can record

The upsert of an outcome goes through for a payload with the fields the row
needs whose row, or whose user and trigger, exist.  With nobody else writing,
no statement of a dispatch changes that for the worse, and the dispatch of an
event that cannot be recorded fails.
-/

namespace WeatherNotify.Notifier

open WeatherNotify.Contracts
open WeatherNotify.Js

/-! ## The settle statement -/

theorem requiredString_eq_ok_iff {value : Option Json} {text : String} :
    requiredString value = .ok text ↔ value = some (.str text) := by
  constructor
  · intro accepted
    unfold requiredString at accepted
    split at accepted
    · cases accepted
      rfl
    · cases accepted
  · rintro rfl
    rfl

theorem nullableString_str (text : String) :
    nullableString (some (.str text)) = .ok (some text) :=
  rfl

theorem requiredString_str (text : String) :
    requiredString (some (.str text)) = .ok text :=
  rfl

/-- What an accepted upsert says about the payload. -/
theorem settleStatement_fields
    {channel : Channel} {event : Json} {status : NotifStatus}
    {error : Option String} {db : Db} {result : Unit × Db}
    (accepted :
      settleStatement channel event status error db = .ok result) :
    ∃ fields eventId userId triggerId,
      event = .obj fields ∧
        fields.lookup "eventId" = some (.str eventId) ∧
        fields.lookup "userId" = some (.str userId) ∧
        nullableString (fields.lookup "triggerId") = .ok triggerId := by
  cases event with
  | obj fields =>
      simp only [settleStatement, Json.member, rowFor, RowInput.validate,
        bind, Except.bind, pure, Except.pure] at accepted
      cases key : requiredString (fields.lookup "eventId") with
      | error failure => simp [key] at accepted
      | ok eventId =>
          have eventField := requiredString_eq_ok_iff.mp key
          cases trigger : nullableString (fields.lookup "triggerId") with
          | error failure =>
              simp [eventField, requiredString_str, nullableString_str,
                trigger] at accepted
          | ok triggerId =>
              cases user : requiredString (fields.lookup "userId") with
              | error failure =>
                  simp [eventField, requiredString_str,
                    nullableString_str, trigger, user] at accepted
              | ok userId =>
                  exact ⟨fields, eventId, userId, triggerId, rfl,
                    eventField, requiredString_eq_ok_iff.mp user, trigger⟩
  | null =>
      simp [settleStatement, Json.member, bind, Except.bind] at accepted
  | bool | num | str | arr =>
      simp [settleStatement, Json.member, rowFor, requiredString, bind,
        Except.bind, pure, Except.pure] at accepted

/-- A payload with the needed fields is upserted unless a reference is gone. -/
theorem settleStatement_ok_iff_of_fields
    {channel : Channel} {fields : List (String × Json)}
    {eventId userId : String} {triggerId : Option String}
    (eventField : fields.lookup "eventId" = some (.str eventId))
    (userField : fields.lookup "userId" = some (.str userId))
    (triggerField :
      nullableString (fields.lookup "triggerId") = .ok triggerId)
    (status : NotifStatus) (error : Option String) (db : Db) :
    (∃ result, settleStatement channel (.obj fields) status error db =
        .ok result) ↔
      ((db.find? eventId channel).isSome = true ∨
        db.referencesExist userId triggerId = true) := by
  simp only [settleStatement, Json.member, rowFor, RowInput.validate,
    bind, Except.bind, pure, Except.pure, eventField, userField,
    triggerField, requiredString_str, nullableString_str, Db.insert]
  by_cases present : (db.find? eventId channel).isSome = true
  · simp [present]
  · by_cases referenced : db.referencesExist userId triggerId = true
    · simp [present, referenced]
    · simp [present, referenced]

/-- The upsert of an outcome succeeds exactly on a recordable event. -/
theorem settleStatement_ok_iff (channel : Channel) (event : Json)
    (status : NotifStatus) (error : Option String) (db : Db) :
    (∃ result,
        settleStatement channel event status error db = .ok result) ↔
      Recordable channel event db := by
  constructor
  · rintro ⟨result, accepted⟩
    obtain ⟨fields, eventId, userId, triggerId, shape, eventField,
      userField, triggerField⟩ := settleStatement_fields accepted
    subst shape
    refine ⟨fields, eventId, userId, triggerId, rfl, eventField,
      userField, triggerField, ?_⟩
    exact (settleStatement_ok_iff_of_fields eventField userField
      triggerField status error db).mp ⟨result, accepted⟩
  · rintro ⟨fields, eventId, userId, triggerId, rfl, eventField,
      userField, triggerField, writable⟩
    exact (settleStatement_ok_iff_of_fields eventField userField
      triggerField status error db).mpr writable

/-- With the database reachable the settle step succeeds on what it finds. -/
theorem settle_run_ok_iff {env : Env}
    (databaseReachable : ∀ call, env.reachable call = true)
    (channel : Channel) (event : Json) (status : NotifStatus)
    (error : Option String) (world : World) :
    (∃ after,
        (settle env channel event status error).run world =
          (.ok (), after)) ↔
      Recordable channel event
        (env.interference world.calls world.db) := by
  rw [← settleStatement_ok_iff channel event status error]
  simp only [settle, statement, databaseReachable, if_true]
  cases settleStatement channel event status error
      (env.interference world.calls world.db) with
  | error failure => simp
  | ok result => simp

/-! ## An undisturbed database -/

/-- The payload can be claimed but has no event id to settle under. -/
def ClaimedWithoutId (event : Json) (db : Db) : Prop :=
  ∃ fields userId triggerId,
    event = .obj fields ∧
      nullableString (fields.lookup "eventId") = .ok none ∧
      fields.lookup "userId" = some (.str userId) ∧
      nullableString (fields.lookup "triggerId") = .ok triggerId ∧
      db.referencesExist userId triggerId = true

theorem ClaimedWithoutId.not_recordable {channel : Channel} {event : Json}
    {db : Db} (claimed : ClaimedWithoutId event db) (other : Db) :
    ¬ Recordable channel event other := by
  obtain ⟨fields, _, _, rfl, noId, _⟩ := claimed
  rintro ⟨_, eventId, _, _, same, eventField, _⟩
  cases same
  rw [eventField] at noId
  cases noId

theorem nullableString_error {value : Option Json} {failure : Failure}
    (rejected : nullableString value = .error failure) :
    failure = .validation := by
  unfold nullableString at rejected
  split at rejected <;> cases rejected
  rfl

theorem requiredString_error {value : Option Json} {failure : Failure}
    (rejected : requiredString value = .error failure) :
    failure = .validation := by
  unfold requiredString at rejected
  split at rejected <;> cases rejected
  rfl

/-- The first statement of a claim on a payload whose columns are accepted. -/
theorem insertClaim_obj {channel : Channel}
    {fields : List (String × Json)} {eventId triggerId : Option String}
    {userId : String}
    (eventField :
      nullableString (fields.lookup "eventId") = .ok eventId)
    (triggerField :
      nullableString (fields.lookup "triggerId") = .ok triggerId)
    (userField : requiredString (fields.lookup "userId") = .ok userId)
    (stamp : Int) (db : Db) :
    insertClaim channel (.obj fields) stamp db =
      (db.insert ⟨eventId, triggerId, userId, channel, .pending,
        .obj fields, none, some stamp, []⟩).map fun after => ((), after) := by
  simp only [insertClaim, Json.member, rowFor, RowInput.validate, bind,
    Except.bind, pure, Except.pure, eventField, triggerField, userField]
  cases db.insert ⟨eventId, triggerId, userId, channel, .pending,
    .obj fields, none, some stamp, []⟩ <;> rfl

/-- A payload whose columns the client refuses. -/
theorem insertClaim_validation {channel : Channel}
    {fields : List (String × Json)} (stamp : Int) (db : Db)
    (refused :
      nullableString (fields.lookup "eventId") = .error .validation ∨
        nullableString (fields.lookup "triggerId") = .error .validation ∨
        requiredString (fields.lookup "userId") = .error .validation) :
    insertClaim channel (.obj fields) stamp db = .error .validation := by
  simp only [insertClaim, Json.member, rowFor, RowInput.validate, bind,
    Except.bind, pure, Except.pure]
  cases eventField : nullableString (fields.lookup "eventId") with
  | error failure => rw [nullableString_error eventField]
  | ok eventId =>
      cases triggerField : nullableString (fields.lookup "triggerId") with
      | error failure => rw [nullableString_error triggerField]
      | ok triggerId =>
          cases userField : requiredString (fields.lookup "userId") with
          | error failure => rw [requiredString_error userField]
          | ok userId => simp [eventField, triggerField, userField] at refused

theorem nullableString_eq_some {value : Option Json} {text : String}
    (accepted : nullableString value = .ok (some text)) :
    value = some (.str text) := by
  unfold nullableString at accepted
  split at accepted <;> cases accepted
  rfl

/-- What the first statement makes of a payload with accepted columns. -/
theorem insertClaim_cases_of_fields {channel : Channel}
    {fields : List (String × Json)} {eventId triggerId : Option String}
    {userId : String}
    (eventField :
      nullableString (fields.lookup "eventId") = .ok eventId)
    (triggerField :
      nullableString (fields.lookup "triggerId") = .ok triggerId)
    (userField : fields.lookup "userId" = some (.str userId))
    (stamp : Int) (db : Db) :
    (insertClaim channel (.obj fields) stamp db =
          .error .foreignKeyViolation ∧
        ¬ ClaimedWithoutId (.obj fields) db) ∨
      (insertClaim channel (.obj fields) stamp db =
          .error .uniqueViolation ∧ Recordable channel (.obj fields) db) ∨
      ∃ after, insertClaim channel (.obj fields) stamp db =
          .ok ((), after) ∧
        (Recordable channel (.obj fields) db ∨
          ClaimedWithoutId (.obj fields) db) := by
  have userAccepted : requiredString (fields.lookup "userId") =
      .ok userId := requiredString_eq_ok_iff.mpr userField
  rw [insertClaim_obj eventField triggerField userAccepted, Db.insert]
  cases eventId with
  | none =>
      by_cases referenced : db.referencesExist userId triggerId = true
      · refine Or.inr (Or.inr ⟨_, by simp [referenced, Except.map]; rfl,
          Or.inr ?_⟩)
        exact ⟨fields, userId, triggerId, rfl, eventField, userField,
          triggerField, referenced⟩
      · refine Or.inl ⟨by simp [referenced, Except.map], ?_⟩
        rintro ⟨_, user, trigger, same, _, userHas, triggerHas, exist⟩
        cases same
        rw [userField] at userHas
        rw [triggerField] at triggerHas
        cases userHas
        cases triggerHas
        exact referenced exist
  | some key =>
      have keyField := nullableString_eq_some eventField
      by_cases present : (db.find? key channel).isSome = true
      · refine Or.inr (Or.inl ⟨by simp [present, Except.map], ?_⟩)
        exact ⟨fields, key, userId, triggerId, rfl, keyField, userField,
          triggerField, Or.inl present⟩
      · by_cases referenced : db.referencesExist userId triggerId = true
        · refine Or.inr (Or.inr
            ⟨_, by simp [present, referenced, Except.map]; rfl, Or.inl ?_⟩)
          exact ⟨fields, key, userId, triggerId, rfl, keyField, userField,
            triggerField, Or.inr referenced⟩
        · refine Or.inl ⟨by simp [present, referenced, Except.map], ?_⟩
          rintro ⟨_, _, _, same, noId, _⟩
          cases same
          rw [eventField] at noId
          cases noId

/-- What the first statement of a claim makes of any payload. -/
theorem insertClaim_cases (channel : Channel) (event : Json) (stamp : Int)
    (db : Db) :
    (∃ failure, insertClaim channel event stamp db = .error failure ∧
        isUniqueViolation failure = false ∧
        failure.isPermanent = false ∧ ¬ ClaimedWithoutId event db) ∨
      (insertClaim channel event stamp db = .error .uniqueViolation ∧
        Recordable channel event db) ∨
      ∃ after, insertClaim channel event stamp db = .ok ((), after) ∧
        (Recordable channel event db ∨ ClaimedWithoutId event db) := by
  cases event with
  | null =>
      refine Or.inl ⟨.typeError "eventId", rfl, rfl, rfl, ?_⟩
      rintro ⟨_, _, _, same, _⟩
      cases same
  | bool | num | str | arr =>
      refine Or.inl ⟨.validation, rfl, rfl, rfl, ?_⟩
      rintro ⟨_, _, _, same, _⟩
      cases same
  | obj fields =>
      have invalid : ∀ refused, ¬ ClaimedWithoutId (.obj fields) db →
          ∃ failure, insertClaim channel (.obj fields) stamp db =
              .error failure ∧ isUniqueViolation failure = false ∧
            failure.isPermanent = false ∧
            ¬ ClaimedWithoutId (.obj fields) db :=
        fun refused unclaimed => ⟨.validation,
          insertClaim_validation stamp db refused, rfl, rfl, unclaimed⟩
      cases eventField : nullableString (fields.lookup "eventId") with
      | error failure =>
          rw [nullableString_error eventField] at eventField
          refine Or.inl (invalid (Or.inl eventField) ?_)
          rintro ⟨_, _, _, same, noId, _⟩
          cases same
          rw [eventField] at noId
          cases noId
      | ok eventId =>
          cases triggerField :
              nullableString (fields.lookup "triggerId") with
          | error failure =>
              rw [nullableString_error triggerField] at triggerField
              refine Or.inl (invalid (Or.inr (Or.inl triggerField)) ?_)
              rintro ⟨_, _, _, same, _, _, accepted, _⟩
              cases same
              rw [triggerField] at accepted
              cases accepted
          | ok triggerId =>
              cases userField : requiredString (fields.lookup "userId") with
              | error failure =>
                  rw [requiredString_error userField] at userField
                  refine Or.inl (invalid (Or.inr (Or.inr userField)) ?_)
                  rintro ⟨_, _, _, same, _, accepted, _⟩
                  cases same
                  rw [accepted] at userField
                  cases userField
              | ok userId =>
                  rcases insertClaim_cases_of_fields eventField
                      triggerField (requiredString_eq_ok_iff.mp userField)
                      stamp db with
                    ⟨rejected, unclaimed⟩ | claimable
                  · exact Or.inl ⟨.foreignKeyViolation, rejected, rfl, rfl,
                      unclaimed⟩
                  · exact Or.inr claimable

/-! ## How statements change the tables -/

/-- What one statement can do: nothing, one insert, or a rewrite of rows. -/
inductive Db.Changed (db : Db) : Db → Prop where
  | unchanged : Db.Changed db db
  | inserted {row : NotificationRow} {after : Db}
      (accepted : db.insert row = .ok after) : Db.Changed db after
  | updated {hit : NotificationRow → Bool}
      {change : NotificationRow → NotificationRow}
      (keyed : ∀ row eventId channel,
        (change row).hasKey eventId channel =
          row.hasKey eventId channel) :
      Db.Changed db (db.updateMany hit change)

theorem insert_eq_ok {db after : Db} {row : NotificationRow}
    (accepted : db.insert row = .ok after) :
    after = { db with notifications := db.notifications ++ [row] } := by
  simp only [Db.insert] at accepted
  split_ifs at accepted
  cases accepted
  rfl

namespace Db.Changed

variable {db after : Db}

theorem users (changed : db.Changed after) : after.users = db.users := by
  cases changed with
  | unchanged => rfl
  | inserted accepted => rw [insert_eq_ok accepted]
  | updated => rfl

theorem triggers (changed : db.Changed after) :
    after.triggers = db.triggers := by
  cases changed with
  | unchanged => rfl
  | inserted accepted => rw [insert_eq_ok accepted]
  | updated => rfl

theorem referencesExist (changed : db.Changed after) (userId : String)
    (triggerId : Option String) :
    after.referencesExist userId triggerId =
      db.referencesExist userId triggerId := by
  simp only [Db.referencesExist, changed.users, changed.triggers]

/-- No statement removes the row under a key. -/
theorem keys (changed : db.Changed after) {eventId : String}
    {channel : Channel}
    (present : (db.find? eventId channel).isSome = true) :
    (after.find? eventId channel).isSome = true := by
  cases changed with
  | unchanged => exact present
  | inserted accepted =>
      rw [insert_eq_ok accepted]
      simp only [Db.find?, List.find?_isSome] at present ⊢
      obtain ⟨stored, member, found⟩ := present
      exact ⟨stored, List.mem_append_left _ member, found⟩
  | @updated hit change keyed =>
      simp only [Db.find?, List.find?_isSome] at present ⊢
      obtain ⟨stored, member, found⟩ := present
      refine ⟨if hit stored then change stored else stored,
        List.mem_map.mpr ⟨stored, member, rfl⟩, ?_⟩
      split
      · rw [keyed]
        exact found
      · exact found

/-- So what could be recorded still can be. -/
theorem recordable (changed : db.Changed after) {channel : Channel}
    {event : Json} (before : Recordable channel event db) :
    Recordable channel event after := by
  obtain ⟨fields, eventId, userId, triggerId, shape, eventField, userField,
    triggerField, writable⟩ := before
  refine ⟨fields, eventId, userId, triggerId, shape, eventField, userField,
    triggerField, ?_⟩
  rcases writable with present | referenced
  · exact Or.inl (changed.keys present)
  · exact Or.inr ((changed.referencesExist userId triggerId).trans
      referenced)

end Db.Changed

section Statements

variable {channel : Channel} {event : Json} {db after : Db}

theorem except_bind_eq_ok {α β : Type} {first : Except Failure α}
    {next : α → Except Failure β} {result : β}
    (accepted : first >>= next = .ok result) :
    ∃ value, first = .ok value ∧ next value = .ok result := by
  cases first with
  | error failure => cases accepted
  | ok value => exact ⟨value, rfl, accepted⟩

theorem insertClaim_changed {stamp : Int} {value : Unit}
    (accepted : insertClaim channel event stamp db = .ok (value, after)) :
    db.Changed after := by
  obtain ⟨input, _, accepted⟩ := except_bind_eq_ok accepted
  obtain ⟨row, _, accepted⟩ := except_bind_eq_ok accepted
  obtain ⟨changed, inserted, accepted⟩ := except_bind_eq_ok accepted
  cases accepted
  exact .inserted inserted

theorem takeOverClaim_changed {leaseCutoff stamp : Int} {value : Nat}
    (accepted : takeOverClaim channel event leaseCutoff stamp db =
      .ok (value, after)) :
    db.Changed after := by
  obtain ⟨member, _, accepted⟩ := except_bind_eq_ok accepted
  obtain ⟨filter, _, accepted⟩ := except_bind_eq_ok accepted
  cases accepted
  exact .updated fun _ _ _ => rfl

theorem readBackClaim_changed {value : Option NotifStatus}
    (accepted : readBackClaim channel event db = .ok (value, after)) :
    db.Changed after := by
  obtain ⟨member, _, accepted⟩ := except_bind_eq_ok accepted
  obtain ⟨eventId, _, accepted⟩ := except_bind_eq_ok accepted
  cases accepted
  exact .unchanged

theorem releaseClaimStatement_changed {value : Unit}
    (accepted : releaseClaimStatement channel event db =
      .ok (value, after)) :
    db.Changed after := by
  obtain ⟨member, _, accepted⟩ := except_bind_eq_ok accepted
  obtain ⟨filter, _, accepted⟩ := except_bind_eq_ok accepted
  cases accepted
  exact .updated fun _ _ _ => rfl

theorem settleStatement_changed {status : NotifStatus}
    {error : Option String} {value : Unit}
    (accepted : settleStatement channel event status error db =
      .ok (value, after)) :
    db.Changed after := by
  obtain ⟨member, _, accepted⟩ := except_bind_eq_ok accepted
  obtain ⟨input, _, accepted⟩ := except_bind_eq_ok accepted
  obtain ⟨key, _, accepted⟩ := except_bind_eq_ok accepted
  obtain ⟨row, _, accepted⟩ := except_bind_eq_ok accepted
  split at accepted
  · cases accepted
    exact .updated fun _ _ _ => rfl
  · obtain ⟨changed, inserted, accepted⟩ := except_bind_eq_ok accepted
    cases accepted
    exact .inserted inserted

end Statements

/-- A payload claimed without an event id cannot be settled. -/
theorem settleStatement_of_claimedWithoutId {channel : Channel}
    {event : Json} {db : Db} (claimed : ClaimedWithoutId event db)
    (status : NotifStatus) (error : Option String) (other : Db) :
    settleStatement channel event status error other =
      .error .validation := by
  obtain ⟨fields, _, _, rfl, noId, _⟩ := claimed
  have missing : requiredString (fields.lookup "eventId") =
      .error .validation := by
    cases found : requiredString (fields.lookup "eventId") with
    | error failure => rw [requiredString_error found]
    | ok eventId =>
        rw [requiredString_eq_ok_iff.mp found] at noId
        cases noId
  simp only [settleStatement, Json.member, rowFor, bind, Except.bind, pure,
    Except.pure, missing]

section Undisturbed

variable {env : Env}
  (undisturbed : ∀ call db, env.interference call db = db)

include undisturbed

theorem statement_keeps_recordable {α : Type} {channel : Channel}
    {event : Json} {body : Db → Except Failure (α × Db)}
    (changes : ∀ {db after : Db} {value : α},
      body db = .ok (value, after) → db.Changed after) :
    Async.Keeps (fun world : World => Recordable channel event world.db)
      (statement env body) := by
  intro world before
  simp only [statement, undisturbed]
  split
  · split
    next value after accepted => exact (changes accepted).recordable before
    next => exact before
  · exact before

/-- Nothing a dispatch does makes its event less recordable. -/
theorem dispatch_keeps_recordable (config : Config) (channel : Channel)
    (event : Json) :
    Async.Keeps (fun world => Recordable channel event world.db)
      (dispatch config env channel event) := by
  have reads : Async.Keeps
      (fun world => Recordable channel event world.db) (now env) :=
    fun _ holds => holds
  have sends : Async.Keeps
      (fun world => Recordable channel event world.db) (send env) := by
    intro world holds
    simp only [send]
    split <;> exact holds
  have claims : ∀ leaseCutoff, Async.Keeps
      (fun world => Recordable channel event world.db)
      (claim env channel event leaseCutoff) := by
    intro leaseCutoff
    unfold claim
    refine reads.bind fun stamp => ?_
    refine (statement_keeps_recordable undisturbed
      insertClaim_changed).attempt.bind fun outcome => ?_
    split
    · exact Async.keeps_pure _
    · split
      · refine (statement_keeps_recordable undisturbed
          takeOverClaim_changed).bind fun count => ?_
        split
        · exact Async.keeps_pure _
        · refine (statement_keeps_recordable undisturbed
            readBackClaim_changed).bind fun existing => ?_
          split <;> exact Async.keeps_pure _
      · exact Async.keeps_reject _
  unfold dispatch
  split
  · refine reads.bind fun started => ?_
    refine (claims _).bind fun claimResult => ?_
    split
    · exact Async.keeps_pure _
    · exact Async.keeps_reject _
    · refine sends.attempt.bind fun outcome => ?_
      split
      · refine Async.Keeps.bind ?_ fun _ => Async.keeps_reject _
        exact (statement_keeps_recordable undisturbed
          releaseClaimStatement_changed).attempt.bind
            fun _ => Async.keeps_pure _
      · exact (statement_keeps_recordable undisturbed
          settleStatement_changed).bind fun _ => Async.keeps_pure _
  · exact Async.keeps_reject _

variable (reachable : ∀ call, env.reachable call = true)

include reachable

theorem statement_run {α : Type} (body : Db → Except Failure (α × Db))
    (world : World) :
    (statement env body).run world =
      match body world.db with
      | .ok (value, after) =>
          (.ok value, ⟨after, world.calls + 1, world.effects⟩)
      | .error failure =>
          (.error failure, ⟨world.db, world.calls + 1, world.effects⟩) := by
  cases decided : body world.db with
  | ok result =>
      simp only [statement, undisturbed, reachable, if_true, decided]
  | error failure =>
      simp only [statement, undisturbed, reachable, if_true, decided]

/-- A claim that its first statement decides. -/
theorem claim_run_of_rejected {channel : Channel} {event : Json}
    (world : World) {failure : Failure}
    (rejected : insertClaim channel event (env.now world.calls) world.db =
      .error failure)
    (other : isUniqueViolation failure = false) (leaseCutoff : Int) :
    (claim env channel event leaseCutoff).run world =
      (.error failure, ⟨world.db, world.calls + 2, world.effects⟩) := by
  simp only [claim, now, Async.run_bind, Async.run_attempt,
    statement_run undisturbed reachable, rejected, other,
    Bool.false_eq_true, if_false, Async.run_reject]

theorem claim_run_of_inserted {channel : Channel} {event : Json}
    (world : World) {after : Db}
    (inserted : insertClaim channel event (env.now world.calls) world.db =
      .ok ((), after)) (leaseCutoff : Int) :
    (claim env channel event leaseCutoff).run world =
      (.ok .claimed, ⟨after, world.calls + 2, world.effects⟩) := by
  simp only [claim, now, Async.run_bind, Async.run_attempt,
    statement_run undisturbed reachable, inserted, Async.run_pure]

/--
The dispatch of an event that is not recordable fails; permanently only if
the payload could be claimed and the send itself failed for good.
-/
theorem dispatch_fails_of_not_recordable {config : Config}
    {channel : Channel} {event : Json} (world : World)
    (registered : channel ∈ config.registeredChannels)
    (unrecordable : ¬ Recordable channel event world.db) :
    ∃ failure after,
      (dispatch config env channel event).run world =
          (.error failure, after) ∧
        ¬ Recordable channel event after.db ∧
        (failure.isPermanent = true ↔
          ClaimedWithoutId event world.db ∧
            ∃ sent, env.send (world.calls + 3) = some sent ∧
              sent.isPermanent = true) := by
  have started : (now env).run world =
      (.ok (env.now world.calls),
        ⟨world.db, world.calls + 1, world.effects⟩) := rfl
  rcases insertClaim_cases channel event (env.now (world.calls + 1))
      world.db with
    ⟨failure, rejected, other, transient, unclaimed⟩ |
    ⟨_, recordable⟩ | ⟨inserted, accepted, recordable | claimed⟩
  · refine ⟨failure, ⟨world.db, world.calls + 3, world.effects⟩, ?_,
      unrecordable, ?_⟩
    · have refused := claim_run_of_rejected undisturbed reachable
        ⟨world.db, world.calls + 1, world.effects⟩ rejected other
        (env.now world.calls - claimLeaseMs)
      simp only [dispatch, registered, if_true, Async.run_bind, started,
        refused]
    · rw [transient]
      constructor
      · intro permanent
        cases permanent
      · intro sentFailed
        exact (unclaimed sentFailed.1).elim
  · exact (unrecordable recordable).elim
  · exact (unrecordable recordable).elim
  · have leased := claim_run_of_inserted undisturbed reachable
      ⟨world.db, world.calls + 1, world.effects⟩ accepted
      (env.now world.calls - claimLeaseMs)
    cases sent : env.send (world.calls + 3) with
    | none =>
        refine ⟨.validation, ⟨inserted, world.calls + 5, world.effects⟩,
          ?_, claimed.not_recordable inserted, ?_⟩
        · simp only [dispatch, registered, if_true, Async.run_bind, started,
            leased, Async.run_attempt, send, sent, settle,
            statement_run undisturbed reachable,
            settleStatement_of_claimedWithoutId claimed]
        · constructor
          · intro permanent
            cases permanent
          · rintro ⟨_, _, sentFailed, _⟩
            cases sentFailed
    | some failure =>
        refine ⟨failure,
          ((statement env (releaseClaimStatement channel event)).run
            ⟨inserted, world.calls + 4, world.effects⟩).2, ?_,
          claimed.not_recordable _, ?_⟩
        · simp only [dispatch, registered, if_true, Async.run_bind, started,
            leased, Async.run_attempt, send, sent, releaseClaim,
            Async.run_pure, Async.run_reject]
        · constructor
          · exact fun permanent => ⟨claimed, failure, rfl, permanent⟩
          · rintro ⟨_, _, same, permanent⟩
            cases same
            exact permanent

end Undisturbed

end WeatherNotify.Notifier

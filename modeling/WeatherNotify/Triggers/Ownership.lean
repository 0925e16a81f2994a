import WeatherNotify.Transition.Opened
import WeatherNotify.Triggers.Requests

/-!
# Requests of different users

Every statement of a request is restricted to the rows of its user, or acts by
a key that was found among them.  So it answers as it would on these rows
alone, and leaves the rows of everybody else.
-/

namespace WeatherNotify.Triggers

open WeatherNotify.Transition

variable {round : Rat → Rat} {table written : List TriggerRow}
variable {user other id : String}

/-! ## Rows of one user -/

def ownRows (user : String) (table : List TriggerRow) : List TriggerRow :=
  table.filter fun row => row.userId = user

theorem mem_ownRows {row : TriggerRow} :
    row ∈ ownRows user table ↔ row ∈ table ∧ row.userId = user := by
  rw [ownRows, List.mem_filter, decide_eq_true_eq]

theorem countForUser_ownRows (table : List TriggerRow) (user : String) :
    countForUser (ownRows user table) user = countForUser table user := by
  unfold countForUser ownRows
  rw [List.countP_filter]
  exact List.countP_congr fun row _ => by simp

theorem findOwned_ownRows (table : List TriggerRow) (user id : String) :
    findOwned (ownRows user table) user id = findOwned table user id := by
  unfold findOwned ownRows
  rw [List.find?_filter]
  congr 1
  funext row
  by_cases own : row.userId = user <;> simp [own]

/-- The rows with an id belong to a user. -/
def HeldBy (table : List TriggerRow) (user id : String) : Prop :=
  ∀ row ∈ table, row.id = id → row.userId = user

theorem any_ownRows (held : HeldBy table user id) :
    ((ownRows user table).any fun row => row.id = id) =
      table.any fun row => row.id = id := by
  rw [Bool.eq_iff_iff, List.any_eq_true, List.any_eq_true]
  constructor
  · rintro ⟨row, member, same⟩
    exact ⟨row, (mem_ownRows.mp member).1, same⟩
  · rintro ⟨row, member, same⟩
    exact ⟨row, mem_ownRows.mpr
      ⟨member, held row member (of_decide_eq_true same)⟩, same⟩

/-! ## Statements -/

theorem userId_createdRow {dto : CreateTriggerDto} {row : TriggerRow}
    (made : createdRow round user id dto = some row) : row.userId = user := by
  unfold createdRow at made
  split at made
  · cases made
  · cases made
    rfl

theorem create_ownRows (unused : ∀ row ∈ table, row.id ≠ id)
    (dto : CreateTriggerDto) :
    create round (ownRows user table) user id dto =
      (create round table user id dto).map (ownRows user) := by
  have held : HeldBy table user id :=
    fun row member same => (unused row member same).elim
  unfold create
  rw [any_ownRows held]
  split
  case isTrue => rfl
  case isFalse =>
    rw [Option.map_map]
    cases made : createdRow round user id dto with
    | none => rfl
    | some row =>
        have own : ownRows user [row] = [row] :=
          List.filter_eq_self.mpr fun only member => by
            rw [List.mem_singleton.mp member]
            exact decide_eq_true (userId_createdRow made)
        show some (ownRows user table ++ [row]) =
          some (ownRows user (table ++ [row]))
        unfold ownRows at own ⊢
        rw [List.filter_append, own]

theorem ownRows_create (different : other ≠ user) {dto : CreateTriggerDto}
    (made : create round table user id dto = some written) :
    ownRows other written = ownRows other table := by
  unfold create at made
  split at made
  · cases made
  · obtain ⟨row, created, rfl⟩ := Option.map_eq_some_iff.mp made
    have foreign : ¬ row.userId = other := by
      rw [userId_createdRow created]
      exact different.symm
    simp [ownRows, foreign]

theorem filter_userId_map {change : TriggerRow → TriggerRow}
    (keeps : ∀ row, (change row).userId = row.userId) (user : String)
    (table : List TriggerRow) :
    ownRows user (table.map change) = (ownRows user table).map change := by
  unfold ownRows
  rw [List.filter_map]
  congr 1
  exact List.filter_congr fun row _ => by
    rw [Function.comp_apply, keeps row]

theorem userId_changed (dto : UpdateTriggerDto) (id : String)
    (row : TriggerRow) :
    (if row.id = id then row.updated round dto else row).userId =
      row.userId := by
  split <;> rfl

theorem update_ownRows (held : HeldBy table user id)
    (dto : UpdateTriggerDto) :
    update round (ownRows user table) id dto =
      (update round table id dto).map (ownRows user) := by
  unfold update
  rw [any_ownRows held]
  split
  case isTrue => rfl
  case isFalse =>
    split
    case isFalse => rfl
    case isTrue =>
      rw [Option.map_some, filter_userId_map (userId_changed dto id)]

theorem ownRows_update (held : HeldBy table user id)
    (different : other ≠ user) {dto : UpdateTriggerDto}
    (changed : update round table id dto = some written) :
    ownRows other written = ownRows other table := by
  unfold update at changed
  split at changed
  · cases changed
  · split at changed
    case isFalse => cases changed
    case isTrue =>
      cases changed
      rw [filter_userId_map (userId_changed dto id)]
      refine (List.map_congr_left fun row member => ?_).trans (List.map_id _)
      rcases mem_ownRows.mp member with ⟨stored, own⟩
      apply if_neg
      intro same
      exact different (own.symm.trans (held row stored same))

theorem delete_ownRows (held : HeldBy table user id) :
    delete (ownRows user table) id =
      (delete table id).map (ownRows user) := by
  unfold delete
  rw [any_ownRows held]
  split
  case isFalse => rfl
  case isTrue =>
    rw [Option.map_some, ownRows, ownRows, List.filter_comm]

theorem ownRows_delete (held : HeldBy table user id)
    (different : other ≠ user) (removed : delete table id = some written) :
    ownRows other written = ownRows other table := by
  unfold delete at removed
  split at removed
  case isFalse => cases removed
  case isTrue =>
    cases removed
    unfold ownRows
    rw [List.filter_filter]
    apply List.filter_congr
    intro row stored
    by_cases own : row.userId = other
    · have kept : row.id ≠ id := fun same =>
        different (own.symm.trans (held row stored same))
      simp [own, kept]
    · simp [own]

theorem ownRows_deleteAllForUser (table : List TriggerRow) (user : String) :
    ownRows user (deleteAllForUser table user) =
      deleteAllForUser (ownRows user table) user := by
  unfold ownRows deleteAllForUser
  exact List.filter_comm _ _ _

theorem ownRows_deleteAllForUser_of_ne (different : other ≠ user) :
    ownRows other (deleteAllForUser table user) = ownRows other table := by
  unfold ownRows deleteAllForUser
  rw [List.filter_filter]
  apply List.filter_congr
  intro row _
  by_cases own : row.userId = other
  · simp [own, different]
  · simp [own]

/-! ## One step of a request -/

def Request.userId : Request → String
  | .create userId _ | .update userId _ _ | .delete userId _
  | .clear userId => userId

/-- A phase of a request of `user`, who holds the id it found. -/
def Phase.BelongsTo (user : String) (holds : String → Prop) : Phase → Prop
  | .verifying userId _ | .counting userId _ | .inserting userId _
  | .finding userId _ _ | .checking userId _ | .clearing userId =>
      userId = user
  | .updating id _ | .deleting id => holds id
  | .waiting | .answered _ => True

theorem Phase.BelongsTo.mono {user : String} {holds keeps : String → Prop}
    {phase : Phase} (belongs : phase.BelongsTo user holds)
    (weaker : ∀ id, holds id → keeps id) : phase.BelongsTo user keeps := by
  cases phase with
  | updating | deleting => exact weaker _ belongs
  | waiting | answered => exact trivial
  | verifying | counting | inserting | finding | checking | clearing =>
      exact belongs

theorem Request.belongsTo_first (request : Request)
    (holds : String → Prop) :
    request.first.BelongsTo request.userId holds := by
  cases request <;> rfl

/-- A statement that settles a request does so on the rows of its user. -/
theorem settled_ownRows {response : Response} {next : Phase}
    {result own : Option (List TriggerRow)}
    (same : own = result.map (ownRows user))
    (leaves : ∀ changed, result = some changed → ∀ other, other ≠ user →
      ownRows other changed = ownRows other table)
    (moved : some (settled table response result) = some (next, written)) :
    some (settled (ownRows user table) response own) =
        some (next, ownRows user written) ∧
      ∀ other, other ≠ user →
        ownRows other written = ownRows other table := by
  cases same
  cases result with
  | none =>
      cases moved
      exact ⟨rfl, fun _ _ => rfl⟩
  | some changed =>
      cases moved
      exact ⟨rfl, leaves _ rfl⟩

/-- A step of a user's request reads and writes the rows of this user only. -/
theorem advance_ownRows {phase next : Phase} {action : Action}
    (belongs : phase.BelongsTo user (HeldBy table user))
    (receives : ∀ request, action = .receive request →
      request.userId = user)
    (unused : ∀ userId dto id, phase = .inserting userId dto →
      action = .insert id → ∀ row ∈ table, row.id ≠ id)
    (moved : advance round table phase action = some (next, written)) :
    advance round (ownRows user table) phase action =
        some (next, ownRows user written) ∧
      ∀ other, other ≠ user → ownRows other written = ownRows other table := by
  unfold advance at moved
  split at moved
  case h_1 request =>
    cases moved
    exact ⟨rfl, fun _ _ => rfl⟩
  case h_2 userId dto answer =>
    split at moved
    case isTrue passed =>
      cases moved
      exact ⟨if_pos passed, fun _ _ => rfl⟩
    case isFalse refused =>
      cases moved
      exact ⟨if_neg refused, fun _ _ => rfl⟩
  case h_3 userId dto =>
    cases belongs
    have counted := countForUser_ownRows table user
    split at moved
    case isTrue full =>
      cases moved
      exact ⟨if_pos (counted ▸ full), fun _ _ => rfl⟩
    case isFalse below =>
      cases moved
      exact ⟨if_neg (counted ▸ below), fun _ _ => rfl⟩
  case h_4 userId dto id =>
    cases belongs
    have free := unused _ _ id rfl rfl
    exact settled_ownRows (create_ownRows free dto)
      (fun _ made _ different => ownRows_create different made) moved
  case h_5 userId id dto =>
    cases belongs
    have found := findOwned_ownRows table user id
    split at moved
    · rename_i missing
      cases moved
      refine ⟨?_, fun _ _ => rfl⟩
      simp only [advance, found, missing]
    · rename_i row stored
      cases moved
      refine ⟨?_, fun _ _ => rfl⟩
      simp only [advance, found, stored]
  case h_6 id dto =>
    exact settled_ownRows (update_ownRows belongs dto)
      (fun _ changed _ different => ownRows_update belongs different changed)
      moved
  case h_7 userId id =>
    cases belongs
    have found := findOwned_ownRows table user id
    split at moved
    · rename_i missing
      cases moved
      refine ⟨?_, fun _ _ => rfl⟩
      simp only [advance, found, missing]
    · rename_i row stored
      cases moved
      refine ⟨?_, fun _ _ => rfl⟩
      simp only [advance, found, stored]
  case h_8 id =>
    exact settled_ownRows (delete_ownRows belongs)
      (fun _ removed _ different => ownRows_delete belongs different removed)
      moved
  case h_9 userId =>
    cases belongs
    cases moved
    refine ⟨?_, fun _ different =>
      ownRows_deleteAllForUser_of_ne different⟩
    simp only [advance, countForUser_ownRows, ownRows_deleteAllForUser]
  case h_10 => cases moved
  case h_11 => cases moved
  case h_12 notWaiting notAnswered =>
    cases moved
    refine ⟨?_, fun _ _ => rfl⟩
    cases phase with
    | waiting => exact (notWaiting rfl).elim
    | answered response => exact (notAnswered response rfl).elim
    | verifying | counting | inserting | finding | updating | checking
    | deleting | clearing => rfl
  case h_13 => cases moved

/-- What a request found for its user is still held after its step. -/
theorem Phase.BelongsTo.next {holds : String → Prop} {phase next : Phase}
    {action : Action} (belongs : phase.BelongsTo user holds)
    (receives : ∀ request, action = .receive request →
      request.userId = user)
    (stored : ∀ row ∈ table, row.userId = user → holds row.id)
    (moved : advance round table phase action = some (next, written)) :
    next.BelongsTo user holds := by
  have found : ∀ {id : String} {row : TriggerRow},
      findOwned table user id = some row → holds id := by
    intro id row answer
    have own := List.find?_some answer
    rw [decide_eq_true_eq] at own
    have held := stored row (List.mem_of_find?_eq_some answer) own.2
    rwa [own.1] at held
  have settles : ∀ {response : Response}
      {result : Option (List TriggerRow)},
      some (settled table response result) = some (next, written) →
        next.BelongsTo user holds := by
    intro response result ended
    rcases eq_of_settled (Option.some.inj ended) with ⟨-, rfl⟩ | ⟨-, rfl⟩ <;>
      exact trivial
  unfold advance at moved
  split at moved
  case h_1 request =>
    cases moved
    have own := request.belongsTo_first holds
    rwa [receives request rfl] at own
  case h_2 => split at moved <;> cases moved <;>
    first | exact belongs | exact trivial
  case h_3 => split at moved <;> cases moved <;>
    first | exact belongs | exact trivial
  case h_4 => exact settles moved
  case h_5 =>
    cases belongs
    split at moved
    · cases moved
      exact trivial
    · rename_i row answer
      cases moved
      exact found answer
  case h_6 => exact settles moved
  case h_7 =>
    cases belongs
    split at moved
    · cases moved
      exact trivial
    · rename_i row answer
      cases moved
      exact found answer
  case h_8 => exact settles moved
  case h_9 =>
    cases moved
    exact trivial
  case h_10 => cases moved
  case h_11 => cases moved
  case h_12 =>
    cases moved
    exact trivial
  case h_13 => cases moved

/-! ## Whose request it is -/

variable {n : Nat}

/-- A label that brings a request of a user into its slot. -/
def Label.opens (label : Label n) : Option (Fin n × String) :=
  match label.action with
  | .receive request => some (label.request, request.userId)
  | _ => none

/-- The user whose request a slot holds, according to the labels of a run. -/
def sender (labels : List (Label n)) : Fin n → Option String :=
  Machine.opener Label.opens labels

theorem Label.opens_eq_some_iff {label : Label n} {slot : Fin n} :
    label.opens = some (slot, user) ↔
      label.request = slot ∧
        ∃ request, label.action = .receive request ∧
          request.userId = user := by
  obtain ⟨index, action⟩ := label
  cases action <;> simp [Label.opens]

theorem advance_ne_waiting {phase next : Phase} {action : Action}
    (moved : advance round table phase action = some (next, written)) :
    next ≠ .waiting := by
  have settles : ∀ {response : Response}
      {result : Option (List TriggerRow)},
      some (settled table response result) = some (next, written) →
        next ≠ .waiting := by
    intro response result ended
    rcases eq_of_settled (Option.some.inj ended) with ⟨-, rfl⟩ | ⟨-, rfl⟩ <;>
      exact nofun
  unfold advance at moved
  split at moved
  case h_1 request =>
    cases moved
    cases request <;> exact nofun
  case h_2 => split at moved <;> cases moved <;> exact nofun
  case h_3 => split at moved <;> cases moved <;> exact nofun
  case h_4 => exact settles moved
  case h_5 => split at moved <;> cases moved <;> exact nofun
  case h_6 => exact settles moved
  case h_7 => split at moved <;> cases moved <;> exact nofun
  case h_8 => exact settles moved
  case h_9 =>
    cases moved
    exact nofun
  case h_10 => cases moved
  case h_11 => cases moved
  case h_12 =>
    cases moved
    exact nofun
  case h_13 => cases moved

/-- A request comes into a slot that waits. -/
theorem waiting_of_receive {phase next : Phase} {request : Request}
    (moved : advance round table phase (.receive request) =
      some (next, written)) : phase = .waiting := by
  cases phase <;> first | rfl | cases moved

theorem opensOnce : (machine n round).OpensOnce Label.opens
    (fun state slot => state.requests slot ≠ .waiting) where
  opened {source target label slot user} stepped opened := by
    rcases Label.opens_eq_some_iff.mp opened with ⟨rfl, request, act, -⟩
    rcases Option.map_eq_some_iff.mp stepped with
      ⟨⟨next, written⟩, moved, rfl⟩
    rw [act] at moved
    constructor
    · exact not_not.mpr (waiting_of_receive moved)
    · show Function.update source.requests label.request next
        label.request ≠ _
      rw [Function.update_self]
      exact advance_ne_waiting moved
  stays {source target label slot} stepped busy := by
    rcases Option.map_eq_some_iff.mp stepped with
      ⟨⟨next, written⟩, moved, rfl⟩
    show Function.update source.requests label.request next slot ≠ _
    rw [Function.update_apply]
    split
    · exact advance_ne_waiting moved
    · exact busy

/-! ## What one user sees -/

/-- The rows of a user and the requests made for this user. -/
def State.seenBy (senders : Fin n → Option String) (user : String)
    (state : State n) : State n where
  table := ownRows user state.table
  requests := Machine.ownSlots senders user .waiting state.requests

variable {senders : Fin n → Option String} {source target : State n}
variable {label : Label n}

/-- What one step of the run may rely on. -/
structure Attributed (senders : Fin n → Option String) (source : State n)
    (label : Label n) : Prop where
  belongs : ∀ user, senders label.request = some user →
    (source.requests label.request).BelongsTo user (HeldBy source.table user)
  idle : senders label.request = none →
    source.requests label.request = .waiting
  opened : ∀ user, label.opens = some (label.request, user) →
    senders label.request = some user
  unused : ∀ userId dto id,
    source.requests label.request = .inserting userId dto →
      label.action = .insert id → ∀ row ∈ source.table, row.id ≠ id

theorem Attributed.receives (attributed : Attributed senders source label)
    (sent : senders label.request = some user) (request : Request)
    (act : label.action = .receive request) : request.userId = user := by
  have opened := attributed.opened request.userId
    (Label.opens_eq_some_iff.mpr ⟨rfl, request, act, rfl⟩)
  exact Option.some.inj (opened.symm.trans sent)

/-- A step of a slot is a step of somebody's request. -/
theorem Attributed.exists_sender (attributed : Attributed senders source label)
    {next : Phase}
    (moved : advance round source.table (source.requests label.request)
      label.action = some (next, written)) :
    ∃ user, senders label.request = some user := by
  cases sent : senders label.request with
  | some user => exact ⟨user, rfl⟩
  | none =>
      rw [attributed.idle sent] at moved
      cases act : label.action with
      | receive request =>
          have opened := attributed.opened request.userId
            (Label.opens_eq_some_iff.mpr ⟨rfl, request, act, rfl⟩)
          rw [sent] at opened
          cases opened
      | verified | insert | execute | fail =>
          rw [act] at moved
          cases moved

/-- A user's own step is a step on what the user sees. -/
theorem step_seenBy (attributed : Attributed senders source label)
    (sent : senders label.request = some user)
    (stepped : step round source label = some target) :
    step round (source.seenBy senders user) label =
      some (target.seenBy senders user) := by
  rcases Option.map_eq_some_iff.mp stepped with ⟨⟨next, written⟩, moved, rfl⟩
  have own := (advance_ownRows (attributed.belongs user sent)
    (attributed.receives sent) attributed.unused moved).1
  have phase : (source.seenBy senders user).requests label.request =
      source.requests label.request :=
    Machine.ownSlots_apply sent _ _
  show Option.map _ (advance round (ownRows user source.table)
    ((source.seenBy senders user).requests label.request) label.action) = _
  rw [phase, own, Option.map_some]
  exact congrArg (some ∘ State.mk (ownRows user written))
    (Machine.ownSlots_update sent _ _ _).symm

/-- Another user's step shows nothing. -/
theorem seenBy_step_of_ne (attributed : Attributed senders source label)
    (foreign : senders label.request ≠ some user)
    (stepped : step round source label = some target) :
    target.seenBy senders user = source.seenBy senders user := by
  rcases Option.map_eq_some_iff.mp stepped with ⟨⟨next, written⟩, moved, rfl⟩
  have kept : ownRows user written = ownRows user source.table := by
    obtain ⟨other, sent⟩ := attributed.exists_sender moved
    refine (advance_ownRows (attributed.belongs other sent)
      (attributed.receives sent) attributed.unused moved).2 user ?_
    rintro rfl
    exact foreign sent
  exact congrArg₂ State.mk kept
    (Machine.ownSlots_update_of_ne foreign _ _ _)

end WeatherNotify.Triggers

import WeatherNotify.PinnedCities.Requests
import WeatherNotify.Transition.Opened
import WeatherNotify.Transition.Simulation

/-!
# Pinned cities of different users

The count, the unique index and the removal all look at the owner's rows only.
So a user's list, and the answers to this user's requests, are those of the run
in which nobody else has sent a request.
-/

namespace WeatherNotify.PinnedCities

open WeatherNotify.Transition

variable {table written : List PinnedCityRow} {user other id : String}

/-! ## Rows of one user -/

def ownRows (user : String) (table : List PinnedCityRow) :
    List PinnedCityRow :=
  table.filter fun row => row.userId = user

theorem mem_ownRows {row : PinnedCityRow} :
    row ∈ ownRows user table ↔ row ∈ table ∧ row.userId = user := by
  rw [ownRows, List.mem_filter, decide_eq_true_eq]

theorem countForUser_ownRows (table : List PinnedCityRow) (user : String) :
    countForUser (ownRows user table) user = countForUser table user := by
  unfold countForUser ownRows
  rw [List.countP_filter]
  exact List.countP_congr fun row _ => by simp

/-- Only rows of the same owner collide with a row under an unused id. -/
theorem violatesUnique_ownRows {row : PinnedCityRow} (own : row.userId = user)
    (unused : ∀ other ∈ table, other.id ≠ row.id) :
    violatesUnique (ownRows user table) row = violatesUnique table row := by
  unfold violatesUnique
  rw [Bool.eq_iff_iff, List.any_eq_true, List.any_eq_true]
  simp only [Bool.or_eq_true, decide_eq_true_eq]
  constructor
  · rintro ⟨other, member, collides⟩
    exact ⟨other, (mem_ownRows.mp member).1, collides⟩
  · rintro ⟨other, member, sameId | sameCity⟩
    · exact (unused other member sameId).elim
    · exact ⟨other, mem_ownRows.mpr ⟨member, sameCity.1.trans own⟩,
        Or.inr sameCity⟩

theorem ownRows_append_own {row : PinnedCityRow} (own : row.userId = user)
    (table : List PinnedCityRow) :
    ownRows user (table ++ [row]) = ownRows user table ++ [row] := by
  simp [ownRows, own]

theorem ownRows_append_of_ne {row : PinnedCityRow} (foreign : row.userId ≠ user)
    (table : List PinnedCityRow) :
    ownRows user (table ++ [row]) = ownRows user table := by
  simp [ownRows, foreign]

theorem ownRows_deleteMany (table : List PinnedCityRow) (id user : String) :
    ownRows user (deleteMany table id user) =
      deleteMany (ownRows user table) id user := by
  unfold ownRows deleteMany
  exact List.filter_comm _ _ _

theorem ownRows_deleteMany_of_ne (different : other ≠ user) :
    ownRows other (deleteMany table id user) = ownRows other table := by
  unfold ownRows deleteMany
  rw [List.filter_filter]
  apply List.filter_congr
  intro row _
  by_cases own : row.userId = other
  · simp [own, different]
  · simp [own]

/-! ## One step of a request -/

def Request.userId : Request → String
  | .create userId _ | .remove userId _ => userId

/-- A phase of a request of `user`. -/
def Phase.BelongsTo (user : String) : Phase → Prop
  | .counting userId _ | .inserting userId _ _ | .removing userId _ =>
      userId = user
  | .waiting | .answered _ => True

theorem Request.belongsTo_first (request : Request) :
    request.first.BelongsTo request.userId := by
  cases request <;> rfl

/-- A step of a user's request reads and writes the rows of this user only. -/
theorem advance_ownRows {phase next : Phase} {action : Action}
    (belongs : phase.BelongsTo user)
    (receives : ∀ request, action = .receive request →
      request.userId = user)
    (unused : ∀ id, action = .insert id → ∀ row ∈ table, row.id ≠ id)
    (moved : advance table phase action = some (next, written)) :
    advance (ownRows user table) phase action =
        some (next, ownRows user written) ∧
      (∀ other, other ≠ user →
        ownRows other written = ownRows other table) ∧
      next.BelongsTo user := by
  unfold advance at moved
  split at moved
  case h_1 request =>
    cases moved
    refine ⟨rfl, fun _ _ => rfl, ?_⟩
    rw [← receives request rfl]
    exact request.belongsTo_first
  case h_2 userId dto =>
    cases belongs
    have counted := countForUser_ownRows table user
    dsimp only at moved
    split at moved
    case isTrue full =>
      cases moved
      exact ⟨if_pos (counted ▸ full), fun _ _ => rfl, trivial⟩
    case isFalse below =>
      cases moved
      refine ⟨?_, fun _ _ => rfl, rfl⟩
      simp only [advance, counted, if_neg below]
  case h_3 userId dto count id =>
    cases belongs
    have unique : violatesUnique (ownRows user table)
        (createdRow user id dto count) =
          violatesUnique table (createdRow user id dto count) :=
      violatesUnique_ownRows rfl (unused id rfl)
    cases clash : violatesUnique table (createdRow user id dto count) with
    | true =>
        simp only [create, clash, if_true] at moved
        cases moved
        refine ⟨?_, fun _ _ => rfl, trivial⟩
        simp only [advance, create, unique, clash, if_true]
    | false =>
        simp only [create, clash, Bool.false_eq_true, if_false] at moved
        cases moved
        refine ⟨?_, fun other different => ?_, trivial⟩
        · simp only [advance, create, unique, clash, Bool.false_eq_true,
            if_false]
          rw [ownRows_append_own (show (createdRow user id dto count).userId =
            user from rfl)]
        · exact ownRows_append_of_ne different.symm table
  case h_4 userId id =>
    cases belongs
    cases moved
    refine ⟨?_, fun _ different => ownRows_deleteMany_of_ne different,
      trivial⟩
    rw [ownRows_deleteMany]
    rfl
  case h_5 => cases moved
  case h_6 => cases moved
  case h_7 notWaiting notAnswered =>
    cases moved
    refine ⟨?_, fun _ _ => rfl, trivial⟩
    cases phase with
    | waiting => exact (notWaiting rfl).elim
    | answered response => exact (notAnswered response rfl).elim
    | counting | inserting | removing => rfl
  case h_8 => cases moved

/-! ## Whose request it is -/

variable {n : Nat}

/-- A label that brings a request of a user into its slot. -/
def Label.opens (label : Label n) : Option (Fin n × String) :=
  match label.action with
  | .receive request => some (label.request, request.userId)
  | _ => none

/-- The user whose request a slot holds, according to the labels of a run. -/
def sender (labels : List (Label n)) : Fin n → Option String :=
  Machine.opener Label.opens labels

theorem Label.opens_eq_some_iff {label : Label n} {slot : Fin n} :
    label.opens = some (slot, user) ↔
      label.request = slot ∧
        ∃ request, label.action = .receive request ∧
          request.userId = user := by
  obtain ⟨index, action⟩ := label
  cases action <;> simp [Label.opens]

theorem advance_ne_waiting {phase next : Phase} {action : Action}
    (moved : advance table phase action = some (next, written)) :
    next ≠ .waiting := by
  unfold advance at moved
  split at moved
  case h_1 request =>
    cases moved
    cases request <;> exact nofun
  case h_2 =>
    dsimp only at moved
    split at moved <;> cases moved <;> exact nofun
  case h_3 =>
    dsimp only at moved
    split at moved <;> cases moved <;> exact nofun
  case h_4 =>
    cases moved
    exact nofun
  case h_5 => cases moved
  case h_6 => cases moved
  case h_7 =>
    cases moved
    exact nofun
  case h_8 => cases moved

/-- A request comes into a slot that waits. -/
theorem waiting_of_receive {phase next : Phase} {request : Request}
    (moved : advance table phase (.receive request) =
      some (next, written)) : phase = .waiting := by
  cases phase <;> first | rfl | cases moved

theorem opensOnce : (machine n).OpensOnce Label.opens
    (fun state slot => state.requests slot ≠ .waiting) where
  opened {source target label slot user} stepped opened := by
    rcases Label.opens_eq_some_iff.mp opened with ⟨rfl, request, act, -⟩
    rcases Option.map_eq_some_iff.mp stepped with
      ⟨⟨next, written⟩, moved, rfl⟩
    rw [act] at moved
    constructor
    · exact not_not.mpr (waiting_of_receive moved)
    · show Function.update source.requests label.request next
        label.request ≠ _
      rw [Function.update_self]
      exact advance_ne_waiting moved
  stays {source target label slot} stepped busy := by
    rcases Option.map_eq_some_iff.mp stepped with
      ⟨⟨next, written⟩, moved, rfl⟩
    show Function.update source.requests label.request next slot ≠ _
    rw [Function.update_apply]
    split
    · exact advance_ne_waiting moved
    · exact busy

/-! ## What one user sees -/

/-- The rows of a user and the requests made for this user. -/
def State.seenBy (senders : Fin n → Option String) (user : String)
    (state : State n) : State n where
  table := ownRows user state.table
  requests := Machine.ownSlots senders user .waiting state.requests

/-- A slot that nobody opens waits, and the others work for their senders. -/
structure Attributed (senders : Fin n → Option String) (state : State n) :
    Prop where
  belongs : ∀ slot user, senders slot = some user →
    (state.requests slot).BelongsTo user
  idle : ∀ slot, senders slot = none → state.requests slot = .waiting

/-- The id that is drawn for a new row. -/
def Action.drawn : Action → Option String
  | .insert id => some id
  | _ => none

/-- The id of a new row is not in the table. -/
def DrawsUnused (taken : Taken (State n) (Label n)) : Prop :=
  ∀ id ∈ taken.label.action.drawn,
    ∀ row ∈ taken.source.table, row.id ≠ id

instance (taken : Taken (State n) (Label n)) :
    Decidable (DrawsUnused taken) :=
  inferInstanceAs (Decidable (∀ id ∈ taken.label.action.drawn, _))

/-- A step whose label says whose request it brings, and draws a new id. -/
structure Told (senders : Fin n → Option String)
    (taken : Taken (State n) (Label n)) : Prop where
  opened : ∀ user, taken.label.opens = some (taken.label.request, user) →
    senders taken.label.request = some user
  unused : DrawsUnused taken

variable {senders : Fin n → Option String}
variable {taken : Taken (State n) (Label n)}

/-- A step is a step of somebody's request, on the rows of this user. -/
theorem Attributed.moved (attributed : Attributed senders taken.source)
    (told : Told senders taken) {next : Phase}
    {written : List PinnedCityRow}
    (moved : advance taken.source.table
      (taken.source.requests taken.label.request) taken.label.action =
        some (next, written)) :
    ∃ user, senders taken.label.request = some user ∧
      advance (ownRows user taken.source.table)
          (taken.source.requests taken.label.request) taken.label.action =
        some (next, ownRows user written) ∧
      (∀ other, other ≠ user →
        ownRows other written = ownRows other taken.source.table) ∧
      next.BelongsTo user := by
  have receives : ∀ request, taken.label.action = .receive request →
      senders taken.label.request = some request.userId :=
    fun request act => told.opened request.userId
      (Label.opens_eq_some_iff.mpr ⟨rfl, request, act, rfl⟩)
  cases sent : senders taken.label.request with
  | some user =>
      refine ⟨user, rfl, advance_ownRows
        (attributed.belongs taken.label.request user sent) ?_ ?_ moved⟩
      · intro request act
        exact Option.some.inj ((receives request act).symm.trans sent)
      · intro id act
        exact told.unused id (by rw [act]; rfl)
  | none =>
      rw [attributed.idle taken.label.request sent] at moved
      cases act : taken.label.action with
      | receive request =>
          rw [receives request act] at sent
          cases sent
      | insert | execute | fail =>
          rw [act] at moved
          cases moved

theorem attributed_step
    (stepped : (machine n).step taken.source taken.label =
      some taken.target) (told : Told senders taken)
    (attributed : Attributed senders taken.source) :
    Attributed senders taken.target := by
  rcases Option.map_eq_some_iff.mp stepped with ⟨⟨next, written⟩, moved, same⟩
  obtain ⟨sender, sent, -, -, belongs⟩ := attributed.moved told moved
  rw [← same]
  constructor
  · intro slot user own
    show (Function.update taken.source.requests taken.label.request next
      slot).BelongsTo user
    rw [Function.update_apply]
    split
    case isTrue here =>
      rw [here, sent] at own
      cases own
      exact belongs
    case isFalse => exact attributed.belongs slot user own
  · intro slot unsent
    show Function.update taken.source.requests taken.label.request next
      slot = _
    rw [Function.update_apply]
    split
    case isTrue here =>
      rw [here, sent] at unsent
      cases unsent
    case isFalse => exact attributed.idle slot unsent

/-- The labels of a user's own requests. -/
def Label.own (senders : Fin n → Option String) (user : String)
    (label : Label n) : Option (Label n) :=
  Option.guard (fun move => senders move.request = some user) label

theorem own_step (user : String)
    (stepped : (machine n).step taken.source taken.label =
      some taken.target) (told : Told senders taken)
    (attributed : Attributed senders taken.source) :
    (∀ move, taken.label.own senders user = some move →
        (machine n).step (taken.source.seenBy senders user) move =
          some (taken.target.seenBy senders user)) ∧
      (taken.label.own senders user = none →
        taken.target.seenBy senders user =
          taken.source.seenBy senders user) := by
  rcases Option.map_eq_some_iff.mp stepped with ⟨⟨next, written⟩, moved, same⟩
  obtain ⟨party, sent, own, others, -⟩ := attributed.moved told moved
  rw [← same]
  by_cases mine : party = user
  · cases mine
    have shown : taken.label.own senders user = some taken.label :=
      if_pos (decide_eq_true sent)
    rw [shown]
    refine ⟨fun move equal => ?_, fun missing => (by cases missing)⟩
    cases equal
    have phase : (taken.source.seenBy senders user).requests
        taken.label.request = taken.source.requests taken.label.request :=
      Machine.ownSlots_apply sent _ _
    show Option.map _ (advance (ownRows user taken.source.table)
      ((taken.source.seenBy senders user).requests taken.label.request)
        taken.label.action) = _
    rw [phase, own, Option.map_some]
    exact congrArg (some ∘ State.mk (ownRows user written))
      (Machine.ownSlots_update sent _ _ _).symm
  · have foreign : senders taken.label.request ≠ some user := by
      rw [sent]
      exact fun equal => mine (Option.some.inj equal)
    have hidden : taken.label.own senders user = none :=
      if_neg (mt of_decide_eq_true foreign)
    rw [hidden]
    refine ⟨fun move equal => (by cases equal), fun _ => ?_⟩
    exact congrArg₂ State.mk (others user (Ne.symm mine))
      (Machine.ownSlots_update_of_ne foreign _ _ _)

/--
Take any run in which the ids of new rows are not in the table.  The requests
of one user alone, on the rows this user had, make a run too, and it ends with
the rows that this user owns and the answers that this user was given.
-/
theorem pins_isolated_of_run {table : List PinnedCityRow}
    {labels : List (Label n)} {final : State n}
    (reached : (machine n).run (State.start n table) labels = some final)
    (unused : ∀ taken ∈ (machine n).transitions (State.start n table) labels,
      DrawsUnused taken) (user : String) :
    (machine n).run (State.start n (ownRows user table))
        (labels.filter fun label =>
          sender labels label.request = some user) =
      some (final.seenBy (sender labels) user) := by
  have told : ∀ taken ∈
      (machine n).transitions (State.start n table) labels,
        Told (sender labels) taken := by
    intro taken member
    refine ⟨fun party opened => ?_, unused taken member⟩
    exact opensOnce.opener_eq reached
      (Machine.label_mem_of_mem_transitions _ member) opened
  have initial : Attributed (sender labels) (State.start n table) :=
    ⟨fun _ _ _ => trivial, fun _ _ => rfl⟩
  have seen := Machine.run_view_of (Attributed (sender labels))
    (Told (sender labels)) (State.seenBy (sender labels) user)
    (Label.own (sender labels) user)
    (fun _ stepped told kept => attributed_step stepped told kept)
    (fun _ stepped told kept => own_step user stepped told kept) initial told
    reached
  have start : (State.start n table).seenBy (sender labels) user =
      State.start n (ownRows user table) :=
    congrArg (State.mk _) (Machine.ownSlots_idle _ user _)
  have picked : labels.filterMap (Label.own (sender labels) user) =
      labels.filter fun label => sender labels label.request = some user :=
    congrFun List.filterMap_eq_filter labels
  rwa [start, picked] at seen

def annSlot : Fin 2 :=
  ⟨0, Nat.zero_lt_two⟩

def bobSlot : Fin 2 :=
  Fin.last 1

def oslo : CreatePinnedCityDto where
  name := "Oslo"
  country := some "Norway"
  admin1 := none
  latitude := 60
  longitude := 11

/-- Two users pin one city, and one of them removes it by the other's id. -/
def sharedCity : List (Label 2) :=
  [⟨annSlot, .receive (.create "ann" oslo)⟩, ⟨annSlot, .execute⟩,
    ⟨annSlot, .insert "a"⟩, ⟨bobSlot, .receive (.remove "bob" "a")⟩,
    ⟨bobSlot, .execute⟩]

/-- The removal answers as it does where the city was never pinned. -/
theorem pins_isolated_of_sharedCity :
    ∃ final : State 2,
      (machine 2).run (State.start 2 []) sharedCity = some final ∧
      final.table.map PinnedCityRow.id = ["a"] ∧
      (machine 2).run (State.start 2 (ownRows "bob" []))
          (sharedCity.filter fun label =>
            sender sharedCity label.request = some "bob") =
        some (final.seenBy (sender sharedCity) "bob") := by
  have ran : ((machine 2).run (State.start 2 []) sharedCity).map
      (fun final => final.table.map PinnedCityRow.id) = some ["a"] := by
    decide +kernel
  obtain ⟨final, reached, stored⟩ := Option.map_eq_some_iff.mp ran
  have unused : ∀ taken ∈
      (machine 2).transitions (State.start 2 []) sharedCity,
        DrawsUnused taken := by
    decide +kernel
  exact ⟨final, reached, stored, pins_isolated_of_run reached unused "bob"⟩

end WeatherNotify.PinnedCities

import WeatherNotify.Accounts.PushSubscriptions

/-!
# Whose keys a push subscription carries

The check of the owner and the upsert are two statements.  A registration that
found the endpoint free can overwrite the row another user has stored since,
and then that row carries keys its owner never submitted.
-/

namespace WeatherNotify.PushSubscriptions

open WeatherNotify.Transition

variable {n : Nat}

/-- The request that would store the row as it is. -/
def PushSubscription.registration (row : PushSubscription) : Request :=
  .add row.userId ⟨row.endpoint, ⟨row.p256dh, row.auth⟩⟩

/-- Every row carries keys its owner submitted for its endpoint. -/
def KeysOfOwner (state : State n) : Prop :=
  ∀ row ∈ state.table, row.registration ∈ state.submitted

/--
An upsert that overwrites a row overwrites one of the requester, or it carries
keys the row's owner has submitted for the endpoint as well.
-/
def OverwritesOwnRow (taken : Taken (State n) (Label n)) : Prop :=
  ∀ userId dto,
    taken.source.requests taken.label.request = .upserting userId dto →
      taken.label.action.isUpsert = true →
        ∀ row ∈ taken.source.table, row.endpoint = dto.endpoint →
          row.userId = userId ∨ .add row.userId dto ∈ taken.source.submitted

/-! ## What the requests under way carry was submitted -/

/-- The registration a request is carrying out. -/
def Phase.registration : Phase → Option Request
  | .finding userId dto | .upserting userId dto => some (.add userId dto)
  | _ => none

def Recorded (state : State n) : Prop :=
  ∀ request, ∀ pending ∈ (state.requests request).registration,
    pending ∈ state.submitted

theorem recorded_start (n : Nat) : Recorded (State.start n) := by
  intro request pending carried
  cases carried

/-- A statement carries on what its request carried, or what just arrived. -/
theorem registration_of_advanced {table written : List PushSubscription}
    {phase next : Phase} {action : Action}
    (advanced : Advanced table phase action next written) {pending : Request}
    (carried : pending ∈ next.registration) :
    pending ∈ phase.registration ∨ pending ∈ action.submits := by
  cases advanced with
  | arrived request =>
      cases request with
      | add userId dto =>
          cases carried
          exact Or.inr List.mem_cons_self
      | remove userId dto => cases carried
  | admitted userId dto => exact Or.inl carried
  | _ => cases carried

theorem recorded_step {source target : State n} {label : Label n}
    (stepped : (machine n).step source label = some target)
    (recorded : Recorded source) : Recorded target := by
  rcases advanced_of_step stepped with
    ⟨next, requests, submitted, advanced⟩
  unfold Recorded
  rw [requests, submitted]
  refine (Function.forall_update_iff source.requests fun _ phase =>
    ∀ pending ∈ phase.registration,
      pending ∈ label.action.submits ++ source.submitted).mpr ⟨?_, ?_⟩
  · intro pending carried
    rcases registration_of_advanced advanced carried with before | arrived
    · exact List.mem_append_right _ (recorded _ pending before)
    · exact List.mem_append_left _ arrived
  · intro other _ pending carried
    exact List.mem_append_right _ (recorded other pending carried)

/-! ## One statement -/

theorem createdRow_registration (userId id : String) (createdAt : Nat)
    (dto : CreatePushSubscriptionDto) :
    (createdRow userId id createdAt dto).registration = .add userId dto :=
  rfl

theorem updated_registration {row : PushSubscription}
    {dto : CreatePushSubscriptionDto} (same : row.endpoint = dto.endpoint) :
    (row.updated dto.keys).registration = .add row.userId dto := by
  unfold PushSubscription.registration PushSubscription.updated
  rw [same]

/-- An overwritten table is good when its owners submitted the new keys. -/
theorem updateKeys_registration_iff {table : List PushSubscription}
    {submitted : List Request} (dto : CreatePushSubscriptionDto)
    (stored : ∀ row ∈ table, row.registration ∈ submitted) :
    (∀ row ∈ updateKeys table dto, row.registration ∈ submitted) ↔
      ∀ row ∈ table, row.endpoint = dto.endpoint →
        .add row.userId dto ∈ submitted := by
  unfold updateKeys
  rw [List.forall_mem_map]
  refine forall₂_congr fun row member => ?_
  split
  · rename_i same
    rw [updated_registration same]
    exact ⟨fun known _ => known, fun known => known same⟩
  · rename_i different
    exact ⟨fun _ same => absurd same different,
      fun _ => stored row member⟩

/--
A statement keeps every row its owner's, and an upsert does so exactly when the
rows it overwrites are the requester's or their owners submitted the keys too.
-/
theorem keysOfOwner_of_advanced {table written : List PushSubscription}
    {phase next : Phase} {action : Action} {submitted : List Request}
    (advanced : Advanced table phase action next written)
    (stored : ∀ row ∈ table, row.registration ∈ submitted)
    (recorded : ∀ pending ∈ phase.registration, pending ∈ submitted) :
    (∀ row ∈ written, row.registration ∈ action.submits ++ submitted) ↔
      ∀ userId dto, phase = .upserting userId dto → action.isUpsert = true →
        ∀ row ∈ table, row.endpoint = dto.endpoint →
          row.userId = userId ∨ .add row.userId dto ∈ submitted := by
  have kept : ∀ row ∈ table, row.registration ∈ action.submits ++ submitted :=
    fun row member => List.mem_append_right _ (stored row member)
  cases advanced with
  | arrived request =>
      refine iff_of_true kept fun _ _ equal => ?_
      cases equal
  | admitted userId dto =>
      refine iff_of_true kept fun _ _ equal => ?_
      cases equal
  | ended _ _ response other =>
      refine iff_of_true kept fun _ _ _ upserts => ?_
      rw [other] at upserts
      cases upserts
  | rejected userId id createdAt dto unused =>
      refine iff_of_true kept fun _ _ equal _ row member same => ?_
      cases equal
      exact absurd same (unused row member)
  | inserted userId id createdAt dto response unused =>
      refine iff_of_true (fun row member => ?_)
        fun _ _ equal _ row member same => ?_
      · rcases List.mem_append.mp member with old | new
        · exact kept row old
        · rw [List.mem_singleton.mp new, createdRow_registration]
          exact recorded _ rfl
      · cases equal
        exact absurd same (unused row member)
  | overwritten userId id createdAt dto response =>
      have submits : (Action.upsert id createdAt).submits ++ submitted =
          submitted := rfl
      rw [submits, updateKeys_registration_iff dto stored]
      constructor
      · intro known _ _ equal _ row member same
        cases equal
        exact Or.inr (known row member same)
      · intro own row member same
        rcases own userId dto rfl rfl row member same with owner | known
        · rw [owner]
          exact recorded _ rfl
        · exact known
  | removed userId dto =>
      refine iff_of_true (fun row member => ?_) fun _ _ equal => ?_
      · exact kept row (List.mem_of_mem_filter member)
      · cases equal

theorem keysOfOwner_step_iff (taken : Taken (State n) (Label n))
    (stepped : (machine n).step taken.source taken.label =
      some taken.target)
    (good : Recorded taken.source ∧ KeysOfOwner taken.source) :
    Recorded taken.target ∧ KeysOfOwner taken.target ↔
      OverwritesOwnRow taken := by
  rcases advanced_of_step stepped with ⟨next, -, submitted, advanced⟩
  rw [and_iff_right (recorded_step stepped good.1)]
  unfold KeysOfOwner
  rw [submitted]
  exact keysOfOwner_of_advanced advanced good.2 (good.1 _)

/-! ## Every run -/

/--
Along a run every row carries keys of its owner in every state exactly when
every overwrite does: it finds a row of the requester, or keys that the owner
of the row submitted too.
-/
theorem keys_of_owner_iff (n : Nat) (labels : List (Label n)) :
    (∀ taken ∈ (machine n).transitions (State.start n) labels,
        KeysOfOwner taken.target) ↔
      ∀ taken ∈ (machine n).transitions (State.start n) labels,
        OverwritesOwnRow taken := by
  have good : Recorded (State.start n) ∧ KeysOfOwner (State.start n) :=
    ⟨recorded_start n, fun row member => by cases member⟩
  rw [← Machine.transitions_forall_iff
    (fun state => Recorded state ∧ KeysOfOwner state) keysOfOwner_step_iff
    good labels]
  refine forall₂_congr fun taken member => ?_
  have recorded : Recorded taken.source :=
    Machine.source_preserves Recorded recorded_step (recorded_start n) member
  exact (and_iff_right (recorded_step
    ((machine n).step_of_mem_transitions member) recorded)).symm

/-! ## The other user's keys -/

def endpoint : String :=
  "https://fcm.googleapis.com/fcm/send/abc123"

/-- Both users find the endpoint free; the second upsert meets the first. -/
def bothFindItFree (first second : Fin n) : List (Label n) :=
  [⟨first, .receive (.add "ann" ⟨endpoint, ⟨"ann-p", "ann-a"⟩⟩)⟩,
    ⟨second, .receive (.add "bob" ⟨endpoint, ⟨"bob-p", "bob-a"⟩⟩)⟩,
    ⟨first, .execute⟩, ⟨second, .execute⟩,
    ⟨first, .upsert "s1" 0⟩, ⟨second, .upsert "s2" 1⟩]

instance (state : State n) : Decidable (KeysOfOwner state) :=
  inferInstanceAs (Decidable (∀ row ∈ state.table, _))

/-- The row belongs to one user and carries the keys of the other. -/
theorem row_carries_keys_of_another_user :
    ∃ final,
      (machine 2).run (State.start 2) (bothFindItFree 0 1) = some final ∧
        ¬ KeysOfOwner final := by
  have mixed : ((machine 2).run (State.start 2) (bothFindItFree 0 1)).map
      (fun final => decide (KeysOfOwner final)) = some false := by
    decide +kernel
  rcases Option.map_eq_some_iff.mp mixed with ⟨final, reached, decided⟩
  exact ⟨final, reached, of_decide_eq_false decided⟩

end WeatherNotify.PushSubscriptions

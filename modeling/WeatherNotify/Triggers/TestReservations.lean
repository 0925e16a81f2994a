import WeatherNotify.Triggers.TestSend

/-!
# Who holds the cooldown of test sends

What is true of every run: a command publishes under its own user and after a
reservation of its own, and a reservation keeps the key for a window unless a
refund deletes it.
-/

namespace WeatherNotify.Triggers.TestSend

open WeatherNotify.Common
open WeatherNotify.Contracts
open WeatherNotify.Notifier
open WeatherNotify.Transition

variable {Caller : Type}

/-! ## Reservations -/

theorem cooldownKey_injective : Function.Injective cooldownKey :=
  fun _ _ equal => append_left_cancel equal

/-- The reservation was refunded, or its window has run out. -/
def Reservation.Lifted (reservation : Reservation Caller) (now : Int) : Prop :=
  reservation.refunded = true ∨ reservation.instant + testCooldownMs ≤ now

instance (reservation : Reservation Caller) (now : Int) :
    Decidable (reservation.Lifted now) :=
  inferInstanceAs (Decidable (_ ∨ _))

/-- Some reservation is the caller's. -/
def Known (reservations : List (Reservation Caller)) (caller : Caller) :
    Prop :=
  ∃ reservation ∈ reservations, reservation.caller = caller

/-- Whatever a command sends goes out under its own user. -/
def Phase.Owned (userId : String) : Phase → Prop
  | .reserving trigger => trigger.userId = userId
  | .publishing _ event _ => event.userId = userId
  | _ => True

theorem Phase.owned_of_quiet {userId : String} {phase : Phase}
    (quiet : phase.quiet = true) : phase.Owned userId := by
  cases phase with
  | finding | asking | clearing | answered response => trivial
  | reserving trigger | publishing trigger event rest => cases quiet

theorem Phase.owned_publish {userId : String} (trigger : StoredTrigger)
    {event : TriggerFiredEvent} (owned : event.userId = userId)
    (rest : List Channel) :
    (Phase.publish trigger event rest).Owned userId := by
  cases rest with
  | nil => trivial
  | cons channel rest => exact owned

theorem Phase.pending_of_quiet {phase : Phase} (quiet : phase.quiet = true) :
    phase.pending = [] := by
  cases phase with
  | finding | asking | clearing | reserving trigger | answered response => rfl
  | publishing trigger event rest => cases quiet

theorem Phase.ne_unavailable_of_quiet {phase : Phase}
    (quiet : phase.quiet = true) : phase ≠ .answered unavailable := by
  rintro rfl
  cases quiet

theorem Phase.publish_ne_unavailable (trigger : StoredTrigger)
    (event : TriggerFiredEvent) (rest : List Channel) :
    Phase.publish trigger event rest ≠ .answered unavailable := by
  cases rest <;> nofun

/-- The ghosts and the keys agree, in every run. -/
structure Recorded [DecidableEq Caller]
    (commands : Caller → SendTestNotificationCommand)
    (state : State Caller) : Prop where
  owned : ∀ caller, (state.phase caller).Owned (commands caller).userId
  pending : ∀ caller, (state.phase caller).pending ≠ [] →
    Known state.reservations caller
  accepted : ∀ message ∈ state.accepted,
    message.event.userId = (commands message.caller).userId ∧
      Known state.reservations message.caller ∧
      message.instant ≤ state.clock
  reserved : ∀ reservation ∈ state.reservations,
    reservation.userId = (commands reservation.caller).userId
  held : ∀ reservation ∈ state.reservations,
    reservation.Lifted state.clock ∨
      ∃ entry, state.cooldowns (cooldownKey reservation.userId) =
          some entry ∧
        reservation.instant + testCooldownMs ≤ entry.deadline
  keyed : ∀ key entry, state.cooldowns key = some entry →
    key = keyOf commands entry.value ∧
      state.phase entry.value ≠ .answered unavailable

theorem Known.mono {reservations others : List (Reservation Caller)}
    {caller : Caller} (known : Known reservations caller)
    (subset : reservations ⊆ others) : Known others caller := by
  rcases known with ⟨reservation, member, same⟩
  exact ⟨reservation, subset member, same⟩

theorem Known.refund {reservations : List (Reservation Caller)}
    {caller : Caller} (known : Known reservations caller)
    (userId : String) : Known (refund userId reservations) caller := by
  rcases known with ⟨reservation, member, rfl⟩
  refine ⟨_, List.mem_map_of_mem member, ?_⟩
  split <;> rfl

theorem mem_refund {userId : String}
    {reservations : List (Reservation Caller)}
    {reservation : Reservation Caller}
    (member : reservation ∈ refund userId reservations) :
    ∃ before ∈ reservations, before.caller = reservation.caller ∧
      before.userId = reservation.userId ∧
      (reservation = before ∧ reservation.userId ≠ userId ∨
        reservation.refunded = true) := by
  rcases List.mem_map.mp member with ⟨before, earlier, equal⟩
  refine ⟨before, earlier, ?_⟩
  split at equal
  · cases equal
    exact ⟨rfl, rfl, Or.inr rfl⟩
  next other =>
    cases equal
    exact ⟨rfl, rfl, Or.inl ⟨rfl, other⟩⟩

theorem Reservation.Lifted.mono {reservation : Reservation Caller}
    {now later : Int} (lifted : reservation.Lifted now)
    (passed : now ≤ later) : reservation.Lifted later := by
  rcases lifted with refunded | expired
  · exact Or.inl refunded
  · exact Or.inr (le_trans expired passed)

section Recorded

variable [DecidableEq Caller]
  {commands : Caller → SendTestNotificationCommand}
  {state next : State Caller}

theorem recorded_start (clock : Int) :
    Recorded commands (State.start clock : State Caller) where
  owned _ := trivial
  pending _ some := (some rfl).elim
  accepted _ member := by cases member
  reserved _ member := by cases member
  held _ member := by cases member
  keyed _ _ stored := by cases stored

namespace Recorded

/-- Time passes. -/
theorem tick (recorded : Recorded commands state) (elapsed : Nat) :
    Recorded commands { state with clock := state.clock + elapsed } where
  owned := recorded.owned
  pending := recorded.pending
  accepted message member := by
    rcases recorded.accepted message member with ⟨owned, known, past⟩
    exact ⟨owned, known, le_trans past (Int.le_add_of_nonneg_right
      (Int.natCast_nonneg elapsed))⟩
  reserved := recorded.reserved
  held reservation member := by
    rcases recorded.held reservation member with lifted | kept
    · exact Or.inl (lifted.mono (Int.le_add_of_nonneg_right
        (Int.natCast_nonneg elapsed)))
    · exact Or.inr kept
  keyed := recorded.keyed

/-- A command moves on. -/
theorem moveTo (recorded : Recorded commands state) {caller : Caller}
    {phase : Phase} (owned : phase.Owned (commands caller).userId)
    (known : phase.pending ≠ [] → Known state.reservations caller)
    (returned : phase = .answered unavailable →
      ∀ key entry, state.cooldowns key = some entry →
        entry.value ≠ caller) :
    Recorded commands (state.moveTo caller phase) where
  owned := State.forall_moveTo
    (fun caller phase => phase.Owned (commands caller).userId) owned
    fun other _ => recorded.owned other
  pending := State.forall_moveTo
    (fun caller phase => phase.pending ≠ [] →
      Known state.reservations caller) known
    fun other _ => recorded.pending other
  accepted := recorded.accepted
  reserved := recorded.reserved
  held := recorded.held
  keyed key entry stored := by
    refine ⟨(recorded.keyed key entry stored).1, ?_⟩
    apply State.forall_moveTo (fun other phase => entry.value = other →
      phase ≠ .answered unavailable) _ _ _ rfl
    · intro same answered
      exact returned answered key entry stored same
    · intro other _ same
      rw [← same]
      exact (recorded.keyed key entry stored).2

/-- Whoever finds the key free has only lifted reservations before it. -/
theorem lifted_of_free (recorded : Recorded commands state) {caller : Caller}
    (free : state.cooldowns.get state.clock (keyOf commands caller) = none)
    {reservation : Reservation Caller}
    (member : reservation ∈ state.reservations)
    (same : reservation.userId = (commands caller).userId) :
    reservation.Lifted state.clock := by
  rcases recorded.held reservation member with lifted | kept
  · exact lifted
  · rcases kept with ⟨entry, stored, late⟩
    rw [keyOf, ← same, Expiring.get_of_entry stored] at free
    have ended : entry.deadline ≤ state.clock := by
      by_contra live
      rw [if_pos (not_le.mp live)] at free
      cases free
    exact Or.inr (le_trans late ended)

/-- A command that is not answered finds the key free. -/
theorem reserve (recorded : Recorded commands state) {caller : Caller}
    (unanswered : state.phase caller ≠ .answered unavailable)
    (free : state.cooldowns.get state.clock (keyOf commands caller) = none) :
    Recorded commands (state.reserved caller (commands caller).userId
      (state.cooldowns.put (keyOf commands caller)
        ⟨caller, state.clock + testCooldownMs⟩)) where
  owned := recorded.owned
  pending other some :=
    (recorded.pending other some).mono (List.subset_cons_self _ _)
  accepted message member := by
    rcases recorded.accepted message member with ⟨owned, known, past⟩
    exact ⟨owned, known.mono (List.subset_cons_self _ _), past⟩
  reserved := List.forall_mem_cons.mpr ⟨rfl, recorded.reserved⟩
  held := by
    refine List.forall_mem_cons.mpr
      ⟨Or.inr ⟨_, Expiring.put_self _ _ _, le_refl _⟩, ?_⟩
    intro reservation member
    by_cases same : reservation.userId = (commands caller).userId
    · exact Or.inl (recorded.lifted_of_free free member same)
    · rcases recorded.held reservation member with lifted | kept
      · exact Or.inl lifted
      · rcases kept with ⟨entry, stored, late⟩
        exact Or.inr ⟨entry, (Expiring.put_of_ne _
          (cooldownKey_injective.ne same) _).trans stored, late⟩
  keyed := by
    intro key entry stored
    replace stored : state.cooldowns.put _ _ key = some entry := stored
    rcases eq_or_ne key (keyOf commands caller) with rfl | different
    · rw [Expiring.put_self] at stored
      cases stored
      exact ⟨rfl, unanswered⟩
    · rw [Expiring.put_of_ne _ different] at stored
      exact recorded.keyed key entry stored

/-- The broker takes a message of a known command, or does not. -/
theorem publish (recorded : Recorded commands state) {caller : Caller}
    {channel : Channel} {event : TriggerFiredEvent} {outcome : RemoteCall}
    (owned : event.userId = (commands caller).userId)
    (known : Known state.reservations caller) :
    Recorded commands (state.published caller channel event outcome) where
  owned := recorded.owned
  pending := recorded.pending
  accepted := by
    unfold State.published
    split
    · exact List.forall_mem_cons.mpr ⟨⟨owned, known, le_refl _⟩,
        recorded.accepted⟩
    · exact recorded.accepted
  reserved := recorded.reserved
  held := recorded.held
  keyed := recorded.keyed

theorem clear (recorded : Recorded commands state) (userId : String) :
    Recorded commands (state.cleared userId) where
  owned := recorded.owned
  pending other some := (recorded.pending other some).refund userId
  accepted message member := by
    rcases recorded.accepted message member with ⟨owned, known, past⟩
    exact ⟨owned, known.refund userId, past⟩
  reserved := by
    intro reservation member
    rcases mem_refund member with ⟨before, earlier, sameCaller, sameUser, _⟩
    rw [← sameCaller, ← sameUser]
    exact recorded.reserved before earlier
  held := by
    intro reservation member
    rcases mem_refund member with ⟨before, earlier, _, _, kept | refunded⟩
    · rcases kept with ⟨rfl, different⟩
      rcases recorded.held reservation earlier with lifted | stored
      · exact Or.inl lifted
      · rcases stored with ⟨entry, stored, late⟩
        refine Or.inr ⟨entry, ?_, late⟩
        exact (Expiring.delete_of_ne _
          (cooldownKey_injective.ne different)).trans stored
    · exact Or.inl (Or.inl refunded)
  keyed := by
    intro key entry stored
    replace stored : state.cooldowns.delete _ key = some entry := stored
    rcases eq_or_ne key (cooldownKey userId) with rfl | different
    · rw [Expiring.delete_self] at stored
      cases stored
    · rw [Expiring.delete_of_ne _ different] at stored
      exact recorded.keyed key entry stored

theorem step (recorded : Recorded commands state) {label : Label Caller}
    (stepped : Stepped commands state label next) :
    Recorded commands next := by
  cases stepped with
  | tick elapsed => exact recorded.tick elapsed
  | found owned finding =>
      exact recorded.moveTo owned (fun some => (some rfl).elim) nofun
  | moved quiet idle =>
      exact recorded.moveTo (Phase.owned_of_quiet quiet)
        (fun some => (some (Phase.pending_of_quiet quiet)).elim)
        fun answered => (Phase.ne_unavailable_of_quiet quiet answered).elim
  | @reserved caller eventId trigger reserving free =>
      have owned : trigger.userId = (commands caller).userId := by
        have owned := recorded.owned caller
        rwa [reserving] at owned
      apply (recorded.reserve (by rw [reserving]; nofun) free).moveTo
      · exact Phase.owned_publish trigger owned _
      · exact fun _ => ⟨_, List.mem_cons_self, rfl⟩
      · exact fun answered =>
          (Phase.publish_ne_unavailable _ _ _ answered).elim
  | @published caller outcome trigger event channel rest publishing =>
      have owned : event.userId = (commands caller).userId := by
        have owned := recorded.owned caller
        rwa [publishing] at owned
      have known : Known state.reservations caller :=
        recorded.pending caller (by rw [publishing]; nofun)
      apply (recorded.publish owned known).moveTo
      · split
        · exact Phase.owned_publish trigger owned rest
        · trivial
      · exact fun _ => known
      · intro answered
        split at answered
        · exact (Phase.publish_ne_unavailable _ _ _ answered).elim
        · cases answered
  | @cleared caller clearing =>
      apply (recorded.clear (commands caller).userId).moveTo
      · trivial
      · exact fun some => (some rfl).elim
      · -- every key of the command is the one that was deleted
        rintro _ key entry stored rfl
        rw [((recorded.clear _).keyed key entry stored).1] at stored
        cases (Expiring.delete_self _ _).symm.trans stored

end Recorded

end Recorded

end WeatherNotify.Triggers.TestSend

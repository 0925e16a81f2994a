import Mathlib.Data.Fintype.Basic
import WeatherNotify.Users.TelegramUpdates

/-!
# When no Telegram update is handled twice

Losing a write of the cursor costs handling an update twice, and so does a
second leader.  As long as the lock keeps the pollers apart, every new leader
reads the cursor and every offset that is to be stored gets there, the updates
are handled one after the other, each of them once, whoever leads.
-/

namespace WeatherNotify.Users.Telegram

open WeatherNotify.Common
open WeatherNotify.Transition

variable {Replica Token : Type}

/-! ## What a leader takes care of -/

/-- The offset may be ahead of the cursor. -/
def Phase.unsaved : Phase Token → Bool
  | .handling _ _ | .persisting _ => true
  | _ => false

/-- An offset did not get to Redis. -/
def Label.losesOffset : Label Replica Token → Bool
  | .setCursor _ call => !call.reaches
  | _ => false

/-- A read or a write of the cursor is lost. -/
def Event.loses : Event Replica Token → Bool
  | .poller label => label.missesCursor || label.losesOffset
  | _ => false

/-- A replica stays unsaved until it stores its offset. -/
def Careful (label : Label Replica Token) (replica : Replica)
    (poller next : Poller Token) : Prop :=
  poller.persistedOffset ≤ poller.offset →
    next.persistedOffset ≤ next.offset ∧
      (poller.phase.unsaved = true →
        next.phase.unsaved = true ∨ label.stores = some replica)

theorem careful_goTo {label : Label Replica Token} {replica : Replica}
    {poller : Poller Token} {before : Phase Token} (phase : Phase Token)
    (was : poller.phase = before) (clean : before.unsaved = false) :
    Careful label replica poller (poller.goTo phase) := by
  refine fun bounded => ⟨bounded, fun unsaved => ?_⟩
  rw [was, clean] at unsaved
  cases unsaved

theorem careful_self (label : Label Replica Token) (replica : Replica)
    (poller : Poller Token) : Careful label replica poller poller :=
  fun bounded => ⟨bounded, Or.inl⟩

theorem careful_load {label : Label Replica Token} {replica : Replica}
    {poller : Poller Token} {lock : Token}
    (answer : Option (Option Int)) (loading : poller.phase = .loading lock) :
    Careful label replica poller (poller.load lock answer) := by
  refine fun bounded => ⟨?_, fun unsaved => ?_⟩
  · rcases answer with _ | _ | stored
    · exact bounded
    · exact bounded
    · change Poller.persistedOffset (if _ then _ else _) ≤
        Poller.offset (if _ then _ else _)
      split
      · exact le_refl stored
      · exact bounded
  · rw [loading] at unsaved
    cases unsaved

/-- After the last update of a batch the offset is one to be stored. -/
theorem careful_handle {label : Label Replica Token} {replica : Replica}
    {poller : Poller Token} {lock : Token} {update : Int} (rest : List Int)
    (ahead : poller.offset ≤ update) :
    Careful label replica poller
      (Poller.handle { poller with offset := update + 1 } lock rest) := by
  intro bounded
  have moved : poller.persistedOffset < update + 1 :=
    Int.lt_add_one_iff.mpr (le_trans bounded ahead)
  refine ⟨le_of_lt moved, fun _ => Or.inl ?_⟩
  cases rest with
  | cons other later => rfl
  | nil =>
      change Phase.unsaved (if update + 1 = poller.persistedOffset then _
        else _) = true
      rw [if_neg (ne_of_gt moved)]
      rfl

theorem careful_step [DecidableEq Replica] [DecidableEq Token]
    {state next : State Replica Token} {label : Label Replica Token}
    (ordered : ∀ replica, (state.poller replica).Ordered)
    (kept : label.losesOffset = false)
    (taken : Telegram.step state label = some next) :
    ∀ replica,
      Careful label replica (state.poller replica) (next.poller replica) := by
  have become : ∀ (replica : Replica) (poller : Poller Token),
      Careful label replica (state.poller replica) poller →
        ∀ other, Careful label other (state.poller other)
          ((state.become replica poller).poller other) :=
    fun replica poller careful => State.forall_become
      (fun other => Careful label other (state.poller other)) careful
      fun other _ => careful_self label other _
  cases label with
  | tick elapsed =>
      cases taken
      exact fun replica => careful_self _ replica _
  | onModuleDestroy replica =>
      cases taken
      exact become replica _ (careful_self _ replica (state.poller replica))
  | wake replica =>
      simp only [step] at taken
      split at taken
      case h_1 waiting =>
        cases taken
        exact become replica _ (careful_goTo _ waiting rfl)
      case h_2 lock pacing =>
        cases taken
        exact become replica _ (careful_goTo _ pacing rfl)
      case h_3 => cases taken
  | acquireLock replica token call =>
      simp only [step] at taken
      split at taken
      case h_1 acquiring =>
        cases taken
        exact become replica _ (careful_goTo _ acquiring rfl)
      case h_2 => cases taken
  | getCursor replica answered =>
      simp only [step] at taken
      split at taken
      case h_1 lock loading =>
        cases taken
        exact become replica _ (careful_load _ loading)
      case h_2 => cases taken
  | getUpdates replica answer =>
      simp only [step] at taken
      split at taken
      case h_1 lock updates polling =>
        split at taken
        case isTrue batch =>
          cases taken
          exact become replica _ (careful_goTo _ polling rfl)
        case isFalse => cases taken
      case h_2 lock polling =>
        cases taken
        exact become replica _ (careful_goTo _ polling rfl)
      case h_3 => cases taken
  | handle replica =>
      simp only [step] at taken
      split at taken
      case h_1 lock update rest handling =>
        cases taken
        exact become replica _
          (careful_handle rest ((ordered replica).handling handling).1)
      case h_2 => cases taken
  | setCursor replica call =>
      have reaches : call.reaches = true :=
        Bool.not_eq_eq_eq_not.mp kept
      simp only [step, reaches, if_true] at taken
      split at taken
      case h_1 lock persisting =>
        cases taken
        refine State.forall_become
          (fun other => Careful _ other (state.poller other))
          (fun bounded => ⟨?_, fun _ => Or.inr (if_pos reaches)⟩)
          fun other different => ?_
        · change (if _ then _ else _) ≤ _
          split
          · exact le_refl _
          · exact bounded
        · rw [State.store_poller_of_ne different]
          exact careful_self _ other _
      case h_2 => cases taken
  | extendLock replica call =>
      simp only [step] at taken
      split at taken
      case h_1 lock extending =>
        cases taken
        exact become replica _ (careful_goTo _ extending rfl)
      case h_2 => cases taken
  | releaseLock replica call =>
      simp only [step] at taken
      split at taken
      case h_1 lock releasing =>
        cases taken
        exact become replica _ (careful_goTo _ releasing rfl)
      case h_2 => cases taken

/-- Storing the cursor takes a leader, and puts its offset there. -/
theorem cursor_cases [DecidableEq Replica] {state next : State Replica Token}
    {label : Label Replica Token} (stepped : Stepped state label next) :
    (label.stores = none ∧ next.cursor = state.cursor) ∨
      ∃ replica, (state.poller replica).phase.polls = true ∧
        next.cursor = some (state.poller replica).offset := by
  cases stepped with
  | tick elapsed => exact Or.inl ⟨rfl, rfl⟩
  | moved lock unstored rests => exact Or.inl ⟨unstored, rfl⟩
  | loaded => exact Or.inl ⟨rfl, rfl⟩
  | answered polling batch => exact Or.inl ⟨rfl, rfl⟩
  | handled handling => exact Or.inl ⟨rfl, rfl⟩
  | @stored replica lock call persisting reaches =>
      refine Or.inr ⟨replica, ?_, rfl⟩
      rw [persisting]
      rfl

theorem polls_of_unsaved {phase : Phase Token}
    (unsaved : phase.unsaved = true) : phase.polls = true := by
  cases phase <;> first | rfl | cases unsaved

/-! ## Invariants -/

namespace Delivery

structure Once (delivery : Delivery Replica Token) : Prop where
  single : OnePoller delivery.pollers
  bounded : ∀ replica, (delivery.pollers.poller replica).persistedOffset ≤
    (delivery.pollers.poller replica).offset
  ahead : ∀ replica, (delivery.pollers.poller replica).phase.polls = true →
    ∀ one ∈ delivery.handled,
      one.2 < (delivery.pollers.poller replica).offset
  saved : ∀ one ∈ delivery.handled,
    (∃ stored ∈ delivery.pollers.cursor, one.2 < stored) ∨
      ∃ replica,
        (delivery.pollers.poller replica).phase.unsaved = true
  once : delivery.handled.Pairwise fun earlier later => earlier.2 < later.2

/-- The lock, the reads of the cursor and its writes do what they are for. -/
def Reliable
    (taken : Taken (Delivery Replica Token) (Event Replica Token)) : Prop :=
  OnePoller taken.target.pollers ∧ taken.label.loses = false

instance [Fintype Replica] [DecidableEq Replica]
    (state : State Replica Token) : Decidable (OnePoller state) :=
  inferInstanceAs (Decidable (∀ left right, _ → _ → left = right))

instance [Fintype Replica] [DecidableEq Replica]
    (taken : Taken (Delivery Replica Token) (Event Replica Token)) :
    Decidable (Reliable taken) :=
  inferInstanceAs (Decidable (_ ∧ _))

theorem once_start : (Delivery.start : Delivery Replica Token).Once where
  single _ _ polls := by cases polls
  bounded _ := le_refl 0
  ahead _ polls := by cases polls
  saved := List.forall_mem_nil _
  once := List.Pairwise.nil

theorem le_offset_load (poller : Poller Token) (lock : Token) (stored : Int) :
    stored ≤ (poller.load lock (some (some stored))).offset := by
  change stored ≤ Poller.offset (if _ then _ else _)
  split
  next => exact le_refl stored
  next ahead => exact not_lt.mp ahead

section Steps

variable [DecidableEq Replica] [DecidableEq Token]
  {delivery : Delivery Replica Token} {pollers : State Replica Token}
  {label : Label Replica Token}

theorem loading_of_step {state next : State Replica Token}
    {replica : Replica} {answered : Bool}
    (taken : Telegram.step state (.getCursor replica answered) = some next) :
    ∃ lock, (state.poller replica).phase = .loading lock := by
  simp only [Telegram.step] at taken
  split at taken
  case h_1 lock loading => exact ⟨lock, loading⟩
  case h_2 => cases taken

/-- Nobody takes the lead without having read the cursor. -/
theorem ahead_silent (once : delivery.Once) (single : OnePoller pollers)
    (read : label.missesCursor = false)
    (stepped : Telegram.step delivery.pollers label = some pollers)
    (silent : handles delivery.pollers label = [])
    {one : Replica × Int} (member : one ∈ delivery.handled) :
    ∀ replica, (pollers.poller replica).phase.polls = true →
      one.2 < (pollers.poller replica).offset := by
  have before := fun replica polls => once.ahead replica polls one member
  cases stepped_of_step stepped with
  | tick elapsed => exact before
  | @moved _ replica poller lock unstored rests =>
      refine State.forall_become
        (fun _ poller => poller.phase.polls = true → one.2 < poller.offset)
        (fun polls => ?_) fun other _ => before other
      rw [rests.offset]
      exact before replica (rests.polls polls)
  | @loaded replica lock answered =>
      have answers : answered = true := Bool.not_eq_eq_eq_not.mp read
      subst answers
      obtain ⟨held, loading⟩ := loading_of_step stepped
      refine State.forall_become
        (fun other poller => poller.phase.polls = true → one.2 < poller.offset)
        (fun polls => ?_) fun other _ => before other
      rcases once.saved one member with ⟨stored, current, below⟩ |
        ⟨other, unsaved⟩
      · rw [if_pos rfl, Option.mem_def.mp current]
        exact lt_of_lt_of_le below (le_offset_load _ lock stored)
      · -- the one who has not stored yet would poll beside the new leader
        rcases eq_or_ne other replica with rfl | different
        · rw [loading] at unsaved
          cases unsaved
        · refine absurd (single other replica ?_ ?_) different
          · rw [State.become_poller_of_ne different]
            exact polls_of_unsaved unsaved
          · rw [State.become_poller_self]
            exact polls
  | @answered replica lock updates polling batch =>
      refine State.forall_become
        (fun _ poller => poller.phase.polls = true → one.2 < poller.offset)
        (fun _ => before replica ?_) fun other _ => before other
      rw [polling]
      rfl
  | handled handling =>
      rw [handles, handling] at silent
      cases silent
  | @stored replica lock call persisting reaches =>
      refine State.forall_become
        (fun _ poller => poller.phase.polls = true → one.2 < poller.offset)
        (fun _ => before replica ?_) fun other different => ?_
      · rw [persisting]
        rfl
      · rw [State.store_poller_of_ne different]
        exact before other

theorem once_silent (accounted : delivery.Accounted) (once : delivery.Once)
    (single : OnePoller pollers) (read : label.missesCursor = false)
    (kept : label.losesOffset = false)
    (stepped : Telegram.step delivery.pollers label = some pollers)
    (silent : handles delivery.pollers label = []) :
    Once { delivery with pollers := pollers } where
  single := single
  bounded replica :=
    (careful_step accounted.progress.ordered kept stepped replica
      (once.bounded replica)).1
  ahead replica polls one member :=
    ahead_silent once single read stepped silent member replica polls
  saved one member := by
    rcases cursor_cases (stepped_of_step stepped) with
      ⟨unstored, same⟩ | ⟨replica, polls, current⟩
    · rcases once.saved one member with stored | ⟨replica, unsaved⟩
      · left
        rw [same]
        exact stored
      · right
        have still := (careful_step accounted.progress.ordered kept stepped
          replica (once.bounded replica)).2 unsaved
        rw [unstored] at still
        exact ⟨replica, still.resolve_right nofun⟩
    · exact Or.inl ⟨_, current, once.ahead replica polls one member⟩
  once := once.once

theorem once_handled {replica : Replica} {lock : Token} {update : Int}
    {rest : List Int} (accounted : delivery.Accounted)
    (once : delivery.Once) (single : OnePoller pollers)
    (stepped : Telegram.step delivery.pollers (.handle replica) =
      some pollers)
    (handling : (delivery.pollers.poller replica).phase =
      .handling lock (update :: rest)) :
    Once { delivery.handle replica update with pollers := pollers } := by
  have ordered := accounted.progress.ordered
  have leads : (delivery.pollers.poller replica).phase.polls = true := by
    rw [handling]
    rfl
  have newest : ∀ one ∈ delivery.handled, one.2 < update := by
    intro one member
    exact lt_of_lt_of_le (once.ahead replica leads one member)
      ((ordered replica).handling handling).1
  have careful := fun other => careful_step ordered rfl stepped other
    (once.bounded other)
  have moved := step_handle handling stepped
  refine ⟨single, fun other => (careful other).1, ?_, ?_, ?_⟩
  · rw [moved]
    refine State.forall_become (fun _ poller => poller.phase.polls = true →
      ∀ one ∈ delivery.handled ++ [(replica, update)],
        one.2 < poller.offset) (fun _ => ?_) fun other different polls => ?_
    · refine List.forall_mem_append.mpr ⟨fun one member => ?_, ?_⟩
      · exact lt_trans (newest one member) (Int.lt_succ update)
      · exact List.forall_mem_singleton.mpr (Int.lt_succ update)
    · exact absurd (once.single other replica polls leads) different
  · intro one _
    refine Or.inr ⟨replica, ((careful replica).2 ?_).resolve_right nofun⟩
    rw [handling]
    rfl
  · refine List.pairwise_append.mpr ⟨once.once, List.pairwise_singleton _ _,
      fun one member last among => ?_⟩
    rw [List.mem_singleton.mp among]
    exact newest one member

/-- Nothing is skipped, and nothing is handled twice. -/
structure Steady (delivery : Delivery Replica Token) : Prop where
  accounted : delivery.Accounted
  once : delivery.Once

theorem Steady.step {next : Delivery Replica Token}
    {event : Event Replica Token} (steady : delivery.Steady)
    (happened : delivery.Happened event next)
    (reliable : Reliable ⟨delivery, event, next⟩) : next.Steady := by
  refine ⟨steady.accounted.step happened, ?_⟩
  obtain ⟨accounted, single, bounded, ahead, saved, ascending⟩ := steady
  cases happened with
  | arrived positive newest =>
      exact ⟨single, bounded, ahead, saved, ascending⟩
  | expired => exact ⟨single, bounded, ahead, saved, ascending⟩
  | confirmed sent => exact ⟨single, bounded, ahead, saved, ascending⟩
  | silent stepped answers silent =>
      obtain ⟨read, kept⟩ := Bool.or_eq_false_iff.mp reliable.2
      exact once_silent accounted ⟨single, bounded, ahead, saved, ascending⟩
        reliable.1 read kept stepped silent
  | handled stepped handling =>
      exact once_handled accounted ⟨single, bounded, ahead, saved, ascending⟩
        reliable.1 stepped handling

end Steps

end Delivery

/-! ## Runs -/

variable [DecidableEq Replica] [DecidableEq Token]

/--
In whatever order Telegram, the replicas and their calls take their steps,
every update that has arrived is still in the queue of Telegram, has expired
there or has been handled, and each replica handles updates in their order and
none twice.  While no two replicas poll at once and no read and no write of
the cursor is lost, no update is handled twice at all.
-/
theorem updates_of_run {events : List (Event Replica Token)}
    {final : Delivery Replica Token}
    (reached : (deliveries Replica Token).run .start events = some final) :
    (∀ update ∈ final.arrived, update ∈ final.queue ∨ final.Done update) ∧
      (∀ one ∈ final.handled, one.2 ∈ final.arrived) ∧
      (final.handled.Pairwise fun earlier later =>
        earlier.1 = later.1 → earlier.2 < later.2) ∧
      ((∀ taken ∈ (deliveries Replica Token).transitions .start events,
          Delivery.Reliable taken) →
        final.handled.Pairwise fun earlier later =>
          earlier.2 < later.2) := by
  have accounted := Machine.run_preserves Delivery.Accounted
    (fun stepped before => before.step (Delivery.happened_of_step stepped))
    Delivery.accounted_start reached
  refine ⟨accounted.backlog.kept, accounted.handed.real,
    accounted.handed.grows, fun reliable => ?_⟩
  have steady := Machine.run_invariant
    (fun taken stepped reliable (steady : Delivery.Steady taken.source) =>
      steady.step (Delivery.happened_of_step stepped) reliable)
    ⟨Delivery.accounted_start, Delivery.once_start⟩ reliable reached
  exact steady.once.once

/-- A leader stops after its batch, and the next one goes on behind it. -/
def relieved : List (Event Bool Nat) :=
  [.arrive 5, .arrive 6, .poller (.acquireLock false 7 .confirmed),
    .poller (.getCursor false true),
    .poller (.getUpdates false (some [5, 6])), .poller (.handle false),
    .poller (.handle false), .poller (.setCursor false .unconfirmed),
    .poller (.onModuleDestroy false),
    .poller (.extendLock false .confirmed), .poller (.wake false),
    .poller (.releaseLock false .confirmed), .arrive 8,
    .poller (.acquireLock true 9 .confirmed), .poller (.getCursor true true),
    .confirm true 7, .poller (.getUpdates true (some [8])),
    .poller (.handle true)]

theorem updates_of_relieved :
    ∃ final : Delivery Bool Nat,
      (deliveries Bool Nat).run .start relieved = some final ∧
      (final.queue = [8] ∧
        final.handled = [(false, 5), (false, 6), (true, 8)]) ∧
      (∀ update ∈ final.arrived,
        update ∈ final.queue ∨ final.Done update) ∧
      final.handled.Pairwise fun earlier later => earlier.2 < later.2 := by
  have ran : ((deliveries Bool Nat).run .start relieved).map
      (fun final => (final.queue, final.handled)) =
        some ([8], [(false, 5), (false, 6), (true, 8)]) := by
    decide +kernel
  obtain ⟨final, reached, view⟩ := Option.map_eq_some_iff.mp ran
  have reliable : ∀ taken ∈ (deliveries Bool Nat).transitions .start relieved,
      Delivery.Reliable taken := by
    decide +kernel
  have updates := updates_of_run reached
  exact ⟨final, reached, Prod.mk.inj view, updates.1,
    updates.2.2.2 reliable⟩

end WeatherNotify.Users.Telegram

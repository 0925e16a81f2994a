import Mathlib.Algebra.Order.Ring.Int
import WeatherNotify.Users.TelegramPoller

/-!
# When the Telegram cursor never moves backwards

A replica never asks for older updates than before.  What it stores goes over
whatever is under the key, though: the cursor keeps growing exactly as long as
nobody stores an offset below one that another replica has stored unread.
-/

namespace WeatherNotify.Users.Telegram

open WeatherNotify.Common
open WeatherNotify.Transition

variable {Replica Token : Type}

/-! ## What is promised, and when -/

/-- The stored offset is as high after the step as before. -/
def CursorKept
    (taken : Taken (State Replica Token) (Label Replica Token)) : Prop :=
  ∀ stored ∈ taken.source.cursor,
    ∃ next ∈ taken.target.cursor, stored ≤ next

/--
What a replica stores is not below what others have stored since it last read
or stored the cursor.
-/
def StoresAhead
    (taken : Taken (State Replica Token) (Label Replica Token)) : Prop :=
  ∀ replica ∈ taken.label.stores,
    ∀ stored ∈ (taken.source.poller replica).unread,
      stored ≤ (taken.source.poller replica).offset

instance (taken : Taken (State Replica Token) (Label Replica Token)) :
    Decidable (StoresAhead taken) :=
  inferInstanceAs (Decidable (∀ replica ∈ taken.label.stores, _))

instance (taken : Taken (State Replica Token) (Label Replica Token)) :
    Decidable (CursorKept taken) :=
  inferInstanceAs (Decidable (∀ stored ∈ taken.source.cursor,
    ∃ next ∈ taken.target.cursor, stored ≤ next))

/-- The offset a step asks Telegram for. -/
def asked (taken : Taken (State Replica Token) (Label Replica Token)) :
    List (Replica × Int) :=
  match taken.label with
  | .getUpdates replica _ =>
      [(replica, (taken.source.poller replica).offset)]
  | _ => []

/-! ## One replica -/

namespace Poller

variable {poller next : Poller Token}

/-- The updates at hand increase and are none the offset is past. -/
def Ordered (poller : Poller Token) : Prop :=
  IsBatch poller.offset poller.phase.updates

/-- The cursor is within what the replica has reached or has not read. -/
def Knows (cursor : Option Int) (poller : Poller Token) : Prop :=
  ∀ stored ∈ cursor, stored ≤ poller.offset ∨ stored ∈ poller.unread

/-- What the replica has not read is within the cursor. -/
def Backed (cursor : Option Int) (poller : Poller Token) : Prop :=
  ∀ stored ∈ poller.unread, ∃ current ∈ cursor, stored ≤ current

/-- The offset is no lower than before, and the updates are ahead of it. -/
structure Advances (poller next : Poller Token) : Prop where
  ordered : next.Ordered
  offset : poller.offset ≤ next.offset

/-- While it polls, the replica has read what the others stored. -/
def ReadUp (poller : Poller Token) : Prop :=
  poller.phase.polls = true → poller.unread = []

theorem ordered_of_updates_eq_nil (none : poller.phase.updates = []) :
    poller.Ordered := by
  rw [Ordered, none]
  exact ⟨List.Pairwise.nil, fun _ member => by cases member⟩

theorem Ordered.advances (ordered : poller.Ordered) :
    poller.Advances poller :=
  ⟨ordered, le_refl _⟩

/-- A replica that handles an update is not past it. -/
theorem Ordered.handling (ordered : poller.Ordered) {lock : Token}
    {update : Int} {rest : List Int}
    (handling : poller.phase = .handling lock (update :: rest)) :
    poller.offset ≤ update ∧ IsBatch (update + 1) rest := by
  rw [Ordered, handling] at ordered
  rcases List.pairwise_cons.mp ordered.1 with ⟨first, others⟩
  exact ⟨ordered.2 update List.mem_cons_self, others, first⟩

theorem Rests.advances (rests : poller.Rests next)
    (ordered : poller.Ordered) : poller.Advances next := by
  refine ⟨?_, le_of_eq rests.offset.symm⟩
  rcases rests.updates with same | none
  · rw [Ordered, same, rests.offset]
    exact ordered
  · exact ordered_of_updates_eq_nil none

theorem Rests.knows {cursor : Option Int} (rests : poller.Rests next)
    (knows : poller.Knows cursor) : next.Knows cursor := by
  rw [Knows, rests.offset, rests.unread]
  exact knows

theorem Rests.backed {cursor : Option Int} (rests : poller.Rests next)
    (backed : poller.Backed cursor) : next.Backed cursor := by
  rw [Backed, rests.unread]
  exact backed

theorem Rests.readUp (rests : poller.Rests next) (readUp : poller.ReadUp) :
    next.ReadUp := by
  intro polls
  rw [rests.unread]
  exact readUp (rests.polls polls)

theorem offset_le_load (poller : Poller Token) (lock : Token)
    (answer : Option (Option Int)) :
    poller.offset ≤ (poller.load lock answer).offset := by
  rcases answer with _ | _ | stored
  · exact le_refl _
  · exact le_refl _
  · show poller.offset ≤ Poller.offset (if _ then _ else _)
    split
    next behind => exact le_of_lt behind
    next => exact le_refl _

theorem updates_load (poller : Poller Token) (lock : Token)
    (answer : Option (Option Int)) :
    (poller.load lock answer).phase.updates = [] := by
  cases answer with
  | none => exact Phase.updates_lead _ _
  | some stored => exact Phase.updates_lead _ _

theorem knows_load {cursor : Option Int} (knows : poller.Knows cursor)
    (lock : Token) (answered : Bool) :
    (poller.load lock (if answered then some cursor else none)).Knows
      cursor := by
  cases answered with
  | false => exact knows
  | true =>
      rintro stored rfl
      apply Or.inl
      show stored ≤ Poller.offset (if _ then _ else _)
      split
      next => exact le_refl _
      next ahead => exact not_lt.mp ahead

theorem backed_load {cursor : Option Int} (backed : poller.Backed cursor)
    (lock : Token) (answer : Option (Option Int)) :
    (poller.load lock answer).Backed cursor := by
  cases answer with
  | none => exact backed
  | some stored => exact fun _ member => by cases member

@[simp]
theorem updates_handle (poller : Poller Token) (lock : Token)
    (updates : List Int) :
    (poller.handle lock updates).phase.updates = updates := by
  cases updates with
  | cons update rest => rfl
  | nil =>
      show Phase.updates (if _ then _ else _) = []
      split <;> rfl

end Poller

/-! ## All replicas -/

/-- A run in which whoever stored was ahead of what it had not read. -/
structure Sound (state : State Replica Token) : Prop where
  ordered : ∀ replica, (state.poller replica).Ordered
  knows : ∀ replica, (state.poller replica).Knows state.cursor
  backed : ∀ replica, (state.poller replica).Backed state.cursor

theorem sound_start (cursor : Option Int) :
    Sound (State.start cursor : State Replica Token) where
  ordered _ := Poller.ordered_of_updates_eq_nil rfl
  knows _ _ member := Or.inr (Option.mem_toList.mpr member)
  backed _ stored member :=
    ⟨stored, Option.mem_toList.mp member, le_refl stored⟩

/-- A replica that stores ahead of what it has not read has the cursor. -/
theorem Sound.le_offset {state : State Replica Token}
    (sound : Sound state) {replica : Replica}
    (ahead : ∀ stored ∈ (state.poller replica).unread,
      stored ≤ (state.poller replica).offset)
    {current : Int} (member : current ∈ state.cursor) :
    current ≤ (state.poller replica).offset := by
  rcases sound.knows replica current member with reached | unread
  · exact reached
  · exact ahead current unread

section Steps

variable [DecidableEq Replica] {state next : State Replica Token}
  {label : Label Replica Token}

/-- An offset only grows, and the updates at hand stay ahead of it. -/
theorem advances_step (stepped : Stepped state label next)
    (ordered : ∀ replica, (state.poller replica).Ordered) :
    ∀ replica, (state.poller replica).Advances (next.poller replica) := by
  have same := fun replica => (ordered replica).advances
  cases stepped with
  | tick elapsed => exact same
  | moved lock silent rests =>
      exact State.forall_become
        (fun replica => (state.poller replica).Advances)
        (rests.advances (ordered _)) fun other _ => same other
  | loaded =>
      exact State.forall_become
        (fun replica => (state.poller replica).Advances)
        ⟨Poller.ordered_of_updates_eq_nil (Poller.updates_load _ _ _),
          Poller.offset_le_load _ _ _⟩
        fun other _ => same other
  | answered polling batch =>
      refine State.forall_become
        (fun replica => (state.poller replica).Advances)
        ⟨?_, le_refl _⟩ fun other _ => same other
      rw [Poller.Ordered, Poller.updates_handle]
      exact batch
  | handled handling =>
      rcases (ordered _).handling handling with ⟨ahead, batch⟩
      refine State.forall_become
        (fun replica => (state.poller replica).Advances)
        ⟨?_, le_trans ahead (Int.le_add_one (le_refl _))⟩
        fun other _ => same other
      rw [Poller.Ordered, Poller.updates_handle]
      exact batch
  | stored persisting reaches =>
      refine State.forall_become
        (fun replica => (state.poller replica).Advances)
        ⟨Poller.ordered_of_updates_eq_nil rfl, le_refl _⟩
        fun other different => ?_
      rw [State.store_poller_of_ne different]
      exact ⟨ordered other, le_refl _⟩

/-- Every replica knows of the cursor or has it to read. -/
theorem knows_step (stepped : Stepped state label next)
    (ordered : ∀ replica, (state.poller replica).Ordered)
    (knows : ∀ replica, (state.poller replica).Knows state.cursor) :
    ∀ replica, (next.poller replica).Knows next.cursor := by
  cases stepped with
  | tick elapsed => exact knows
  | moved lock silent rests =>
      exact State.forall_become (fun _ => Poller.Knows state.cursor)
        (rests.knows (knows _)) fun other _ => knows other
  | loaded =>
      exact State.forall_become (fun _ => Poller.Knows state.cursor)
        (Poller.knows_load (knows _) _ _) fun other _ => knows other
  | answered polling batch =>
      exact State.forall_become (fun _ => Poller.Knows state.cursor)
        (knows _) fun other _ => knows other
  | @handled replica lock update rest handling =>
      have ahead := ((ordered replica).handling handling).1
      refine State.forall_become (fun _ => Poller.Knows state.cursor)
        (fun stored member => ?_) fun other _ => knows other
      rcases knows replica stored member with reached | unread
      · exact Or.inl (le_trans (le_trans reached ahead)
          (Int.le_add_one (le_refl update)))
      · exact Or.inr unread
  | @stored replica lock call persisting reaches =>
      refine State.forall_become (fun _ => Poller.Knows
          (some (state.poller replica).offset)) ?_ fun other different => ?_
      · rintro stored ⟨⟩
        exact Or.inl (le_refl _)
      · rw [State.store_poller_of_ne different]
        rintro stored ⟨⟩
        exact Or.inr List.mem_cons_self

namespace Sound

theorem step (sound : Sound state) (stepped : Stepped state label next)
    (ahead : StoresAhead ⟨state, label, next⟩) : Sound next := by
  refine ⟨fun replica => (advances_step stepped sound.ordered replica).ordered,
    knows_step stepped sound.ordered sound.knows, ?_⟩
  cases stepped with
  | tick elapsed => exact sound.backed
  | moved lock silent rests =>
      exact State.forall_become (fun _ => Poller.Backed state.cursor)
        (rests.backed (sound.backed _)) fun other _ => sound.backed other
  | loaded =>
      exact State.forall_become (fun _ => Poller.Backed state.cursor)
        (Poller.backed_load (sound.backed _) _ _)
        fun other _ => sound.backed other
  | answered polling batch =>
      exact State.forall_become (fun _ => Poller.Backed state.cursor)
        (sound.backed _) fun other _ => sound.backed other
  | handled handling =>
      exact State.forall_become (fun _ => Poller.Backed state.cursor)
        (sound.backed _) fun other _ => sound.backed other
  | @stored replica lock call persisting reaches =>
      have own := ahead replica (by rw [Label.stores, reaches]; rfl)
      refine State.forall_become (fun _ => Poller.Backed
          (some (state.poller replica).offset)) ?_ fun other different => ?_
      · rw [Poller.Backed, Poller.persisted, reaches]
        exact fun _ member => by cases member
      · rw [State.store_poller_of_ne different]
        refine List.forall_mem_cons.mpr ⟨⟨_, rfl, le_refl _⟩, ?_⟩
        intro stored member
        rcases sound.backed other stored member with ⟨current, held, below⟩
        exact ⟨_, rfl, le_trans below (sound.le_offset own held)⟩

/-- The cursor falls exactly when a replica stores behind the others. -/
theorem cursorKept_iff (sound : Sound state)
    (stepped : Stepped state label next) :
    CursorKept ⟨state, label, next⟩ ↔ StoresAhead ⟨state, label, next⟩ := by
  have same : ∀ stored ∈ state.cursor, ∃ next ∈ state.cursor,
      stored ≤ next :=
    fun stored member => ⟨stored, member, le_refl stored⟩
  cases stepped with
  | tick elapsed => exact iff_of_true same nofun
  | moved lock silent rests =>
      refine iff_of_true same fun replica stores => ?_
      rw [silent] at stores
      cases stores
  | loaded => exact iff_of_true same nofun
  | answered polling batch => exact iff_of_true same nofun
  | handled handling => exact iff_of_true same nofun
  | @stored replica lock call persisting reaches =>
      constructor
      · intro kept other stores stored member
        rw [Label.stores, reaches] at stores
        cases stores
        rcases sound.backed replica stored member with ⟨current, held, below⟩
        rcases kept current held with ⟨_, ⟨⟩, higher⟩
        exact le_trans below higher
      · intro ahead current held
        have own := ahead replica (by rw [Label.stores, reaches]; rfl)
        exact ⟨_, rfl, sound.le_offset own held⟩

end Sound

end Steps

/-! ## Runs -/

/-- What was asked for grows with the offset of the replica that asked. -/
structure Asked (events : List (Replica × Int))
    (state : State Replica Token) : Prop where
  ordered : ∀ replica, (state.poller replica).Ordered
  reached : ∀ event ∈ events, event.2 ≤ (state.poller event.1).offset
  grows : events.Pairwise fun earlier later =>
    earlier.1 = later.1 → earlier.2 ≤ later.2

theorem offset_of_mem_asked
    {taken : Taken (State Replica Token) (Label Replica Token)}
    {event : Replica × Int} (member : event ∈ asked taken) :
    event.2 = (taken.source.poller event.1).offset := by
  unfold asked at member
  split at member
  · rw [List.mem_singleton.mp member]
  · cases member

theorem pairwise_asked
    (taken : Taken (State Replica Token) (Label Replica Token))
    (related : Replica × Int → Replica × Int → Prop) :
    (asked taken).Pairwise related := by
  unfold asked
  split
  · exact List.pairwise_singleton _ _
  · exact List.Pairwise.nil

section Runs

variable [DecidableEq Replica] [DecidableEq Token]

theorem asked_step
    (taken : Taken (State Replica Token) (Label Replica Token))
    (events : List (Replica × Int))
    (stepped : step taken.source taken.label = some taken.target)
    (before : Asked events taken.source) :
    Asked (events ++ asked taken) taken.target := by
  have advances := advances_step (stepped_of_step stepped) before.ordered
  constructor
  · exact fun replica => (advances replica).ordered
  · refine List.forall_mem_append.mpr ⟨?_, ?_⟩
    · intro event member
      exact le_trans (before.reached event member) (advances event.1).offset
    · intro event member
      rw [offset_of_mem_asked member]
      exact (advances event.1).offset
  · apply List.pairwise_append.mpr
    refine ⟨before.grows, pairwise_asked taken _, ?_⟩
    intro earlier first later second same
    rw [offset_of_mem_asked second, ← same]
    exact before.reached earlier first

/-- Step by step, the cursor is kept by whoever stores ahead. -/
theorem forall_cursorKept_iff (cursor : Option Int)
    (labels : List (Label Replica Token)) :
    (∀ taken ∈ (machine Replica Token).transitions (.start cursor) labels,
        CursorKept taken) ↔
      ∀ taken ∈ (machine Replica Token).transitions (.start cursor) labels,
        StoresAhead taken := by
  apply Machine.forall_transitions_iff Sound
  · intro taken stepped sound
    exact sound.cursorKept_iff (stepped_of_step stepped)
  · intro taken stepped ahead sound
    exact sound.step (stepped_of_step stepped) ahead
  · exact sound_start cursor

/--
The cursor never falls in a run exactly if every replica that stores its
offset is ahead of what others have stored since it last read or stored the
cursor itself.  No replica ever asks Telegram for older updates than before.
-/
theorem telegram_cursor_never_falls_iff (cursor : Option Int)
    (labels : List (Label Replica Token)) :
    ((∀ taken ∈ (machine Replica Token).transitions (.start cursor) labels,
        CursorKept taken) ↔
      ∀ taken ∈ (machine Replica Token).transitions (.start cursor) labels,
        StoresAhead taken) ∧
    ∀ final, (machine Replica Token).run (.start cursor) labels =
        some final →
      ((machine Replica Token).history asked (.start cursor)
        labels).Pairwise fun earlier later =>
          earlier.1 = later.1 → earlier.2 ≤ later.2 := by
  constructor
  · exact forall_cursorKept_iff cursor labels
  · intro final reached
    have initial : Asked [] (State.start cursor : State Replica Token) :=
      ⟨(sound_start cursor).ordered, nofun, List.Pairwise.nil⟩
    have grown := Machine.history_invariant Asked
      (fun taken events stepped _ => asked_step taken events stepped) initial
      (fun _ _ => trivial) reached
    exact grown.grows

end Runs

/-- One leader stops, and the next one goes on from its cursor. -/
def handedOver : List (Label Nat Nat) :=
  [.acquireLock 0 7 .confirmed, .getCursor 0 true, .getUpdates 0 (some [5]),
    .handle 0, .setCursor 0 .confirmed, .onModuleDestroy 0,
    .extendLock 0 .confirmed, .wake 0, .releaseLock 0 .confirmed,
    .acquireLock 1 8 .confirmed, .getCursor 1 true,
    .getUpdates 1 (some [6, 8]), .handle 1, .handle 1,
    .setCursor 1 .confirmed, .extendLock 1 .confirmed, .wake 1,
    .getUpdates 1 (some [])]

theorem telegram_cursor_never_falls_handed_over :
    (∀ taken ∈
        (machine Nat Nat).transitions (.start none) handedOver,
      CursorKept taken) ∧
    ((machine Nat Nat).history asked (.start none)
      handedOver).Pairwise fun earlier later =>
        earlier.1 = later.1 → earlier.2 ≤ later.2 :=
  ⟨(telegram_cursor_never_falls_iff none handedOver).1.mpr (by decide),
    (telegram_cursor_never_falls_iff none handedOver).2 _ rfl⟩

/-! ## What the lock is for -/

/-- No two replicas poll at the same time. -/
def OnePoller (state : State Replica Token) : Prop :=
  ∀ left right, (state.poller left).phase.polls = true →
    (state.poller right).phase.polls = true → left = right

/-- The cursor could not be read. -/
def Label.missesCursor : Label Replica Token → Bool
  | .getCursor _ answered => !answered
  | _ => false

/-- Whoever polls has read what the others stored. -/
def PollersReadUp (state : State Replica Token) : Prop :=
  ∀ replica, (state.poller replica).ReadUp

section Lock

variable [DecidableEq Replica] {state next : State Replica Token}
  {label : Label Replica Token}

theorem readUp_step (readUp : PollersReadUp state)
    (single : OnePoller state) (read : label.missesCursor = false)
    (stepped : Stepped state label next) : PollersReadUp next := by
  cases stepped with
  | tick elapsed => exact readUp
  | moved lock silent rests =>
      exact State.forall_become (fun _ => Poller.ReadUp)
        (rests.readUp (readUp _)) fun other _ => readUp other
  | @loaded replica lock answered =>
      cases answered with
      | false => cases read
      | true =>
          exact State.forall_become (fun _ => Poller.ReadUp)
            (fun _ => rfl) fun other _ => readUp other
  | answered polling batch =>
      exact State.forall_become (fun _ => Poller.ReadUp)
        (fun _ => readUp _ (by rw [polling]; rfl)) fun other _ => readUp other
  | handled handling =>
      exact State.forall_become (fun _ => Poller.ReadUp)
        (fun _ => readUp _ (by rw [handling]; rfl))
        fun other _ => readUp other
  | @stored replica lock call persisting reaches =>
      refine State.forall_become (fun _ => Poller.ReadUp)
        (fun _ => if_pos reaches) fun other different polls => ?_
      rw [State.store_poller_of_ne different] at polls
      exact (different (single other replica polls
        (by rw [persisting]; rfl))).elim

theorem PollersReadUp.storesAhead (readUp : PollersReadUp state)
    (stepped : Stepped state label next) :
    StoresAhead ⟨state, label, next⟩ := by
  intro replica stores stored member
  cases stepped with
  | tick elapsed => cases stores
  | moved lock silent rests =>
      rw [silent] at stores
      cases stores
  | loaded => cases stores
  | answered polling batch => cases stores
  | handled handling => cases stores
  | stored persisting reaches =>
      rw [Label.stores, reaches] at stores
      cases stores
      rw [readUp _ (by rw [persisting]; rfl)] at member
      cases member

variable [DecidableEq Token]

/-- One poller at a time that has read the cursor never moves it back. -/
theorem cursor_kept_while_one_polls {cursor : Option Int}
    {labels : List (Label Replica Token)}
    (single : ∀ taken ∈
      (machine Replica Token).transitions (.start cursor) labels,
        OnePoller taken.source ∧ taken.label.missesCursor = false) :
    ∀ taken ∈ (machine Replica Token).transitions (.start cursor) labels,
      CursorKept taken := by
  rw [forall_cursorKept_iff]
  intro taken member
  have initial : PollersReadUp (State.start cursor : State Replica Token) :=
    fun _ => nofun
  have readUp := Machine.transitions_invariant
    (fun taken stepped alone readUp => readUp_step readUp alone.1 alone.2
      (stepped_of_step stepped)) initial single member
  exact readUp.1.storesAhead
    (stepped_of_step (Machine.step_of_mem_transitions _ member))

end Lock

/-! ## A leader that is overtaken -/

/-- The lock runs out over the first batch, and the new leader gets ahead. -/
def overtaken : List (Label Nat Nat) :=
  [.acquireLock 0 7 .confirmed, .getCursor 0 true, .getUpdates 0 (some [5]),
    .tick 91000, .acquireLock 1 8 .confirmed, .getCursor 1 true,
    .getUpdates 1 (some [5, 6, 7]), .handle 1, .handle 1, .handle 1,
    .setCursor 1 .confirmed, .handle 0, .setCursor 0 .confirmed]

theorem overtaken_leader_moves_cursor_back :
    (∃ final, (machine Nat Nat).run (.start (some 5)) overtaken =
        some final ∧ final.cursor = some 6) ∧
      ¬ ∀ taken ∈
        (machine Nat Nat).transitions (.start (some 5)) overtaken,
          CursorKept taken := by
  constructor
  · exact ⟨_, rfl, rfl⟩
  · decide

end WeatherNotify.Users.Telegram

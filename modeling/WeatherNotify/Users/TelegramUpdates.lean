import WeatherNotify.Users.TelegramCursor

/-!
# What becomes of every Telegram update

Telegram keeps an update until it is confirmed, which a `getUpdates` with a
higher offset does, or until it is a day old.  The pollers hand the leadership
over and may lose the lock in the middle of a batch, and each call of theirs
may fail.  No update is skipped all the same; and while the lock does its work
and the cursor is read and stored, none is handled twice.

What has arrived, expired and been handled is on record for the statements
only.  Update ids are taken to increase.
-/

namespace WeatherNotify.Users.Telegram

open WeatherNotify.Common
open WeatherNotify.Transition

variable {Replica Token : Type}

/-! ## The pollers beside the queue that Telegram keeps -/

structure Delivery (Replica Token : Type) where
  pollers : State Replica Token
  queue : List Int
  arrived : List Int
  expired : List Int
  handled : List (Replica × Int)

/-- What may happen; a confirmation may come late, for an older offset. -/
inductive Event (Replica Token : Type) where
  | arrive (update : Int)
  | expire (update : Int)
  | confirm (replica : Replica) (offset : Int)
  | poller (label : Label Replica Token)

/-- The pollers start beside an empty queue and without a cursor. -/
def Delivery.start : Delivery Replica Token where
  pollers := .start none
  queue := []
  arrived := []
  expired := []
  handled := []

/-- The updates a replica is answered with. -/
def Label.answer : Label Replica Token → Option (Replica × List Int)
  | .getUpdates replica answer => answer.map fun updates => (replica, updates)
  | _ => none

/-- Telegram answers with the first updates from the offset on, if any. -/
def Answers (queue : List Int) (pollers : State Replica Token)
    (label : Label Replica Token) : Prop :=
  ∀ answer ∈ label.answer,
    answer.2 <+: queue.filter fun update =>
      (pollers.poller answer.1).offset ≤ update

instance (queue : List Int) (pollers : State Replica Token)
    (label : Label Replica Token) :
    Decidable (Answers queue pollers label) :=
  inferInstanceAs (Decidable (∀ answer ∈ label.answer, _))

/-- The update that `handle` is called for. -/
def handles (pollers : State Replica Token) :
    Label Replica Token → List (Replica × Int)
  | .handle replica =>
      match (pollers.poller replica).phase with
      | .handling _ (update :: _) => [(replica, update)]
      | _ => []
  | _ => []

namespace Delivery

variable [DecidableEq Replica] [DecidableEq Token]

def step (delivery : Delivery Replica Token) :
    Event Replica Token → Option (Delivery Replica Token)
  | .arrive update =>
      if 0 < update ∧ ∀ earlier ∈ delivery.arrived, earlier < update then
        some { delivery with
          queue := delivery.queue ++ [update]
          arrived := delivery.arrived ++ [update] }
      else none
  | .expire update =>
      if update ∈ delivery.queue then
        some { delivery with
          queue := delivery.queue.erase update
          expired := delivery.expired ++ [update] }
      else none
  | .confirm replica offset =>
      if offset ≤ (delivery.pollers.poller replica).offset then
        some { delivery with
          queue := delivery.queue.filter fun update => offset ≤ update }
      else none
  | .poller label =>
      if Answers delivery.queue delivery.pollers label then
        (Telegram.step delivery.pollers label).map fun pollers =>
          { delivery with
            pollers := pollers
            handled := delivery.handled ++ handles delivery.pollers label }
      else none

end Delivery

def deliveries (Replica Token : Type) [DecidableEq Replica]
    [DecidableEq Token] :
    Machine (Delivery Replica Token) (Event Replica Token) where
  step := Delivery.step

@[simp]
theorem State.become_poller_self [DecidableEq Replica]
    (state : State Replica Token) (replica : Replica)
    (poller : Poller Token) :
    (state.become replica poller).poller replica = poller := by
  simp only [State.become, Function.update_self]

theorem State.become_poller_of_ne [DecidableEq Replica]
    {state : State Replica Token} {replica other : Replica}
    {poller : Poller Token} (different : other ≠ replica) :
    (state.become replica poller).poller other = state.poller other := by
  simp only [State.become, Function.update_of_ne different]

/-! ## Nothing is skipped -/

namespace Delivery

variable {delivery next : Delivery Replica Token} {update offset : Int}

/-- Telegram has given the update up, or a replica has handled it. -/
def Done (delivery : Delivery Replica Token) (update : Int) : Prop :=
  update ∈ delivery.expired ∨
    ∃ replica, (replica, update) ∈ delivery.handled

/-- An offset right behind an update that is past nothing but done ones. -/
structure Settled (delivery : Delivery Replica Token) (offset : Int) :
    Prop where
  done : ∀ update ∈ delivery.arrived, update < offset → delivery.Done update
  behind : 0 < offset → offset - 1 ∈ delivery.arrived

/-- What a replica has in hand begins with the oldest that is left. -/
def Gapless (delivery : Delivery Replica Token) (updates : List Int) : Prop :=
  ∀ member ∈ updates, member ∈ delivery.arrived ∧
    ∀ update ∈ delivery.arrived, update ≤ member →
      update ∈ updates ∨ delivery.Done update

/-- What Telegram still has, or had. -/
structure Backlog (delivery : Delivery Replica Token) : Prop where
  positive : ∀ update ∈ delivery.arrived, 0 < update
  ascending : delivery.queue.Pairwise (· < ·)
  queued : ∀ update ∈ delivery.queue, update ∈ delivery.arrived
  kept : ∀ update ∈ delivery.arrived,
    update ∈ delivery.queue ∨ delivery.Done update

/-- What the pollers and the cursor know of it. -/
structure Progress (delivery : Delivery Replica Token) : Prop where
  ordered : ∀ replica, (delivery.pollers.poller replica).Ordered
  offsets : ∀ replica,
    delivery.Settled (delivery.pollers.poller replica).offset
  cursor : ∀ stored ∈ delivery.pollers.cursor, delivery.Settled stored
  gapless : ∀ replica,
    delivery.Gapless (delivery.pollers.poller replica).phase.updates

/-- What the replicas have done, each in the order of the updates. -/
structure Handed (delivery : Delivery Replica Token) : Prop where
  real : ∀ one ∈ delivery.handled, one.2 ∈ delivery.arrived
  past : ∀ one ∈ delivery.handled,
    one.2 < (delivery.pollers.poller one.1).offset
  grows : delivery.handled.Pairwise fun earlier later =>
    earlier.1 = later.1 → earlier.2 < later.2

structure Accounted (delivery : Delivery Replica Token) : Prop where
  backlog : delivery.Backlog
  progress : delivery.Progress
  handed : delivery.Handed

theorem settled_zero (backlog : delivery.Backlog) : delivery.Settled 0 :=
  ⟨fun update member below =>
      absurd (backlog.positive update member) (lt_asymm below),
    fun high => absurd high (lt_irrefl 0)⟩

theorem gapless_nil : delivery.Gapless [] :=
  List.forall_mem_nil _

theorem accounted_start :
    (Delivery.start : Delivery Replica Token).Accounted := by
  have backlog : (Delivery.start : Delivery Replica Token).Backlog :=
    ⟨List.forall_mem_nil _, List.Pairwise.nil, List.forall_mem_nil _,
      List.forall_mem_nil _⟩
  refine ⟨backlog, ⟨(sound_start none).ordered, ?_, ?_, ?_⟩,
    ⟨List.forall_mem_nil _, List.forall_mem_nil _, List.Pairwise.nil⟩⟩
  · exact fun _ => settled_zero backlog
  · exact fun stored member => (by cases member)
  · exact fun _ => gapless_nil

/-! ### What stays settled -/

/-- Nothing arrives, and what is done stays done. -/
structure Later (delivery next : Delivery Replica Token) : Prop where
  arrived : next.arrived = delivery.arrived
  done : ∀ update, delivery.Done update → next.Done update

theorem Settled.later (settled : delivery.Settled offset)
    (later : delivery.Later next) : next.Settled offset where
  done update member below := by
    rw [later.arrived] at member
    exact later.done update (settled.done update member below)
  behind high := by
    rw [later.arrived]
    exact settled.behind high

theorem Gapless.later {updates : List Int}
    (gapless : delivery.Gapless updates) (later : delivery.Later next) :
    next.Gapless updates := by
  unfold Gapless
  rw [later.arrived]
  intro member among
  obtain ⟨real, all⟩ := gapless member among
  exact ⟨real, fun update arrived below =>
    (all update arrived below).imp_right (later.done update)⟩

theorem Backlog.later (backlog : delivery.Backlog)
    (later : delivery.Later next) (queue : next.queue = delivery.queue) :
    next.Backlog := by
  constructor
  · rw [later.arrived]
    exact backlog.positive
  · rw [queue]
    exact backlog.ascending
  · rw [queue, later.arrived]
    exact backlog.queued
  · rw [later.arrived, queue]
    exact fun update member =>
      (backlog.kept update member).imp_right (later.done update)

/-- A replica is past nothing but done updates and goes on without a gap. -/
def Known (delivery : Delivery Replica Token) (poller : Poller Token) : Prop :=
  delivery.Settled poller.offset ∧ delivery.Gapless poller.phase.updates

theorem Progress.known (progress : delivery.Progress) (replica : Replica) :
    delivery.Known (delivery.pollers.poller replica) :=
  ⟨progress.offsets replica, progress.gapless replica⟩

theorem progress_of_later (later : delivery.Later next)
    (ordered : ∀ replica, (next.pollers.poller replica).Ordered)
    (known : ∀ replica, delivery.Known (next.pollers.poller replica))
    (cursor : ∀ stored ∈ next.pollers.cursor, delivery.Settled stored) :
    next.Progress where
  ordered := ordered
  offsets replica := (known replica).1.later later
  cursor stored member := (cursor stored member).later later
  gapless replica := (known replica).2.later later

theorem Progress.later (progress : delivery.Progress)
    (later : delivery.Later next)
    (same : next.pollers = delivery.pollers) : next.Progress := by
  apply progress_of_later later
  all_goals rw [same]
  · exact progress.ordered
  · exact progress.known
  · exact progress.cursor

/-- An update that has been handled moves the offset behind it. -/
theorem settled_succ (member : update ∈ delivery.arrived)
    (below : ∀ other ∈ delivery.arrived, other < update →
      delivery.Done other)
    (done : delivery.Done update) : delivery.Settled (update + 1) where
  done other arrived behind := by
    rcases eq_or_lt_of_le (Int.lt_add_one_iff.mp behind) with rfl | less
    · exact done
    · exact below other arrived less
  behind _ := by
    rw [Int.add_sub_cancel]
    exact member

/-! ### The steps of Telegram -/

/-- The ids of updates increase, so a new one is behind every offset. -/
theorem Settled.arrive (settled : delivery.Settled offset)
    (positive : 0 < update)
    (newest : ∀ earlier ∈ delivery.arrived, earlier < update) :
    offset ≤ update := by
  rcases le_or_gt offset 0 with low | high
  · exact le_trans low (le_of_lt positive)
  · exact Int.sub_one_lt_iff.mp (newest _ (settled.behind high))

theorem accounted_arrive (accounted : delivery.Accounted)
    (positive : 0 < update)
    (newest : ∀ earlier ∈ delivery.arrived, earlier < update) :
    Accounted { delivery with
      queue := delivery.queue ++ [update]
      arrived := delivery.arrived ++ [update] } := by
  obtain ⟨backlog, progress, handed⟩ := accounted
  have settled : ∀ {offset : Int}, delivery.Settled offset →
      Settled { delivery with
        queue := delivery.queue ++ [update]
        arrived := delivery.arrived ++ [update] } offset := by
    intro offset before
    refine ⟨List.forall_mem_append.mpr ⟨before.done, ?_⟩, fun high =>
      List.mem_append_left _ (before.behind high)⟩
    intro other member below
    rw [List.mem_singleton.mp member] at below
    exact absurd below (not_lt.mpr (before.arrive positive newest))
  refine ⟨⟨?_, ?_, ?_, ?_⟩, ⟨progress.ordered, ?_, ?_, ?_⟩,
    ⟨?_, handed.past, handed.grows⟩⟩
  · refine List.forall_mem_append.mpr ⟨backlog.positive, ?_⟩
    exact List.forall_mem_singleton.mpr positive
  · refine List.pairwise_append.mpr ⟨backlog.ascending,
      List.pairwise_singleton _ _, fun earlier member other last => ?_⟩
    rw [List.mem_singleton.mp last]
    exact newest earlier (backlog.queued earlier member)
  · refine List.forall_mem_append.mpr ⟨fun other member => ?_, ?_⟩
    · exact List.mem_append_left _ (backlog.queued other member)
    · exact fun other last => List.mem_append_right _ last
  · refine List.forall_mem_append.mpr ⟨fun other member => ?_, ?_⟩
    · exact (backlog.kept other member).imp_left (List.mem_append_left _)
    · exact fun other last => Or.inl (List.mem_append_right _ last)
  · exact fun replica => settled (progress.offsets replica)
  · exact fun stored member => settled (progress.cursor stored member)
  · intro replica member among
    obtain ⟨real, all⟩ := progress.gapless replica member among
    refine ⟨List.mem_append_left _ real,
      List.forall_mem_append.mpr ⟨all, ?_⟩⟩
    intro other last below
    rw [List.mem_singleton.mp last] at below
    exact absurd (newest member real) (not_lt.mpr below)
  · exact fun one member => List.mem_append_left _ (handed.real one member)

theorem accounted_expire (accounted : delivery.Accounted) (update : Int) :
    Accounted { delivery with
      queue := delivery.queue.erase update
      expired := delivery.expired ++ [update] } := by
  obtain ⟨backlog, progress, handed⟩ := accounted
  have later : delivery.Later { delivery with
      queue := delivery.queue.erase update
      expired := delivery.expired ++ [update] } :=
    ⟨rfl, fun _ done => done.imp_left (List.mem_append_left _)⟩
  refine ⟨⟨backlog.positive, ?_, ?_, ?_⟩, progress.later later rfl,
    ⟨handed.real, handed.past, handed.grows⟩⟩
  · exact backlog.ascending.sublist List.erase_sublist
  · exact fun other member => backlog.queued other (List.mem_of_mem_erase member)
  · intro other member
    rcases eq_or_ne other update with rfl | different
    · exact Or.inr (Or.inl (List.mem_append_right _ List.mem_cons_self))
    · exact (backlog.kept other member).imp
        (List.mem_erase_of_ne different).mpr (later.done other)

/-- What Telegram lets go on a request is behind the offset of a replica. -/
theorem accounted_confirm (accounted : delivery.Accounted)
    {replica : Replica}
    (sent : offset ≤ (delivery.pollers.poller replica).offset) :
    Accounted { delivery with
      queue := delivery.queue.filter fun update => offset ≤ update } := by
  obtain ⟨backlog, progress, handed⟩ := accounted
  refine ⟨⟨backlog.positive, ?_, ?_, ?_⟩,
    progress.later ⟨rfl, fun _ => id⟩ rfl,
    ⟨handed.real, handed.past, handed.grows⟩⟩
  · exact backlog.ascending.sublist List.filter_sublist
  · exact fun other member => backlog.queued other (List.mem_of_mem_filter member)
  · intro other member
    rcases backlog.kept other member with queued | done
    · rcases le_or_gt offset other with ahead | behind
      · exact Or.inl (List.mem_filter.mpr ⟨queued, decide_eq_true ahead⟩)
      · exact Or.inr ((progress.offsets replica).done other member
          (lt_of_lt_of_le behind sent))
    · exact Or.inr done

/-! ### The steps of the pollers -/

/-- The delivery once `handle` has been called for an update. -/
def handle (delivery : Delivery Replica Token) (replica : Replica)
    (update : Int) : Delivery Replica Token :=
  { delivery with handled := delivery.handled ++ [(replica, update)] }

/-- The first updates of an ascending queue leave none out before their last. -/
theorem mem_of_prefix_of_le {updates queue : List Int} {member : Int}
    (ascending : queue.Pairwise (· < ·)) (first : updates <+: queue)
    (among : member ∈ updates) (queued : update ∈ queue)
    (below : update ≤ member) : update ∈ updates := by
  obtain ⟨rest, rfl⟩ := first
  rcases List.mem_append.mp queued with here | after
  · exact here
  · have above := (List.pairwise_append.mp ascending).2.2 member among update
      after
    exact absurd below (not_le.mpr above)

theorem gapless_answer {updates : List Int} (backlog : delivery.Backlog)
    (settled : delivery.Settled offset)
    (first : updates <+:
      delivery.queue.filter fun update => offset ≤ update) :
    delivery.Gapless updates := by
  intro member among
  have queued := List.mem_of_mem_filter (first.subset among)
  refine ⟨backlog.queued member queued, fun update arrived below => ?_⟩
  rcases backlog.kept update arrived with waiting | done
  · rcases le_or_gt offset update with ahead | behind
    · refine Or.inl (mem_of_prefix_of_le
        (backlog.ascending.sublist List.filter_sublist) first among ?_ below)
      exact List.mem_filter.mpr ⟨waiting, decide_eq_true ahead⟩
    · exact Or.inr (settled.done update arrived behind)
  · exact Or.inr done

theorem settled_load {poller : Poller Token} {cursor : Option Int}
    (lock : Token) (answered : Bool) (settled : delivery.Settled poller.offset)
    (stored : ∀ stored ∈ cursor, delivery.Settled stored) :
    delivery.Settled
      (poller.load lock (if answered then some cursor else none)).offset := by
  cases answered with
  | false => exact settled
  | true =>
      cases cursor with
      | none => exact settled
      | some offset =>
          change delivery.Settled (Poller.offset (if _ then _ else _))
          split
          next behind => exact stored offset rfl
          next ahead => exact settled

section Steps

variable [DecidableEq Replica] {pollers : State Replica Token}
  {label : Label Replica Token}

theorem known_silent (accounted : delivery.Accounted)
    (stepped : Stepped delivery.pollers label pollers)
    (answers : Answers delivery.queue delivery.pollers label)
    (silent : handles delivery.pollers label = []) :
    (∀ replica, delivery.Known (pollers.poller replica)) ∧
      ∀ stored ∈ pollers.cursor, delivery.Settled stored := by
  have known := accounted.progress.known
  have cursor := accounted.progress.cursor
  cases stepped with
  | tick elapsed => exact ⟨known, cursor⟩
  | @moved _ replica poller lock unstored rests =>
      refine ⟨State.forall_become (fun _ => delivery.Known) ⟨?_, ?_⟩
        fun other _ => known other, cursor⟩
      · rw [rests.offset]
        exact (known replica).1
      · rcases rests.updates with same | none
        · rw [same]
          exact (known replica).2
        · rw [none]
          exact gapless_nil
  | @loaded replica lock answered =>
      refine ⟨State.forall_become (fun _ => delivery.Known) ⟨?_, ?_⟩
        fun other _ => known other, cursor⟩
      · exact settled_load lock answered (known replica).1 cursor
      · rw [Poller.updates_load]
        exact gapless_nil
  | @answered replica lock updates polling batch =>
      refine ⟨State.forall_become (fun _ => delivery.Known)
        ⟨(known replica).1, ?_⟩ fun other _ => known other, cursor⟩
      rw [Poller.updates_handle]
      exact gapless_answer accounted.backlog (known replica).1
        (answers _ rfl)
  | handled handling =>
      rw [handles, handling] at silent
      cases silent
  | @stored replica lock call persisting reaches =>
      constructor
      · refine State.forall_become (fun _ => delivery.Known)
          ⟨(known replica).1, gapless_nil⟩ fun other different => ?_
        rw [State.store_poller_of_ne different]
        exact known other
      · rintro stored ⟨⟩
        exact (known replica).1

theorem accounted_silent (accounted : delivery.Accounted)
    (stepped : Stepped delivery.pollers label pollers)
    (answers : Answers delivery.queue delivery.pollers label)
    (silent : handles delivery.pollers label = []) :
    Accounted { delivery with pollers := pollers } := by
  have later : delivery.Later { delivery with pollers := pollers } :=
    ⟨rfl, fun _ => id⟩
  have advances := advances_step stepped accounted.progress.ordered
  obtain ⟨known, cursor⟩ := known_silent accounted stepped answers silent
  refine ⟨accounted.backlog.later later rfl,
    progress_of_later later (fun replica => (advances replica).ordered)
      known cursor,
    ⟨accounted.handed.real, fun one member => ?_, accounted.handed.grows⟩⟩
  exact lt_of_lt_of_le (accounted.handed.past one member)
    (advances one.1).offset

/-- The update at the head of the batch is the oldest that is left. -/
theorem accounted_handled {replica : Replica} {lock : Token}
    {rest : List Int} (accounted : delivery.Accounted)
    (handling : (delivery.pollers.poller replica).phase =
      .handling lock (update :: rest))
    (stepped : Stepped delivery.pollers (.handle replica) pollers)
    (moved : pollers = delivery.pollers.become replica
      (Poller.handle
        { delivery.pollers.poller replica with offset := update + 1 }
        lock rest)) :
    Accounted { delivery.handle replica update with pollers := pollers } := by
  obtain ⟨backlog, progress, handed⟩ := accounted
  have advances := advances_step stepped progress.ordered
  have later : delivery.Later (delivery.handle replica update) :=
    ⟨rfl, fun _ done => done.imp_right fun ⟨other, member⟩ =>
      ⟨other, List.mem_append_left _ member⟩⟩
  obtain ⟨ahead, batch⟩ := (progress.ordered replica).handling handling
  have inHand := progress.gapless replica
  rw [handling] at inHand
  obtain ⟨real, all⟩ := inHand update List.mem_cons_self
  -- whatever is older is done: the rest of the batch is newer
  have older : ∀ other ∈ delivery.arrived, other < update →
      delivery.Done other := by
    intro other member below
    refine (all other member (le_of_lt below)).resolve_left fun held => ?_
    rcases List.mem_cons.mp held with rfl | after
    · exact lt_irrefl other below
    · have newer := batch.2 other after
      omega
  have done : (delivery.handle replica update).Done update :=
    Or.inr ⟨replica, List.mem_append_right _ List.mem_cons_self⟩
  have known : ∀ other, (delivery.handle replica update).Known
      (pollers.poller other) := by
    rw [moved]
    refine State.forall_become
      (fun _ => (delivery.handle replica update).Known) ⟨?_, ?_⟩
      fun other _ => ?_
    · exact settled_succ real
        (fun other member below => later.done other (older other member below))
        done
    · rw [Poller.updates_handle]
      intro member among
      obtain ⟨arrived, all⟩ := inHand member (List.mem_cons_of_mem _ among)
      refine ⟨arrived, fun other real below => ?_⟩
      rcases all other real below with held | before
      · rcases List.mem_cons.mp held with rfl | after
        · exact Or.inr done
        · exact Or.inl after
      · exact Or.inr (later.done other before)
    · exact ⟨(progress.offsets other).later later,
        (progress.gapless other).later later⟩
  have cursor : pollers.cursor = delivery.pollers.cursor := by
    rw [moved]
    rfl
  have past : update < (pollers.poller replica).offset := by
    rw [moved, State.become_poller_self]
    exact Int.lt_succ update
  have same : (delivery.handle replica update).Later
      { delivery.handle replica update with pollers := pollers } :=
    ⟨rfl, fun _ => id⟩
  refine ⟨backlog.later ⟨rfl, later.done⟩ rfl,
    progress_of_later same (fun other => (advances other).ordered) known ?_,
    ⟨?_, ?_, ?_⟩⟩
  · rw [cursor]
    exact fun stored member => (progress.cursor stored member).later later
  · exact List.forall_mem_append.mpr
      ⟨handed.real, List.forall_mem_singleton.mpr real⟩
  · refine List.forall_mem_append.mpr ⟨fun one member => ?_,
      List.forall_mem_singleton.mpr past⟩
    exact lt_of_lt_of_le (handed.past one member) (advances one.1).offset
  · refine List.pairwise_append.mpr ⟨handed.grows,
      List.pairwise_singleton _ _, fun earlier member later last same => ?_⟩
    rw [List.mem_singleton.mp last] at same ⊢
    have before := handed.past earlier member
    rw [same] at before
    exact lt_of_lt_of_le before ahead

end Steps

end Delivery

/-- Only a call of `handle` for the first update at hand is on record. -/
theorem handles_cases (pollers : State Replica Token)
    (label : Label Replica Token) :
    handles pollers label = [] ∨
      ∃ replica lock update rest, label = .handle replica ∧
        (pollers.poller replica).phase = .handling lock (update :: rest) ∧
        handles pollers label = [(replica, update)] := by
  unfold handles
  split
  case h_1 replica =>
    split
    case h_1 lock update rest handling =>
      exact Or.inr ⟨replica, lock, update, rest, rfl, handling, rfl⟩
    case h_2 => exact Or.inl rfl
  case h_2 => exact Or.inl rfl

section Runs

variable [DecidableEq Replica] [DecidableEq Token]

/-- What `handle` leaves, once the update at the head has been handled. -/
theorem step_handle {state next : State Replica Token} {replica : Replica}
    {lock : Token} {update : Int} {rest : List Int}
    (handling : (state.poller replica).phase =
      .handling lock (update :: rest))
    (stepped : Telegram.step state (.handle replica) = some next) :
    next = state.become replica
      (Poller.handle { state.poller replica with offset := update + 1 }
        lock rest) := by
  simp only [Telegram.step, handling, Option.some.injEq] at stepped
  exact stepped.symm

namespace Delivery

/-- What one event can do. -/
inductive Happened (delivery : Delivery Replica Token) :
    Event Replica Token → Delivery Replica Token → Prop where
  | arrived {update : Int} (positive : 0 < update)
      (newest : ∀ earlier ∈ delivery.arrived, earlier < update) :
      Happened delivery (.arrive update)
        { delivery with
          queue := delivery.queue ++ [update]
          arrived := delivery.arrived ++ [update] }
  | expired {update : Int} :
      Happened delivery (.expire update)
        { delivery with
          queue := delivery.queue.erase update
          expired := delivery.expired ++ [update] }
  | confirmed {replica : Replica} {offset : Int}
      (sent : offset ≤ (delivery.pollers.poller replica).offset) :
      Happened delivery (.confirm replica offset)
        { delivery with
          queue := delivery.queue.filter fun update => offset ≤ update }
  | silent {label : Label Replica Token} {pollers : State Replica Token}
      (stepped : Telegram.step delivery.pollers label = some pollers)
      (answers : Answers delivery.queue delivery.pollers label)
      (silent : handles delivery.pollers label = []) :
      Happened delivery (.poller label) { delivery with pollers := pollers }
  | handled {replica : Replica} {pollers : State Replica Token}
      {lock : Token} {update : Int} {rest : List Int}
      (stepped : Telegram.step delivery.pollers (.handle replica) =
        some pollers)
      (handling : (delivery.pollers.poller replica).phase =
        .handling lock (update :: rest)) :
      Happened delivery (.poller (.handle replica))
        { delivery.handle replica update with pollers := pollers }

theorem happened_of_step {delivery next : Delivery Replica Token}
    {event : Event Replica Token} (taken : delivery.step event = some next) :
    delivery.Happened event next := by
  cases event with
  | arrive update =>
      obtain ⟨new, same⟩ := Option.ite_none_right_eq_some.mp taken
      cases same
      exact .arrived new.1 new.2
  | expire update =>
      obtain ⟨_, same⟩ := Option.ite_none_right_eq_some.mp taken
      cases same
      exact .expired
  | confirm replica offset =>
      obtain ⟨sent, same⟩ := Option.ite_none_right_eq_some.mp taken
      cases same
      exact .confirmed sent
  | poller label =>
      obtain ⟨answers, moved⟩ := Option.ite_none_right_eq_some.mp taken
      obtain ⟨pollers, stepped, rfl⟩ := Option.map_eq_some_iff.mp moved
      rcases handles_cases delivery.pollers label with
        silent | ⟨replica, lock, update, rest, rfl, handling, record⟩
      · rw [silent, List.append_nil]
        exact .silent stepped answers silent
      · rw [record]
        exact .handled stepped handling

theorem Accounted.step {delivery next : Delivery Replica Token}
    {event : Event Replica Token} (accounted : delivery.Accounted)
    (happened : delivery.Happened event next) : next.Accounted := by
  cases happened with
  | arrived positive newest => exact accounted_arrive accounted positive newest
  | expired => exact accounted_expire accounted _
  | confirmed sent => exact accounted_confirm accounted sent
  | silent stepped answers silent =>
      exact accounted_silent accounted (stepped_of_step stepped) answers silent
  | handled stepped handling =>
      exact accounted_handled accounted handling (stepped_of_step stepped)
        (step_handle handling stepped)

end Delivery

end Runs

end WeatherNotify.Users.Telegram

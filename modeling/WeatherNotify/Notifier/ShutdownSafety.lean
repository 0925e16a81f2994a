import Mathlib.Data.List.Perm.Basic
import WeatherNotify.Notifier.NeverStuck
import WeatherNotify.Notifier.Shutdown
import WeatherNotify.Transition.Workers

/-!
# What a shutdown gives back

The counter is the number of handlers, so the drain ends when the last of them
has returned or when its time is up, and what the broker takes back at the close
of the channel is what a handler gave up or is still at work on.
-/

namespace WeatherNotify.Notifier.Shutdown

open WeatherNotify.Contracts
open WeatherNotify.Transition

variable {config : Config} {state next : State} {label : Label}

/-! ## Deliveries -/

/-- The handler has yet to ack its delivery or to give it up. -/
def Handler.Undecided (handler : Handler) : Prop :=
  .acked ∈ handler.todo ∨ .handlerFailed ∈ handler.todo

theorem undecided_log (number : Nat) (message : Message) (channel : Channel)
    (handling : Handling) :
    Handler.Undecided ⟨number, handling.log config channel message⟩ := by
  have shape := handling.log_shape config channel message
  generalize handling.log config channel message = todo at shape ⊢
  cases shape with
  | acked opened concluded =>
      exact Or.inl (List.mem_append_right _
        (List.mem_cons_of_mem _ List.mem_cons_self))
  | lost opened =>
      exact Or.inr (List.mem_append_right _ List.mem_cons_self)
  | unconfirmed opened concluded =>
      exact Or.inr (List.mem_append_right _
        (List.mem_cons_of_mem _ List.mem_cons_self))

/-- A delivery was given up, or a handler has yet to decide on it. -/
def Held (state : State) (number : Nat) : Prop :=
  number ∈ state.failed ∨ ∃ handler ∈ state.handlers,
    handler.number = number ∧ handler.Undecided

/-- Every delivery the broker waits for is held. -/
structure Accounted (state : State) : Prop where
  counted : state.inFlight = state.handlers.length
  numbered : (state.acked ++ (state.unacked ++ state.returned)).Perm
    (List.range state.delivered)
  held : ∀ number ∈ state.unacked, Held state number
  kept : state.phase.isOpen = true → state.returned = []

theorem accounted_start (config : Config) (clock : Int) :
    Accounted (State.start config clock) where
  counted := rfl
  numbered := .refl _
  held _ member := (List.not_mem_nil member).elim
  kept _ := rfl

/-- Whoever held a delivery still does when the handlers stay. -/
theorem Accounted.of_eq (accounted : Accounted state)
    (inFlight : next.inFlight = state.inFlight)
    (handlers : next.handlers = state.handlers)
    (unacked : next.unacked = state.unacked)
    (delivered : next.delivered = state.delivered)
    (acked : next.acked = state.acked)
    (returned : next.returned = state.returned)
    (failed : next.failed = state.failed)
    (isOpen : next.phase.isOpen = true → state.phase.isOpen = true) :
    Accounted next where
  counted := by
    rw [inFlight, handlers]
    exact accounted.counted
  numbered := by
    rw [acked, unacked, returned, delivered]
    exact accounted.numbered
  held := by
    unfold Held
    rw [unacked, failed, handlers]
    exact accounted.held
  kept still := by
    rw [returned]
    exact accounted.kept (isOpen still)

theorem Accounted.deliver (accounted : Accounted state) {todo : List Effect}
    (undecided : Handler.Undecided ⟨state.delivered, todo⟩) :
    Accounted (state.deliver todo) where
  counted := by
    show state.inFlight + 1 = ((state.handlers ++ [_]).length : Int)
    rw [accounted.counted, List.length_append, List.length_singleton]
    exact (Int.natCast_succ _).symm
  numbered := by
    show (state.acked ++ ((state.unacked ++ [state.delivered]) ++
      state.returned)).Perm (List.range (state.delivered + 1))
    rw [List.range_succ]
    refine .trans ?_ (accounted.numbered.append_right [state.delivered])
    rw [List.append_assoc, List.append_assoc, List.append_assoc]
    exact .append_left _ (.append_left _ List.perm_append_comm)
  held number member := by
    rcases List.mem_append.mp member with old | new
    · refine (accounted.held number old).imp id ?_
      rintro ⟨handler, working, same, open_⟩
      exact ⟨handler, List.mem_append_left _ working, same, open_⟩
    · refine Or.inr ⟨_, List.mem_append_right _ (List.mem_singleton_self _),
        (List.mem_singleton.mp new).symm, undecided⟩
  kept := accounted.kept

theorem Accounted.nodup_unacked (accounted : Accounted state) :
    state.unacked.Nodup :=
  (List.nodup_append.mp (List.nodup_append.mp
    (accounted.numbered.nodup_iff.mpr List.nodup_range)).2.1).1

/-- A step of one handler leaves the deliveries of the others held. -/
theorem held_set {index number other : Nat} {effect : Effect}
    {todo : List Effect}
    (found : state.handlers[index]? = some ⟨number, effect :: todo⟩)
    (held : Held state other)
    (still : number = other → Handler.Undecided ⟨number, effect :: todo⟩ →
      Handler.Undecided ⟨number, todo⟩) :
    Held { state with handlers := state.handlers.set index ⟨number, todo⟩ }
      other := by
  refine held.imp id (exists_mem_set found ?_)
  rintro ⟨same, undecided⟩
  exact ⟨same, still same undecided⟩

/-- An effect that decides nothing leaves the handler undecided. -/
theorem undecided_of_cons {number : Nat} {effect : Effect}
    {todo : List Effect} (acks : effect ≠ .acked)
    (fails : effect ≠ .handlerFailed)
    (undecided : Handler.Undecided ⟨number, effect :: todo⟩) :
    Handler.Undecided ⟨number, todo⟩ :=
  undecided.imp
    (fun member => (List.mem_cons.mp member).resolve_left acks.symm)
    (fun member => (List.mem_cons.mp member).resolve_left fails.symm)

/-- The handlers of a state whose broker side does not change. -/
theorem Accounted.set (accounted : Accounted state) {index number : Nat}
    {effect : Effect} {todo : List Effect}
    (found : state.handlers[index]? = some ⟨number, effect :: todo⟩)
    (still : number ∈ state.unacked →
      Handler.Undecided ⟨number, effect :: todo⟩ →
        Handler.Undecided ⟨number, todo⟩) :
    Accounted { state with
      handlers := state.handlers.set index ⟨number, todo⟩ } where
  counted := by
    show state.inFlight = ((state.handlers.set index _).length : Int)
    rw [List.length_set]
    exact accounted.counted
  numbered := accounted.numbered
  held other member := by
    refine held_set found (accounted.held other member) ?_
    rintro rfl
    exact still member
  kept := accounted.kept

/-- What a handler does next decides its own delivery only. -/
theorem Accounted.perform (accounted : Accounted state) {index number : Nat}
    {effect : Effect} {todo : List Effect}
    (found : state.handlers[index]? = some ⟨number, effect :: todo⟩) :
    Accounted { state.apply number effect with
      handlers := state.handlers.set index ⟨number, todo⟩ } := by
  cases effect with
  | dispatchCalled | dispatched | published =>
      exact accounted.set found fun _ => undecided_of_cons nofun nofun
  | acked =>
      by_cases waited : number ∈ state.unacked
      · have heard : state.apply number .acked =
            { state with
              unacked := state.unacked.erase number
              acked := state.acked ++ [number] } :=
          if_pos waited
        rw [heard]
        refine ⟨?_, ?_, ?_, accounted.kept⟩
        · show state.inFlight = ((state.handlers.set index _).length : Int)
          rw [List.length_set]
          exact accounted.counted
        · refine .trans ?_ accounted.numbered
          show (state.acked ++ [number] ++
            (state.unacked.erase number ++ state.returned)).Perm _
          rw [List.append_assoc]
          exact .append_left _ ((List.perm_cons_erase waited).symm.append_right
            state.returned)
        · intro other member
          have unequal : number ≠ other := by
            rintro rfl
            exact accounted.nodup_unacked.not_mem_erase member
          exact held_set found
            (accounted.held other (List.mem_of_mem_erase member))
            fun same => (unequal same).elim
      · have unheard : state.apply number .acked = state := if_neg waited
        rw [unheard]
        exact accounted.set found fun member => (waited member).elim
  | handlerFailed =>
      refine ⟨?_, accounted.numbered, ?_, accounted.kept⟩
      · show state.inFlight = ((state.handlers.set index _).length : Int)
        rw [List.length_set]
        exact accounted.counted
      · intro other member
        by_cases same : number = other
        · exact Or.inl (List.mem_append_right _ (by simp [same]))
        · have held := held_set found (accounted.held other member)
            fun equal => (same equal).elim
          exact held.imp (List.mem_append_left _) id

theorem Accounted.finish (accounted : Accounted state) {index number : Nat}
    (found : state.handlers[index]? = some ⟨number, []⟩) :
    Accounted { state with
      inFlight := state.inFlight - 1
      handlers := state.handlers.eraseIdx index } where
  counted := by
    have bound : index < state.handlers.length :=
      (List.getElem?_eq_some_iff.mp found).1
    show state.inFlight - 1 = ((state.handlers.eraseIdx index).length : Int)
    rw [List.length_eraseIdx_of_lt bound, accounted.counted]
    omega
  numbered := accounted.numbered
  held other member := by
    refine (accounted.held other member).imp id (exists_mem_eraseIdx found ?_)
    rintro ⟨-, acks | fails⟩
    · exact List.not_mem_nil acks
    · exact List.not_mem_nil fails
  kept := accounted.kept

theorem Accounted.closeChannel (accounted : Accounted state) :
    Accounted state.closeChannel where
  counted := accounted.counted
  numbered := by
    refine .trans (.append_left _ ?_) accounted.numbered
    show (state.returned ++ state.unacked).Perm _
    exact List.perm_append_comm
  held _ member := (List.not_mem_nil member).elim
  kept isOpen := (Bool.false_ne_true isOpen).elim

theorem accounted_step
    (stepped : (machine config).step state label = some next)
    (accounted : Accounted state) : Accounted next := by
  cases stepped_of_step stepped with
  | consume | tick =>
      exact accounted.of_eq rfl rfl rfl rfl rfl rfl rfl id
  | deliver message handling consumer =>
      exact accounted.deliver (undecided_log _ message _ handling)
  | perform found => exact accounted.perform found
  | finish found => exact accounted.finish found
  | destroy serving =>
      exact accounted.of_eq rfl rfl rfl rfl rfl rfl rfl
        fun _ => (by rw [serving]; rfl)
  | cancel cancelling | cancelled cancelling | cancelFails cancelling =>
      exact accounted.of_eq rfl rfl rfl rfl rfl rfl rfl
        fun _ => (by rw [cancelling]; rfl)
  | waits polling =>
      exact accounted.of_eq rfl rfl rfl rfl rfl rfl rfl
        fun _ => (by rw [polling]; rfl)
  | closes => exact accounted.closeChannel
  | wake sleeping =>
      exact accounted.of_eq rfl rfl rfl rfl rfl rfl rfl
        fun _ => (by rw [sleeping]; rfl)
  | closeConnection =>
      exact accounted.of_eq rfl rfl rfl rfl rfl rfl rfl
        fun isOpen => (by cases isOpen)

/-- An effect changes nothing but what became of its delivery. -/
theorem apply_eq (state : State) (number : Nat) (effect : Effect) :
    ∃ unacked acked failed, state.apply number effect =
      { state with unacked := unacked, acked := acked, failed := failed } := by
  cases effect with
  | acked =>
      unfold State.apply State.ack
      by_cases waited : number ∈ state.unacked
      · rw [if_pos waited]
        exact ⟨_, _, _, rfl⟩
      · rw [if_neg waited]
        exact ⟨_, _, _, rfl⟩
  | handlerFailed | dispatchCalled | dispatched | published =>
      exact ⟨_, _, _, rfl⟩

/-! ## The drain -/

/-- How far the sleeps have taken the clock since the drain began. -/
def Paced (state : State) : Prop :=
  match state.phase with
  | .serving | .cancelling _ => state.sleeps = 0
  | .polling deadline =>
      deadline + drainPollMs * state.sleeps ≤ state.clock + drainTimeoutMs ∧
        state.sleeps ≤ 600
  | .sleeping deadline wakeAt =>
      deadline + drainPollMs * state.sleeps ≤ wakeAt + drainTimeoutMs ∧
        state.sleeps ≤ 600
  | .closing | .closed => state.sleeps ≤ 600

theorem paced_step
    (stepped : (machine config).step state label = some next)
    (paced : Paced state) : Paced next := by
  cases stepped_of_step stepped with
  | consume | deliver | finish => exact paced
  | @perform index number effect todo found =>
      obtain ⟨unacked, acked, failed, same⟩ := apply_eq state number effect
      rw [same]
      exact paced
  | destroy serving =>
      simp only [Paced, serving] at paced
      exact paced
  | cancel cancelling =>
      simp only [Paced, cancelling] at paced
      exact paced
  | cancelled cancelling | cancelFails cancelling =>
      simp only [Paced, cancelling] at paced
      simp [Paced, paced]
  | waits polling busy early =>
      simp only [Paced, polling, drainPollMs, drainTimeoutMs] at paced
      simp only [Paced, drainPollMs, drainTimeoutMs]
      omega
  | closes polling =>
      simp only [Paced, polling] at paced
      exact paced.2
  | wake sleeping elapsed =>
      simp only [Paced, sleeping] at paced
      exact ⟨paced.1.trans (Int.add_le_add_right elapsed _), paced.2⟩
  | closeConnection closing =>
      simp only [Paced, closing] at paced
      exact paced
  | tick ms =>
      unfold Paced at paced ⊢
      cases phase : state.phase with
      | serving | cancelling | closing | closed | sleeping =>
          simp only [phase] at paced ⊢
          exact paced
      | polling deadline =>
          simp only [phase] at paced ⊢
          omega

/-! ## The consumers -/

/-- Which consumers the broker still has. -/
def Quiet (state : State) : Prop :=
  match state.phase with
  | .serving =>
      state.consumers = state.consumerTags ∧
        (state.consumerTags.map Prod.fst ++ state.unregistered).Nodup
  | .cancelling tags =>
      ∀ consumer ∈ state.consumers,
        consumer.2 ∈ tags ∨ consumer.2 ∈ state.late
  | .polling _ | .sleeping _ _ =>
      state.refused = true ∨
        ∀ consumer ∈ state.consumers, consumer.2 ∈ state.late
  | .closing | .closed => state.consumers = []

theorem setTag_of_absent {tags : List (Channel × String)} {channel : Channel}
    (absent : channel ∉ tags.map Prod.fst) (tag : String) :
    setTag tags channel tag = tags ++ [(channel, tag)] := by
  apply if_neg
  intro present
  obtain ⟨entry, member, same⟩ := List.any_eq_true.mp present
  exact absent (List.mem_map.mpr ⟨entry, member, of_decide_eq_true same⟩)

theorem quiet_consume (quiet : Quiet state) {channel : Channel}
    {rest : List Channel} (tag : String)
    (registered : state.unregistered = channel :: rest)
    (isOpen : state.phase.isOpen = true) :
    Quiet { state with
      unregistered := rest
      consumers := state.consumers ++ [(channel, tag)]
      consumerTags := setTag state.consumerTags channel tag
      late :=
        if state.phase = .serving then state.late
        else state.late ++ [tag] } := by
  unfold Quiet at quiet ⊢
  cases phase : state.phase with
  | serving =>
      simp only [phase] at quiet ⊢
      obtain ⟨same, distinct⟩ := quiet
      rw [registered] at distinct
      have absent : channel ∉ state.consumerTags.map Prod.fst :=
        fun present => (List.nodup_append.mp distinct).2.2 channel present
          channel List.mem_cons_self rfl
      rw [setTag_of_absent absent, same]
      refine ⟨rfl, ?_⟩
      rw [List.map_append, List.append_assoc]
      exact distinct
  | cancelling tags =>
      simp only [phase, reduceCtorEq, if_false] at quiet ⊢
      intro consumer member
      rcases List.mem_append.mp member with old | new
      · exact (quiet consumer old).imp_right (List.mem_append_left _)
      · cases List.mem_singleton.mp new
        exact Or.inr (List.mem_append_right _ (List.mem_singleton_self _))
  | polling | sleeping =>
      simp only [phase, reduceCtorEq, if_false] at quiet ⊢
      refine quiet.imp_right fun known consumer member => ?_
      rcases List.mem_append.mp member with old | new
      · exact List.mem_append_left _ (known consumer old)
      · cases List.mem_singleton.mp new
        exact List.mem_append_right _ (List.mem_singleton_self _)
  | closing | closed =>
      rw [phase] at isOpen
      cases isOpen

theorem quiet_step
    (stepped : (machine config).step state label = some next)
    (quiet : Quiet state) : Quiet next := by
  cases stepped_of_step stepped with
  | consume tag registered isOpen =>
      exact quiet_consume quiet tag registered isOpen
  | deliver | finish | tick => exact quiet
  | @perform index number effect todo found =>
      obtain ⟨unacked, acked, failed, same⟩ := apply_eq state number effect
      rw [same]
      exact quiet
  | destroy serving =>
      simp only [Quiet, serving] at quiet
      intro consumer member
      rw [quiet.1] at member
      exact Or.inl (List.mem_map_of_mem member)
  | cancel cancelling =>
      simp only [Quiet, cancelling] at quiet
      intro consumer member
      obtain ⟨stored, other⟩ := List.mem_filter.mp member
      refine (quiet consumer stored).imp_left fun listed => ?_
      exact (List.mem_cons.mp listed).resolve_left (of_decide_eq_true other)
  | cancelled cancelling =>
      simp only [Quiet, cancelling] at quiet
      exact Or.inr fun consumer member =>
        (quiet consumer member).resolve_left List.not_mem_nil
  | cancelFails cancelling => exact Or.inl rfl
  | waits polling =>
      simp only [Quiet, polling] at quiet
      exact quiet
  | closes polling => exact (rfl : [] = [])
  | wake sleeping =>
      simp only [Quiet, sleeping] at quiet
      exact quiet
  | closeConnection closing =>
      simp only [Quiet, closing] at quiet
      exact quiet

/-! ## The run -/

/-- The consumers were cancelled, or given up on. -/
def Phase.isDraining : Phase → Bool
  | .serving | .cancelling _ => false
  | .polling _ | .sleeping _ _ | .closing | .closed => true

/-- A close of the channel, and what the broker takes back by it. -/
structure ClosesInOrder (taken : Taken State Label) : Prop where
  drained : taken.source.handlers = [] ∨
    ∃ deadline, taken.source.phase = .polling deadline ∧
      deadline ≤ taken.source.clock
  returned : ∀ number ∈ taken.target.returned, Held taken.target number

/-- Everything the steps keep. -/
structure Orderly (state : State) : Prop where
  accounted : Accounted state
  paced : Paced state
  quiet : Quiet state

theorem orderly_step
    (stepped : (machine config).step state label = some next)
    (orderly : Orderly state) : Orderly next :=
  ⟨accounted_step stepped orderly.accounted,
    paced_step stepped orderly.paced, quiet_step stepped orderly.quiet⟩

theorem orderly_start (distinct : config.registeredChannels.Nodup)
    (clock : Int) : Orderly (State.start config clock) :=
  ⟨accounted_start config clock, rfl, rfl, distinct⟩

theorem Orderly.closes (orderly : Orderly state)
    (stepped : (machine config).step state .poll = some next)
    (closed : next.phase = .closing) :
    ClosesInOrder ⟨state, .poll, next⟩ := by
  cases stepped_of_step stepped with
  | waits => cases closed
  | closes polling ready =>
      constructor
      · rcases ready with idle | late
        · rw [orderly.accounted.counted] at idle
          refine Or.inl (List.eq_nil_of_length_eq_zero ?_)
          exact Int.natCast_eq_zero.mp
            (Int.le_antisymm idle (Int.natCast_nonneg _))
        · exact Or.inr ⟨_, polling, late⟩
      · intro number member
        have still : state.phase.isOpen = true := by rw [polling]; rfl
        change number ∈ state.returned ++ state.unacked at member
        rw [orderly.accounted.kept still] at member
        exact orderly.accounted.held number member

theorem Orderly.sleeps_le (orderly : Orderly state) :
    state.sleeps ≤ 600 := by
  have paced := orderly.paced
  unfold Paced at paced
  split at paced <;> omega

/-- Without refusals and late registrations nothing is delivered any more. -/
theorem Orderly.consumers_eq (orderly : Orderly state)
    (draining : state.phase.isDraining = true)
    (accepted : state.refused = false) (settled : state.late = []) :
    state.consumers = [] := by
  have quiet := orderly.quiet
  unfold Quiet at quiet
  rw [accepted, settled] at quiet
  cases phase : state.phase with
  | serving | cancelling =>
      rw [phase] at draining
      cases draining
  | polling | sleeping =>
      simp only [phase, Bool.false_eq_true, false_or] at quiet
      exact List.eq_nil_iff_forall_not_mem.mpr
        fun consumer member => List.not_mem_nil (quiet consumer member)
  | closing | closed =>
      simp only [phase] at quiet
      exact quiet

/-- A delivery is under way when the shutdown begins, and is waited for. -/
def drained : List Label :=
  [.consume "tag", .deliver .email "tag" fourthDelivery ⟨calmEnv, liveAccount⟩,
    .perform 0, .destroy, .cancel, .cancelled, .poll, .tick 50, .wake,
    .perform 0, .perform 0, .finish 0, .poll, .closeConnection]

end WeatherNotify.Notifier.Shutdown

import WeatherNotify.Transition.Windows
import WeatherNotify.Triggers.TestReservations

/-!
# When the cooldown of test sends holds

A refund deletes the key whoever holds it by then and whatever its command has
published already, and a reservation runs out whether or not its command is
through.  The cooldown holds as long as no command passes the check in the
wake of such a reservation while its channels are still warm.
-/

namespace WeatherNotify.Triggers.TestSend

open WeatherNotify.Common
open WeatherNotify.Contracts
open WeatherNotify.Notifier
open WeatherNotify.Transition

variable {Caller : Type}

/-! ## What is promised, and when -/

/-- Acceptances, counted in intervals of the cooldown. -/
def acceptances : Windows (Accepted Caller) where
  length := testCooldownMs
  instant := Accepted.instant
  window := Accepted.instant

/-- The messages of a user on a channel. -/
def Accepted.isFor (userId : String) (channel : Channel)
    (message : Accepted Caller) : Bool :=
  message.event.userId = userId ∧ message.routingKey = routingKeyFor channel

/-- One message per channel in any interval of the cooldown. -/
def AtMostOnePerWindow (userId : String)
    (accepted : List (Accepted Caller)) : Prop :=
  ∀ (channel : Channel) (start : Int),
    accepted.countP (fun message => message.isFor userId channel &&
      acceptances.inInterval start message) ≤ 1

/-- The command is through with the channel, and has been for a window. -/
def Settled (state : State Caller) (caller : Caller)
    (channel : Channel) : Prop :=
  channel ∉ (state.phase caller).pending ∧
    ∀ message ∈ state.accepted, message.caller = caller →
      message.routingKey = routingKeyFor channel →
        message.instant + testCooldownMs ≤ state.clock

instance [DecidableEq Caller] (state : State Caller) (caller : Caller)
    (channel : Channel) : Decidable (Settled state caller channel) :=
  inferInstanceAs (Decidable (_ ∧ ∀ message ∈ state.accepted, _ → _ → _))

def Label.reserves : Label Caller → Option Caller
  | .reserve caller _ => some caller
  | _ => none

/-- The trigger of a command that is about to reserve its cooldown. -/
def Phase.reserving? : Phase → Option StoredTrigger
  | .reserving trigger => some trigger
  | _ => none

section Promise

variable [DecidableEq Caller]
  (commands : Caller → SendTestNotificationCommand)

/--
Whoever finds the key free has no channel in common with what an earlier
command, whose reservation is lifted, still sends or sent in the last window.
-/
def StartsClear (taken : Taken (State Caller) (Label Caller)) : Prop :=
  ∀ caller ∈ taken.label.reserves,
    ∀ trigger ∈ (taken.source.phase caller).reserving?,
      taken.source.cooldowns.get taken.source.clock
          (keyOf commands caller) = none →
        ∀ reservation ∈ taken.source.reservations,
          reservation.userId = (commands caller).userId →
          reservation.Lifted taken.source.clock →
            ∀ channel ∈ trigger.channels,
              Settled taken.source reservation.caller channel

instance (taken : Taken (State Caller) (Label Caller)) :
    Decidable (StartsClear commands taken) :=
  inferInstanceAs (Decidable (∀ caller ∈ taken.label.reserves,
    ∀ trigger ∈ (taken.source.phase caller).reserving?, _ → ∀ reservation ∈
      taken.source.reservations, _ → _ → ∀ channel ∈ trigger.channels,
        Settled taken.source reservation.caller channel))

/-- The commands past their check keep the promise, however they go on. -/
def Harmless (state : State Caller) : Prop :=
  ∀ (labels : List (Label Caller)) (final : State Caller),
    (∀ label ∈ labels, label.reserves = none) →
      (machine commands).run state labels = some final →
        ∀ userId, AtMostOnePerWindow userId final.accepted

/--
A command whose publish failed can hand its cooldown back at once, and has
none once it has answered.
-/
def LeavesNoCooldown (state : State Caller) (caller : Caller) : Prop :=
  (state.phase caller = .clearing →
    ∃ next, step commands state (.clearCooldown caller) = some next ∧
      next.phase caller = .answered unavailable ∧
      next.cooldowns (keyOf commands caller) = none) ∧
  (state.phase caller = .answered unavailable →
    ∀ entry, state.cooldowns (keyOf commands caller) = some entry →
      entry.value ≠ caller)

end Promise

/-! ## Commands that start clear -/

/--
What the commands have still to send is theirs alone and, like what the
broker took, a window away from what it took before.
-/
structure Clear (commands : Caller → SendTestNotificationCommand)
    (state : State Caller) : Prop where
  unique : ∀ caller, (state.phase caller).pending.Nodup
  apart : ∀ left right,
    (commands left).userId = (commands right).userId →
      ∀ channel ∈ (state.phase left).pending,
        channel ∈ (state.phase right).pending → left = right
  rested : ∀ caller, ∀ channel ∈ (state.phase caller).pending,
    ∀ message ∈ state.accepted,
      message.isFor (commands caller).userId channel = true →
        message.instant + testCooldownMs ≤ state.clock
  spaced : ∀ userId channel, state.accepted.Pairwise fun later earlier =>
    later.isFor userId channel = true →
      earlier.isFor userId channel = true →
        earlier.instant + testCooldownMs ≤ later.instant

theorem Accepted.isFor_iff {userId : String} {channel : Channel}
    {message : Accepted Caller} :
    message.isFor userId channel = true ↔
      message.event.userId = userId ∧
        message.routingKey = routingKeyFor channel :=
  decide_eq_true_iff

theorem testCooldownMs_pos : 0 < testCooldownMs := by
  decide

/-- A message less than a window old bars the next one on its channel. -/
theorem rested_of_atMostOne {userId : String} {channel : Channel}
    {first second : Accepted Caller} {rest : List (Accepted Caller)}
    (promise : AtMostOnePerWindow userId (first :: rest))
    (member : second ∈ rest) (later : second.instant ≤ first.instant)
    (firstFor : first.isFor userId channel = true)
    (secondFor : second.isFor userId channel = true) :
    second.instant + testCooldownMs ≤ first.instant := by
  by_contra early
  have bound := promise channel second.instant
  have counts : (first.isFor userId channel &&
      acceptances.inInterval second.instant first) = true := by
    rw [firstFor, Bool.true_and, Windows.mem_inInterval]
    exact ⟨later, not_le.mp early⟩
  have countsToo : (second.isFor userId channel &&
      acceptances.inInterval second.instant second) = true := by
    rw [secondFor, Bool.true_and, Windows.mem_inInterval]
    exact ⟨le_refl _, Int.lt_add_of_pos_right _ testCooldownMs_pos⟩
  rw [List.countP_cons, if_pos counts] at bound
  have positive : 0 < rest.countP (fun message =>
      message.isFor userId channel &&
        acceptances.inInterval second.instant message) :=
    List.countP_pos_iff.mpr ⟨second, member, countsToo⟩
  exact absurd bound (Nat.not_le.mpr (Nat.lt_add_of_pos_left positive))

section Runs

variable {commands : Caller → SendTestNotificationCommand}
  {state next : State Caller}

namespace Clear

theorem start (clock : Int) :
    Clear commands (State.start clock : State Caller) where
  unique _ := List.nodup_nil
  apart _ _ _ _ member := by cases member
  rested _ _ member := by cases member
  spaced _ _ := List.Pairwise.nil

theorem tick (clear : Clear commands state) (elapsed : Nat) :
    Clear commands { state with clock := state.clock + elapsed } where
  unique := clear.unique
  apart := clear.apart
  rested caller channel pending message member same :=
    le_trans (clear.rested caller channel pending message member same)
      (Int.le_add_of_nonneg_right (Int.natCast_nonneg elapsed))
  spaced := clear.spaced

/-- The broker takes a message that no command has still to send. -/
theorem publish (clear : Clear commands state) {caller : Caller}
    {channel : Channel} {event : TriggerFiredEvent} {outcome : RemoteCall}
    (through : ∀ other, (commands other).userId = event.userId →
      channel ∉ (state.phase other).pending)
    (rested : ∀ message ∈ state.accepted,
      message.isFor event.userId channel = true →
        message.instant + testCooldownMs ≤ state.clock) :
    Clear commands (state.published caller channel event outcome) := by
  cases reaches : outcome.reaches with
  | false =>
      rw [State.published, reaches]
      exact clear
  | true =>
      rw [State.published, reaches]
      refine ⟨clear.unique, clear.apart, ?_, ?_⟩
      · intro other pendingChannel pending
        refine List.forall_mem_cons.mpr
          ⟨fun new => ?_, clear.rested other pendingChannel pending⟩
        rcases Accepted.isFor_iff.mp new with ⟨sameUser, sameKey⟩
        rw [← routingKeyFor_injective sameKey] at pending
        exact (through other sameUser.symm pending).elim
      · intro userId other
        refine List.pairwise_cons.mpr ⟨fun message member new old => ?_,
          clear.spaced userId other⟩
        rcases Accepted.isFor_iff.mp new with ⟨rfl, sameKey⟩
        rw [← routingKeyFor_injective sameKey] at old
        exact rested message member old

theorem atMostOne (clear : Clear commands state) (userId : String) :
    AtMostOnePerWindow userId state.accepted :=
  fun channel start =>
    Windows.countP_interval_le_one (clear.spaced userId channel) start

variable [DecidableEq Caller]

/-- A command moves on to channels that no other command has to send to. -/
theorem moveTo (clear : Clear commands state) {caller : Caller}
    {phase : Phase} (unique : phase.pending.Nodup)
    (alone : ∀ channel ∈ phase.pending, ∀ other, other ≠ caller →
      (commands other).userId = (commands caller).userId →
        channel ∉ (state.phase other).pending)
    (rested : ∀ channel ∈ phase.pending, ∀ message ∈ state.accepted,
      message.isFor (commands caller).userId channel = true →
        message.instant + testCooldownMs ≤ state.clock) :
    Clear commands (state.moveTo caller phase) where
  unique := State.forall_moveTo (fun _ phase => phase.pending.Nodup) unique
    fun other _ => clear.unique other
  apart := by
    intro left right same channel leftPending rightPending
    simp only [State.moveTo, Function.update_apply]
      at leftPending rightPending
    split_ifs at leftPending rightPending
    case pos leftMoved rightMoved => rw [leftMoved, rightMoved]
    case neg leftMoved rightStays =>
      exact (alone channel leftPending right rightStays
        (leftMoved ▸ same.symm) rightPending).elim
    case pos leftStays rightMoved =>
      exact (alone channel rightPending left leftStays
        (rightMoved ▸ same) leftPending).elim
    case neg leftStays rightStays =>
      exact clear.apart left right same channel leftPending rightPending
  rested := State.forall_moveTo
    (fun caller phase => ∀ channel ∈ phase.pending,
      ∀ message ∈ state.accepted,
        message.isFor (commands caller).userId channel = true →
          message.instant + testCooldownMs ≤ state.clock) rested
    fun other _ => clear.rested other
  spaced := clear.spaced

/-- The move leaves no more to send than there was. -/
theorem advance (clear : Clear commands state) {caller : Caller}
    {phase : Phase} (unique : phase.pending.Nodup)
    (fewer : phase.pending ⊆ (state.phase caller).pending) :
    Clear commands (state.moveTo caller phase) := by
  apply clear.moveTo unique
  · intro channel pending other different same also
    exact different (clear.apart other caller same channel also
      (fewer pending))
  · intro channel pending
    exact clear.rested caller channel (fewer pending)

/-- A command begins to publish where all earlier ones are through. -/
theorem reserve (clear : Clear commands state)
    (recorded : Recorded commands state) {caller : Caller}
    {trigger : StoredTrigger} (event : TriggerFiredEvent)
    (cooldowns : Cooldowns Caller)
    (settled : ∀ channel ∈ trigger.channels, ∀ other,
      (commands other).userId = (commands caller).userId →
        Known state.reservations other → Settled state other channel) :
    Clear commands
      ((state.reserved caller (commands caller).userId cooldowns).moveTo
        caller (Phase.publish trigger event trigger.channels)) := by
  have same : Clear commands
      (state.reserved caller (commands caller).userId cooldowns) :=
    ⟨clear.unique, clear.apart, clear.rested, clear.spaced⟩
  apply same.moveTo
  · rw [Phase.pending_publish]
    exact trigger.unique
  · rw [Phase.pending_publish]
    intro channel member other _ same pending
    have known := recorded.pending other (List.ne_nil_of_mem pending)
    exact (settled channel member other same known).1 pending
  · rw [Phase.pending_publish]
    intro channel member message earlier new
    rcases Accepted.isFor_iff.mp new with ⟨sameUser, sameKey⟩
    rcases recorded.accepted message earlier with ⟨owned, known, _⟩
    exact (settled channel member message.caller
      (owned.symm.trans sameUser) known).2 message earlier rfl sameKey

/-- A command publishes to the first channel it has left and goes on. -/
theorem send (clear : Clear commands state) {caller : Caller}
    {channel : Channel} {event : TriggerFiredEvent}
    {outcome : RemoteCall} {rest : List Channel} {phase : Phase}
    (owned : event.userId = (commands caller).userId)
    (pending : (state.phase caller).pending = channel :: rest)
    (unique : phase.pending.Nodup) (fewer : phase.pending ⊆ rest) :
    Clear commands
      ((state.published caller channel event outcome).moveTo caller
        phase) := by
  have first : channel ∈ (state.phase caller).pending := by
    rw [pending]
    exact List.mem_cons_self
  have alone : channel ∉ rest := by
    have unique := clear.unique caller
    rw [pending, List.nodup_cons] at unique
    exact unique.1
  have advanced : Clear commands (state.moveTo caller phase) := by
    apply clear.advance unique
    rw [pending]
    exact List.subset_cons_of_subset _ fewer
  -- as if the command went on first, and the broker had its message then
  show Clear commands
    ((state.moveTo caller phase).published caller channel event outcome)
  apply advanced.publish
  · rw [owned]
    apply State.forall_moveTo (fun other phase =>
      (commands other).userId = (commands caller).userId →
        channel ∉ phase.pending)
    · exact fun _ also => alone (fewer also)
    · intro other different same also
      exact different (clear.apart other caller same channel also first)
  · intro message earlier same
    rw [owned] at same
    exact clear.rested caller channel first message earlier same

/-- A command that starts clear keeps the state clear. -/
theorem step (clear : Clear commands state) (recorded : Recorded commands state)
    {label : Label Caller} (stepped : Stepped commands state label next)
    (starts : StartsClear commands ⟨state, label, next⟩) :
    Clear commands next := by
  cases stepped with
  | tick elapsed => exact clear.tick elapsed
  | found owned finding =>
      exact clear.advance List.nodup_nil (List.nil_subset _)
  | moved quiet idle =>
      apply clear.advance
      · rw [Phase.pending_of_quiet quiet]
        exact List.nodup_nil
      · rw [Phase.pending_of_quiet quiet]
        exact List.nil_subset _
  | @reserved caller eventId trigger reserving free =>
      apply clear.reserve recorded
      rintro channel member _ same ⟨reservation, earlier, rfl⟩
      have owner := (recorded.reserved reservation earlier).trans same
      exact starts caller rfl trigger (by rw [reserving]; rfl) free
        reservation earlier owner
        (recorded.lifted_of_free free earlier owner) channel member
  | @published caller outcome trigger event channel rest publishing =>
      have owned : event.userId = (commands caller).userId := by
        have owned := recorded.owned caller
        rwa [publishing] at owned
      have pending : (state.phase caller).pending = channel :: rest := by
        rw [publishing]
        rfl
      have unique := clear.unique caller
      rw [pending] at unique
      apply clear.send owned pending
      · split
        · rw [Phase.pending_publish]
          exact unique.of_cons
        · exact List.nodup_nil
      · split
        · rw [Phase.pending_publish]
          exact List.Subset.refl _
        · exact List.nil_subset _
  | @cleared caller clearing =>
      have same : Clear commands (state.cleared (commands caller).userId) :=
        ⟨clear.unique, clear.apart, clear.rested, clear.spaced⟩
      exact same.advance List.nodup_nil (List.nil_subset _)

end Clear

variable [DecidableEq Caller]

theorem Recorded.run (recorded : Recorded commands state)
    {labels : List (Label Caller)}
    (reached : (machine commands).run state labels = some next) :
    Recorded commands next :=
  Machine.run_preserves (Recorded commands)
    (fun taken recorded => recorded.step (stepped_of_step taken)) recorded
    reached

/-- The state of a run in which every command has started clear. -/
structure Sound (commands : Caller → SendTestNotificationCommand)
    (state : State Caller) : Prop where
  recorded : Recorded commands state
  clear : Clear commands state

theorem sound_step (taken : Taken (State Caller) (Label Caller))
    (stepped : step commands taken.source taken.label = some taken.target)
    (starts : StartsClear commands taken)
    (sound : Sound commands taken.source) :
    Sound commands taken.target := by
  have stepped := stepped_of_step stepped
  exact ⟨sound.recorded.step stepped,
    sound.clear.step sound.recorded stepped starts⟩

theorem sound_start (clock : Int) : Sound commands (State.start clock) :=
  ⟨recorded_start clock, Clear.start clock⟩

theorem Sound.run (sound : Sound commands state)
    {labels : List (Label Caller)}
    (starts : ∀ taken ∈ (machine commands).transitions state labels,
      StartsClear commands taken)
    (reached : (machine commands).run state labels = some next) :
    Sound commands next :=
  Machine.run_invariant sound_step sound starts reached

/-- Commands that are past their check go on clear. -/
theorem Sound.harmless (sound : Sound commands state) :
    Harmless commands state := by
  intro labels final past reached userId
  refine (sound.run (fun taken member => ?_) reached).clear.atMostOne userId
  intro caller reserves
  rw [past taken.label (Machine.label_mem_of_mem_transitions _ member)]
    at reserves
  cases reserves

/-! ## Commands that do not -/

/-- The command publishes up to a channel and nothing else happens. -/
structure Sends (commands : Caller → SendTestNotificationCommand)
    (state : State Caller) (caller : Caller) (channel : Channel)
    (event : TriggerFiredEvent) (final : State Caller) : Prop where
  reached : ∃ labels : List (Label Caller),
    (∀ label ∈ labels, label.reserves = none) ∧
      (machine commands).run state labels = some final
  clock : final.clock = state.clock
  others : ∀ other, other ≠ caller → final.phase other = state.phase other
  accepted : ∃ rest, state.accepted ⊆ rest ∧ final.accepted =
    ⟨caller, routingKeyFor channel, event, state.clock⟩ :: rest

theorem step_confirmed {caller : Caller} {trigger : StoredTrigger}
    {event : TriggerFiredEvent} {channel : Channel} {rest : List Channel}
    (publishing : state.phase caller =
      .publishing trigger event (channel :: rest)) :
    step commands state (.publish caller .confirmed) =
      some ((state.published caller channel event .confirmed).moveTo caller
        (Phase.publish trigger event rest)) := by
  simp only [step, publishing, RemoteCall.resolves, if_true]

theorem exists_sends {caller : Caller} {trigger : StoredTrigger}
    {event : TriggerFiredEvent} {channel : Channel}
    (before : List Channel) {after : List Channel}
    (publishing : state.phase caller =
      .publishing trigger event (before ++ channel :: after)) :
    ∃ final, Sends commands state caller channel event final := by
  induction before generalizing state with
  | nil =>
      refine ⟨(state.published caller channel event .confirmed).moveTo caller
        (Phase.publish trigger event after), ?_, rfl, ?_, ?_⟩
      · refine ⟨[.publish caller .confirmed],
          List.forall_mem_singleton.mpr rfl, ?_⟩
        show (step commands state (.publish caller .confirmed)).bind _ = _
        rw [step_confirmed publishing]
        rfl
      · exact fun other different => Function.update_of_ne different _ _
      · exact ⟨_, List.Subset.refl _, rfl⟩
  | cons first before induction =>
      have middle : Phase.publish trigger event (before ++ channel :: after) =
          .publishing trigger event (before ++ channel :: after) := by
        cases before <;> rfl
      have later : ((state.published caller first event .confirmed).moveTo
          caller (Phase.publish trigger event
            (before ++ channel :: after))).phase caller =
          .publishing trigger event (before ++ channel :: after) :=
        (Function.update_self _ _ _).trans middle
      rcases induction later with ⟨final, sends⟩
      refine ⟨final, ?_, sends.clock, ?_, ?_⟩
      · rcases sends.reached with ⟨labels, past, reached⟩
        refine ⟨.publish caller .confirmed :: labels,
          List.forall_mem_cons.mpr ⟨rfl, past⟩, ?_⟩
        show (step commands state (.publish caller .confirmed)).bind _ = _
        rw [step_confirmed publishing]
        exact reached
      · exact fun other different => (sends.others other different).trans
          (Function.update_of_ne different _ _)
      · rcases sends.accepted with ⟨rest, kept, last⟩
        exact ⟨rest, fun message member =>
          kept (List.mem_cons_of_mem _ member), last⟩

/-- A channel still to send to is somewhere in the publishing loop. -/
theorem exists_sends_of_pending {caller : Caller} {channel : Channel}
    (owned : (state.phase caller).Owned (commands caller).userId)
    (pending : channel ∈ (state.phase caller).pending) :
    ∃ event final, event.userId = (commands caller).userId ∧
      Sends commands state caller channel event final := by
  cases phase : state.phase caller with
  | publishing trigger event rest =>
      rw [phase] at owned pending
      rcases List.mem_iff_append.mp pending with ⟨before, after, split⟩
      have split : rest = before ++ channel :: after := split
      rw [split] at phase
      rcases exists_sends before phase with ⟨final, sends⟩
      exact ⟨event, final, owned, sends⟩
  | finding | reserving trigger | asking | clearing | answered response =>
      rw [phase] at pending
      cases pending

namespace Harmless

/-- What the commands past their check leave is harmless again. -/
theorem run (harmless : Harmless commands state)
    {labels : List (Label Caller)}
    (past : ∀ label ∈ labels, label.reserves = none)
    (reached : (machine commands).run state labels = some next) :
    Harmless commands next := by
  intro others final pastToo reachedToo
  apply harmless (labels ++ others) final
  · exact List.forall_mem_append.mpr ⟨past, pastToo⟩
  · rw [Machine.run_append, reached]
    exact reachedToo

/-- The channels still to send to are rested. -/
theorem rested (harmless : Harmless commands state)
    (recorded : Recorded commands state) {caller : Caller}
    {channel : Channel} (pending : channel ∈ (state.phase caller).pending)
    {message : Accepted Caller} (member : message ∈ state.accepted)
    (same : message.isFor (commands caller).userId channel = true) :
    message.instant + testCooldownMs ≤ state.clock := by
  rcases exists_sends_of_pending (recorded.owned caller) pending with
    ⟨event, final, owned, sends⟩
  rcases sends.reached with ⟨labels, past, reached⟩
  rcases sends.accepted with ⟨rest, kept, last⟩
  have promise := harmless labels final past reached (commands caller).userId
  rw [last] at promise
  exact rested_of_atMostOne promise (kept member)
    (recorded.accepted message member).2.2
    (Accepted.isFor_iff.mpr ⟨owned, rfl⟩) same

/-- No two commands have a channel of one user still to send to. -/
theorem alone (harmless : Harmless commands state)
    (recorded : Recorded commands state) {caller other : Caller}
    (same : (commands other).userId = (commands caller).userId)
    {channel : Channel} (pending : channel ∈ (state.phase caller).pending)
    (also : channel ∈ (state.phase other).pending) : other = caller := by
  by_contra different
  rcases exists_sends_of_pending (recorded.owned caller) pending with
    ⟨event, middle, owned, sends⟩
  rcases sends.reached with ⟨labels, past, reached⟩
  rcases sends.accepted with ⟨rest, _, last⟩
  rw [← sends.others other different] at also
  -- the message just sent is not a window old
  have rested := (harmless.run past reached).rested (recorded.run reached)
    also (by rw [last]; exact List.mem_cons_self)
    (Accepted.isFor_iff.mpr ⟨owned.trans same.symm, rfl⟩)
  rw [sends.clock] at rested
  exact absurd rested (not_le.mpr
    (Int.lt_add_of_pos_right _ testCooldownMs_pos))

end Harmless

/-- A passed check, with the state it leads to. -/
theorem target_of_reserve {caller : Caller} {eventId : String}
    {trigger : StoredTrigger}
    (reserving : trigger ∈ (state.phase caller).reserving?)
    (free : state.cooldowns.get state.clock (keyOf commands caller) = none)
    (taken : step commands state (.reserve caller eventId) = some next) :
    next.clock = state.clock ∧ next.accepted = state.accepted ∧
      next.phase = Function.update state.phase caller
        (Phase.publish trigger (testEvent eventId trigger)
          trigger.channels) := by
  cases phase : state.phase caller with
  | reserving found =>
      rw [phase] at reserving
      cases reserving
      simp only [step, phase, reserve_eq_some_iff.mpr ⟨free, rfl⟩] at taken
      cases taken
      exact ⟨rfl, rfl, rfl⟩
  | finding | asking | clearing | answered _ | publishing _ _ _ =>
      rw [phase] at reserving
      cases reserving

theorem Phase.pending_of_reserving {phase : Phase} {trigger : StoredTrigger}
    (reserving : trigger ∈ phase.reserving?) : phase.pending = [] := by
  cases phase with
  | publishing _ _ _ => cases reserving
  | finding | asking | clearing | answered _ | reserving _ => rfl

/-- A command that does not start clear can break the promise at once. -/
theorem startsClear_of_harmless {taken : Taken (State Caller) (Label Caller)}
    (recorded : Recorded commands taken.source)
    (stepped : step commands taken.source taken.label = some taken.target)
    (harmless : Harmless commands taken.target) :
    StartsClear commands taken := by
  rcases taken with ⟨state, label, next⟩
  intro caller reserves trigger reserving free reservation earlier owner _
    channel member
  cases label with
  | tick _ | findOwned _ _ | ttl _ | publish _ _ | clearCooldown _ =>
      cases reserves
  | reserve other eventId =>
      cases reserves
      have after := recorded.step (stepped_of_step stepped)
      have user := (recorded.reserved reservation earlier).symm.trans owner
      rcases target_of_reserve reserving free stepped with
        ⟨clock, accepted, phases⟩
      have pending : channel ∈ (next.phase caller).pending := by
        rw [phases, Function.update_self, Phase.pending_publish]
        exact member
      constructor
      · intro also
        have different : reservation.caller ≠ caller := by
          intro same
          rw [same, Phase.pending_of_reserving reserving] at also
          cases also
        refine different (harmless.alone after user pending ?_)
        rw [phases, Function.update_of_ne different]
        exact also
      · intro message sent same key
        have owned := (recorded.accepted message sent).1
        rw [same] at owned
        rw [← accepted] at sent
        have rested := harmless.rested after pending sent
          (Accepted.isFor_iff.mpr ⟨owned.trans user, key⟩)
        rw [clock] at rested
        exact rested

/-- The promise about cooldowns that are handed back holds in every run. -/
theorem Recorded.leavesNoCooldown (recorded : Recorded commands state)
    (caller : Caller) : LeavesNoCooldown commands state caller := by
  constructor
  · intro clearing
    refine ⟨(state.cleared (commands caller).userId).moveTo caller
      (.answered unavailable), ?_, ?_, ?_⟩
    · simp only [TestSend.step, clearing]
    · exact Function.update_self _ _ _
    · exact Expiring.delete_self _ _
  · rintro answered entry stored rfl
    exact (recorded.keyed _ entry stored).2 answered

/--
The commands past their check never send two messages of a channel within the
cooldown, in whatever order they go on, exactly if every command of the run
starts clear; the promise then holds to its end.  A command whose publish
failed leaves no cooldown in any run.
-/
theorem test_cooldown_holds_iff
    (commands : Caller → SendTestNotificationCommand) (clock : Int)
    (labels : List (Label Caller)) :
    ((∀ taken ∈ (machine commands).transitions (.start clock) labels,
        Harmless commands taken.target) ↔
      ∀ taken ∈ (machine commands).transitions (.start clock) labels,
        StartsClear commands taken) ∧
    ((∀ taken ∈ (machine commands).transitions (.start clock) labels,
        StartsClear commands taken) →
      ∀ final, (machine commands).run (.start clock) labels = some final →
        ∀ userId, AtMostOnePerWindow userId final.accepted) ∧
    ∀ final, (machine commands).run (.start clock) labels = some final →
      ∀ caller, LeavesNoCooldown commands final caller := by
  have recorded : Recorded commands (State.start clock) :=
    recorded_start clock
  refine ⟨⟨?_, ?_⟩, ?_, ?_⟩
  · intro harmless taken member
    rcases (Machine.mem_transitions_iff _).mp member with
      ⟨before, _, _, reached, stepped⟩
    exact startsClear_of_harmless (recorded.run reached) stepped
      (harmless taken member)
  · intro starts taken member
    exact (Machine.transitions_invariant sound_step (sound_start clock)
      starts member).2.harmless
  · intro starts final reached userId
    exact ((sound_start clock).run starts reached).clear.atMostOne userId
  · intro final reached caller
    exact (recorded.run reached).leavesNoCooldown caller

end Runs

/-! ## One trigger, tested twice -/

def heatTrigger : StoredTrigger where
  id := "t1"
  userId := "u1"
  name := "Heat"
  city := "Berlin"
  conditionLogic := .and
  conditions := [⟨⟨.temperature, .gt, 30⟩, some 27⟩]
  channels := [.telegram, .email]
  unique := by decide

/-- The user waits for the cooldown before asking again. -/
def waited : List (Label Nat) :=
  [.findOwned 0 [heatTrigger], .reserve 0 "e1", .publish 0 .confirmed,
    .publish 0 .confirmed, .tick 600000, .findOwned 1 [heatTrigger],
    .reserve 1 "e2", .publish 1 .confirmed, .publish 1 .confirmed]

theorem test_cooldown_holds_after_wait :
    ∃ final, (machine fun _ => ⟨"u1", "t1"⟩).run (.start 0) waited =
        some final ∧ final.accepted.length = 4 ∧
      ∀ userId, AtMostOnePerWindow userId final.accepted := by
  have sent : ((machine fun _ => ⟨"u1", "t1"⟩).run (.start 0) waited).map
      (fun final => final.accepted.length) = some 4 := by
    decide
  rcases Option.map_eq_some_iff.mp sent with ⟨final, reached, four⟩
  exact ⟨final, reached, four,
    (test_cooldown_holds_iff _ 0 waited).2.1 (by decide) final reached⟩

/-- The second channel is refused, and the user asks again. -/
def resent : List (Label Nat) :=
  [.findOwned 0 [heatTrigger], .reserve 0 "e1", .publish 0 .confirmed,
    .publish 0 .refused, .clearCooldown 0, .findOwned 1 [heatTrigger],
    .reserve 1 "e2", .publish 1 .confirmed]

theorem refund_allows_second_test_event :
    ∃ final, (machine fun _ => ⟨"u1", "t1"⟩).run (.start 0) resent =
        some final ∧
      ¬ AtMostOnePerWindow "u1" final.accepted := by
  have twice : ((machine fun _ => ⟨"u1", "t1"⟩).run (.start 0) resent).map
      (fun final => final.accepted.countP fun message =>
        message.isFor "u1" .telegram &&
          acceptances.inInterval 0 message) = some 2 := by
    decide
  rcases Option.map_eq_some_iff.mp twice with ⟨final, reached, two⟩
  refine ⟨final, reached, fun promise => ?_⟩
  have bound := promise .telegram 0
  rw [two] at bound
  exact absurd bound (by decide)

end WeatherNotify.Triggers.TestSend

import WeatherNotify.Common.Throttler
import WeatherNotify.Transition.Windows

/-!
# What the throttler bounds

Every call is counted in one window, and windows do not overlap.  A window
admits at most `limit` calls, so an interval of its length admits twice as many,
and a call is refused only after a window took more than `limit` calls.  The
block that the first refusal writes answers every call until it is over.
-/

namespace WeatherNotify.Common.Throttler

open WeatherNotify.Transition

def Call.isAllowed (call : Call) : Bool :=
  !call.record.isBlocked

/-- The hit windows of the calls for one key. -/
def Throttle.windows (throttle : Throttle) : Windows Call where
  length := throttle.ttl
  instant := Call.instant
  window := Call.window

/-- How many calls a window has counted. -/
def counted (calls : List Call) (start : Int) : Nat :=
  calls.countP fun call => decide (call.window = start)

/-- How many calls of a window were let through. -/
def admitted (calls : List Call) (start : Int) : Nat :=
  calls.countP fun call => call.isAllowed && decide (call.window = start)

variable {throttle : Throttle} {state next final : State} {now : Int}

/-! ## Serving one call -/

/-- The call that a step serves, with the counter it leaves. -/
structure Served (throttle : Throttle) (state : State) (now : Int)
    (next : State) (hit : Entry Nat) (call : Call) : Prop where
  ordered : ∀ other ∈ state.calls, other.instant ≤ now
  instant : call.instant = now
  window : call.window = hit.deadline - throttle.ttl
  calls : next.calls = state.calls ++ [call]
  counts : hit = countHit (state.store throttle.hitKey) now throttle.ttl
  stored : next.store throttle.hitKey = some hit
  outcome : Outcome throttle (state.store throttle.blockKey) now hit.value
    call.record (next.store throttle.blockKey)

theorem served_of_step (positive : 0 < throttle.ttl)
    (stepped : step throttle state now = some next) :
    ∃ hit call, Served throttle state now next hit call := by
  unfold step at stepped
  split at stepped
  case isTrue ordered =>
    cases stepped
    rcases increment_spec positive state.store now with ⟨stored, outcome⟩
    exact ⟨_, _, ordered, rfl, rfl, rfl, rfl, stored, outcome⟩
  case isFalse => cases stepped

/-- What holds of all calls once one more is served. -/
theorem Served.forall_calls {hit : Entry Nat} {call : Call}
    (served : Served throttle state now next hit call)
    {Holds : Call → Prop} :
    (∀ other ∈ next.calls, Holds other) ↔
      (∀ other ∈ state.calls, Holds other) ∧ Holds call := by
  rw [served.calls, List.forall_mem_append, List.forall_mem_singleton]

theorem Outcome.totalHits {found after : Option (Entry Nat)} {hits : Nat}
    {record : ThrottlerStorageRecord}
    (outcome : Outcome throttle found now hits record after) :
    record.totalHits = hits := by
  cases outcome <;> rfl

theorem Outcome.within {found after : Option (Entry Nat)} {hits : Nat}
    {record : ThrottlerStorageRecord}
    (outcome : Outcome throttle found now hits record after)
    (allowed : record.isBlocked = false) : hits ≤ throttle.limit := by
  cases outcome with
  | barred | blocks => cases allowed
  | allowed lapsed within => exact within

/-- A record never promises an end of the block before the block is over. -/
theorem Outcome.pttl_le {found : Option (Entry Nat)} {hits : Nat}
    {record : ThrottlerStorageRecord} {store : Store}
    (outcome : Outcome throttle found now hits record
      (store throttle.blockKey)) :
    pttl store now throttle.blockKey ≤ 1000 * record.timeToBlockExpire := by
  generalize after : store throttle.blockKey = left at outcome
  cases outcome with
  | barred stored live =>
      rw [pttl_of_live (after.trans stored) live]
      exact le_toSeconds _
  | blocks lapsed exceeded =>
      have block := le_toSeconds throttle.block
      rcases live_or_over (store throttle.blockKey) now with
        ⟨entry, found, live⟩ | gone
      · rw [pttl_of_live found live]
        have same := after.symm.trans found
        cases same
        show now + throttle.block - now ≤ 1000 * toSeconds throttle.block
        omega
      · rw [pttl_of_over gone]
        show -2 ≤ 1000 * toSeconds throttle.block
        omega
  | allowed lapsed within =>
      rw [pttl_of_over (after ▸ lapsed)]
      show (-2 : Int) ≤ 1000 * 0
      decide

/-! ## The window of a call -/

structure Counted (throttle : Throttle) (state : State) : Prop where
  covers : ∀ call ∈ state.calls, throttle.windows.Covers call
  apart : ∀ left ∈ state.calls, ∀ right ∈ state.calls,
    throttle.windows.Apart left.window right.window
  bounded : ∀ start, admitted state.calls start ≤ throttle.limit
  hits : ∀ call ∈ state.calls,
    call.record.totalHits ≤ counted state.calls call.window
  opened : state.store throttle.hitKey = none → state.calls = []
  positive : ∀ entry, state.store throttle.hitKey = some entry →
    0 < entry.value
  current : ∀ entry, state.store throttle.hitKey = some entry →
    entry.value ≤ counted state.calls (entry.deadline - throttle.ttl) ∧
      admitted state.calls (entry.deadline - throttle.ttl) ≤ entry.value
  last : ∀ entry, state.store throttle.hitKey = some entry →
    ∀ call ∈ state.calls, call.window = entry.deadline - throttle.ttl ∨
      call.window + throttle.ttl ≤ entry.deadline - throttle.ttl

theorem counted_empty (throttle : Throttle) :
    Counted throttle State.empty where
  covers := by simp [State.empty]
  apart := by simp [State.empty]
  bounded := by simp [State.empty, admitted]
  hits := by simp [State.empty]
  opened _ := rfl
  positive entry stored := by cases stored
  current entry stored := by cases stored
  last entry stored := by cases stored

/-- What is known of the window that the next hit goes to. -/
structure Joins (throttle : Throttle) (calls : List Call) (now : Int)
    (hit : Entry Nat) : Prop where
  begun : hit.deadline - throttle.ttl ≤ now
  live : now < hit.deadline
  positive : 0 < hit.value
  counted : hit.value ≤ counted calls (hit.deadline - throttle.ttl) + 1
  admitted : admitted calls (hit.deadline - throttle.ttl) + 1 ≤ hit.value
  last : ∀ call ∈ calls, call.window = hit.deadline - throttle.ttl ∨
    call.window + throttle.ttl ≤ hit.deadline - throttle.ttl

theorem Counted.joins (held : Counted throttle state)
    (ttl : 0 < throttle.ttl)
    (ordered : ∀ other ∈ state.calls, other.instant ≤ now) :
    Joins throttle state.calls now
      (countHit (state.store throttle.hitKey) now throttle.ttl) := by
  rcases countHit_cases (state.store throttle.hitKey) now throttle.ttl with
    ⟨entry, stored, live, joined⟩ | ⟨lapsed, opens⟩
  · have positive := held.positive entry stored
    rcases held.current entry stored with ⟨counted, admitted⟩
    rw [joined positive]
    -- some call was counted in the open window, so the window has begun
    rcases List.countP_pos_iff.mp (lt_of_lt_of_le positive counted) with
      ⟨earlier, member, same⟩
    have begun := (Windows.mem_inInterval.mp (held.covers earlier member)).1
    have before : earlier.window ≤ earlier.instant := begun
    have sameWindow := of_decide_eq_true same
    have early := ordered earlier member
    exact {
      begun := by
        show entry.deadline - throttle.ttl ≤ now
        omega
      live := live
      positive := Nat.succ_pos entry.value
      counted := Nat.succ_le_succ counted
      admitted := Nat.succ_le_succ admitted
      last := held.last entry stored }
  · rw [opens]
    have previous : ∀ call ∈ state.calls,
        call.window + throttle.ttl ≤ now := by
      intro call member
      cases stored : state.store throttle.hitKey with
      | none =>
          rw [held.opened stored] at member
          cases member
      | some entry =>
          have gone := lapsed entry stored
          rcases held.last entry stored call member with same | before
          · omega
          · omega
    have start : (now + throttle.ttl : Int) - throttle.ttl = now :=
      Int.add_sub_cancel now throttle.ttl
    have none : admitted state.calls now = 0 := by
      apply List.countP_eq_zero.mpr
      intro call member holds
      rw [Bool.and_eq_true, decide_eq_true_eq] at holds
      have before := previous call member
      omega
    exact {
      begun := le_of_eq start
      live := by
        show now < now + throttle.ttl
        omega
      positive := Nat.one_pos
      counted := Nat.succ_le_succ (Nat.zero_le _)
      admitted := by
        show admitted state.calls (now + throttle.ttl - throttle.ttl) + 1 ≤ 1
        rw [start, none]
      last := by
        intro call member
        right
        show call.window + throttle.ttl ≤ now + throttle.ttl - throttle.ttl
        rw [start]
        exact previous call member }

theorem counted_append (calls : List Call) (call : Call) (start : Int) :
    counted (calls ++ [call]) start =
      counted calls start + if call.window = start then 1 else 0 := by
  simp only [counted, List.countP_append, List.countP_singleton,
    decide_eq_true_eq]

theorem admitted_append (calls : List Call) (call : Call) (start : Int) :
    admitted (calls ++ [call]) start =
      admitted calls start +
        if call.isAllowed = true ∧ call.window = start then 1 else 0 := by
  simp only [admitted, List.countP_append, List.countP_singleton,
    Bool.and_eq_true, decide_eq_true_eq]

theorem counted_step (ttl : 0 < throttle.ttl)
    (held : Counted throttle state)
    (stepped : step throttle state now = some next) :
    Counted throttle next := by
  rcases served_of_step ttl stepped with ⟨hit, call, served⟩
  have joins := held.joins ttl served.ordered
  rw [← served.counts] at joins
  have window := served.window
  have instant := served.instant
  have covered : throttle.windows.Covers call := by
    apply Windows.mem_inInterval.mpr
    show call.window ≤ call.instant ∧
      call.instant < call.window + throttle.ttl
    have begun := joins.begun
    have live := joins.live
    omega
  have apart : ∀ other ∈ state.calls,
      throttle.windows.Apart other.window call.window := by
    intro other member
    rcases joins.last other member with same | before
    · exact Or.inl (same.trans window.symm)
    · exact Or.inr (Or.inl (window ▸ before))
  refine {
    covers := ?covers
    apart := ?apart
    bounded := ?bounded
    hits := ?hits
    opened := ?opened
    positive := ?positive
    current := ?current
    last := ?last }
  case covers =>
    exact served.forall_calls.mpr ⟨held.covers, covered⟩
  case apart =>
    refine served.forall_calls.mpr ⟨?_, ?_⟩
    · intro left earlier
      exact served.forall_calls.mpr
        ⟨held.apart left earlier, apart left earlier⟩
    · exact served.forall_calls.mpr
        ⟨fun right earlier => (apart right earlier).symm, Or.inl rfl⟩
  case bounded =>
    intro start
    have before := held.bounded start
    rw [served.calls, admitted_append]
    split
    case isTrue goes =>
      have allowed : call.record.isBlocked = false := by
        simpa [Call.isAllowed] using goes.1
      have within := served.outcome.within allowed
      have room := joins.admitted
      rw [← window, goes.2] at room
      omega
    case isFalse => exact before
  case hits =>
    refine served.forall_calls.mpr ⟨?_, ?_⟩
    · intro other earlier
      rw [served.calls, counted_append]
      exact le_trans (held.hits other earlier) (Nat.le_add_right _ _)
    · rw [served.calls, counted_append, served.outcome.totalHits,
        if_pos rfl, window]
      exact joins.counted
  case opened =>
    intro absent
    rw [served.stored] at absent
    cases absent
  case positive =>
    intro entry stored
    rw [served.stored] at stored
    cases stored
    exact joins.positive
  case current =>
    intro entry stored
    rw [served.stored] at stored
    cases stored
    rw [served.calls, counted_append, admitted_append, if_pos window]
    constructor
    · exact joins.counted
    · have room := joins.admitted
      split <;> omega
  case last =>
    intro entry stored
    rw [served.stored] at stored
    cases stored
    exact served.forall_calls.mpr ⟨joins.last, Or.inl window⟩

/-! ## The first block -/

/-- A refusal, or a block that is stored, follows a window over the limit. -/
def Exceeded (throttle : Throttle) (state : State) : Prop :=
  (∃ call ∈ state.calls, call.record.isBlocked = true) ∨
      state.store throttle.blockKey ≠ none →
    ∃ call ∈ state.calls, throttle.limit < call.record.totalHits

theorem exceeded_step (ttl : 0 < throttle.ttl)
    (held : Exceeded throttle state)
    (stepped : step throttle state now = some next) :
    Exceeded throttle next := by
  rcases served_of_step ttl stepped with ⟨hit, call, served⟩
  have earlier : (∃ other ∈ state.calls,
        throttle.limit < other.record.totalHits) →
      ∃ other ∈ next.calls, throttle.limit < other.record.totalHits := by
    rintro ⟨other, member, beyond⟩
    rw [served.calls]
    exact ⟨other, List.mem_append_left _ member, beyond⟩
  have before : (∃ other ∈ next.calls, other.record.isBlocked = true) →
      call.record.isBlocked = false →
        ∃ other ∈ state.calls, other.record.isBlocked = true := by
    rw [served.calls]
    rintro ⟨other, member, blocked⟩ allowed
    rcases List.mem_append.mp member with old | new
    · exact ⟨other, old, blocked⟩
    · cases List.mem_singleton.mp new
      rw [allowed] at blocked
      cases blocked
  intro refused
  have hits := served.outcome.totalHits
  have outcome := served.outcome
  generalize record : call.record = reported at outcome
  generalize left : next.store throttle.blockKey = after at outcome
  cases outcome with
  | barred stored live =>
      apply earlier
      apply held
      right
      rw [stored]
      exact Option.some_ne_none _
  | blocks lapsed exceeded =>
      refine ⟨call, ?_, ?_⟩
      · rw [served.calls]
        exact List.mem_append_right _ (List.mem_singleton_self call)
      · rw [hits]
        exact exceeded
  | allowed lapsed within =>
      apply earlier
      apply held
      rcases refused with someRefused | stored
      · exact Or.inl (before someRefused (by rw [record]))
      · rw [left] at stored
        exact Or.inr stored

/-- What the first refused call promises is kept until its block is over. -/
structure Kept (throttle : Throttle) (state : State) (first : Call)
    (after : List Call) : Prop where
  reported : throttle.block ≤ 1000 * first.record.timeToBlockExpire
  refused : ∀ later ∈ after,
    later.instant < first.instant + throttle.block →
      later.record.isBlocked = true ∧
        first.instant + throttle.block - later.instant ≤
          1000 * later.record.timeToBlockExpire
  stored : state.store throttle.blockKey =
        some ⟨1, first.instant + throttle.block⟩ ∨
      ∃ call ∈ state.calls, first.instant + throttle.block ≤ call.instant

/-- No call was refused yet, or the block of the first one is kept. -/
def Barred (throttle : Throttle) (state : State) : Prop :=
  (state.calls.dropWhile Call.isAllowed = [] ∧
      state.store throttle.blockKey = none) ∨
    ∃ first after, state.calls.dropWhile Call.isAllowed = first :: after ∧
      Kept throttle state first after

/-- The first refusal of all, or one more call let through. -/
theorem Served.barred_of_none {hit : Entry Nat} {call : Call}
    (served : Served throttle state now next hit call)
    (passed : state.calls.dropWhile Call.isAllowed = [])
    (free : state.store throttle.blockKey = none) :
    Barred throttle next := by
  have outcome := served.outcome
  generalize record : call.record = reported at outcome
  generalize left : next.store throttle.blockKey = stored at outcome
  have dropped : next.calls.dropWhile Call.isAllowed =
      [call].dropWhile Call.isAllowed := by
    rw [served.calls, List.dropWhile_append, passed]
    rfl
  cases outcome with
  | barred found live =>
      rw [free] at found
      cases found
  | blocks lapsed exceeded =>
      right
      refine ⟨call, [], ?_, ?_⟩
      · rw [dropped]
        apply List.dropWhile_cons_of_neg
        simp [Call.isAllowed, record]
      · exact {
          reported := by
            rw [record]
            exact le_toSeconds _
          refused := by simp
          stored := Or.inl (by rw [left, served.instant]) }
  | allowed lapsed within =>
      left
      constructor
      · rw [dropped]
        apply List.dropWhile_cons_of_pos
        simp [Call.isAllowed, record]
      · rw [left, free]

/-- One more call keeps a promise that it keeps itself. -/
theorem Kept.append {first call : Call} {after : List Call}
    (kept : Kept throttle state first after)
    (refused : call.instant < first.instant + throttle.block →
      call.record.isBlocked = true ∧
        first.instant + throttle.block - call.instant ≤
          1000 * call.record.timeToBlockExpire)
    (stored : next.store throttle.blockKey =
          some ⟨1, first.instant + throttle.block⟩ ∨
        ∃ call ∈ next.calls, first.instant + throttle.block ≤ call.instant) :
    Kept throttle next first (after ++ [call]) where
  reported := kept.reported
  refused := by
    intro later member
    rcases List.mem_append.mp member with old | new
    · exact kept.refused later old
    · cases List.mem_singleton.mp new
      exact refused
  stored := stored

/-- Until the block is over, the stored one answers every call. -/
theorem Served.kept {hit : Entry Nat} {call first : Call}
    {after : List Call}
    (served : Served throttle state now next hit call)
    (kept : Kept throttle state first after) :
    Kept throttle next first (after ++ [call]) := by
  have instant := served.instant
  rcases lt_or_ge now (first.instant + throttle.block) with early | late
  · -- the stored block is live, for no call came after its end
    have live : state.store throttle.blockKey =
        some ⟨1, first.instant + throttle.block⟩ := by
      rcases kept.stored with live | ⟨other, member, past⟩
      · exact live
      · have order := served.ordered other member
        omega
    have outcome := served.outcome
    generalize record : call.record = reported at outcome
    generalize left : next.store throttle.blockKey = stored at outcome
    cases outcome with
    | barred found still =>
        rw [live] at found
        cases found
        apply kept.append
        · intro _
          rw [record, instant]
          exact ⟨rfl, le_toSeconds _⟩
        · exact Or.inl (left.trans live)
    | blocks lapsed | allowed lapsed =>
        have gone : first.instant + throttle.block ≤ now := lapsed _ live
        omega
  · apply kept.append
    · intro before
      omega
    · right
      refine ⟨call, ?_, ?_⟩
      · rw [served.calls]
        exact List.mem_append_right _ (List.mem_singleton_self call)
      · rw [instant]
        exact late

theorem barred_step (ttl : 0 < throttle.ttl) (held : Barred throttle state)
    (stepped : step throttle state now = some next) :
    Barred throttle next := by
  rcases served_of_step ttl stepped with ⟨hit, call, served⟩
  rcases held with ⟨none, free⟩ | ⟨first, after, found, kept⟩
  · exact served.barred_of_none none free
  · refine Or.inr ⟨first, after ++ [call], ?_, served.kept kept⟩
    rw [served.calls, List.dropWhile_append, found]
    rfl

/-! ## Whole runs -/

/-- Calls in the order of their instants are all served. -/
theorem run_of_sorted (ttl : 0 < throttle.ttl) {times : List Int}
    (sorted : times.Pairwise (· ≤ ·)) (state : State)
    (later : ∀ call ∈ state.calls, ∀ time ∈ times, call.instant ≤ time) :
    ∃ final, (machine throttle).run state times = some final ∧
      final.calls.map Call.instant =
        state.calls.map Call.instant ++ times := by
  induction times generalizing state with
  | nil => exact ⟨state, rfl, (List.append_nil _).symm⟩
  | cons time rest induction =>
      rcases List.pairwise_cons.mp sorted with ⟨first, others⟩
      have ordered : ∀ call ∈ state.calls, call.instant ≤ time :=
        fun call member => later call member time List.mem_cons_self
      obtain ⟨next, stepped⟩ : ∃ next, step throttle state time = some next :=
        ⟨_, if_pos ordered⟩
      rcases served_of_step ttl stepped with ⟨hit, call, served⟩
      have still : ∀ other ∈ next.calls, ∀ late ∈ rest,
          other.instant ≤ late := by
        rw [served.calls]
        intro other member late lateMember
        rcases List.mem_append.mp member with old | new
        · exact later other old late (List.mem_cons_of_mem _ lateMember)
        · cases List.mem_singleton.mp new
          rw [served.instant]
          exact first late lateMember
      rcases induction others next still with ⟨final, reached, instants⟩
      refine ⟨final, ?_, ?_⟩
      · rw [Machine.run_cons]
        show (step throttle state time).bind _ = some final
        rw [stepped]
        exact reached
      · rw [instants, served.calls, List.map_append, List.append_assoc]
        show _ ++ ([call.instant] ++ rest) = _
        rw [served.instant]
        rfl

/-- A window counts no more calls than the interval it covers. -/
theorem Counted.counted_le (held : Counted throttle state) (start : Int) :
    counted state.calls start ≤
      state.calls.countP (throttle.windows.inInterval start) := by
  apply List.countP_mono_left
  intro call member same
  rw [← of_decide_eq_true same]
  exact held.covers call member

/--
For every non-decreasing sequence of calls for one key: a caller that never
makes more than `limit` calls within a window's length is never refused; no
interval of that length lets more than twice the limit through; the first
refusal stands for the whole block, and no record understates what is left of
a block.
-/
theorem throttler_bounds (throttle : Throttle) (ttl : 0 < throttle.ttl)
    (times : List Int) (sorted : times.Pairwise (· ≤ ·)) :
    ∃ final, (machine throttle).run State.empty times = some final ∧
      final.calls.map Call.instant = times ∧
      ((∀ start : Int, times.countP (fun time => decide (start ≤ time) &&
            decide (time < start + throttle.ttl)) ≤ throttle.limit) →
        ∀ call ∈ final.calls, call.record.isBlocked = false) ∧
      (∀ start : Int, final.calls.countP (fun call =>
          !call.record.isBlocked && (decide (start ≤ call.instant) &&
            decide (call.instant < start + throttle.ttl))) ≤
        2 * throttle.limit) ∧
      (∀ first after, final.calls.dropWhile (fun call =>
            !call.record.isBlocked) = first :: after →
          (throttle.block : Int) ≤ 1000 * first.record.timeToBlockExpire ∧
            ∀ later ∈ after,
              later.instant < first.instant + throttle.block →
                later.record.isBlocked = true ∧
                  first.instant + throttle.block - later.instant ≤
                    1000 * later.record.timeToBlockExpire) ∧
      ∀ taken ∈ (machine throttle).transitions State.empty times,
        pttl taken.target.store taken.label throttle.blockKey ≤
          1000 * (throttle.increment taken.source.store
            taken.label).1.timeToBlockExpire := by
  rcases run_of_sorted ttl sorted State.empty (by simp [State.empty]) with
    ⟨final, reached, instants⟩
  have counts : Counted throttle final :=
    Machine.run_preserves (Counted throttle)
      (fun stepped held => counted_step ttl held stepped)
      (counted_empty throttle) reached
  have exceeded : Exceeded throttle final :=
    Machine.run_preserves (Exceeded throttle)
      (fun stepped held => exceeded_step ttl held stepped)
      (by simp [Exceeded, State.empty, Expiring.empty]) reached
  have barred : Barred throttle final :=
    Machine.run_preserves (Barred throttle)
      (fun stepped held => barred_step ttl held stepped)
      (Or.inl ⟨rfl, rfl⟩) reached
  refine ⟨final, reached, instants, ?_, ?_, ?_, ?_⟩
  · intro modest call member
    by_contra refused
    have blocked : call.record.isBlocked = true := by
      simpa using refused
    rcases exceeded (Or.inl ⟨call, member, blocked⟩) with
      ⟨excess, excessMember, tooMany⟩
    have interval : final.calls.countP
          (throttle.windows.inInterval excess.window) ≤ throttle.limit := by
      have bound := modest excess.window
      rw [← show final.calls.map Call.instant = times from instants,
        List.countP_map] at bound
      exact bound
    have hits := counts.hits excess excessMember
    have window := counts.counted_le excess.window
    omega
  · intro start
    exact Windows.countP_interval_le counts.covers counts.apart
      counts.bounded start
  · intro first after found
    rcases barred with ⟨none, _⟩ | ⟨other, rest, dropped, kept⟩
    · have absent := none.symm.trans found
      cases absent
    · have same := dropped.symm.trans found
      cases same
      exact ⟨kept.reported, kept.refused⟩
  · intro taken member
    have stepped := (machine throttle).step_of_mem_transitions member
    unfold machine step at stepped
    dsimp only at stepped
    split at stepped
    case isTrue =>
      have outcome := (increment_spec ttl taken.source.store taken.label).2
      rw [← Option.some.inj stepped]
      exact Outcome.pttl_le outcome
    case isFalse => cases stepped

/-- One call a second, with a block of a minute. -/
def oncePerSecond : Throttle where
  key := "ip:1.2.3.4"
  ttl := 1000
  limit := 1
  blockDuration := 60000
  throttlerName := "default"

/-- Two calls in one window: the second one is refused for a minute. -/
theorem throttler_bounds_second_refused :
    ∃ final, (machine oncePerSecond).run State.empty [0, 5, 60004] =
        some final ∧
      final.calls.map Call.instant = [0, 5, 60004] ∧
        ∀ first after, final.calls.dropWhile (fun call =>
            !call.record.isBlocked) = first :: after →
          60000 ≤ 1000 * first.record.timeToBlockExpire := by
  rcases throttler_bounds oncePerSecond (by decide) [0, 5, 60004]
    (by decide) with ⟨final, reached, instants, _, _, refused, _⟩
  exact ⟨final, reached, instants,
    fun first after found => (refused first after found).1⟩

end WeatherNotify.Common.Throttler

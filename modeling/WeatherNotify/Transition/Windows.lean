import Mathlib.Algebra.Order.Ring.Int
import Mathlib.Data.List.Basic
import Mathlib.Data.List.Count

/-!
# Counting in windows of a fixed length

Every event happens at an instant inside one window, windows have one length
and start at irregular instants, and two of them never overlap.  An interval of
that length meets at most two windows, so a bound for each window doubles on
intervals.
-/

namespace WeatherNotify.Transition

universe u

variable {Event : Type u}

/-- Where an event happens and when its window starts. -/
structure Windows (Event : Type u) where
  length : Int
  instant : Event → Int
  window : Event → Int

namespace Windows

variable (windows : Windows Event)

/-- The events of the half-open interval that starts at `start`. -/
def inInterval (start : Int) (event : Event) : Bool :=
  start ≤ windows.instant event &&
    windows.instant event < start + windows.length

/-- The event lies in its own window. -/
def Covers (event : Event) : Prop :=
  windows.inInterval (windows.window event) event = true

/-- One window, or two that do not overlap. -/
def Apart (left right : Int) : Prop :=
  left = right ∨ left + windows.length ≤ right ∨ right + windows.length ≤ left

variable {windows}

theorem mem_inInterval {start : Int} {event : Event} :
    windows.inInterval start event = true ↔
      start ≤ windows.instant event ∧
        windows.instant event < start + windows.length := by
  rw [inInterval, Bool.and_eq_true, decide_eq_true_eq, decide_eq_true_eq]

theorem Apart.symm {left right : Int} (apart : windows.Apart left right) :
    windows.Apart right left := by
  rcases apart with equal | before | after
  · exact Or.inl equal.symm
  · exact Or.inr (Or.inr before)
  · exact Or.inr (Or.inl after)

/-- Windows that start less than a length apart are the same. -/
theorem Apart.eq_of_near {left right : Int}
    (apart : windows.Apart left right) (first : left < right + windows.length)
    (second : right < left + windows.length) : left = right := by
  rcases apart with equal | before | after
  · exact equal
  · omega
  · omega

/-- Events that all lie in one window are as few as that window admits. -/
theorem countP_le_of_one_window (windows : Windows Event) {events : List Event}
    {counted : Event → Bool} {bound : Nat}
    (single : ∀ left ∈ events, ∀ right ∈ events, counted left = true →
      counted right = true → windows.window left = windows.window right)
    (bounded : ∀ start, events.countP (fun event =>
      counted event && decide (windows.window event = start)) ≤ bound) :
    events.countP counted ≤ bound := by
  rcases Nat.eq_zero_or_pos (events.countP counted) with none | some
  · rw [none]
    exact Nat.zero_le bound
  · rcases List.countP_pos_iff.mp some with ⟨witness, member, holds⟩
    refine le_trans ?_ (bounded (windows.window witness))
    apply List.countP_mono_left
    intro event eventMember eventHolds
    rw [Bool.and_eq_true, decide_eq_true_eq]
    exact ⟨eventHolds, single event eventMember witness member eventHolds
      holds⟩

/-- What every window bounds, an interval of the length bounds twice. -/
theorem countP_interval_le {events : List Event} {counted : Event → Bool}
    {bound : Nat} (covers : ∀ event ∈ events, windows.Covers event)
    (apart : ∀ left ∈ events, ∀ right ∈ events,
      windows.Apart (windows.window left) (windows.window right))
    (bounded : ∀ start, events.countP (fun event =>
      counted event && decide (windows.window event = start)) ≤ bound)
    (start : Int) :
    events.countP (fun event =>
      counted event && windows.inInterval start event) ≤ 2 * bound := by
  have within : ∀ part : Event → Bool, ∀ first : Int,
      events.countP (fun event => (counted event && part event) &&
        decide (windows.window event = first)) ≤ bound := by
    intro part first
    refine le_trans ?_ (bounded first)
    apply List.countP_mono_left
    intro event _ holds
    simp only [Bool.and_eq_true] at holds ⊢
    exact ⟨holds.1.1, holds.2⟩
  -- the windows that have begun by `start`, and those that begin after it
  have half : ∀ part : Event → Bool,
      (∀ left ∈ events, ∀ right ∈ events, part left = true →
        part right = true → windows.window left = windows.window right) →
      events.countP (fun event => counted event && part event) ≤ bound := by
    intro part single
    apply countP_le_of_one_window windows _ (within part)
    intro left leftMember right rightMember leftHolds rightHolds
    rw [Bool.and_eq_true] at leftHolds rightHolds
    exact single left leftMember right rightMember leftHolds.2 rightHolds.2
  have early := half (fun event => windows.inInterval start event &&
      decide (windows.window event ≤ start)) (by
    intro left leftMember right rightMember leftHolds rightHolds
    simp only [Bool.and_eq_true, mem_inInterval, decide_eq_true_eq]
      at leftHolds rightHolds
    have leftCover := mem_inInterval.mp (covers left leftMember)
    have rightCover := mem_inInterval.mp (covers right rightMember)
    apply (apart left leftMember right rightMember).eq_of_near
    · omega
    · omega)
  have late := half (fun event => windows.inInterval start event &&
      !decide (windows.window event ≤ start)) (by
    intro left leftMember right rightMember leftHolds rightHolds
    simp only [Bool.and_eq_true, mem_inInterval, Bool.not_eq_true',
      decide_eq_false_iff_not] at leftHolds rightHolds
    have leftCover := mem_inInterval.mp (covers left leftMember)
    have rightCover := mem_inInterval.mp (covers right rightMember)
    apply (apart left leftMember right rightMember).eq_of_near
    · omega
    · omega)
  have split : events.countP (fun event =>
        counted event && windows.inInterval start event) =
      events.countP (fun event => counted event &&
          (windows.inInterval start event &&
            decide (windows.window event ≤ start))) +
        events.countP (fun event => counted event &&
          (windows.inInterval start event &&
            !decide (windows.window event ≤ start))) := by
    rw [List.countP_eq_countP_filter_add events _
      (fun event => decide (windows.window event ≤ start)),
      List.countP_filter, List.countP_filter]
    simp only [Bool.and_assoc]
  rw [split]
  omega

/-- An event that comes a length after all before it is alone in an interval. -/
theorem countP_interval_le_one {events : List Event} {counted : Event → Bool}
    (spaced : events.Pairwise fun later earlier => counted later = true →
      counted earlier = true →
        windows.instant earlier + windows.length ≤ windows.instant later)
    (start : Int) :
    events.countP (fun event =>
      counted event && windows.inInterval start event) ≤ 1 := by
  induction events with
  | nil => exact Nat.zero_le 1
  | cons event rest induction =>
      rcases List.pairwise_cons.mp spaced with ⟨first, others⟩
      rw [List.countP_cons]
      split
      case isFalse => exact induction others
      case isTrue holds =>
        have alone : rest.countP (fun other =>
            counted other && windows.inInterval start other) = 0 := by
          rw [List.countP_eq_zero]
          intro other member also
          rw [Bool.and_eq_true, mem_inInterval] at holds also
          have late := first other member holds.1 also.1
          omega
        exact Nat.le_of_eq (by rw [alone])

end Windows

end WeatherNotify.Transition

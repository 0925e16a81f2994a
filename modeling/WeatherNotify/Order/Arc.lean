import Mathlib.Algebra.Order.Ring.Int
import Mathlib.Data.Int.ModEq

/-!
# Half-open arcs of a cycle

The positions `0, ..., n - 1` arranged in a circle.  A position lies on the arc
from one position to another when, walking forward from the first, it comes
before the second.  On positions that are in range an arc that does not pass
zero is an interval, and one that does is the complement of an interval; two
arcs between the same two ends divide the circle.
-/

namespace WeatherNotify.Order

variable {n start finish position : Int}

/-- How far to walk forward from one position to another. -/
def forward (n source target : Int) : Int :=
  (target - source) % n

/-- The arc from `start`, included, to `finish`, excluded. -/
def InArc (n start finish position : Int) : Prop :=
  forward n start position < forward n start finish

/-- A position of the circle. -/
def InRange (n position : Int) : Prop :=
  0 ≤ position ∧ position < n

theorem forward_of_le (startRange : InRange n start)
    (range : InRange n position) (ahead : start ≤ position) :
    forward n start position = position - start := by
  apply Int.emod_eq_of_lt
  · exact Int.sub_nonneg_of_le ahead
  · have below := range.2
    have positive := startRange.1
    omega

theorem forward_of_lt (startRange : InRange n start)
    (range : InRange n position) (behind : position < start) :
    forward n start position = position - start + n := by
  have once : forward n start position = (position - start + n) % n :=
    (Int.add_emod_right (position - start) n).symm
  rw [once]
  apply Int.emod_eq_of_lt
  · have below := startRange.2
    have positive := range.1
    omega
  · omega

/-- An arc that does not pass zero is an interval. -/
theorem inArc_of_lt (startRange : InRange n start)
    (finishRange : InRange n finish) (range : InRange n position)
    (ascending : start < finish) :
    InArc n start finish position ↔ start ≤ position ∧ position < finish := by
  have whole := forward_of_le startRange finishRange (le_of_lt ascending)
  show forward n start position < forward n start finish ↔ _
  rw [whole]
  rcases lt_or_ge position start with behind | ahead
  · rw [forward_of_lt startRange range behind]
    have positive := range.1
    have below := finishRange.2
    omega
  · rw [forward_of_le startRange range ahead]
    omega

/-- An arc that passes zero is the complement of an interval. -/
theorem inArc_of_gt (startRange : InRange n start)
    (finishRange : InRange n finish) (range : InRange n position)
    (descending : finish < start) :
    InArc n start finish position ↔ start ≤ position ∨ position < finish := by
  have whole := forward_of_lt startRange finishRange descending
  show forward n start position < forward n start finish ↔ _
  rw [whole]
  rcases lt_or_ge position start with behind | ahead
  · rw [forward_of_lt startRange range behind]
    omega
  · rw [forward_of_le startRange range ahead]
    have positive := finishRange.1
    have below := range.2
    omega

/-- The arcs between two ends divide the circle. -/
theorem inArc_iff_not_inArc (startRange : InRange n start)
    (finishRange : InRange n finish) (range : InRange n position)
    (different : start ≠ finish) :
    InArc n start finish position ↔ ¬ InArc n finish start position := by
  rcases Int.lt_or_gt_of_ne different with ascending | descending
  · rw [inArc_of_lt startRange finishRange range ascending,
      inArc_of_gt finishRange startRange range ascending]
    omega
  · rw [inArc_of_gt startRange finishRange range descending,
      inArc_of_lt finishRange startRange range descending]
    omega

end WeatherNotify.Order

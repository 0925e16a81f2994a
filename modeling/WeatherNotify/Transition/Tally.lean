import Mathlib.Algebra.BigOperators.Group.Finset.Piecewise

/-!
# Counting parties by their phase

A tally adds up, over all parties, a weight that depends on the party and on
the phase it is in.  When one party moves on, the tally changes by what that
party gives up and what it takes on.
-/

namespace WeatherNotify.Transition

universe u v

variable {Party : Type u} {Phase : Type v} [Fintype Party]

def tally (weight : Party → Phase → Nat) (phase : Party → Phase) : Nat :=
  ∑ party, weight party (phase party)

theorem tally_update [DecidableEq Party] (weight : Party → Phase → Nat)
    (phase : Party → Phase) (mover : Party) (after : Phase) :
    tally weight (Function.update phase mover after) +
        weight mover (phase mover) =
      tally weight phase + weight mover after := by
  have moved : ∀ party,
      weight party (Function.update phase mover after party) =
        Function.update (fun other => weight other (phase other)) mover
          (weight mover after) party :=
    fun party => Function.apply_update weight phase mover after party
  have split := Finset.add_sum_erase Finset.univ
    (fun party => weight party (phase party)) (Finset.mem_univ mover)
  simp only [tally, moved,
    Finset.sum_update_of_mem (Finset.mem_univ mover),
    Finset.sdiff_singleton_eq_erase]
  omega

theorem tally_eq_zero {weight : Party → Phase → Nat}
    {phase : Party → Phase}
    (zero : ∀ party, weight party (phase party) = 0) :
    tally weight phase = 0 :=
  Finset.sum_eq_zero fun party _ => zero party

end WeatherNotify.Transition

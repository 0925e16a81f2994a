import Mathlib.Data.List.Basic

/-!
# Workers in a list

Parties that come and go are kept in a list and named by their places.  When
one of them goes, or goes on, whatever some worker did before is still done by
one, unless it was the one that changed.
-/

namespace WeatherNotify.Transition

universe u

variable {Worker : Type u} {workers : List Worker} {index : Nat}
variable {changed next : Worker} {Does : Worker → Prop}

/-- A worker that goes did not do it. -/
theorem exists_mem_eraseIdx (found : workers[index]? = some changed)
    (idle : ¬ Does changed) (done : ∃ worker ∈ workers, Does worker) :
    ∃ worker ∈ workers.eraseIdx index, Does worker := by
  obtain ⟨worker, member, does⟩ := done
  obtain ⟨position, there⟩ := List.mem_iff_getElem?.mp member
  refine ⟨worker, List.mem_eraseIdx_iff_getElem?.mpr
    ⟨position, ?_, there⟩, does⟩
  rintro rfl
  rw [found] at there
  cases there
  exact idle does

/-- A worker that goes on does it still. -/
theorem exists_mem_set (found : workers[index]? = some changed)
    (still : Does changed → Does next)
    (done : ∃ worker ∈ workers, Does worker) :
    ∃ worker ∈ workers.set index next, Does worker := by
  obtain ⟨worker, member, does⟩ := done
  obtain ⟨position, there⟩ := List.mem_iff_getElem?.mp member
  by_cases same : position = index
  · subst same
    rw [found] at there
    cases there
    exact ⟨next, List.mem_set (List.getElem?_eq_some_iff.mp found).1 _,
      still does⟩
  · refine ⟨worker, List.mem_iff_getElem?.mpr ⟨position, ?_⟩, does⟩
    rw [List.getElem?_set_ne (Ne.symm same)]
    exact there

end WeatherNotify.Transition

import Mathlib.Data.List.Basic

/-!
# Names made of labels

A separator cuts a name into labels.  One name is a tail of another, label by
label, exactly when it is the other name or follows a separator in it: a tail
of characters that begins inside a label is none.
-/

namespace WeatherNotify.Coding

variable {α : Type*}

/-- Labels before a name, with the separator that ends the last of them. -/
theorem intercalate_append (separator : α) {front back : List (List α)}
    (some : front ≠ []) (others : back ≠ []) :
    [separator].intercalate (front ++ back) =
      [separator].intercalate front ++
        separator :: [separator].intercalate back := by
  induction front with
  | nil => exact absurd rfl some
  | cons label rest induction =>
      cases rest with
      | nil =>
          rw [List.singleton_append,
            List.intercalate_cons_of_ne_nil others,
            List.intercalate_singleton, List.append_assoc,
            List.singleton_append]
      | cons second rest =>
          have later := induction (List.cons_ne_nil second rest)
          rw [List.cons_append, List.intercalate_cons_of_ne_nil (by simp),
            later, List.intercalate_cons_of_ne_nil
              (List.cons_ne_nil second rest)]
          simp only [List.append_assoc]

variable [DecidableEq α]

theorem splitOn_suffix_iff (separator : α) {part whole : List α} :
    part.splitOn separator <:+ whole.splitOn separator ↔
      whole = part ∨ separator :: part <:+ whole := by
  constructor
  · rintro ⟨front, joined⟩
    have whole' := congrArg [separator].intercalate joined
    rw [List.intercalate_splitOn] at whole'
    cases front with
    | nil =>
        rw [List.nil_append, List.intercalate_splitOn] at whole'
        exact Or.inl whole'.symm
    | cons label rest =>
        rw [intercalate_append separator (List.cons_ne_nil label rest)
          (List.splitOn_ne_nil separator part),
          List.intercalate_splitOn] at whole'
        exact Or.inr ⟨_, whole'⟩
  · rintro (rfl | ⟨front, rfl⟩)
    · exact List.suffix_rfl
    · rw [List.splitOn_append_cons_self]
      exact List.suffix_append _ _

end WeatherNotify.Coding

import Mathlib.Data.List.Sort
import Mathlib.Order.Basic

/-!
# Arrivals listed by a key

Items arrive one after another, each with a later stamp than the ones before,
and are listed by a key with the stamp to break ties.  The listing is in the
order of arrival exactly when the keys do not decrease along the arrivals, and
a new arrival is listed last exactly when no key is above its own.
-/

namespace WeatherNotify.Order

universe u v w

variable {Item : Type u} {Key : Type v} {Stamp : Type w} [LinearOrder Key]
  [LinearOrder Stamp] (key : Item → Key) (stamp : Item → Stamp)

/-- By key, and by stamp where the keys are the same. -/
def Precedes (left right : Item) : Prop :=
  key left < key right ∨ key left = key right ∧ stamp left ≤ stamp right

instance : DecidableRel (Precedes key stamp) :=
  fun left right => inferInstanceAs (Decidable
    (key left < key right ∨ key left = key right ∧ stamp left ≤ stamp right))

/-- The items in the order of their keys and stamps. -/
def listing (items : List Item) : List Item :=
  items.insertionSort (Precedes key stamp)

/-- Every item has a later stamp than the ones before it. -/
def Arrived (items : List Item) : Prop :=
  items.Pairwise fun left right => stamp left < stamp right

variable {key stamp}

instance : Std.Total (Precedes key stamp) where
  total left right := by
    rcases lt_trichotomy (key left) (key right) with below | same | above
    · exact Or.inl (Or.inl below)
    · rcases le_total (stamp left) (stamp right) with earlier | later
      · exact Or.inl (Or.inr ⟨same, earlier⟩)
      · exact Or.inr (Or.inr ⟨same.symm, later⟩)
    · exact Or.inr (Or.inl above)

instance : IsTrans Item (Precedes key stamp) where
  trans left middle right first second := by
    rcases first with below | ⟨same, earlier⟩
    · rcases second with also | ⟨equal, _⟩
      · exact Or.inl (lt_trans below also)
      · exact Or.inl (equal ▸ below)
    · rcases second with also | ⟨equal, later⟩
      · exact Or.inl (same ▸ also)
      · exact Or.inr ⟨same.trans equal, le_trans earlier later⟩

theorem Precedes.key_le {left right : Item}
    (precedes : Precedes key stamp left right) : key left ≤ key right := by
  rcases precedes with below | ⟨same, _⟩
  · exact le_of_lt below
  · exact le_of_eq same

variable {items : List Item}

theorem listing_perm : (listing key stamp items).Perm items :=
  List.perm_insertionSort _ items

theorem mem_listing {item : Item} :
    item ∈ listing key stamp items ↔ item ∈ items :=
  listing_perm.mem_iff

theorem listing_pairwise :
    (listing key stamp items).Pairwise (Precedes key stamp) :=
  List.pairwise_insertionSort _ items

/-- A list in the order of arrival is determined by its items. -/
theorem Arrived.eq_of_perm {left right : List Item}
    (leftArrived : Arrived stamp left) (rightArrived : Arrived stamp right)
    (perm : left.Perm right) : left = right := by
  apply perm.eq_of_pairwise _ leftArrived rightArrived
  intro first second _ _ before after
  exact absurd before (lt_asymm after)

/-- The listing is in the order of arrival exactly if no key decreases. -/
theorem arrived_listing_iff (arrived : Arrived stamp items) :
    Arrived stamp (listing key stamp items) ↔
      items.Pairwise fun left right => key left ≤ key right := by
  constructor
  · intro inOrder
    have same : listing key stamp items = items :=
      inOrder.eq_of_perm arrived listing_perm
    rw [← same]
    exact listing_pairwise.imp Precedes.key_le
  · intro ascending
    have sorted : items.Pairwise (Precedes key stamp) := by
      apply (List.pairwise_and_iff.mpr ⟨ascending, arrived⟩).imp
      rintro left right ⟨keys, stamps⟩
      rcases lt_or_eq_of_le keys with below | equal
      · exact Or.inl below
      · exact Or.inr ⟨equal, le_of_lt stamps⟩
    rw [listing, sorted.insertionSort_eq]
    exact arrived

/-- A new arrival is listed last exactly if no key is above its own. -/
theorem getLast?_listing_append_iff (key : Item → Key) {item : Item}
    (latest : ∀ other ∈ items, stamp other < stamp item) :
    (listing key stamp (items ++ [item])).getLast? = some item ↔
      ∀ other ∈ items, key other ≤ key item := by
  have member : item ∈ listing key stamp (items ++ [item]) := by
    rw [mem_listing]
    exact List.mem_append_right _ (List.mem_singleton_self item)
  have sorted : (listing key stamp (items ++ [item])).Pairwise
      (Precedes key stamp) := listing_pairwise
  rcases List.eq_nil_or_concat (listing key stamp (items ++ [item])) with
    empty | ⟨before, last, shape⟩
  · rw [empty] at member
    cases member
  rw [List.concat_eq_append] at shape
  rw [shape] at member sorted
  rw [shape, List.getLast?_append_of_ne_nil _ (List.cons_ne_nil last []),
    List.getLast?_singleton, Option.some.injEq]
  have ends : ∀ other ∈ before, Precedes key stamp other last :=
    fun other earlier => (List.pairwise_append.mp sorted).2.2 other earlier
      last (List.mem_singleton_self last)
  constructor
  · rintro rfl other otherMember
    have listed : other ∈ before ++ [last] := by
      rw [← shape, mem_listing]
      exact List.mem_append_left _ otherMember
    rcases List.mem_append.mp listed with earlier | itself
    · exact (ends other earlier).key_le
    · cases List.mem_singleton.mp itself
      exact le_refl _
  · intro below
    have lastMember : last ∈ items ++ [item] := by
      have listed : last ∈ listing key stamp (items ++ [item]) := by
        rw [shape]
        exact List.mem_append_right _ (List.mem_singleton_self last)
      exact mem_listing.mp listed
    rcases List.mem_append.mp lastMember with earlier | itself
    · -- the last one would precede the new arrival and follow it
      have follows : Precedes key stamp item last := by
        rcases List.mem_append.mp member with inside | itself
        · exact ends item inside
        · cases List.mem_singleton.mp itself
          exact Or.inr ⟨rfl, le_refl _⟩
      have stamps := latest last earlier
      rcases follows with above | ⟨_, later⟩
      · exact absurd (below last earlier) (not_le_of_gt above)
      · exact absurd later (not_le_of_gt stamps)
    · exact List.mem_singleton.mp itself

end WeatherNotify.Order

import Mathlib.Logic.Function.Basic
import WeatherNotify.Transition.Machine

/-!
# Slots that are opened once

A run serves many sessions side by side, each in a slot of its own.  A slot is
opened by one of its labels, which says for whom, and stays busy from then on.
So the labels of a run alone tell whose slot it is.
-/

namespace WeatherNotify.Transition.Machine

universe u v w x y

variable {State : Type u} {Label : Type v} {Slot : Type w} {Party : Type x}

/-- Who opens a slot first in a list of labels. -/
def opener [DecidableEq Slot] (opens : Label → Option (Slot × Party)) (labels : List Label)
    (slot : Slot) : Option Party :=
  labels.findSome? fun label =>
    (opens label).bind fun opened =>
      if opened.1 = slot then some opened.2 else none

/-- Only a slot that is not busy is opened, and a busy one stays busy. -/
structure OpensOnce (machine : Machine State Label)
    (opens : Label → Option (Slot × Party)) (busy : State → Slot → Prop) :
    Prop where
  opened : ∀ {source target : State} {label : Label} {slot : Slot}
    {party : Party}, machine.step source label = some target →
      opens label = some (slot, party) →
        ¬ busy source slot ∧ busy target slot
  stays : ∀ {source target : State} {label : Label} {slot : Slot},
    machine.step source label = some target →
      busy source slot → busy target slot

variable {machine : Machine State Label}
variable {opens : Label → Option (Slot × Party)}
variable {busy : State → Slot → Prop}
variable {state final : State} {labels : List Label} {slot : Slot}

/-- Nobody opens a slot that is busy. -/
theorem OpensOnce.not_opened (once : machine.OpensOnce opens busy)
    (reached : machine.run state labels = some final)
    (taken : busy state slot) {label : Label} (member : label ∈ labels)
    (party : Party) : opens label ≠ some (slot, party) := by
  induction labels generalizing state with
  | nil => cases member
  | cons first rest induction =>
      obtain ⟨next, stepped, later⟩ := Option.bind_eq_some_iff.mp reached
      rcases List.mem_cons.mp member with rfl | among
      · exact fun opened => (once.opened stepped opened).1 taken
      · exact induction later (once.stays stepped taken) among

/-- Whoever opens a slot in a run is the one who opens it first. -/
theorem OpensOnce.opener_eq [DecidableEq Slot]
    (once : machine.OpensOnce opens busy)
    (reached : machine.run state labels = some final)
    {label : Label} (member : label ∈ labels) {party : Party}
    (opened : opens label = some (slot, party)) :
    opener opens labels slot = some party := by
  induction labels generalizing state with
  | nil => cases member
  | cons first rest induction =>
      obtain ⟨next, stepped, later⟩ := Option.bind_eq_some_iff.mp reached
      unfold opener
      rcases List.mem_cons.mp member with rfl | among
      · rw [List.findSome?_cons, opened, Option.bind_some, if_pos rfl]
      · rw [List.findSome?_cons]
        -- had `first` opened the slot, no later label could
        have skipped : ((opens first).bind fun other =>
            if other.1 = slot then some other.2 else none) = none := by
          cases earlier : opens first with
          | none => rfl
          | some other =>
              obtain ⟨place, host⟩ := other
              rw [Option.bind_some, if_neg]
              rintro rfl
              exact once.not_opened later (once.opened stepped earlier).2
                among party opened
        rw [skipped]
        exact induction later among

/-! ## The slots of one party -/

variable {Phase : Type y} [DecidableEq Party]
variable {openers : Slot → Option Party} {party : Party}

/-- The phases of a party's slots, as if nobody had opened the others. -/
def ownSlots (openers : Slot → Option Party) (party : Party) (idle : Phase)
    (phases : Slot → Phase) : Slot → Phase :=
  fun slot => if openers slot = some party then phases slot else idle

theorem ownSlots_apply (own : openers slot = some party) (idle : Phase)
    (phases : Slot → Phase) :
    ownSlots openers party idle phases slot = phases slot :=
  if_pos own

theorem ownSlots_idle (openers : Slot → Option Party) (party : Party)
    (idle : Phase) : ownSlots openers party idle (fun _ => idle) =
      fun _ => idle := by
  funext slot
  exact ite_self idle

theorem ownSlots_update [DecidableEq Slot] (own : openers slot = some party)
    (idle next : Phase) (phases : Slot → Phase) :
    ownSlots openers party idle (Function.update phases slot next) =
      Function.update (ownSlots openers party idle phases) slot next := by
  funext other
  unfold ownSlots
  by_cases same : other = slot
  · rw [same, if_pos own, Function.update_self, Function.update_self]
  · rw [Function.update_of_ne same, Function.update_of_ne same]

theorem ownSlots_update_of_ne [DecidableEq Slot]
    (foreign : openers slot ≠ some party) (idle next : Phase)
    (phases : Slot → Phase) :
    ownSlots openers party idle (Function.update phases slot next) =
      ownSlots openers party idle phases := by
  funext other
  unfold ownSlots
  by_cases same : other = slot
  · rw [same, if_neg foreign, if_neg foreign]
  · rw [Function.update_of_ne same]

end WeatherNotify.Transition.Machine

import Mathlib.Logic.Function.Basic

/-!
# Keys that expire

A key-value store in which every entry carries the instant it is gone at, in
milliseconds.  Writing an entry replaces the old one together with its
deadline; nothing else moves a deadline.
-/

namespace WeatherNotify.Common

universe u v

structure Entry (Value : Type v) where
  value : Value
  deadline : Int
  deriving DecidableEq, Repr

namespace Entry

variable {Value : Type v}

/-- What is left of an entry at an instant. -/
def read (entry : Option (Entry Value)) (now : Int) : Option Value :=
  match entry with
  | some entry => if now < entry.deadline then some entry.value else none
  | none => none

theorem read_eq_some_iff {entry : Option (Entry Value)} {now : Int}
    {value : Value} :
    read entry now = some value ↔
      ∃ deadline, entry = some ⟨value, deadline⟩ ∧ now < deadline := by
  cases entry with
  | none => simp [read]
  | some entry =>
      obtain ⟨held, deadline⟩ := entry
      simp only [read, Option.ite_none_right_eq_some, Option.some.injEq,
        Entry.mk.injEq]
      constructor
      · rintro ⟨early, rfl⟩
        exact ⟨deadline, ⟨rfl, rfl⟩, early⟩
      · rintro ⟨_, ⟨rfl, rfl⟩, early⟩
        exact ⟨early, rfl⟩

end Entry

/-- A store of expiring entries. -/
def Expiring (Key : Type u) (Value : Type v) := Key → Option (Entry Value)

namespace Expiring

variable {Key : Type u} {Value : Type v}

def empty : Expiring Key Value :=
  fun _ => none

/-- What a key holds at an instant. -/
def get (store : Expiring Key Value) (now : Int) (key : Key) :
    Option Value :=
  Entry.read (store key) now

def put [DecidableEq Key] (store : Expiring Key Value) (key : Key)
    (entry : Entry Value) : Expiring Key Value :=
  Function.update store key (some entry)

def delete [DecidableEq Key] (store : Expiring Key Value) (key : Key) :
    Expiring Key Value :=
  Function.update store key none

theorem get_of_entry {store : Expiring Key Value} {key : Key}
    {entry : Entry Value} (stored : store key = some entry) (now : Int) :
    store.get now key =
      if now < entry.deadline then some entry.value else none := by
  rw [get, stored, Entry.read]

variable [DecidableEq Key]

@[simp]
theorem put_self (store : Expiring Key Value) (key : Key)
    (entry : Entry Value) : store.put key entry key = some entry :=
  Function.update_self _ _ _

theorem put_of_ne (store : Expiring Key Value) {key other : Key}
    (different : other ≠ key) (entry : Entry Value) :
    store.put key entry other = store other :=
  Function.update_of_ne different _ _

@[simp]
theorem delete_self (store : Expiring Key Value) (key : Key) :
    store.delete key key = none :=
  Function.update_self _ _ _

theorem delete_of_ne (store : Expiring Key Value) {key other : Key}
    (different : other ≠ key) : store.delete key other = store other :=
  Function.update_of_ne different _ _

end Expiring

end WeatherNotify.Common

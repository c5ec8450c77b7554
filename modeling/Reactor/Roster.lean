import Reactor.Capacity

/-!
# Rosters

A roster is an indexed list of limited or unlimited capacity: the tables of signals, the lists of
subscribers, the timer slots and the heap of scheduled timers are rosters.
-/

namespace Reactor

/-- An indexed list that may have a limit. -/
structure Roster (α : Type) where
  /-- How many entries fit. -/
  capacity : Capacity
  /-- The entries in order of index. -/
  entries : Array α := #[]

namespace Roster

variable {α : Type}

/-- A roster without entries. -/
def empty (capacity : Capacity) : Roster α := { capacity }

/-- The number of entries. -/
def size (roster : Roster α) : Nat := roster.entries.size

/-- Whether there are no entries. -/
def isEmpty (roster : Roster α) : Bool := roster.entries.isEmpty

/-- The entry at an index. -/
def get? (roster : Roster α) (index : Nat) : Option α := roster.entries[index]?

/-- Appends an entry; a full roster refuses it. -/
def push? (roster : Roster α) (entry : α) : Option (Roster α) :=
  if roster.capacity.admits roster.size then
    some { roster with entries := roster.entries.push entry }
  else none

/-- Takes the last entry. -/
def pop? (roster : Roster α) : Option (α × Roster α) :=
  match roster.entries.back? with
  | none => none
  | some entry => some (entry, { roster with entries := roster.entries.pop })

/-- Takes the entry at an index and moves later entries one index down. -/
def remove? (roster : Roster α) (index : Nat) : Option (α × Roster α) :=
  match roster.entries[index]? with
  | none => none
  | some entry => some (entry, { roster with entries := roster.entries.eraseIdxIfInBounds index })

/-- Takes the entry at an index and puts the last entry into its place. -/
def swapRemove? (roster : Roster α) (index : Nat) : Option (α × Roster α) :=
  match roster.entries[index]? with
  | none => none
  | some entry =>
      some (entry, { roster with
        entries := (roster.entries.swapIfInBounds index (roster.size - 1)).pop })

/-- Replaces the entry at an index, if there is one. -/
def set (roster : Roster α) (index : Nat) (entry : α) : Roster α :=
  { roster with entries := roster.entries.setIfInBounds index entry }

@[simp]
theorem get?_set_self (roster : Roster α) (index : Nat) (entry : α) (inside : index < roster.size) :
    (roster.set index entry).get? index = some entry := by
  simp only [set, get?, size] at inside ⊢
  simp [inside]

theorem get?_set_ne (roster : Roster α) {index other : Nat} (entry : α) (apart : index ≠ other) :
    (roster.set index entry).get? other = roster.get? other := by
  simp [set, get?, apart]

@[simp]
theorem size_set (roster : Roster α) (index : Nat) (entry : α) :
    (roster.set index entry).size = roster.size := by
  simp [set, size]

theorem push?_eq_none_iff {roster : Roster α} {entry : α} :
    roster.push? entry = none ↔ roster.capacity.admits roster.size = false := by
  unfold push?
  split <;> simp_all

end Roster

end Reactor

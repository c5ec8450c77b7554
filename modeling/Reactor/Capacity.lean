/-!
# Capacities

A container either grows without limit or holds at most a fixed number of elements.
-/

namespace Reactor

/-- How many elements a container may hold. -/
inductive Capacity where
  /-- The container grows as needed. -/
  | unbounded
  /-- At most `limit` elements. -/
  | bounded (limit : Nat)
deriving DecidableEq, Inhabited

namespace Capacity

/-- Whether a container of this capacity that holds `size` elements can take one more. -/
def admits : Capacity → Nat → Bool
  | unbounded, _ => true
  | bounded limit, size => size < limit

/-- The limit, if there is one. -/
def limit? : Capacity → Option Nat
  | unbounded => none
  | bounded limit => some limit

/-- The limit as reports of a refusal give it: zero where there is none. -/
def limit (capacity : Capacity) : Nat := capacity.limit?.getD 0

@[simp]
theorem admits_unbounded (size : Nat) : unbounded.admits size = true := rfl

@[simp]
theorem admits_bounded (limit size : Nat) :
    (bounded limit).admits size = decide (size < limit) := rfl

/-- A container never holds more than it may. -/
def Holds (capacity : Capacity) (size : Nat) : Prop :=
  ∀ limit, capacity = .bounded limit → size ≤ limit

theorem Holds.of_le {capacity : Capacity} {size smaller : Nat} (holds : capacity.Holds size)
    (le : smaller ≤ size) : capacity.Holds smaller :=
  fun limit bounded => Nat.le_trans le (holds limit bounded)

/-- A container that has room holds one element more. -/
theorem holds_succ_of_admits {capacity : Capacity} {size : Nat}
    (room : capacity.admits size = true) : capacity.Holds (size + 1) := by
  rintro limit rfl
  rwa [admits_bounded, decide_eq_true_iff] at room

/-- A container that has no room for another element is filled up. -/
theorem Holds.eq_bounded {capacity : Capacity} {size : Nat} (holds : capacity.Holds size)
    (full : capacity.admits size = false) : capacity = .bounded size := by
  cases capacity with
  | unbounded => cases full
  | bounded limit =>
      have reached : limit ≤ size := by simpa using full
      rw [Nat.le_antisymm reached (holds limit rfl)]

end Capacity

/-- A container could not take another element. -/
structure CapacityError where
  /-- Which container overflowed. -/
  what : String
  /-- How many elements it holds at most. -/
  capacity : Nat
deriving DecidableEq

/-- What a capacity error says. -/
def CapacityError.message (error : CapacityError) : String :=
  s!"{error.what} is full (capacity {error.capacity})"

end Reactor

import Reactor.Capacity

/-!
# First in, first out

A queue of limited or unlimited capacity.  Elements leave in the order in which they were accepted,
and a full queue refuses an element without changing.
-/

namespace Reactor

/-- A queue, oldest element first. -/
structure Fifo (α : Type) where
  /-- How many elements may wait. -/
  capacity : Capacity
  /-- The waiting elements, oldest first. -/
  items : List α := []

namespace Fifo

variable {α : Type}

/-- A queue with nothing in it. -/
def empty (capacity : Capacity) : Fifo α := { capacity }

/-- The number of waiting elements. -/
def size (queue : Fifo α) : Nat := queue.items.length

/-- Whether nothing waits. -/
def isEmpty (queue : Fifo α) : Bool := queue.items.isEmpty

/-- Whether the next element would be refused. -/
def isFull (queue : Fifo α) : Bool := !queue.capacity.admits queue.size

/-- Appends an element; a full queue refuses it. -/
def push? (queue : Fifo α) (item : α) : Option (Fifo α) :=
  if queue.capacity.admits queue.size then some { queue with items := queue.items ++ [item] }
  else none

/-- Takes the oldest element. -/
def pop? (queue : Fifo α) : Option (α × Fifo α) :=
  match queue.items with
  | [] => none
  | item :: rest => some (item, { queue with items := rest })

/-- Takes the newest element. -/
def popLast? (queue : Fifo α) : Option (α × Fifo α) :=
  match queue.items.getLast? with
  | none => none
  | some item => some (item, { queue with items := queue.items.dropLast })

/-- Gives up every waiting element. -/
def clear (queue : Fifo α) : Fifo α := { queue with items := [] }

/-- The error that reports a refused element; a queue without limit would name the largest
64-bit number. -/
def fullError (queue : Fifo α) : CapacityError :=
  { what := "queue", capacity := queue.capacity.limit?.getD ((1 <<< 64) - 1) }

theorem pop?_eq_none_iff {queue : Fifo α} : queue.pop? = none ↔ queue.items = [] := by
  unfold pop?
  split <;> simp_all

end Fifo

end Reactor

import Reactor.Dispatch.Error
import Reactor.Fifo

/-!
# Work queues

A work queue feeds workers until it is closed.  From then on it accepts nothing and gives out
nothing; what still waits is discarded.
-/

namespace Reactor

/-- A queue of work that can be closed. -/
structure WorkQueue (α : Type) where
  /-- The waiting items. -/
  queue : Fifo α
  /-- Whether the queue has been closed. -/
  closed : Bool := false

namespace WorkQueue

variable {α : Type}

/-- An open queue with nothing in it. -/
def empty (capacity : Capacity) : WorkQueue α := { queue := .empty capacity }

/-- Appends an item, unless the queue is closed or full. -/
def push (work : WorkQueue α) (item : α) : Except DispatchError (WorkQueue α) :=
  if work.closed then .error .shutDown
  else
    match work.queue.push? item with
    | some queue => .ok { work with queue }
    | none => .error (.queueFull work.queue.fullError)

/-- Gives out the oldest item, unless the queue is closed. -/
def next? (work : WorkQueue α) : Option (α × WorkQueue α) :=
  if work.closed then none
  else work.queue.pop?.map fun (item, queue) => (item, { work with queue })

/-- Closes the queue and answers whether it was open. -/
def close (work : WorkQueue α) : Bool × WorkQueue α := (!work.closed, { work with closed := true })

/-- Discards the oldest item. -/
def discardOne? (work : WorkQueue α) : Option (α × WorkQueue α) :=
  work.queue.pop?.map fun (item, queue) => (item, { work with queue })

/-- Discards everything that waits, oldest first. -/
def discard (work : WorkQueue α) : List α × WorkQueue α :=
  (work.queue.items, { work with queue := work.queue.clear })

/-- The number of waiting items. -/
def size (work : WorkQueue α) : Nat := work.queue.size

theorem push_of_closed {work : WorkQueue α} (shut : work.closed = true) (item : α) :
    work.push item = .error .shutDown := by
  simp [push, shut]

theorem next?_of_closed {work : WorkQueue α} (shut : work.closed = true) : work.next? = none := by
  simp [next?, shut]

end WorkQueue

end Reactor

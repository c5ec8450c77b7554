import Reactor.Exec
import Reactor.FunctionQueue

/-!
# Interrupt queues

The top half of an interrupt pushes operations; the bottom half drains them later, in order.  After
every accepted push a notifier runs.  Each push and each pop is a short section of its own, so an
operation that runs may push further ones, and these run in the same drain.
-/

namespace Reactor

/-- Operations `δ` waiting for the bottom half. -/
abbrev InterruptQueue := FunctionQueue

namespace InterruptQueue

variable {σ δ : Type}

/-- The error that reports a refused operation. -/
def fullError (queue : InterruptQueue δ) : CapacityError :=
  { what := "interrupt queue", capacity := queue.queue.capacity.limit }

/-- Pushes an operation; a full queue refuses it, and an operation that does not fit panics. -/
def tryPush (queue : Part σ (InterruptQueue δ)) (notify : Exec σ Unit) (operation : δ)
    (footprint : Footprint) : Exec σ (Except CapacityError Unit) := do
  let held ← queue.read
  match held.housing.misfit? footprint with
  | some misfit => Exec.panic misfit.message
  | none =>
      match held.offer? operation with
      | none => return .error (fullError held)
      | some grown =>
          queue.write grown
          notify
          return .ok ()

/-- Pushes an operation and panics if the queue is full. -/
def push (queue : Part σ (InterruptQueue δ)) (notify : Exec σ Unit) (operation : δ)
    (footprint : Footprint) : Exec σ Unit := do
  match ← tryPush queue notify operation footprint with
  | .ok () => return ()
  | .error full => Exec.panic s!"interrupt queue: {full.message}"

/-- Takes operations and runs them until none is left, and answers how many ran.  `budget` bounds
their number. -/
def drain (queue : Part σ (InterruptQueue δ)) (run : δ → Exec σ Unit) : Nat → Exec σ Nat
  | 0 => throw .exhausted
  | budget + 1 => do
      match (← queue.read).pop? with
      | none => return 0
      | some (operation, rest) =>
          queue.write rest
          run operation
          return (← drain queue run budget) + 1

end InterruptQueue

end Reactor

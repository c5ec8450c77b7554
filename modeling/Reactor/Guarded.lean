/-!
# Guarded values

A guarded value is only reached under its lock.  The lock never refuses and never poisons, so what
a holder leaves is what the next holder finds.
-/

namespace Reactor

/-- A value behind a lock. -/
structure Guarded (α : Type) where
  /-- The value. -/
  value : α

namespace Guarded

variable {α β : Type}

/-- Takes the lock, works on the value and gives the lock back. -/
def withLock (guarded : Guarded α) (work : α → β × α) : β × Guarded α :=
  let (answer, value) := work guarded.value
  (answer, { value })

/-- Gives up the lock for the value. -/
def intoInner (guarded : Guarded α) : α := guarded.value

end Guarded

end Reactor

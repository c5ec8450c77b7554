import Reactor.Capacity

/-!
# Errors of executors
-/

namespace Reactor

/-- Why an executor does not accept work. -/
inductive DispatchError where
  /-- A queue of limited capacity is full. -/
  | queueFull (error : CapacityError)
  /-- The executor has been shut down. -/
  | shutDown
deriving DecidableEq

/-- What a dispatch error says. -/
def DispatchError.message : DispatchError → String
  | queueFull error => error.message
  | shutDown => "executor has been shut down"

end Reactor

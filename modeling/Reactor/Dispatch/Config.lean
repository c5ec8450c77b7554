/-!
# Configuration of executors
-/

namespace Reactor

/-- How a dispatch queue is set up.  Its workers are named after it and numbered from zero. -/
structure DispatchConfig where
  /-- The name of the queue. -/
  name : String := "dispatch"
  /-- The number of workers. -/
  threads : Nat := 1
  /-- The stack size of each worker in bytes, unless it is left to the system. -/
  stackSize : Option Nat := none
deriving DecidableEq

/-- One setting of a dispatch queue. -/
inductive DispatchSetting where
  /-- Sets the name. -/
  | name (name : String)
  /-- Sets the number of workers. -/
  | threads (threads : Nat)
  /-- Sets the stack size. -/
  | stackSize (bytes : Nat)

namespace DispatchConfig

/-- The configuration after one more setting. -/
def apply (config : DispatchConfig) : DispatchSetting → DispatchConfig
  | .name name => { config with name }
  | .threads threads => { config with threads }
  | .stackSize bytes => { config with stackSize := some bytes }

/-- The default configuration changed by settings in order. -/
def build (settings : List DispatchSetting) : DispatchConfig := settings.foldl apply {}

/-- The name of a worker. -/
def workerName (config : DispatchConfig) (index : Nat) : String := s!"{config.name}-{index}"

end DispatchConfig

/-- How an active object is set up. -/
structure ActiveConfig where
  /-- The name of the object and of its worker. -/
  name : String := "active"
  /-- The stack size of the worker in bytes, unless it is left to the system. -/
  stackSize : Option Nat := none
deriving DecidableEq

end Reactor

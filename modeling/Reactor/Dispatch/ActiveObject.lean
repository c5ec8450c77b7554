import Reactor.Dispatch.Pool

/-!
# Active objects

An active object owns its state on one worker of its own, which processes items in the order in
which they were accepted.  A hook runs before the first item and another after the last, once the
object has been closed.  An item whose processing panics ends the worker without the second hook.
-/

namespace Reactor

/-- Where the worker of an active object is; `ι` is the type of items. -/
inductive ActiveWorker (ι : Type) where
  /-- It has not run its first hook. -/
  | starting
  /-- It waits for an item. -/
  | waiting
  /-- It processes an item. -/
  | processing (item : ι)
  /-- It has run its last hook. -/
  | finished
  /-- The processing of an item has panicked. -/
  | dead

/-- What the owner of an active object sees on its worker. -/
inductive ActiveEvent (ι : Type) where
  /-- The first hook runs. -/
  | started
  /-- An item is processed. -/
  | processes (item : ι)
  /-- The last hook runs. -/
  | stopped

/-- An active object with items `ι`. -/
structure ActiveObject (ι : Type) where
  /-- How it is set up. -/
  config : ActiveConfig
  /-- The items that wait for the worker. -/
  work : WorkQueue ι
  /-- Where the worker is. -/
  worker : ActiveWorker ι := .starting

namespace ActiveObject

variable {ι : Type}

/-- An active object whose worker has not begun. -/
def new (config : ActiveConfig) (capacity : Capacity) : ActiveObject ι :=
  { config, work := .empty capacity }

/-- One step that the worker takes by itself: it runs a hook or takes the oldest item.  It takes
none while it waits for an item or processes one, nor after its end. -/
def step? (object : ActiveObject ι) : Option (ActiveEvent ι × ActiveObject ι) :=
  match object.worker with
  | .starting => some (.started, { object with worker := .waiting })
  | .waiting =>
      if object.work.closed then some (.stopped, { object with worker := .finished })
      else
        object.work.next?.map fun (item, work) =>
          (.processes item, { object with work, worker := .processing item })
  | .processing _ | .finished | .dead => none

/-- The item that is being processed. -/
def current? (object : ActiveObject ι) : Option ι :=
  match object.worker with
  | .processing item => some item
  | _ => none

/-- The worker has come to the end of its item. -/
def finish (object : ActiveObject ι) : ActiveObject ι := { object with worker := .waiting }

/-- The processing of the item has panicked. -/
def crash (object : ActiveObject ι) : ActiveObject ι := { object with worker := .dead }

/-- Appends an item for the worker. -/
def enqueue (object : ActiveObject ι) (item : ι) : Except DispatchError (ActiveObject ι) :=
  (object.work.push item).map fun work => { object with work }

/-- What a refused item that must not be refused says. -/
def refusal (object : ActiveObject ι) (error : DispatchError) : String :=
  s!"active object '{object.config.name}': {error.message}"

/-- Whether the object accepts items. -/
def isRunning (object : ActiveObject ι) : Bool := !object.work.closed

/-- Closes the object and answers whether it was open. -/
def close (object : ActiveObject ι) : Bool × ActiveObject ι :=
  let (wasOpen, work) := object.work.close
  (wasOpen, { object with work })

/-- What waiting for the end of the worker reports. -/
def farewell (object : ActiveObject ι) : List DispatchNote :=
  match object.worker with
  | .dead => [.workerDied object.config.name object.config.name]
  | _ => []

/-- Drops what waits. -/
def discard (object : ActiveObject ι) : List ι × ActiveObject ι :=
  let (dropped, work) := object.work.discard
  (dropped, { object with work })

end ActiveObject

end Reactor

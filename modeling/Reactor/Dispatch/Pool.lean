import Reactor.Dispatch.Config
import Reactor.Dispatch.Note
import Reactor.Dispatch.WorkQueue
import Reactor.Slot

/-!
# Dispatch queues

A dispatch queue is a pool of workers that share one work queue.  An idle worker takes the oldest
operation and runs it; an operation that panics ends its worker.  The queue goes on without the
worker, and what still waits when the queue is torn down is dropped.
-/

namespace Reactor

/-- What a worker does; `ω` is the type of operations. -/
inductive Worker (ω : Type) where
  /-- It waits for an operation. -/
  | idle
  /-- It runs an operation. -/
  | running (operation : ω)
  /-- An operation has panicked. -/
  | dead

/-- A dispatch queue with operations `ω`. -/
structure Pool (ω : Type) where
  /-- How it is set up. -/
  config : DispatchConfig
  /-- How operations are kept. -/
  housing : Housing
  /-- The operations that wait for a worker. -/
  work : WorkQueue ω
  /-- The workers by number. -/
  workers : List (Worker ω)

namespace Pool

variable {ω : Type}

/-- What a queue without workers says. -/
def noWorkers : String := "dispatch queue needs at least one worker"

/-- A queue whose workers are idle; nothing if there are no workers. -/
def start? (config : DispatchConfig) (housing : Housing) (capacity : Capacity) :
    Option (Pool ω) :=
  if config.threads = 0 then none
  else
    some
      { config, housing
        work := .empty capacity
        workers := List.replicate config.threads .idle }

/-- Submits an operation that fits its housing. -/
def submit (pool : Pool ω) (operation : ω) : Except DispatchError (Pool ω) :=
  (pool.work.push operation).map fun work => { pool with work }

/-- What a refused submission that must not fail says. -/
def refusal (pool : Pool ω) (error : DispatchError) : String :=
  s!"dispatch queue '{pool.config.name}': {error.message}"

/-- Whether a worker is idle. -/
def isIdle : Worker ω → Bool
  | .idle => true
  | _ => false

/-- Whether a worker has not been ended by a panic. -/
def isLive : Worker ω → Bool
  | .dead => false
  | _ => true

/-- The operation that a worker runs. -/
def current? : Worker ω → Option ω
  | .running operation => some operation
  | _ => none

/-- Lets the first idle worker take the oldest operation. -/
def pickUp? (pool : Pool ω) : Option (Nat × ω × Pool ω) := do
  let worker ← pool.workers.findIdx? isIdle
  let (operation, work) ← pool.work.next?
  return (worker, operation,
    { pool with work, workers := pool.workers.set worker (.running operation) })

/-- The worker has come to the end of its operation. -/
def finish (pool : Pool ω) (worker : Nat) : Pool ω :=
  { pool with workers := pool.workers.set worker .idle }

/-- The operation of the worker has panicked. -/
def crash (pool : Pool ω) (worker : Nat) : Pool ω :=
  { pool with workers := pool.workers.set worker .dead }

/-- The operations that are being run, by number of their workers. -/
def running (pool : Pool ω) : List ω := pool.workers.filterMap current?

/-- Every running operation comes to its end. -/
def finishAll (pool : Pool ω) : Pool ω :=
  { pool with
    workers := pool.workers.map fun worker => if isLive worker then .idle else worker }

/-- The numbers of the workers that have not been ended by a panic. -/
def live (pool : Pool ω) : List Nat :=
  pool.workers.zipIdx.filterMap fun (worker, number) =>
    if isLive worker then some number else none

/-- The name of a worker. -/
def workerName (pool : Pool ω) (number : Nat) : String := pool.config.workerName number

/-- Closes the queue. -/
def close (pool : Pool ω) : Pool ω := { pool with work := pool.work.close.2 }

/-- What the end of a worker reports when it is waited for. -/
def farewell? (pool : Pool ω) (worker : Worker ω) (number : Nat) : Option DispatchNote :=
  if isLive worker then none
  else some (.workerDied pool.config.name (pool.workerName number))

/-- The reports of waiting for every worker. -/
def farewells (pool : Pool ω) : List DispatchNote :=
  pool.workers.zipIdx.filterMap fun (worker, number) => pool.farewell? worker number

/-- Tears down a queue whose workers have come to their ends: what waits is dropped. -/
def teardown (pool : Pool ω) : List ω × List DispatchNote :=
  let dropped := pool.close.work.discard.1
  (dropped, pool.farewells ++ [.poolStopped pool.config.name dropped.length])

/-- Tears down a queue from the operation that its first worker runs; that worker is not waited
for. -/
def teardownFromWithin (pool : Pool ω) : List ω × List DispatchNote :=
  let dropped := pool.close.work.discard.1
  (dropped,
    [.tornDownFromWithin pool.config.name, .poolStopped pool.config.name dropped.length])

end Pool

end Reactor

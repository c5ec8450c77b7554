import Reactor.Fifo
import Reactor.Operation

/-!
# Function queues

A function queue holds operations, callables that run at most once.  Running an operation consumes
it.  Every step reports the runs and drops that it causes, in order.
-/

namespace Reactor

/-- A queue of operations. -/
structure FunctionQueue (ω : Type) where
  /-- How operations are kept. -/
  housing : Housing
  /-- The waiting operations. -/
  queue : Fifo ω

/-- A step of a function queue: what it leaves, what happened to closures and the answer, or the
message of a panic. -/
structure Turn (ω α : Type) where
  /-- The queue after the step. -/
  queue : FunctionQueue ω
  /-- The runs and drops of the step. -/
  lives : List (Life ω) := []
  /-- The answer, unless the step panicked. -/
  answer : Except String α

namespace FunctionQueue

variable {ω : Type}

/-- A queue with nothing in it. -/
def empty (housing : Housing) (capacity : Capacity) : FunctionQueue ω :=
  { housing, queue := .empty capacity }

/-- The error that reports a refused operation. -/
def fullError (functions : FunctionQueue ω) : CapacityError :=
  { what := "function queue", capacity := functions.queue.capacity.limit }

/-- Appends an operation that has already been built; a full queue hands it back. -/
def offer? (functions : FunctionQueue ω) (operation : ω) : Option (FunctionQueue ω) :=
  (functions.queue.push? operation).map fun queue => { functions with queue }

/-- Builds an operation from a closure and then does `next` with it.  A closure that does not fit
is dropped. -/
def build {α : Type} (functions : FunctionQueue ω) (operation : ω) (footprint : Footprint)
    (next : Turn ω α) : Turn ω α :=
  match functions.housing.misfit? footprint with
  | some misfit =>
      { queue := functions
        lives := (dropClosure operation).lives
        answer := .error misfit.message }
  | none => next

/-- Appends a closure; if the queue is full, the closure is dropped and the error returned. -/
def tryPush (functions : FunctionQueue ω) (operation : ω) (footprint : Footprint) :
    Turn ω (Except CapacityError Unit) :=
  functions.build operation footprint <|
    match functions.offer? operation with
    | some grown => { queue := grown, answer := .ok (.ok ()) }
    | none =>
        { queue := functions
          lives := (functions.housing.discard operation).lives
          answer := .ok (.error functions.fullError) }

/-- Appends a closure; panics if the queue is full. -/
def push (functions : FunctionQueue ω) (operation : ω) (footprint : Footprint) : Turn ω Unit :=
  let turn := functions.tryPush operation footprint
  { queue := turn.queue
    lives := turn.lives
    answer := turn.answer.bind fun
      | .ok () => .ok ()
      | .error full => .error full.message }

/-- Appends an operation that has already been built, and tells whether it was handed back. -/
def tryPushOperation (functions : FunctionQueue ω) (operation : ω) (footprint : Footprint) :
    Turn ω Bool :=
  functions.build operation footprint <|
    match functions.offer? operation with
    | some grown => { queue := grown, answer := .ok false }
    | none => { queue := functions, answer := .ok true }

/-- Takes the oldest operation. -/
def pop? (functions : FunctionQueue ω) : Option (ω × FunctionQueue ω) :=
  functions.queue.pop?.map fun (operation, queue) => (operation, { functions with queue })

/-- Takes the oldest operation and runs it; `panics` tells which operations panic, and how.
Answers whether there was one. -/
def runOne (panics : ω → Option String) (functions : FunctionQueue ω) : Turn ω Bool :=
  match functions.pop? with
  | none => { queue := functions, answer := .ok false }
  | some (operation, rest) =>
      let run := functions.housing.run panics operation
      { queue := rest, lives := run.lives, answer := run.answer true }

/-- Runs operations in order up to the first that panics: what happened, what was not reached and
the message of the panic. -/
def runAll (housing : Housing) (panics : ω → Option String) :
    List ω → List (Life ω) × List ω × Option String
  | [] => ([], [], none)
  | operation :: rest =>
      let run := housing.run panics operation
      match run.panic with
      | some message => (run.lives, rest, some message)
      | none =>
          let (lives, unreached, panic) := runAll housing panics rest
          (run.lives ++ lives, unreached, panic)

/-- Runs every waiting operation and answers how many there were. -/
def drain (panics : ω → Option String) (functions : FunctionQueue ω) : Turn ω Nat :=
  let (lives, unreached, panic) := runAll functions.housing panics functions.queue.items
  { queue := { functions with queue := { functions.queue with items := unreached } }
    lives
    answer :=
      match panic with
      | some message => .error message
      | none => .ok functions.queue.size }

/-- Takes the oldest operation and drops it without running it. -/
def popDrop (functions : FunctionQueue ω) : Turn ω Bool :=
  match functions.pop? with
  | none => { queue := functions, answer := .ok false }
  | some (operation, rest) =>
      { queue := rest
        lives := (functions.housing.discard operation).lives
        answer := .ok true }

/-- Drops every waiting operation. -/
def clear (functions : FunctionQueue ω) : Turn ω Unit :=
  { queue := { functions with queue := functions.queue.clear }
    lives := functions.housing.discardAll functions.queue.items
    answer := .ok () }

theorem offer?_of_room {functions : FunctionQueue ω} (operation : ω)
    (room : functions.queue.capacity.admits functions.queue.items.length = true) :
    functions.offer? operation = some { functions with
      queue := { functions.queue with items := functions.queue.items ++ [operation] } } := by
  rw [offer?, Fifo.push?, Fifo.size, if_pos room]
  rfl

theorem offer?_of_full {functions : FunctionQueue ω} (operation : ω)
    (full : functions.queue.capacity.admits functions.queue.items.length = false) :
    functions.offer? operation = none := by
  rw [offer?, Fifo.push?, Fifo.size, full, if_neg Bool.false_ne_true, Option.map_none]

end FunctionQueue

end Reactor

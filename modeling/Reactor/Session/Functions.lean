import Reactor.FunctionQueue
import Reactor.Session.Scan

/-!
# Sessions with a function queue

Operations own a value with a number, which shows when they run and when they are dropped; an
operation of no bytes has no room for a number and shows zero.  An operation panics when it runs if
any step so far has said so of its number.
-/

namespace Reactor.Session

/-- An operation as a step describes it. -/
structure OperationSpec where
  /-- The number it is given. -/
  id : Nat
  /-- Its size and alignment. -/
  footprint : Footprint
  /-- Whether operations of this number panic from now on. -/
  panics : Bool

/-- The number that shows for the operation. -/
def OperationSpec.shown (spec : OperationSpec) : Nat :=
  if spec.footprint.bytes = 0 then 0 else spec.id

/-- A step of a session with a function queue. -/
inductive FunctionStep where
  /-- Appends a closure; panics if there is no room. -/
  | push (spec : OperationSpec)
  /-- Appends a closure, or says that there is no room. -/
  | tryPush (spec : OperationSpec)
  /-- Appends an operation; the session keeps one that is handed back. -/
  | tryPushOperation (spec : OperationSpec)
  /-- Runs the operations that the session keeps. -/
  | runHeld
  /-- Drops the operations that the session keeps. -/
  | dropHeld
  /-- Runs the oldest operation. -/
  | runOne
  /-- Runs every operation. -/
  | runAll
  /-- Takes the oldest operation and runs it. -/
  | popRun
  /-- Takes the oldest operation and drops it. -/
  | popDrop
  /-- Drops every operation. -/
  | clear

/-- The answer to a step. -/
inductive FunctionReply where
  | silent
  | done
  | handedBack
  | flag (value : Bool)
  | count (value : Nat)
  | full (error : CapacityError)
  | panic (message : String)

/-- The state of the session. -/
structure FunctionBench where
  /-- The queue. -/
  functions : FunctionQueue Nat
  /-- The operations that were handed back. -/
  held : List Nat := []
  /-- The numbers whose operations panic. -/
  doomed : List Nat := []

/-- What a step shows. -/
structure FunctionShown where
  /-- The answer. -/
  reply : FunctionReply
  /-- The runs and drops. -/
  lives : List (Life Nat)

namespace FunctionBench

/-- How an operation panics when it runs. -/
def panics (bench : FunctionBench) (id : Nat) : Option String :=
  if id ∈ bench.doomed then some s!"op {id} panicked" else none

/-- The bench once the panics of a step are known. -/
def warned (bench : FunctionBench) (spec : OperationSpec) : FunctionBench :=
  if spec.panics then { bench with doomed := spec.id :: bench.doomed } else bench

/-- Takes over what a step of the queue leaves. -/
def settle {α : Type} (bench : FunctionBench) (turn : Turn Nat α) (reply : α → FunctionReply) :
    FunctionShown × FunctionBench :=
  let answer :=
    match turn.answer with
    | .ok value => reply value
    | .error message => .panic message
  ({ reply := answer, lives := turn.lives }, { bench with functions := turn.queue })

/-- Takes a step. -/
def take (bench : FunctionBench) : FunctionStep → FunctionShown × FunctionBench
  | .push spec =>
      let bench := bench.warned spec
      bench.settle (bench.functions.push spec.shown spec.footprint) fun () => .done
  | .tryPush spec =>
      let bench := bench.warned spec
      bench.settle (bench.functions.tryPush spec.shown spec.footprint) fun
        | .ok () => .done
        | .error full => .full full
  | .tryPushOperation spec =>
      let bench := bench.warned spec
      let turn := bench.functions.tryPushOperation spec.shown spec.footprint
      let kept :=
        match turn.answer with
        | .ok true => { bench with held := bench.held ++ [spec.shown] }
        | _ => bench
      kept.settle turn fun refused => if refused then .handedBack else .done
  | .runHeld =>
      let housing := bench.functions.housing
      let (lives, unreached, panic) := FunctionQueue.runAll housing bench.panics bench.held
      let reply :=
        match panic with
        | some message => .panic message
        | none => .count bench.held.length
      ({ reply, lives := lives ++ housing.discardAll unreached }, { bench with held := [] })
  | .dropHeld =>
      ({ reply := .silent, lives := bench.functions.housing.discardAll bench.held },
        { bench with held := [] })
  | .runOne | .popRun => bench.settle (bench.functions.runOne bench.panics) .flag
  | .runAll => bench.settle (bench.functions.drain bench.panics) .count
  | .popDrop => bench.settle bench.functions.popDrop .flag
  | .clear => bench.settle bench.functions.clear fun () => .silent

/-- The drops at the end of the session: the queue, oldest operation first, then those kept. -/
def teardown (bench : FunctionBench) : List (Life Nat) :=
  bench.functions.clear.lives ++ bench.functions.housing.discardAll bench.held

end FunctionBench

end Reactor.Session

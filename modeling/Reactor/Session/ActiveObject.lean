import Reactor.Dispatch.ActiveObject
import Reactor.Session.Executor

/-!
# Sessions with an active object

After every step the worker goes on until it can do nothing more: it then waits with nothing to
take, is held by an item, has run its last hook or is dead.
-/

namespace Reactor.Session

/-- An item of an active object. -/
inductive ActiveItem where
  /-- A piece of work. -/
  | single (job : Job)
  /-- An item that enqueues the rest of its chain, if any is left, and then runs through. -/
  | chain (id length : Nat)

namespace ActiveItem

/-- The number of the item. -/
def id : ActiveItem → Nat
  | single job => job.id
  | chain id _ => id

/-- How many items are processed because of this one, at most. -/
def effort : ActiveItem → Nat
  | single _ => 1
  | chain _ length => length + 1

end ActiveItem

/-- A step of a session with an active object. -/
inductive ActiveStep where
  /-- Enqueues an item; panics if there is no room. -/
  | enqueue (item : ActiveItem)
  /-- Enqueues an item, or says why it is refused. -/
  | tryEnqueue (item : ActiveItem)
  /-- Lets a held item go on. -/
  | release
  /-- Shuts the object down. -/
  | shutdown
  /-- Holds an item, enqueues others, and shuts the object down from the first. -/
  | shutdownFromWorker (id : Nat) (pending : List Nat)
  /-- Drops the object. -/
  | drop

/-- An active object with the number of items that it has processed. -/
structure ActiveBench where
  /-- The object. -/
  object : ActiveObject ActiveItem
  /-- How many items its worker has begun to process. -/
  processed : Nat := 0

/-- What happens on and around a worker, and what it leaves. -/
structure ActiveTurn where
  /-- The object after it. -/
  bench : ActiveBench
  /-- The marks, in order. -/
  marks : List WorkMark := []
  /-- The reports, in order. -/
  notes : List DispatchNote := []

namespace ActiveTurn

/-- One turn after another. -/
def andThen (turn : ActiveTurn) (next : ActiveBench → ActiveTurn) : ActiveTurn :=
  let following := next turn.bench
  { bench := following.bench
    marks := turn.marks ++ following.marks
    notes := turn.notes ++ following.notes }

end ActiveTurn

namespace ActiveBench

/-- The bench with its object changed. -/
def withObject (bench : ActiveBench) (object : ActiveObject ActiveItem) : ActiveBench :=
  { bench with object }

/-- The item that the worker processes comes to its end. -/
def complete (bench : ActiveBench) (id : Nat) : ActiveTurn :=
  { bench := bench.withObject bench.object.finish, marks := [.ran id] }

/-- Enqueues an item and answers why it was refused, if it was; a refused item is dropped. -/
def offer (bench : ActiveBench) (item : ActiveItem) : Option DispatchError × ActiveTurn :=
  match bench.object.enqueue item with
  | .ok grown => (none, { bench := bench.withObject grown })
  | .error error => (some error, { bench, marks := [.dropped item.id] })

/-- Enqueues an item that must not be refused for want of room: the message of a panic, if it is.
A shutdown is only reported. -/
def insist (bench : ActiveBench) (item : ActiveItem) : Option String × ActiveTurn :=
  match bench.offer item with
  | (none, turn) => (none, turn)
  | (some .shutDown, turn) =>
      (none, { turn with notes := [.tooLate bench.object.config.name] })
  | (some error, turn) => (some (bench.object.refusal error), turn)

/-- What an item does once the worker has taken it, short of holding the worker. -/
def process (bench : ActiveBench) : ActiveItem → ActiveTurn
  | .single { id, kind := .run } => bench.complete id
  | .single { id := _, kind := .hold } => { bench }
  | .single { id, kind := .panic } =>
      { bench := bench.withObject bench.object.crash, marks := [.ran id] }
  | .chain id 0 => bench.complete id
  | .chain id (length + 1) =>
      match bench.insist (.chain id length) with
      | (none, turn) => turn.andThen fun bench => bench.complete id
      | (some _, turn) => { turn with bench := turn.bench.withObject turn.bench.object.crash }

/-- What becomes of an event on the worker. -/
def onEvent (bench : ActiveBench) : ActiveEvent ActiveItem → ActiveTurn
  | .started => { bench, marks := [.started bench.object.config.name] }
  | .processes item => process { bench with processed := bench.processed + 1 } item
  | .stopped => { bench, marks := [.stopped bench.processed] }

/-- Lets the worker take steps, at most `budget` of them. -/
def settleWithin : Nat → ActiveBench → ActiveTurn
  | 0, bench => { bench }
  | budget + 1, bench =>
      match bench.object.step? with
      | none => { bench }
      | some (event, object) =>
          ((bench.withObject object).onEvent event).andThen (settleWithin budget)

/-- How many steps the worker can take at most: one for every item there will be, and its two
hooks. -/
def effort (bench : ActiveBench) : Nat :=
  bench.object.work.queue.items.foldl (fun total item => total + item.effort) 2

/-- Lets the worker go on until it can do nothing more. -/
def settle (bench : ActiveBench) : ActiveTurn := settleWithin bench.effort bench

/-- Lets a held item come to its end. -/
def unhold (bench : ActiveBench) : ActiveTurn :=
  match bench.object.current? with
  | some item => bench.complete item.id
  | none => { bench }

/-- Drops what waits, and reports with the number of items dropped. -/
def discard (bench : ActiveBench) (notes : Nat → List DispatchNote) : ActiveTurn :=
  let (dropped, object) := bench.object.discard
  { bench := bench.withObject object
    marks := dropped.map fun item => .dropped item.id
    notes := notes dropped.length }

/-- Closes the object from outside and waits for its worker; then `after` happens to what waits.
Nothing happens if the object was closed before. -/
def closeDown (bench : ActiveBench) (after : ActiveBench → ActiveTurn) : ActiveTurn :=
  match bench.object.close with
  | (false, _) => { bench }
  | (true, closed) =>
      let ended := (bench.withObject closed).unhold.andThen settle
      let waited := ended.andThen fun bench => { bench, notes := bench.object.farewell }
      waited.andThen after

/-- Enqueues items that run through while the worker is held. -/
def offerAll : List Nat → ActiveBench → List Reply × ActiveTurn
  | [], bench => ([], { bench })
  | id :: ids, bench =>
      let (refusal, turn) := bench.offer (.single { id, kind := .run })
      let (replies, rest) := offerAll ids turn.bench
      (.ofSubmission refusal :: replies, turn.andThen fun _ => rest)

/-- Closes the object from the item that its worker processes and drops what waits; the worker is
not waited for. -/
def closeFromWithin (bench : ActiveBench) : ActiveTurn :=
  match bench.object.close with
  | (false, _) => { bench }
  | (true, closed) =>
      let name := bench.object.config.name
      (bench.withObject closed).discard fun count =>
        [.tornDownFromWithin name, .objectShutDown name count]

/-- Holds an item, enqueues others behind it and shuts the object down from it. -/
def shutdownFromWorker (bench : ActiveBench) (id : Nat) (pending : List Nat) :
    Reply × ActiveTurn :=
  match bench.offer (.single { id, kind := .hold }) with
  | (some error, turn) => (.failed (.dispatch error), turn)
  | (none, turn) =>
      let held := turn.andThen settle
      let (replies, filled) := offerAll pending held.bench
      let closed := (held.andThen fun _ => filled).andThen closeFromWithin
      let left := closed.andThen fun bench =>
        { bench := bench.withObject bench.object.finish, marks := [.left id] }
      (.several replies, left.andThen settle)

end ActiveBench

/-- The session's object, until it is dropped. -/
abbrev ActiveSession := Option ActiveBench

namespace ActiveSession

/-- Shows a turn. -/
def shown (reply : Reply) (turn : ActiveTurn) : WorkShown × ActiveSession :=
  ({ reply, marks := turn.marks, notes := turn.notes }, some turn.bench)

/-- Takes a step with an object that has not been dropped. -/
def takeWith (bench : ActiveBench) : ActiveStep → WorkShown × ActiveSession
  | .enqueue item =>
      let (panic, turn) := bench.insist item
      let reply :=
        match panic with
        | some message => .failed (.panic message)
        | none => .done
      shown reply (turn.andThen ActiveBench.settle)
  | .tryEnqueue item =>
      let (refusal, turn) := bench.offer item
      shown (.ofSubmission refusal) (turn.andThen ActiveBench.settle)
  | .release => shown .silent (bench.unhold.andThen ActiveBench.settle)
  | .shutdown =>
      shown .silent <| bench.closeDown fun bench =>
        bench.discard fun count => [.objectShutDown bench.object.config.name count]
  | .shutdownFromWorker id pending =>
      let (reply, turn) := bench.shutdownFromWorker id pending
      shown reply turn
  | .drop =>
      let turn := bench.closeDown fun bench =>
        bench.discard fun _ => [.objectStopped bench.object.config.name]
      ({ reply := .silent, marks := turn.marks, notes := turn.notes }, none)

/-- Takes a step. -/
def take : ActiveSession → ActiveStep → WorkShown × ActiveSession
  | some bench, step => takeWith bench step
  | none, _ => ({ reply := .missing "active object" }, none)

/-- An object whose worker has run its first hook, and what that shows. -/
def start (config : ActiveConfig) (capacity : Capacity) : ActiveTurn :=
  let turn := ActiveBench.settle { object := .new config capacity }
  { turn with notes := [.objectStarted config.name] }

end ActiveSession

end Reactor.Session

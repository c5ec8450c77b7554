import Reactor.Fifo
import Reactor.Guarded
import Reactor.Roster
import Reactor.Session.Scan
import Reactor.Timer.ScheduledQueue

/-!
# Sessions with containers

Queues, rosters, the heap of scheduled timers and a guarded number, each put through a script of
steps.
-/

namespace Reactor

namespace Session

/-- The answer of a container that holds values `α`. -/
inductive ContainerReply (α : Type) where
  /-- The step has no answer. -/
  | silent
  /-- The step succeeded. -/
  | done
  /-- A value was refused. -/
  | rejected (value : α)
  /-- A value, if there was one. -/
  | value (value : Option α)
  /-- Yes or no. -/
  | flag (value : Bool)
  /-- The error that a refusal would report. -/
  | full (error : CapacityError)
  /-- There is nothing at the given index. -/
  | outOfRange

/-- A step of a session with a queue. -/
inductive QueueStep (α : Type) where
  /-- Appends a value. -/
  | push (value : α)
  /-- Takes the oldest value. -/
  | pop
  /-- Gives up every value. -/
  | clear
  /-- Asks for the error that a refusal would report. -/
  | fullError

/-- Takes a step with a queue. -/
def QueueStep.take {α : Type} (queue : Fifo α) : QueueStep α → ContainerReply α × Fifo α
  | push value =>
      match queue.push? value with
      | some grown => (.done, grown)
      | none => (.rejected value, queue)
  | pop =>
      match queue.pop? with
      | some (value, rest) => (.value (some value), rest)
      | none => (.value none, queue)
  | clear => (.silent, queue.clear)
  | fullError => (.full queue.fullError, queue)

/-- A step of a session with a roster. -/
inductive RosterStep (α : Type) where
  /-- Appends a value. -/
  | push (value : α)
  /-- Takes the last value. -/
  | pop
  /-- Takes the value at an index and keeps the others in order. -/
  | remove (index : Nat)
  /-- Takes the value at an index and moves the last one there. -/
  | swapRemove (index : Nat)
  /-- Replaces the value at an index. -/
  | set (index : Nat) (value : α)

namespace RosterStep

variable {α : Type}

/-- The outcome of taking a value out. -/
def taken (roster : Roster α) : Option (α × Roster α) → ContainerReply α × Roster α
  | some (value, rest) => (.value (some value), rest)
  | none => (.outOfRange, roster)

/-- Takes a step with a roster. -/
def take (roster : Roster α) : RosterStep α → ContainerReply α × Roster α
  | push value =>
      match roster.push? value with
      | some grown => (.done, grown)
      | none => (.rejected value, roster)
  | pop =>
      match roster.pop? with
      | some (value, rest) => (.value (some value), rest)
      | none => (.value none, roster)
  | remove index => taken roster (roster.remove? index)
  | swapRemove index => taken roster (roster.swapRemove? index)
  | set index value =>
      if index < roster.size then (.silent, roster.set index value) else (.outOfRange, roster)

end RosterStep

/-- A step of a session with a heap of scheduled timers. -/
inductive HeapStep where
  /-- Inserts an id. -/
  | push (id : TimerId)
  /-- Removes the id in front. -/
  | pop
  /-- Removes an id. -/
  | remove (id : TimerId)
  /-- Asks whether an id is scheduled. -/
  | contains (id : TimerId)
  /-- Changes the key of an id and leaves the heap alone. -/
  | setKey (id : TimerId) (key : Ticks)
  /-- Restores heap order after the key in front has grown. -/
  | siftFront
  /-- Changes the key of the id in front and restores heap order. -/
  | reload (key : Ticks)
  /-- Removes every id. -/
  | clear

/-- A heap with the keys of its ids. -/
structure KeyedHeap where
  /-- The heap. -/
  queue : ScheduledQueue
  /-- The keys by index of the id. -/
  keys : Array Ticks

namespace KeyedHeap

/-- The key of an id. -/
def key (heap : KeyedHeap) (id : TimerId) : Ticks := heap.keys.getD id.index .max

/-- Whether the heap is in order. -/
def isHeap (heap : KeyedHeap) : Bool := heap.queue.isHeap heap.key

/-- Changes a key. -/
def setKey (heap : KeyedHeap) (id : TimerId) (key : Ticks) : KeyedHeap :=
  { heap with keys := heap.keys.setIfInBounds id.index key }

/-- Restores heap order after the key in front has grown. -/
def siftFront (heap : KeyedHeap) : KeyedHeap :=
  { heap with queue := heap.queue.siftFront heap.key }

/-- Takes a step with a heap. -/
def take (heap : KeyedHeap) : HeapStep → ContainerReply TimerId × KeyedHeap
  | .push id =>
      match heap.queue.push? heap.key id with
      | some queue => (.done, { heap with queue })
      | none => (.rejected id, heap)
  | .pop =>
      match heap.queue.popFront? heap.key with
      | some (id, queue) => (.value (some id), { heap with queue })
      | none => (.value none, heap)
  | .remove id =>
      match heap.queue.remove? heap.key id with
      | some queue => (.flag true, { heap with queue })
      | none => (.flag false, heap)
  | .contains id => (.flag (heap.queue.contains id), heap)
  | .setKey id key => (.silent, heap.setKey id key)
  | .siftFront => (.silent, heap.siftFront)
  | .reload key =>
      match heap.queue.front? with
      | some front => (.silent, (heap.setKey front key).siftFront)
      | none => (.silent, heap)
  | .clear => (.silent, { heap with queue := heap.queue.clear })

end KeyedHeap

end Session

namespace Guarded

/-- Adds to a number under its lock and shows the sum, which wraps around at 64 bits. -/
def add (guarded : Guarded Int64) (amount : Int64) : Int64 × Guarded Int64 :=
  guarded.withLock fun value => (value + amount, value + amount)

/-- Adds numbers one after the other and shows every sum. -/
def addAll (guarded : Guarded Int64) (amounts : List Int64) : List Int64 × Guarded Int64 :=
  ((Session.scan add guarded amounts).map Prod.fst, Session.after add guarded amounts)

end Guarded

end Reactor

import Reactor.Event
import Reactor.Log
import Reactor.Roster
import Reactor.Slot

/-!
# The subscriber registry

The registry maps signals to lists of subscribers in the order in which they subscribed.  A signal
has a row only while it has a subscriber.  Each subscription has an id that is not given out again
until the ids wrap around.
-/

namespace Reactor

/-- The number of a subscription within its center. -/
structure SubscriberId where
  /-- The number itself. -/
  raw : UInt32
deriving DecidableEq, Inhabited

/-- The written form of a subscriber id. -/
def SubscriberId.text (id : SubscriberId) : String := s!"sub#{id.raw.toNat}"

/-- A registered callback `κ`. -/
structure Subscriber (κ : Type) where
  /-- The id of the subscription. -/
  id : SubscriberId
  /-- What to run for an event. -/
  callback : κ

/-- Why a subscription fails. -/
inductive SubscribeError where
  /-- Every row for a signal is taken. -/
  | signalTableFull (capacity : Nat)
  /-- Every place in the signal's list is taken. -/
  | subscriberListFull (signal : Signal) (capacity : Nat)
deriving DecidableEq

/-- What a subscription error says. -/
def SubscribeError.message : SubscribeError → String
  | signalTableFull capacity => s!"signal table is full (capacity {capacity})"
  | subscriberListFull signal capacity =>
      s!"subscriber list for {signal.text} is full (capacity {capacity})"

/-- A report of an event center. -/
inductive EventNote where
  /-- A subscription has been made. -/
  | subscribed (id : SubscriberId) (signal : Signal)
  /-- A subscription has been removed. -/
  | unsubscribed (id : SubscriberId) (signal : Signal)
  /-- A handle was released before. -/
  | alreadyReleased (signal : Signal)
  /-- A handle of another center was given back here. -/
  | foreignHandle (signal : Signal)
  /-- An event goes to a number of subscribers. -/
  | published (signal : Signal) (count : Nat)

/-- The log record of a report. -/
def EventNote.record : EventNote → LogRecord
  | subscribed id signal => ⟨.debug, s!"{id.text} subscribed to {signal.text}"⟩
  | unsubscribed id signal => ⟨.debug, s!"{id.text} unsubscribed from {signal.text}"⟩
  | alreadyReleased signal => ⟨.debug, s!"handle for {signal.text} already released"⟩
  | foreignHandle signal =>
      ⟨.warn, s!"unsubscribe from {signal.text}: handle belongs to another event center"⟩
  | published signal count => ⟨.trace, s!"publish {signal.text} to {count} subscriber(s)"⟩

/-- The containers of an event center. -/
structure SubscriberStorage where
  /-- How many signals may have subscribers at a time. -/
  signals : Capacity
  /-- How many subscribers one signal may have. -/
  subscribers : Capacity
  /-- How callbacks are kept. -/
  housing : Housing

namespace SubscriberStorage

/-- Storage that grows, with callbacks on the heap. -/
def growing : SubscriberStorage :=
  { signals := .unbounded, subscribers := .unbounded, housing := .boxed }

/-- Storage for a number of signals with a number of subscribers each, and callbacks in inline
slots of `words` words. -/
def fixed (signals subscribers words : Nat) : SubscriberStorage :=
  { signals := .bounded signals, subscribers := .bounded subscribers, housing := .inline words }

end SubscriberStorage

/-- The row of a signal: its subscribers, oldest first. -/
abbrev SignalRow (κ : Type) := Signal × Roster (Subscriber κ)

/-- The subscriptions of an event center. -/
structure Registry (κ : Type) where
  /-- How callbacks are kept. -/
  housing : Housing
  /-- How many subscribers one signal may have. -/
  listCapacity : Capacity
  /-- The rows of the signals that have subscribers. -/
  table : Roster (SignalRow κ)
  /-- The id of the next subscription. -/
  nextId : UInt32 := 0

namespace Registry

variable {κ : Type}

/-- A registry without subscriptions. -/
def new (storage : SubscriberStorage) : Registry κ where
  housing := storage.housing
  listCapacity := storage.subscribers
  table := .empty storage.signals

/-- The position of a signal's row. -/
def find? (table : Roster (SignalRow κ)) (signal : Signal) : Option Nat :=
  table.entries.findIdx? fun row => row.1 == signal

/-- The subscribers of a signal, oldest first. -/
def subscribers (registry : Registry κ) (signal : Signal) : List (Subscriber κ) :=
  match (find? registry.table signal).bind registry.table.get? with
  | some row => row.2.entries.toList
  | none => []

/-- The table with a row for a signal, and the position of the row; a full table refuses a new
row. -/
def ensureRow? (registry : Registry κ) (signal : Signal) :
    Option (Roster (SignalRow κ) × Nat) :=
  match find? registry.table signal with
  | some index => some (registry.table, index)
  | none =>
      (registry.table.push? (signal, .empty registry.listCapacity)).map fun table =>
        (table, registry.table.size)

/-- The table after row `index` got a new list; an empty list takes its row with it, and the last
row moves into its place. -/
def replaceRow (table : Roster (SignalRow κ)) (index : Nat) (signal : Signal)
    (list : Roster (Subscriber κ)) : Roster (SignalRow κ) :=
  if list.isEmpty then ((table.swapRemove? index).map Prod.snd).getD table
  else table.set index (signal, list)

/-- Registers a callback for a signal.  The next id is used up even if there is no room. -/
def subscribe (registry : Registry κ) (signal : Signal) (callback : κ) :
    Registry κ × Except SubscribeError SubscriberId :=
  let id : SubscriberId := ⟨registry.nextId⟩
  let counted := { registry with nextId := registry.nextId + 1 }
  match registry.ensureRow? signal with
  | none => (counted, .error (.signalTableFull registry.table.capacity.limit))
  | some (table, index) =>
      match table.get? index with
      | none => ({ counted with table }, .ok id)
      | some (_, list) =>
          match list.push? { id, callback } with
          | some grown => ({ counted with table := table.set index (signal, grown) }, .ok id)
          | none =>
              ({ counted with table := replaceRow table index signal list },
                .error (.subscriberListFull signal list.capacity.limit))

/-- Removes a subscription and answers whether there was one. -/
def unsubscribe (registry : Registry κ) (signal : Signal) (id : SubscriberId) :
    Registry κ × Bool :=
  let removed : Option (Roster (SignalRow κ)) := do
    let index ← find? registry.table signal
    let (_, list) ← registry.table.get? index
    let position ← list.entries.findIdx? fun subscriber => subscriber.id == id
    let (_, rest) ← list.remove? position
    return replaceRow registry.table index signal rest
  match removed with
  | some table => ({ registry with table }, true)
  | none => (registry, false)

/-- Whether a subscription is registered. -/
def isSubscribed (registry : Registry κ) (signal : Signal) (id : SubscriberId) : Bool :=
  (registry.subscribers signal).any fun subscriber => subscriber.id == id

/-- The subscribers that an event of a signal goes to, copied into a list of the same capacity. -/
def snapshot (registry : Registry κ) (signal : Signal) : List (Subscriber κ) :=
  let copy := (registry.subscribers signal).foldl
    (fun list subscriber => (list.push? subscriber).getD list)
    (Roster.empty registry.listCapacity)
  copy.entries.toList

/-- The number of subscribers of a signal. -/
def subscriberCount (registry : Registry κ) (signal : Signal) : Nat :=
  (registry.subscribers signal).length

/-- The number of signals that have subscribers. -/
def signalCount (registry : Registry κ) : Nat := registry.table.size

end Registry

end Reactor

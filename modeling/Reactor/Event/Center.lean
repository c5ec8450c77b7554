import Reactor.Dispatcher
import Reactor.Event.Registry

/-!
# Event centers

An event center keeps a registry and hands every published event to the subscribers that its signal
has at that moment.  A delivery looks its subscription up again before it runs, so a subscriber
that has gone in the meantime does not see the event.
-/

namespace Reactor

/-- What stands for a subscription: it names its center, and no longer names the subscription once
it has been released. -/
structure EventHandle where
  /-- The center that gave it out. -/
  center : Nat
  /-- The signal subscribed to. -/
  signal : Signal
  /-- The subscription, until it is released. -/
  id : Option SubscriberId
deriving DecidableEq

/-- An event on its way to a subscriber. -/
structure Delivery (κ : Type) where
  /-- The center it was published at. -/
  center : Nat
  /-- Whom it goes to. -/
  subscriber : Subscriber κ
  /-- The event. -/
  event : Notice

/-- An event center in its surroundings. -/
structure EventCenter (σ κ : Type) where
  /-- Tells this center from others. -/
  number : Nat
  /-- The registry within the state. -/
  registry : Part σ (Registry κ)
  /-- Whether the center has not been dropped. -/
  alive : Part σ Bool
  /-- Takes a report. -/
  report : EventNote → Exec σ Unit
  /-- Takes the events for subscribers. -/
  dispatcher : Dispatcher σ (Delivery κ)
  /-- Runs a callback for an event. -/
  call : κ → Notice → Exec σ Unit

namespace EventCenter

variable {σ κ : Type}

/-- Registers a callback, or says why there is no room.  A callback that does not fit panics. -/
def trySubscribe (center : EventCenter σ κ) (signal : Signal) (footprint : Footprint)
    (callback : κ) : Exec σ (Except SubscribeError EventHandle) := do
  let registry ← center.registry.read
  match registry.housing.misfit? footprint with
  | some misfit => Exec.panic misfit.message
  | none =>
      let (next, result) := registry.subscribe signal callback
      center.registry.write next
      match result with
      | .error error => return .error error
      | .ok id =>
          center.report (.subscribed id signal)
          return .ok { center := center.number, signal, id := some id }

/-- Registers a callback; panics if there is no room. -/
def subscribe (center : EventCenter σ κ) (signal : Signal) (footprint : Footprint)
    (callback : κ) : Exec σ EventHandle := do
  match ← center.trySubscribe signal footprint callback with
  | .ok handle => return handle
  | .error error => Exec.panic s!"event center: {error.message}"

/-- Releases a handle of this center: removes its subscription, and answers whether it was
registered. -/
def reset (center : EventCenter σ κ) (handle : EventHandle) : Exec σ (EventHandle × Bool) := do
  match handle.id with
  | none =>
      center.report (.alreadyReleased handle.signal)
      return (handle, false)
  | some id =>
      let (next, removed) := (← center.registry.read).unsubscribe handle.signal id
      center.registry.write next
      center.report (.unsubscribed id handle.signal)
      return ({ handle with id := none }, removed)

/-- Releases a handle, unless it belongs to another center. -/
def unsubscribe (center : EventCenter σ κ) (handle : EventHandle) :
    Exec σ (EventHandle × Bool) := do
  if handle.center ≠ center.number then
    center.report (.foreignHandle handle.signal)
    return (handle, false)
  else center.reset handle

/-- Runs the callback of a delivery, if the center still lives and the subscription is still
registered. -/
def deliver (center : EventCenter σ κ) (delivery : Delivery κ) : Exec σ Unit := do
  let registered :=
    (← center.registry.read).isSubscribed delivery.event.signal delivery.subscriber.id
  if (← center.alive.read) && registered then
    center.call delivery.subscriber.callback delivery.event

/-- Hands an event over to every subscriber of its signal, oldest first, and answers how many there
are. -/
def publish (center : EventCenter σ κ) (event : Notice) : Exec σ Nat := do
  let subscribers := (← center.registry.read).snapshot event.signal
  center.report (.published event.signal subscribers.length)
  subscribers.forM fun subscriber =>
    center.dispatcher.dispatch center.deliver { center := center.number, subscriber, event }
  return subscribers.length

end EventCenter

end Reactor

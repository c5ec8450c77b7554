import Reactor.Session.Stage

/-!
# Sessions with event centers

Several event centers share one waiting list; each has a registry and an interrupt queue of its own.
Subscriptions are held by handles with names.
-/

namespace Reactor.Session

/-- A step of a session with event centers.  A step that works at a center names it by number. -/
inductive EventStep (τ : Type) where
  /-- Subscribes; panics if there is no room. -/
  | subscribe (center : Nat) (name : String) (signal : Signal) (script : Script τ (EventStep τ))
  /-- Subscribes, or says that there is no room. -/
  | trySubscribe (center : Nat) (name : String) (signal : Signal)
      (script : Script τ (EventStep τ))
  /-- Publishes an event. -/
  | publish (center : Nat) (event : Notice)
  /-- Asks for the number of subscribers of a signal. -/
  | subscriberCount (center : Nat) (signal : Signal)
  /-- Asks a center to release a handle. -/
  | unsubscribe (center : Nat) (name : String)
  /-- Releases a handle, which keeps its name. -/
  | reset (name : String)
  /-- Gives up a handle and its name. -/
  | drop (name : String)
  /-- Gives up the name of a handle; its subscription stays. -/
  | forget (name : String)
  /-- Runs waiting callbacks. -/
  | pump (center : Nat) (pump : Pump)
  /-- Drops a center and forgets its handles. -/
  | dropCenter (center : Nat)
  /-- Panics. -/
  | panic (message : String)

namespace Events

variable {τ : Type}

/-- A subscribed callback. -/
abbrev Call (τ : Type) := Hook τ (EventStep τ)

/-- What a center consists of. -/
structure Site (τ : Type) where
  /-- The subscriptions. -/
  registry : Registry (Call τ)
  /-- Whether the center has not been dropped. -/
  alive : Bool := true
  /-- The interrupt queue of the center's dispatcher. -/
  interrupts : InterruptQueue (Delivery (Call τ))

/-- The component of the session. -/
structure Bench (τ : Type) where
  /-- The site of a number that has no center: one that has been dropped. -/
  vacant : Site τ
  /-- The centers by number. -/
  sites : Array (Site τ)
  /-- The handle behind each name. -/
  handles : List (String × EventHandle) := []

/-- The state of the session. -/
abbrev World (τ : Type) := Stage τ (Delivery (Call τ)) (Bench τ)

/-- How a session is set up. -/
structure Setup where
  /-- Where deliveries go. -/
  routing : Routing
  /-- The containers of each center. -/
  storage : SubscriberStorage
  /-- How many centers there are. -/
  centers : Nat

/-- The handles as a part of the session. -/
def handlesPart : Part (World τ) (List (String × EventHandle)) :=
  Stage.componentPart.andThen
    { get := Bench.handles, set := fun handles bench => { bench with handles } }

/-- A center as a part of the session. -/
def sitePart (number : Nat) : Part (World τ) (Site τ) :=
  Stage.componentPart.andThen
    { get := fun bench => bench.sites.getD number bench.vacant
      set := fun site bench => { bench with sites := bench.sites.setIfInBounds number site } }

/-- Whether a center lives, as a part of the session. -/
def alivePart (number : Nat) : Part (World τ) Bool :=
  (sitePart number).andThen
    { get := Site.alive, set := fun alive site => { site with alive } }

/-- The interrupt queue of a center as a part of the session. -/
def interruptsPart (number : Nat) : Part (World τ) (InterruptQueue (Delivery (Call τ))) :=
  (sitePart number).andThen
    { get := Site.interrupts, set := fun interrupts site => { site with interrupts } }

/-- The dispatcher of a center. -/
def dispatcher (routing : Routing) (number : Nat) :
    Dispatcher (World τ) (Delivery (Call τ)) :=
  routing.dispatcher Stage.backlogPart (interruptsPart number)

/-- A center in the session, given how callbacks perform their steps. -/
def center (routing : Routing) (perform : EventStep τ → Exec (World τ) Reply) (number : Nat) :
    EventCenter (World τ) (Call τ) where
  number
  registry :=
    (sitePart number).andThen
      { get := Site.registry, set := fun registry site => { site with registry } }
  alive := alivePart number
  report note := Stage.report note.record
  dispatcher := dispatcher routing number
  call hook event := Stage.play perform hook (.got hook.tag event)

/-- The handles without a name. -/
def without (name : String) (handles : List (String × EventHandle)) :
    List (String × EventHandle) :=
  handles.filter fun entry => entry.1 ≠ name

/-- Puts a handle behind a name. -/
def bindName (name : String) (handle : EventHandle) : Exec (World τ) Unit :=
  handlesPart.update fun handles => (name, handle) :: without name handles

/-- Performs an operation on a named handle, and puts back the handle it leaves. -/
def onHandle (name : String) (operation : EventHandle → Exec (World τ) (EventHandle × Bool)) :
    Exec (World τ) Reply := do
  match (← handlesPart.read).lookup name with
  | none => return .missing "handle"
  | some handle =>
      let (next, answer) ← operation handle
      bindName name next
      return .flag answer

/-- Releases a handle at the center it belongs to. -/
def release (centers : Nat → EventCenter (World τ) (Call τ)) (handle : EventHandle) :
    Exec (World τ) (EventHandle × Bool) :=
  (centers handle.center).reset handle

/-- Gives a name to a new subscription; the handle that had the name is released afterwards. -/
def bindNew (centers : Nat → EventCenter (World τ) (Call τ)) (name : String)
    (handle : EventHandle) : Exec (World τ) Reply := do
  let old := (← handlesPart.read).lookup name
  bindName name handle
  match old with
  | none => pure ()
  | some old =>
      let _ ← release centers old
      pure ()
  return .ofText? (handle.id.map SubscriberId.text)

/-- Gives up a name, and releases its handle if asked to. -/
def dropName (centers : Nat → EventCenter (World τ) (Call τ)) (name : String)
    (releases : Bool) : Exec (World τ) Reply := do
  match (← handlesPart.read).lookup name with
  | none => return .missing "handle"
  | some handle =>
      handlesPart.update (without name)
      if releases then
        let _ ← release centers handle
        pure ()
      return .silent

/-- Drops a center: its handles are forgotten, and what waits in its interrupt queue goes with
it. -/
def dropCenter (number : Nat) : Exec (World τ) Reply := do
  handlesPart.update fun handles => handles.filter fun entry => entry.2.center ≠ number
  (alivePart number).write false
  (interruptsPart number).update fun interrupts =>
    { interrupts with queue := interrupts.queue.clear }
  return .silent

/-- Performs `operation` at a center, if it has not been dropped. -/
def atCenter (number : Nat) (operation : Exec (World τ) Reply) : Exec (World τ) Reply := do
  if ← (alivePart number).read then operation else return .missing "center"

/-- Performs a step; `depth` bounds how deep callbacks nest, and `outermost` tells the steps of the
session from those of callbacks. -/
def perform (setup : Setup) : Nat → Bool → EventStep τ → Exec (World τ) Reply
  | 0, _, _ => throw .exhausted
  | depth + 1, outermost, step => do
      let centers := center setup.routing (perform setup depth false)
      let deliver (delivery : Delivery (Call τ)) : Exec (World τ) Unit :=
        (centers delivery.center).deliver delivery
      match step with
      | .subscribe number name signal script =>
          atCenter number do
            let callback ← Stage.register script
            let footprint := Footprint.ofWords script.words
            bindNew centers name (← (centers number).subscribe signal footprint callback)
      | .trySubscribe number name signal script =>
          atCenter number do
            let callback ← Stage.register script
            let footprint := Footprint.ofWords script.words
            match ← (centers number).trySubscribe signal footprint callback with
            | .ok handle => bindNew centers name handle
            | .error error => return .failed (.subscription error)
      | .publish number event =>
          atCenter number do return .count (← (centers number).publish event)
      | .subscriberCount number signal =>
          atCenter number do
            return .count ((← (sitePart number).read).registry.subscriberCount signal)
      | .unsubscribe number name =>
          atCenter number (onHandle name (centers number).unsubscribe)
      | .reset name => onHandle name (release centers)
      | .drop name => dropName centers name true
      | .forget name => dropName centers name false
      | .pump number pump =>
          if ← (alivePart number).read then pump.perform (dispatcher setup.routing number) deliver
          else return .count (← Dispatcher.pump Stage.backlogPart deliver pump.order ample pump.limit)
      | .dropCenter number =>
          atCenter number do if outermost then dropCenter number else return .busy
      | .panic message => Exec.panic message

/-- A session before its first step. -/
def start (setup : Setup) : World τ :=
  let site : Site τ := { registry := .new setup.storage, interrupts := setup.routing.interrupts }
  { component :=
      { vacant := { site with alive := false }
        sites := Array.replicate setup.centers site } }

/-- The number of callbacks that wait to be run at a center. -/
def pending (setup : Setup) (number : Nat) (world : World τ) : Nat :=
  (dispatcher setup.routing number).pending world

/-- Everything a script shows. -/
def run (setup : Setup) (steps : List (EventStep τ)) : List (Reply × World τ) :=
  Stage.run (perform setup ample true) (start setup) steps

end Events

end Reactor.Session

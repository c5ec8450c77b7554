import Reactor.Event.Center
import Reactor.Proofs.Deferral.Host
import Reactor.Proofs.Event.System

/-!
# Events whose callbacks wait

An event center is used from outside: callbacks are subscribed, handles released and events
published.  A delivery looks its subscription up when it runs, and no callback changes the registry,
so it finds the same whether it runs while the event is published or after that.
-/

namespace Reactor

/-- An event center as it is used from outside. -/
structure EventUse (κ : Type) where
  /-- The registry. -/
  registry : Registry κ
  /-- The handles that have been given out, in order. -/
  handles : List EventHandle := []

/-- A use of an event center; handles are named by their places. -/
inductive EventCall (κ : Type) where
  /-- Subscribes a callback; panics if there is no room. -/
  | subscribe (signal : Signal) (footprint : Footprint) (callback : κ)
  /-- Subscribes a callback, or says why there is no room. -/
  | trySubscribe (signal : Signal) (footprint : Footprint) (callback : κ)
  /-- Asks the center to release a handle. -/
  | unsubscribe (place : Nat)
  /-- Releases a handle. -/
  | reset (place : Nat)
  /-- Publishes an event. -/
  | publish (event : Notice)

/-- What a use of an event center answers. -/
inductive EventAnswer where
  /-- There is no such handle. -/
  | missing
  /-- The handle of a new subscription. -/
  | handle (handle : EventHandle)
  /-- There was no room. -/
  | refused (error : SubscribeError)
  /-- Whether a subscription was registered. -/
  | released (registered : Bool)
  /-- How many subscribers an event went to. -/
  | published (count : Nat)
deriving DecidableEq

namespace EventUse

open Host

variable {κ ω : Type}

/-- An event center in use, with the state `ω` of its callbacks. -/
abbrev World (κ ω : Type) := Host (EventUse κ) ω (κ × Notice) EventNote (Delivery κ)

/-- The registry as a part of the world. -/
def registryPart : Part (World κ ω) (Registry κ) :=
  componentPart.andThen { get := registry, set := fun registry use => { use with registry } }

/-- The handles as a part of the world. -/
def handlesPart : Part (World κ ω) (List EventHandle) :=
  componentPart.andThen { get := handles, set := fun handles use => { use with handles } }

/-- The center, which lives on, with its callbacks. -/
def center (effect : κ × Notice → ω → ω) (route : Route) : EventCenter (World κ ω) κ where
  number := 0
  registry := registryPart
  alive := { get := fun _ => true, set := fun _ world => world }
  report := report
  dispatcher := dispatcher route
  call callback event := play effect (callback, event)

/-- Keeps a new handle. -/
def keep (handle : EventHandle) : Exec (World κ ω) EventAnswer := do
  let handles ← handlesPart.read
  handlesPart.write (handles ++ [handle])
  return .handle handle

/-- Does something to a handle and puts back what that leaves of it. -/
def onHandle (place : Nat) (operation : EventHandle → Exec (World κ ω) (EventHandle × Bool)) :
    Exec (World κ ω) EventAnswer := do
  let handles ← handlesPart.read
  match handles[place]? with
  | none => return .missing
  | some handle =>
      let (next, registered) ← operation handle
      handlesPart.write (handles.set place next)
      return .released registered

/-- Uses an event center. -/
def perform (center : EventCenter (World κ ω) κ) : EventCall κ → Exec (World κ ω) EventAnswer
  | .subscribe signal footprint callback => do
      keep (← center.subscribe signal footprint callback)
  | .trySubscribe signal footprint callback => do
      match ← center.trySubscribe signal footprint callback with
      | .error error => return .refused error
      | .ok handle => keep handle
  | .unsubscribe place => onHandle place center.unsubscribe
  | .reset place => onHandle place center.reset
  | .publish event => return .published (← center.publish event)

variable {effect : κ × Notice → ω → ω} {route : Route} {world : World κ ω}

/-- The run of a callback that a delivery comes to. -/
def shown (delivery : Delivery κ) : κ × Notice := (delivery.subscriber.callback, delivery.event)

/-! ## What hands nothing over -/

theorem keepsWaiting_keep (handle : EventHandle) :
    KeepsWaiting (keep handle : Exec (World κ ω) EventAnswer) :=
  (KeepsWaiting.read _).bind fun _ => (KeepsWaiting.write _ _).bind fun _ => .pure _

theorem keepsWaiting_onHandle (place : Nat)
    {operation : EventHandle → Exec (World κ ω) (EventHandle × Bool)}
    (keeps : ∀ handle, KeepsWaiting (operation handle)) :
    KeepsWaiting (onHandle place operation) := by
  rw [onHandle]
  refine .bind (KeepsWaiting.read _) fun handles => ?_
  split
  · exact .pure _
  · exact (keeps _).bind fun _ => (KeepsWaiting.write _ _).bind fun _ => .pure _

theorem keepsWaiting_trySubscribe (signal : Signal) (footprint : Footprint) (callback : κ) :
    KeepsWaiting ((center effect route : EventCenter (World κ ω) κ).trySubscribe
      signal footprint callback) := by
  rw [EventCenter.trySubscribe]
  refine .bind (KeepsWaiting.read _) fun registry => ?_
  split
  · exact .panic _
  · rcases registry.subscribe signal callback with ⟨next, error | id⟩
    · exact .bind (KeepsWaiting.write _ _) fun _ => .pure _
    · exact .bind (KeepsWaiting.write _ _) fun _ => .bind (KeepsWaiting.report _) fun _ => .pure _

theorem keepsWaiting_subscribe (signal : Signal) (footprint : Footprint) (callback : κ) :
    KeepsWaiting ((center effect route : EventCenter (World κ ω) κ).subscribe
      signal footprint callback) := by
  apply (keepsWaiting_trySubscribe signal footprint callback).bind
  rintro (error | handle)
  · exact .panic _
  · exact .pure _

theorem keepsWaiting_reset (handle : EventHandle) :
    KeepsWaiting ((center effect route : EventCenter (World κ ω) κ).reset handle) := by
  rw [EventCenter.reset]
  cases handle.id with
  | none => exact (KeepsWaiting.report _).bind fun _ => .pure _
  | some id =>
      exact (KeepsWaiting.read _).bind fun _ => (KeepsWaiting.write _ _).bind fun _ =>
        (KeepsWaiting.report _).bind fun _ => .pure _

theorem keepsWaiting_unsubscribe (handle : EventHandle) :
    KeepsWaiting ((center effect route : EventCenter (World κ ω) κ).unsubscribe handle) := by
  rw [EventCenter.unsubscribe]
  split
  · exact (KeepsWaiting.report _).bind fun _ => .pure _
  · exact keepsWaiting_reset handle

theorem keepsWaiting_perform {call : EventCall κ} (silent : ∀ event, call ≠ .publish event) :
    KeepsWaiting (perform (center effect route : EventCenter (World κ ω) κ) call) := by
  cases call with
  | subscribe signal footprint callback =>
      exact (keepsWaiting_subscribe signal footprint callback).bind keepsWaiting_keep
  | trySubscribe signal footprint callback =>
      apply (keepsWaiting_trySubscribe signal footprint callback).bind
      rintro (error | handle)
      · exact .pure _
      · exact keepsWaiting_keep handle
  | unsubscribe place => exact keepsWaiting_onHandle place keepsWaiting_unsubscribe
  | reset place => exact keepsWaiting_onHandle place keepsWaiting_reset
  | publish event => exact absurd rfl (silent event)

/-! ## Publishing -/

theorem mem_subscribers_of_mem_snapshot {registry : Registry κ} {signal : Signal}
    {subscriber : Subscriber κ} (member : subscriber ∈ registry.snapshot signal) :
    subscriber ∈ registry.subscribers signal := by
  have copied : ∀ (subscribers : List (Subscriber κ)) (copy : Roster (Subscriber κ)),
      subscriber ∈ (subscribers.foldl
        (fun list subscriber => (list.push? subscriber).getD list) copy).entries →
      subscriber ∈ copy.entries ∨ subscriber ∈ subscribers := by
    intro subscribers
    induction subscribers with
    | nil => exact fun copy listed => Or.inl listed
    | cons head tail induction =>
        intro copy listed
        rcases induction _ listed with early | late
        · simp only [Roster.push?] at early
          split at early
          · rcases Array.mem_push.mp early with before | rfl
            · exact Or.inl before
            · exact Or.inr List.mem_cons_self
          · exact Or.inl early
        · exact Or.inr (List.mem_cons_of_mem _ late)
  rw [Registry.snapshot] at member
  rcases copied _ _ (Array.mem_toList_iff.mp member) with empty | listed
  · simp [Roster.empty] at empty
  · exact listed

/-- The deliveries of an event. -/
def deliveries (registry : Registry κ) (event : Notice) : List (Delivery κ) :=
  (registry.snapshot event.signal).map fun subscriber => { center := 0, subscriber, event }

/-- As long as the registry stays as it is, every delivery of an event runs its callback. -/
theorem delivers_of_mem {event : Notice} {delivery : Delivery κ}
    (member : delivery ∈ deliveries world.component.registry event) :
    Delivers effect shown (center effect route : EventCenter (World κ ω) κ).deliver
      world.component delivery := by
  obtain ⟨subscriber, listed, rfl⟩ := List.mem_map.mp member
  intro other same
  have registered : other.component.registry.isSubscribed event.signal subscriber.id = true := by
    rw [same, Registry.isSubscribed, List.any_eq_true]
    exact ⟨subscriber, mem_subscribers_of_mem_snapshot listed, beq_self_eq_true _⟩
  rw [EventCenter.runFrom_deliver]
  exact if_pos registered

theorem publish_eq (event : Notice) :
    (center effect route : EventCenter (World κ ω) κ).publish event = do
      let registry ← registryPart.read
      report (.published event.signal (registry.snapshot event.signal).length)
      (deliveries registry event).forM ((dispatcher route).dispatch (center effect route).deliver)
      return (registry.snapshot event.signal).length := by
  simp only [EventCenter.publish, deliveries, List.forM_eq_forM, List.forM_map]
  rfl

theorem mirrors_publish (waits : route ≠ .inline) (event : Notice) :
    Mirrors effect shown world ((center effect route).publish event)
      ((center effect .inline).publish event) := by
  rw [publish_eq, publish_eq]
  apply Mirrors.bind (.read _)
  rintro registry after ⟨⟩
  apply Mirrors.bind (.report _)
  rintro _ after ⟨⟩
  apply Mirrors.bind (.forM_dispatch waits fun delivery member => delivers_of_mem member)
  exact fun _ _ _ => .pure _

theorem runFrom_publish (waits : route ≠ .inline) (event : Notice) :
    ((center effect route : EventCenter (World κ ω) κ).publish event).runFrom world =
      (.ok (world.component.registry.snapshot event.signal).length,
        { world with
          notes := world.notes ++ [.published event.signal
            (world.component.registry.snapshot event.signal).length]
          waiting := world.waiting ++ deliveries world.component.registry event }) := by
  have unfolded : ((center effect route : EventCenter (World κ ω) κ).publish event).runFrom world =
      ((do
        (deliveries world.component.registry event).forM
          ((dispatcher route).dispatch (center effect route).deliver)
        return (world.component.registry.snapshot event.signal).length) :
          Exec (World κ ω) Nat).runFrom
        { world with
          notes := world.notes ++ [.published event.signal
            (world.component.registry.snapshot event.signal).length] } := by
    rw [publish_eq]
    rfl
  rw [unfolded, Exec.runFrom_bind, runFrom_forM_dispatch waits]
  rfl

/-! ## Whole sessions -/

/-- An operation that is followed by all that waits does what it does with callbacks that run at
once, and leaves nothing waiting. -/
theorem runFrom_perform_thenFlush (waits : route ≠ .inline) (idle : world.waiting = [])
    (call : EventCall κ) :
    (thenFlush route (center effect route).deliver (perform (center effect route) call)).runFrom
        world = (perform (center effect .inline) call).runFrom world ∧
      ((perform (center effect .inline) call).runFrom world).2.waiting = [] := by
  have ends : ∀ {deferred inline : Exec (World κ ω) EventAnswer},
      Mirrors effect shown world deferred inline →
      (∀ delivery ∈ (deferred.runFrom world).2.waiting, Delivers effect shown
        (center effect route).deliver (deferred.runFrom world).2.component delivery) →
      (thenFlush route (center effect route).deliver deferred).runFrom world =
        inline.runFrom world ∧ (inline.runFrom world).2.waiting = [] := by
    intro deferred inline mirrors delivers
    obtain ⟨same, after⟩ := mirrors.runFrom_thenFlush route idle delivers
    exact ⟨same, by rw [after]; rfl⟩
  by_cases publishes : ∃ event, call = .publish event
  · obtain ⟨event, rfl⟩ := publishes
    have mirrors : Mirrors effect shown world (perform (center effect route) (.publish event))
        (perform (center effect .inline) (.publish event)) :=
      (mirrors_publish waits event).bind fun _ _ _ => .pure _
    apply ends mirrors
    have after : ((perform (center effect route) (.publish event)).runFrom world).2 =
        (((center effect route).publish event).runFrom world).2 := by
      rw [perform, Exec.runFrom_bind, runFrom_publish waits]
      rfl
    rw [after, runFrom_publish waits, idle]
    exact fun delivery member => delivers_of_mem member
  · have silent : ∀ event, call ≠ .publish event := fun event same => publishes ⟨event, same⟩
    have quiet : KeepsWaiting (perform (center effect route) call) := keepsWaiting_perform silent
    -- Only publishing makes use of the dispatcher.
    have same : perform (center effect .inline) call = perform (center effect route) call := by
      cases call with
      | publish event => exact absurd rfl (silent event)
      | subscribe | trySubscribe | unsubscribe | reset => rfl
    rw [same]
    apply ends (.of_keepsWaiting quiet idle)
    rw [quiet world, idle]
    exact fun delivery member => absurd member List.not_mem_nil

/-- Whether callbacks of an event center run at once or wait until the end of each operation, a
session goes the same way. -/
theorem session_eq_inline (waits : route ≠ .inline) (idle : world.waiting = [])
    (calls : List (EventCall κ)) :
    session (fun call => thenFlush route (center effect route).deliver
        (perform (center effect route) call)) calls world =
      session (perform (center effect .inline)) calls world :=
  session_congr (fun world => world.waiting = [])
    (fun _ call idle => runFrom_perform_thenFlush waits idle call) calls idle

end EventUse

end Reactor

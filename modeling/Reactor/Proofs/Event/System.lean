import Reactor.Event.Center
import Reactor.Proofs.Event.Table
import Reactor.Proofs.Exec
import Mathlib.Logic.Function.Basic

/-!
# Event centers and those who use them

Several centers are used side by side.  Every subscription that was ever made keeps its place in a
list, so that it can be told from later ones, and its handle stands for it until it is released.  A
handle that is leaked is one that no move releases.  Publishing puts deliveries in flight, which the
dispatcher runs in any order; what a callback does is a matter of further moves.  Nothing depends on
what is done with a center that is gone, so moves at it are not ruled out.
-/

namespace Reactor

/-- A subscription that was made at a center. -/
structure Subscription (κ : Type) where
  center : Nat
  signal : Signal
  id : SubscriberId
  callback : κ
  /-- Whether the handle still stands for the subscription. -/
  valid : Bool := true
deriving DecidableEq

namespace Subscription

variable {κ : Type}

/-- The handle as its holder sees it. -/
def handle (subscription : Subscription κ) : EventHandle where
  center := subscription.center
  signal := subscription.signal
  id := if subscription.valid then some subscription.id else none

/-- The entry in the registry. -/
def subscriber (subscription : Subscription κ) : Subscriber κ where
  id := subscription.id
  callback := subscription.callback

/-- The subscription after its handle was released. -/
def released (subscription : Subscription κ) : Subscription κ := { subscription with valid := false }

end Subscription

/-- Event centers by number. -/
structure EventSystem (κ : Type) where
  registry : Nat → Registry κ
  alive : Nat → Bool := fun _ => true
  /-- How many ids each center has given out. -/
  issued : Nat → Nat := fun _ => 0
  /-- All subscriptions that were made, in order. -/
  subscriptions : List (Subscription κ) := []
  /-- What the dispatcher has been handed and has not run. -/
  inFlight : List (Delivery κ) := []

/-- What is done with event centers.  Handles and deliveries are named by their places. -/
inductive EventMove (κ : Type) where
  | subscribe (number : Nat) (signal : Signal) (footprint : Footprint) (callback : κ)
  /-- A handle is reset or dropped. -/
  | reset (place : Nat)
  /-- A center is asked to release a handle. -/
  | unsubscribe (number place : Nat)
  | publish (number : Nat) (event : Notice)
  /-- A delivery is run, or lost in a panic. -/
  | deliver (place : Nat)
  /-- A center is dropped. -/
  | teardown (number : Nat)

namespace EventSystem

variable {κ : Type}

/-- New centers, each with a storage. -/
def fresh (storage : Nat → SubscriberStorage) : EventSystem κ where
  registry number := .new (storage number)

/-- A callback that fits is registered, if there is room. -/
def enroll (system : EventSystem κ) (number : Nat) (signal : Signal) (callback : κ) :
    EventSystem κ :=
  let (next, result) := (system.registry number).subscribe signal callback
  { system with
    registry := Function.update system.registry number next
    issued := Function.update system.issued number (system.issued number + 1)
    subscriptions := system.subscriptions ++
      match result with
      | .ok id => [{ center := number, signal, id, callback }]
      | .error _ => [] }

/-- A handle is released at its center, unless it has been released before. -/
def release (system : EventSystem κ) (place : Nat) : EventSystem κ :=
  match system.subscriptions[place]? with
  | none => system
  | some subscription =>
      if subscription.valid then
        { system with
          registry := Function.update system.registry subscription.center
            ((system.registry subscription.center).unsubscribe
              subscription.signal subscription.id).1
          subscriptions := system.subscriptions.set place subscription.released }
      else system

/-- The deliveries that publish an event. -/
def deliveries (system : EventSystem κ) (number : Nat) (event : Notice) : List (Delivery κ) :=
  ((system.registry number).snapshot event.signal).map fun subscriber =>
    { center := number, subscriber, event }

/-- The system after a move. -/
def perform (system : EventSystem κ) : EventMove κ → EventSystem κ
  | .subscribe number signal footprint callback =>
      match (system.registry number).housing.misfit? footprint with
      | some _ => system
      | none => system.enroll number signal callback
  | .reset place => system.release place
  | .unsubscribe number place =>
      if (system.subscriptions[place]?).any fun subscription => subscription.center == number then
        system.release place
      else system
  | .publish number event =>
      { system with inFlight := system.inFlight ++ system.deliveries number event }
  | .deliver place => { system with inFlight := system.inFlight.eraseIdx place }
  | .teardown number => { system with alive := Function.update system.alive number false }

/-- The system after some moves. -/
def after (system : EventSystem κ) (moves : List (EventMove κ)) : EventSystem κ :=
  moves.foldl perform system

/-- The subscriptions that were made at a center, in order. -/
def made (system : EventSystem κ) (number : Nat) : List (Subscription κ) :=
  system.subscriptions.filter fun subscription => subscription.center == number

/-- Those for a signal whose handles are valid. -/
def live (system : EventSystem κ) (number : Nat) (signal : Signal) : List (Subscription κ) :=
  (system.made number).filter fun subscription =>
    subscription.signal == signal && subscription.valid

variable {system next : EventSystem κ} {number : Nat} {subscription : Subscription κ}

theorem mem_made : subscription ∈ system.made number ↔
    subscription ∈ system.subscriptions ∧ subscription.center = number := by
  simp [made]

theorem mem_live {signal : Signal} : subscription ∈ system.live number signal ↔
    subscription ∈ system.made number ∧ subscription.signal = signal ∧
      subscription.valid = true := by
  simp [live]

/-! ## What a move does -/

theorem release_of_held {place : Nat} (held : system.subscriptions[place]? = some subscription) :
    system.release place =
      if subscription.valid then
        { system with
          registry := Function.update system.registry subscription.center
            ((system.registry subscription.center).unsubscribe
              subscription.signal subscription.id).1
          subscriptions := system.subscriptions.set place subscription.released }
      else system := by
  rw [release, held]

theorem release_of_valid {front back : List (Subscription κ)}
    (split_at : system.subscriptions = front ++ subscription :: back)
    (valid : subscription.valid = true) : system.release front.length =
      { system with
        registry := Function.update system.registry subscription.center
          ((system.registry subscription.center).unsubscribe
            subscription.signal subscription.id).1
        subscriptions := front ++ subscription.released :: back } := by
  simp [release, split_at, valid]

theorem enroll_of_error {signal : Signal} {callback : κ} {error : SubscribeError}
    (refused : ((system.registry number).subscribe signal callback).2 = .error error) :
    system.enroll number signal callback =
      { system with
        registry := Function.update system.registry number
          ((system.registry number).subscribe signal callback).1
        issued := Function.update system.issued number (system.issued number + 1) } := by
  simp [enroll, refused]

theorem enroll_of_ok {signal : Signal} {callback : κ} {id : SubscriberId}
    (accepted : ((system.registry number).subscribe signal callback).2 = .ok id) :
    system.enroll number signal callback =
      { system with
        registry := Function.update system.registry number
          ((system.registry number).subscribe signal callback).1
        issued := Function.update system.issued number (system.issued number + 1)
        subscriptions := system.subscriptions ++ [{ center := number, signal, id, callback }] } := by
  simp [enroll, accepted]

/-- A handle that is released was valid, or nothing happens. -/
theorem release_cases (system : EventSystem κ) (place : Nat) :
    system.release place = system ∨ ∃ front subscription back,
      system.subscriptions = front ++ subscription :: back ∧ front.length = place ∧
      subscription.valid = true := by
  rw [release]
  split
  · exact Or.inl rfl
  · next subscription held =>
    split
    · next valid =>
      obtain ⟨inside, at_place⟩ := List.getElem?_eq_some_iff.mp held
      refine Or.inr ⟨system.subscriptions.take place, subscription,
        system.subscriptions.drop (place + 1), ?_, List.length_take_of_le (Nat.le_of_lt inside), valid⟩
      rw [← at_place, List.getElem_cons_drop, List.take_append_drop]
    · exact Or.inl rfl

/-- A move makes a subscription, releases a handle, or leaves the registries to themselves. -/
theorem perform_keeps (kept : EventSystem κ → Prop)
    (touch : ∀ system next : EventSystem κ, next.registry = system.registry →
      next.issued = system.issued → next.subscriptions = system.subscriptions →
      kept system → kept next)
    (enroll : ∀ (system : EventSystem κ) number signal callback,
      kept system → kept (system.enroll number signal callback))
    (release : ∀ (system : EventSystem κ) place, kept system → kept (system.release place))
    (moves : List (EventMove κ)) (start : kept system) : kept (system.after moves) := by
  rw [after]
  induction moves generalizing system with
  | nil => exact start
  | cons move moves induction =>
      apply induction
      cases move with
      | subscribe number signal footprint callback =>
          rw [perform]
          split
          · exact start
          · exact enroll system number signal callback start
      | reset place => exact release system place start
      | unsubscribe number place =>
          rw [perform]
          split
          · exact release system place start
          · exact start
      | publish | deliver | teardown => exact touch system _ rfl rfl rfl start

/-- Ids that were given out stay so. -/
theorem issued_le_after (system : EventSystem κ) (number : Nat) (moves : List (EventMove κ)) :
    system.issued number ≤ (system.after moves).issued number := by
  apply perform_keeps (fun next => system.issued number ≤ next.issued number)
  · intro before next _ same _ le
    rwa [same]
  · intro before other signal callback le
    simp only [enroll, Function.update_apply]
    split
    · next same => rw [← same]; omega
    · exact le
  · intro before place le
    rcases release_cases before place with same | ⟨front, subscription, back, split_at, rfl, valid⟩
    · rwa [same]
    · rwa [release_of_valid split_at valid]
  · exact Nat.le_refl _

/-- A subscription keeps its place, and at most its handle is released. -/
theorem exists_getElem?_after {place : Nat}
    (held : system.subscriptions[place]? = some subscription) (moves : List (EventMove κ)) :
    ∃ later, (system.after moves).subscriptions[place]? = some later ∧
      (later = subscription ∨ later = subscription.released) := by
  apply perform_keeps (fun next => ∃ later, next.subscriptions[place]? = some later ∧
    (later = subscription ∨ later = subscription.released))
  · rintro before next _ _ same ⟨later, still_held, kept⟩
    exact ⟨later, same ▸ still_held, kept⟩
  · rintro before number signal callback ⟨later, still_held, kept⟩
    refine ⟨later, ?_, kept⟩
    obtain ⟨inside, _⟩ := List.getElem?_eq_some_iff.mp still_held
    rw [enroll, List.getElem?_append_left inside, still_held]
  · rintro before other ⟨later, still_held, kept⟩
    rcases release_cases before other with same | ⟨front, released, back, split_at, rfl, valid⟩
    · rw [same]
      exact ⟨later, still_held, kept⟩
    · rw [release_of_valid split_at valid]
      rw [split_at] at still_held
      by_cases own : place = front.length
      · rw [own, List.getElem?_append_right (Nat.le_refl _), Nat.sub_self] at still_held ⊢
        cases still_held
        refine ⟨_, rfl, Or.inr ?_⟩
        rcases kept with rfl | rfl <;> rfl
      · exact ⟨later, by grind, kept⟩
  · exact ⟨subscription, held, Or.inl rfl⟩

end EventSystem

/-! ## Operations in their surroundings -/

namespace EventCenter

variable {σ κ α : Type}

/-- Reports and then answers. -/
def answer (center : EventCenter σ κ) (note : EventNote) (value : α) : Exec σ α := do
  center.report note
  return value

variable (center : EventCenter σ κ) (world : σ)

/-- A callback that fits is subscribed as in a move, and the handle is that of the new
subscription. -/
theorem runFrom_trySubscribe {system next : EventSystem κ}
    (shown : center.registry.get world = system.registry center.number) {signal : Signal}
    {footprint : Footprint} {callback : κ}
    (fits : (system.registry center.number).housing.misfit? footprint = none)
    (performed : next = system.perform (.subscribe center.number signal footprint callback)) :
    (center.trySubscribe signal footprint callback).runFrom world =
      match ((system.registry center.number).subscribe signal callback).2 with
      | .error error =>
          (.ok (.error error), center.registry.set (next.registry center.number) world)
      | .ok id =>
          (center.answer (.subscribed id signal)
            (.ok (Subscription.handle { center := center.number, signal, id, callback }))).runFrom
            (center.registry.set (next.registry center.number) world) := by
  have registry : next.registry center.number =
      ((system.registry center.number).subscribe signal callback).1 := by
    simp [performed, EventSystem.perform, fits, EventSystem.enroll]
  simp only [trySubscribe, Exec.runFrom_bind, Part.runFrom_read, shown, fits, Part.runFrom_write,
    registry]
  rcases (system.registry center.number).subscribe signal callback with ⟨next, _ | _⟩ <;> rfl

theorem runFrom_reset (subscription : Subscription κ) :
    (center.reset subscription.handle).runFrom world =
      if subscription.valid then
        (center.answer (.unsubscribed subscription.id subscription.signal)
          (subscription.released.handle,
            ((center.registry.get world).unsubscribe
              subscription.signal subscription.id).2)).runFrom
          (center.registry.set
            ((center.registry.get world).unsubscribe
              subscription.signal subscription.id).1 world)
      else
        (center.answer (.alreadyReleased subscription.signal)
          (subscription.handle, false)).runFrom world := by
  rcases subscription with ⟨number, signal, id, callback, _ | _⟩ <;> rfl

theorem runFrom_unsubscribe (handle : EventHandle) :
    (center.unsubscribe handle).runFrom world =
      if handle.center = center.number then (center.reset handle).runFrom world
      else (center.answer (.foreignHandle handle.signal) (handle, false)).runFrom world := by
  rw [unsubscribe]
  by_cases own : handle.center = center.number
  · rw [if_neg (not_not_intro own), if_pos own]
  · rw [if_pos own, if_neg own]
    rfl

/-- If the dispatcher accepts one delivery after the other, publishing answers their number. -/
theorem runFrom_publish (event : Notice) {subscribers : List (Subscriber κ)}
    (registered : (center.registry.get world).snapshot event.signal = subscribers)
    (worlds : Nat → σ)
    (reported : (center.report (.published event.signal subscribers.length)).runFrom world =
      (.ok (), worlds 0))
    (accepted : ∀ place (inside : place < subscribers.length),
      (center.dispatcher.dispatch center.deliver
        { center := center.number, subscriber := subscribers[place], event }).runFrom
          (worlds place) = (.ok (), worlds (place + 1))) :
    (center.publish event).runFrom world =
      (.ok subscribers.length, worlds subscribers.length) := by
  simp only [publish, Exec.runFrom_bind, Part.runFrom_read, registered, reported]
  rw [Exec.runFrom_forM_of_rounds _ subscribers worlds accepted]
  rfl

/-- A delivery looks at the center once, and then runs its callback or does nothing. -/
theorem runFrom_deliver (delivery : Delivery κ) :
    (center.deliver delivery).runFrom world =
      if center.alive.get world && (center.registry.get world).isSubscribed
          delivery.event.signal delivery.subscriber.id then
        (center.call delivery.subscriber.callback delivery.event).runFrom world
      else (.ok (), world) := by
  simp only [deliver, Exec.runFrom_bind, Part.runFrom_read]
  split <;> rfl

end EventCenter

end Reactor

import Reactor.Proofs.Event.Registrations

/-!
# Whom an event reaches

An event is handed over once for each subscription that its signal has when it is published.  The
registry may have changed by the time a delivery runs, and then it counts whether the handle of that
very subscription is still valid.
-/

namespace Reactor.EventSystem

variable {κ : Type} {system final : EventSystem κ} {number place : Nat}
  {subscription : Subscription κ}

/-- Later subscriptions of a center have greater ids. -/
theorem IsShown.id_lt (shown : system.IsShown number) {first second : Nat}
    {earlier later : Subscription κ} (before : first < second)
    (held_earlier : system.subscriptions[first]? = some earlier)
    (held_later : system.subscriptions[second]? = some later)
    (own_earlier : earlier.center = number) (own_later : later.center = number) :
    earlier.id.raw < later.id.raw := by
  have rising := shown.rising
  rw [made, List.pairwise_filter, List.pairwise_iff_getElem] at rising
  obtain ⟨first_inside, rfl⟩ := List.getElem?_eq_some_iff.mp held_earlier
  obtain ⟨second_inside, rfl⟩ := List.getElem?_eq_some_iff.mp held_later
  exact rising first second first_inside second_inside before
    (beq_iff_eq.mpr own_earlier) (beq_iff_eq.mpr own_later)

theorem IsConsistent.deliveries_eq (consistent : system.IsConsistent number) (event : Notice) :
    system.deliveries number event =
      ((system.registry number).subscribers event.signal).map fun subscriber =>
        { center := number, subscriber, event } := by
  rw [deliveries, consistent.sound.snapshot_eq]

/-- A delivery for a subscription runs its callback just if its center lives and the handle is
valid. -/
def RunsIfValid (system : EventSystem κ) (number : Nat) (subscription : Subscription κ)
    (event : Notice) : Prop :=
  ∀ {σ : Type} (center : EventCenter σ κ) (world : σ),
    center.registry.get world = system.registry number →
    center.alive.get world = system.alive number →
    (center.deliver { center := number, subscriber := subscription.subscriber, event }).runFrom
        world =
      if system.alive number && subscription.valid then
        (center.call subscription.callback event).runFrom world
      else (.ok (), world)

theorem IsShown.runsIfValid (shown : system.IsShown number)
    (member : subscription ∈ system.made number) {event : Notice}
    (subscribed : subscription.signal = event.signal) :
    system.RunsIfValid number subscription event := by
  intro σ center world registry alive
  have registered : (center.registry.get world).isSubscribed event.signal subscription.id =
      subscription.valid := by
    rw [Bool.eq_iff_iff, registry, ← subscribed]
    exact shown.isSubscribed_iff member
  rw [EventCenter.runFrom_deliver, alive]
  simp only [Subscription.subscriber, registered]

/-- Publishing hands over one delivery for each valid subscription of the signal, in the order in
which they were made, and answers their number.  Whatever happens afterwards, such a delivery runs
the callback of its own subscription just if the center lives and the handle of that subscription
has not been released.  A subscription that is made later has an id of its own, so none of the
deliveries is for it. -/
theorem publish_reaches_registered (storage : Nat → SubscriberStorage)
    (moves later : List (EventMove κ)) (number : Nat) (event : Notice)
    (system final : EventSystem κ) (published : system = (fresh storage).after moves)
    (reached : final = system.after (.publish number event :: later))
    (few : final.issued number ≤ UInt32.size) (subscribers : List (Subscriber κ))
    (registered : subscribers = (system.registry number).subscribers event.signal) :
    subscribers = (system.live number event.signal).map Subscription.subscriber ∧
    (system.perform (.publish number event)).inFlight = system.inFlight ++
      subscribers.map (fun subscriber => { center := number, subscriber, event }) ∧
    (∀ {σ : Type} (center : EventCenter σ κ) (world : σ) (worlds : Nat → σ),
      center.number = number → center.registry.get world = system.registry number →
      (center.report (.published event.signal subscribers.length)).runFrom world =
        (.ok (), worlds 0) →
      (∀ place (inside : place < subscribers.length),
        (center.dispatcher.dispatch center.deliver
          { center := number, subscriber := subscribers[place], event }).runFrom
            (worlds place) = (.ok (), worlds (place + 1))) →
      (center.publish event).runFrom world =
        (.ok subscribers.length, worlds subscribers.length)) ∧
    (∀ (place : Nat) subscription, system.subscriptions[place]? = some subscription →
      subscription ∈ system.live number event.signal →
      ∃ left, final.subscriptions[place]? = some left ∧
        (left = subscription ∨ left = subscription.released) ∧
        (left.valid = true ↔
          left.subscriber ∈ (final.registry number).subscribers event.signal) ∧
        final.RunsIfValid number left event) ∧
    ∀ (place : Nat) subscription, system.subscriptions.length ≤ place →
      final.subscriptions[place]? = some subscription → subscription.center = number →
      ∀ subscriber ∈ subscribers, subscriber.id ≠ subscription.id := by
  have consistent : system.IsConsistent number :=
    published ▸ isConsistent_after storage moves number
  have final_consistent : final.IsConsistent number := by
    rw [reached, published, after, after, ← List.foldl_append]
    exact isConsistent_after storage (moves ++ .publish number event :: later) number
  have shown : system.IsShown number := by
    apply consistent.shown
    have le := issued_le_after system number (.publish number event :: later)
    rw [← reached] at le
    exact le.trans few
  have final_shown := final_consistent.shown few
  have live_eq := registered.trans (shown.subscribers_eq event.signal)
  refine ⟨live_eq, ?_, ?_, ?_, ?_⟩
  · rw [perform, consistent.deliveries_eq, registered]
  · intro σ center world worlds numbered registry reported accepted
    subst numbered
    apply EventCenter.runFrom_publish center world event _ worlds reported accepted
    rw [registry, consistent.sound.snapshot_eq, registered]
  · intro place subscription held live_member
    obtain ⟨member, subscribed, _⟩ := mem_live.mp live_member
    obtain ⟨left, still_held, kept⟩ :=
      exists_getElem?_after held (.publish number event :: later)
    rw [← reached] at still_held
    obtain ⟨same_center, same_signal⟩ :
        left.center = subscription.center ∧ left.signal = subscription.signal := by
      rcases kept with rfl | rfl <;> exact ⟨rfl, rfl⟩
    have left_member : left ∈ final.made number := mem_made.mpr
      ⟨List.mem_of_getElem? still_held, same_center.trans (mem_made.mp member).2⟩
    have left_signal := same_signal.trans subscribed
    refine ⟨left, still_held, kept, ?_, final_shown.runsIfValid left_member left_signal⟩
    rw [← left_signal, final_shown.mem_subscribers_iff left_member]
  · intro place subscription late held own subscriber member
    -- Ids rise along the list, and whoever was seen stands in front of the late one.
    rw [live_eq] at member
    obtain ⟨seen, live_member, rfl⟩ := List.mem_map.mp member
    obtain ⟨seen_member, own_seen⟩ := mem_made.mp (mem_live.mp live_member).1
    obtain ⟨earlier, held_seen⟩ := List.mem_iff_getElem?.mp seen_member
    obtain ⟨left, still_held, kept⟩ :=
      exists_getElem?_after held_seen (.publish number event :: later)
    rw [← reached] at still_held
    have inside := (List.getElem?_eq_some_iff.mp held_seen).1
    obtain ⟨same_id, same_center⟩ : left.id = seen.id ∧ left.center = seen.center := by
      rcases kept with rfl | rfl <;> exact ⟨rfl, rfl⟩
    have less := final_shown.id_lt (inside.trans_le late) still_held held
      (same_center.trans own_seen) own
    rw [same_id] at less
    intro same
    exact UInt32.lt_irrefl _ (same ▸ less)

/-- Two callbacks are subscribed, and an event is published. -/
def pairMoves : List (EventMove Nat) :=
  [.subscribe 0 ⟨1⟩ { bytes := 8 } 10, .subscribe 0 ⟨1⟩ { bytes := 8 } 11]

/-- The first of them is released, and a third one is subscribed. -/
def changeMoves : List (EventMove Nat) := [.reset 0, .subscribe 0 ⟨1⟩ { bytes := 8 } 12]

/-- The system before the event, and the one in which its deliveries run. -/
def pairSystem : EventSystem Nat := (fresh fun _ => .fixed 1 2 4).after pairMoves

def changedSystem : EventSystem Nat := pairSystem.after (.publish 0 (.empty ⟨1⟩) :: changeMoves)

/-- A center whose deliveries wait in a list. -/
def deferringCenter : EventCenter (Registry Nat × Fifo (Delivery Nat)) Nat where
  number := 0
  registry := { get := Prod.fst, set := fun registry world => (registry, world.2) }
  alive := { get := fun _ => true, set := fun _ world => world }
  report _ := pure ()
  dispatcher :=
    { route := .deferred
      backlog := { get := Prod.snd, set := fun list world => (world.1, list) }
      interrupts := { get := fun _ => .empty .boxed .unbounded, set := fun _ world => world } }
  call _ _ := pure ()

/-- The event is handed over twice and then reaches the second callback only. -/
theorem event_skips_released_and_late :
    (deferringCenter.publish (.empty ⟨1⟩)).runFrom (pairSystem.registry 0, .empty .unbounded) =
      (.ok 2, pairSystem.registry 0,
        { capacity := .unbounded
          items := [⟨0, ⟨⟨0⟩, 10⟩, .empty ⟨1⟩⟩, ⟨0, ⟨⟨1⟩, 11⟩, .empty ⟨1⟩⟩] }) ∧
    changedSystem.subscriptions.map Subscription.valid = [false, true, true] ∧
    (∀ subscriber ∈ (pairSystem.registry 0).subscribers ⟨1⟩, subscriber.id ≠ ⟨2⟩) ∧
    ∀ {σ : Type} (center : EventCenter σ Nat) (world : σ),
      center.registry.get world = changedSystem.registry 0 →
      center.alive.get world = changedSystem.alive 0 →
      (center.deliver ⟨0, ⟨⟨0⟩, 10⟩, .empty ⟨1⟩⟩).runFrom world = (.ok (), world) ∧
        (center.deliver ⟨0, ⟨⟨1⟩, 11⟩, .empty ⟨1⟩⟩).runFrom world =
          (center.call 11 (.empty ⟨1⟩)).runFrom world := by
  obtain ⟨registered, _, publishes, runs, late⟩ := publish_reaches_registered
    (fun _ => .fixed 1 2 4) pairMoves changeMoves 0 (.empty ⟨1⟩) pairSystem changedSystem rfl rfl
    (by decide +kernel) _ rfl
  have live : pairSystem.live 0 ⟨1⟩ =
      [⟨0, ⟨1⟩, ⟨0⟩, 10, true⟩, ⟨0, ⟨1⟩, ⟨1⟩, 11, true⟩] := by decide +kernel
  refine ⟨?_, by decide +kernel, ?_, ?_⟩
  · have both := registered.trans (congrArg (List.map Subscription.subscriber) live)
    rw [both] at publishes
    refine publishes deferringCenter _
      (fun place => (pairSystem.registry 0,
        { capacity := .unbounded
          items := [⟨0, ⟨⟨0⟩, 10⟩, .empty ⟨1⟩⟩, ⟨0, ⟨⟨1⟩, 11⟩, .empty ⟨1⟩⟩].take place }))
      rfl rfl rfl ?_
    intro place inside
    match place, inside with
    | 0, _ => rfl
    | 1, _ => rfl
  · exact late 2 ⟨0, ⟨1⟩, ⟨2⟩, 12, true⟩ (by decide +kernel) (by decide +kernel) rfl
  · intro σ center world registry alive
    obtain ⟨first, held_first, _, _, runs_first⟩ :=
      runs 0 ⟨0, ⟨1⟩, ⟨0⟩, 10, true⟩ (by decide +kernel) (by decide +kernel)
    obtain ⟨second, held_second, _, _, runs_second⟩ :=
      runs 1 ⟨0, ⟨1⟩, ⟨1⟩, 11, true⟩ (by decide +kernel) (by decide +kernel)
    have skipped : changedSystem.subscriptions[0]? = some ⟨0, ⟨1⟩, ⟨0⟩, 10, false⟩ := by
      decide +kernel
    have kept : changedSystem.subscriptions[1]? = some ⟨0, ⟨1⟩, ⟨1⟩, 11, true⟩ := by
      decide +kernel
    have living : changedSystem.alive 0 = true := by decide +kernel
    cases held_first.symm.trans skipped
    cases held_second.symm.trans kept
    have outcome_first := runs_first center world registry alive
    have outcome_second := runs_second center world registry alive
    rw [living] at outcome_first outcome_second
    exact ⟨outcome_first, outcome_second⟩

end Reactor.EventSystem

import Reactor.Proofs.Event.Room

/-!
# Fixed tables and tables that grow

As long as nobody is turned away, a center with fixed tables answers every question as one whose
tables grow, and hands over the same deliveries.  Whoever is turned away leaves everything as it was
but for the id that has been used up.
-/

namespace Reactor

namespace Registry

variable {κ : Type} {registry twin : Registry κ}

/-- A registry whose tables grow and that holds the same subscribers. -/
structure Resembles (registry twin : Registry κ) : Prop where
  sound : registry.IsSound
  twin_sound : twin.IsSound
  grown : twin.IsHoused .growing
  next_eq : twin.nextId = registry.nextId
  subscribers_eq : ∀ signal, twin.subscribers signal = registry.subscribers signal

theorem resembles_new (storage : SubscriberStorage) :
    (new storage : Registry κ).Resembles (new .growing) where
  sound := isSound_new storage
  twin_sound := isSound_new .growing
  grown := isHoused_new .growing
  next_eq := rfl
  subscribers_eq signal := by rw [subscribers_new, subscribers_new]

namespace Resembles

theorem subscribe (alike : registry.Resembles twin) {signal : Signal} {callback : κ}
    (accepted : ∃ id, (registry.subscribe signal callback).2 = .ok id) :
    (twin.subscribe signal callback).2 = (registry.subscribe signal callback).2 ∧
      (registry.subscribe signal callback).1.Resembles (twin.subscribe signal callback).1 := by
  obtain ⟨sound, twin_sound, grown, next_eq, subscribers_eq⟩ := alike
  obtain ⟨next_sound, counted, outcome⟩ := sound.subscribe_cases signal callback
  obtain ⟨twin_next_sound, twin_counted, twin_outcome⟩ :=
    twin_sound.subscribe_cases signal callback
  have taken := grown.subscribe_of_growing twin_sound signal callback
  rcases outcome with ⟨⟨error, refused⟩, _⟩ | ⟨given, listed⟩
  · obtain ⟨id, given⟩ := accepted
    rw [refused] at given
    cases given
  rcases twin_outcome with ⟨⟨error, refused⟩, _⟩ | ⟨twin_given, twin_listed⟩
  · rw [refused] at taken
    cases taken
  refine ⟨by rw [twin_given, given, next_eq], next_sound, twin_next_sound,
    grown.subscribe twin_sound signal callback, by rw [twin_counted, counted, next_eq], ?_⟩
  intro other
  rw [twin_listed other, listed other, next_eq, subscribers_eq, subscribers_eq]

theorem unsubscribe (alike : registry.Resembles twin) (signal : Signal) (id : SubscriberId) :
    (twin.unsubscribe signal id).2 = (registry.unsubscribe signal id).2 ∧
      (registry.unsubscribe signal id).1.Resembles (twin.unsubscribe signal id).1 := by
  obtain ⟨sound, twin_sound, grown, next_eq, subscribers_eq⟩ := alike
  have still_grown := grown.unsubscribe signal id
  rcases sound.unsubscribe_cases signal id with
    ⟨kept, absent⟩ | ⟨next, front, found, back, removed, next_sound, counted, split_at, same, apart,
      left_over⟩
  · rcases twin_sound.unsubscribe_cases signal id with
      ⟨twin_kept, _⟩ | ⟨_, _, found, _, _, _, _, twin_split, twin_same, _⟩
    · rw [kept, twin_kept]
      exact ⟨rfl, sound, twin_sound, grown, next_eq, subscribers_eq⟩
    · rw [subscribers_eq] at twin_split
      exact absurd twin_same (absent found (by simp [twin_split]))
  · rcases twin_sound.unsubscribe_cases signal id with
      ⟨_, twin_absent⟩ | ⟨twin_next, twin_front, _, twin_back, twin_removed, twin_next_sound,
        twin_counted, twin_split, twin_same, twin_apart, twin_left_over⟩
    · rw [subscribers_eq] at twin_absent
      exact absurd same (twin_absent found (by simp [split_at]))
    · rw [twin_removed] at still_grown
      rw [removed, twin_removed]
      refine ⟨rfl, next_sound, twin_next_sound, still_grown,
        twin_counted.trans (next_eq.trans counted.symm), ?_⟩
      -- Both have erased the first subscriber with this id from the same list.
      have rest_eq : twin_front ++ twin_back = front ++ back := by
        rw [← eraseP_of_split twin_same twin_apart, ← twin_split, subscribers_eq, split_at,
          eraseP_of_split same apart]
      intro other
      rw [twin_left_over other, left_over other, rest_eq, subscribers_eq]

theorem snapshot_eq (alike : registry.Resembles twin) (signal : Signal) :
    twin.snapshot signal = registry.snapshot signal := by
  rw [alike.twin_sound.snapshot_eq, alike.sound.snapshot_eq, alike.subscribers_eq]

theorem isSubscribed_eq (alike : registry.Resembles twin) (signal : Signal) (id : SubscriberId) :
    twin.isSubscribed signal id = registry.isSubscribed signal id := by
  rw [isSubscribed, isSubscribed, alike.subscribers_eq]

theorem subscriberCount_eq (alike : registry.Resembles twin) (signal : Signal) :
    twin.subscriberCount signal = registry.subscriberCount signal := by
  rw [subscriberCount, subscriberCount, alike.subscribers_eq]

theorem signalCount_eq (alike : registry.Resembles twin) :
    twin.signalCount = registry.signalCount := by
  rw [alike.twin_sound.signalCount_eq_ncard, alike.sound.signalCount_eq_ncard]
  simp only [alike.subscribers_eq]

end Resembles

end Registry

namespace EventSystem

variable {κ : Type} {system twin : EventSystem κ}

/-! ## What is answered -/

/-- What a move answers. -/
inductive Answer (κ : Type) where
  | panicked (misfit : Misfit)
  | subscribed (result : Except SubscribeError SubscriberId)
  | released (removed : Bool)
  | handedTo (count : Nat)
  /-- The callback that a delivery runs, if it runs one. -/
  | ran (run : Option (κ × Notice))
  | nothing

/-- Whether releasing a handle removes a subscription. -/
def removes (system : EventSystem κ) (place : Nat) : Bool :=
  (system.subscriptions[place]?).any fun subscription =>
    subscription.valid && ((system.registry subscription.center).unsubscribe
      subscription.signal subscription.id).2

/-- Whether a delivery runs its callback. -/
def runs (system : EventSystem κ) (delivery : Delivery κ) : Bool :=
  system.alive delivery.center &&
    (system.registry delivery.center).isSubscribed delivery.event.signal delivery.subscriber.id

def answer (system : EventSystem κ) : EventMove κ → Answer κ
  | .subscribe number signal footprint callback =>
      match (system.registry number).housing.misfit? footprint with
      | some misfit => .panicked misfit
      | none => .subscribed ((system.registry number).subscribe signal callback).2
  | .reset place => .released (system.removes place)
  | .unsubscribe number place =>
      .released
        (((system.subscriptions[place]?).any fun subscription => subscription.center == number) &&
          system.removes place)
  | .publish number event => .handedTo (system.deliveries number event).length
  | .deliver place =>
      .ran ((system.inFlight[place]?.filter system.runs).map fun delivery =>
        (delivery.subscriber.callback, delivery.event))
  | .teardown _ => .nothing

/-- What the moves of a run answer, one after the other. -/
def answers (system : EventSystem κ) : List (EventMove κ) → List (Answer κ)
  | [] => []
  | move :: moves => system.answer move :: (system.perform move).answers moves

/-- A move that subscribes somebody succeeds. -/
def Accepts (system : EventSystem κ) : EventMove κ → Prop
  | .subscribe number signal footprint callback =>
      (system.registry number).housing.misfit? footprint = none ∧
        ∃ id, ((system.registry number).subscribe signal callback).2 = .ok id
  | _ => True

/-- Nobody is turned away in a run. -/
def AcceptsAll (system : EventSystem κ) : List (EventMove κ) → Prop
  | [] => True
  | move :: moves => system.Accepts move ∧ (system.perform move).AcceptsAll moves

/-! ## The same run with tables that grow -/

/-- A system whose tables grow and that is otherwise in the same state. -/
structure Agrees (system twin : EventSystem κ) : Prop where
  alive_eq : twin.alive = system.alive
  issued_eq : twin.issued = system.issued
  subscriptions_eq : twin.subscriptions = system.subscriptions
  inFlight_eq : twin.inFlight = system.inFlight
  registry : ∀ number, (system.registry number).Resembles (twin.registry number)

theorem agrees_fresh (storage : Nat → SubscriberStorage) :
    (fresh storage : EventSystem κ).Agrees (fresh fun _ => .growing) where
  alive_eq := rfl
  issued_eq := rfl
  subscriptions_eq := rfl
  inFlight_eq := rfl
  registry number := Registry.resembles_new (storage number)

namespace Agrees

theorem update_registry (agrees : system.Agrees twin) {center : Nat} {next twin_next : Registry κ}
    (alike : next.Resembles twin_next) (number : Nat) :
    (Function.update system.registry center next number).Resembles
      (Function.update twin.registry center twin_next number) := by
  rw [Function.update_apply, Function.update_apply]
  split
  · exact alike
  · exact agrees.registry number

theorem enroll (agrees : system.Agrees twin) {center : Nat} {signal : Signal} {callback : κ}
    (accepted : ∃ id, ((system.registry center).subscribe signal callback).2 = .ok id) :
    (system.enroll center signal callback).Agrees (twin.enroll center signal callback) := by
  obtain ⟨same, alike⟩ := (agrees.registry center).subscribe accepted
  obtain ⟨id, given⟩ := accepted
  rw [enroll_of_ok given, enroll_of_ok (same.trans given)]
  refine ⟨agrees.alive_eq, ?_, ?_, agrees.inFlight_eq, agrees.update_registry alike⟩
  · simp only [agrees.issued_eq]
  · simp only [agrees.subscriptions_eq]

theorem release (agrees : system.Agrees twin) (place : Nat) :
    (system.release place).Agrees (twin.release place) := by
  cases held : system.subscriptions[place]? with
  | none =>
      rw [EventSystem.release, EventSystem.release, agrees.subscriptions_eq, held]
      exact agrees
  | some subscription =>
      have twin_held := agrees.subscriptions_eq ▸ held
      rw [release_of_held held, release_of_held twin_held]
      split
      · refine ⟨agrees.alive_eq, agrees.issued_eq, ?_, agrees.inFlight_eq,
          agrees.update_registry ((agrees.registry _).unsubscribe _ _).2⟩
        simp only [agrees.subscriptions_eq]
      · exact agrees

theorem deliveries_eq (agrees : system.Agrees twin) (number : Nat) (event : Notice) :
    twin.deliveries number event = system.deliveries number event := by
  rw [deliveries, deliveries, (agrees.registry number).snapshot_eq]

theorem perform (agrees : system.Agrees twin) {move : EventMove κ}
    (accepted : system.Accepts move) : (system.perform move).Agrees (twin.perform move) := by
  cases move with
  | subscribe number signal footprint callback =>
      obtain ⟨fits, enrolled⟩ := accepted
      have twin_fits : (twin.registry number).housing.misfit? footprint = none := by
        rw [(agrees.registry number).grown.housing_eq]
        rfl
      rw [EventSystem.perform, EventSystem.perform, fits, twin_fits]
      exact agrees.enroll enrolled
  | reset place => exact agrees.release place
  | unsubscribe number place =>
      rw [EventSystem.perform, EventSystem.perform, agrees.subscriptions_eq]
      split
      · exact agrees.release place
      · exact agrees
  | publish number event =>
      refine ⟨agrees.alive_eq, agrees.issued_eq, agrees.subscriptions_eq, ?_, agrees.registry⟩
      simp only [EventSystem.perform, agrees.inFlight_eq, agrees.deliveries_eq]
  | deliver place =>
      refine ⟨agrees.alive_eq, agrees.issued_eq, agrees.subscriptions_eq, ?_, agrees.registry⟩
      simp only [EventSystem.perform, agrees.inFlight_eq]
  | teardown number =>
      refine ⟨?_, agrees.issued_eq, agrees.subscriptions_eq, agrees.inFlight_eq, agrees.registry⟩
      simp only [EventSystem.perform, agrees.alive_eq]

theorem removes_eq (agrees : system.Agrees twin) (place : Nat) :
    twin.removes place = system.removes place := by
  rw [removes, removes, agrees.subscriptions_eq]
  congr 1
  funext subscription
  rw [((agrees.registry _).unsubscribe _ _).1]

theorem answer (agrees : system.Agrees twin) {move : EventMove κ}
    (accepted : system.Accepts move) : twin.answer move = system.answer move := by
  cases move with
  | subscribe number signal footprint callback =>
      obtain ⟨fits, enrolled⟩ := accepted
      have twin_fits : (twin.registry number).housing.misfit? footprint = none := by
        rw [(agrees.registry number).grown.housing_eq]
        rfl
      simp only [EventSystem.answer, fits, twin_fits,
        ((agrees.registry number).subscribe enrolled).1]
  | reset place => simp only [EventSystem.answer, agrees.removes_eq]
  | unsubscribe number place =>
      simp only [EventSystem.answer, agrees.removes_eq, agrees.subscriptions_eq]
  | publish number event => simp only [EventSystem.answer, agrees.deliveries_eq]
  | deliver place =>
      have runs_eq : twin.runs = system.runs := by
        funext delivery
        rw [runs, runs, agrees.alive_eq, (agrees.registry _).isSubscribed_eq]
      simp only [EventSystem.answer, agrees.inFlight_eq, runs_eq]
  | teardown number => rfl

theorem after (agrees : system.Agrees twin) {moves : List (EventMove κ)}
    (accepted : system.AcceptsAll moves) :
    (system.after moves).Agrees (twin.after moves) ∧
      twin.answers moves = system.answers moves := by
  induction moves generalizing system twin with
  | nil => exact ⟨agrees, rfl⟩
  | cons move moves induction =>
      obtain ⟨first, rest⟩ := accepted
      obtain ⟨still_agrees, same⟩ := induction (agrees.perform first) rest
      refine ⟨still_agrees, ?_⟩
      rw [answers, answers, agrees.answer first, same]

end Agrees

/-! ## Centers and their answers -/

theorem perform_of_refused (system : EventSystem κ) {number : Nat} {signal : Signal}
    {footprint : Footprint} {callback : κ} {error : SubscribeError}
    (fits : (system.registry number).housing.misfit? footprint = none)
    (refused : (system.registry number).subscribe signal callback =
      ((system.registry number).counted, .error error)) :
    system.perform (.subscribe number signal footprint callback) =
      { system with
        registry := Function.update system.registry number (system.registry number).counted
        issued := Function.update system.issued number (system.issued number + 1) } := by
  rw [perform, fits]
  simp only
  rw [enroll_of_error (congrArg Prod.snd refused), refused]

end EventSystem

namespace EventCenter

variable {σ κ : Type} (center : EventCenter σ κ) (world : σ)

theorem runFrom_trySubscribe_of_misfit {signal : Signal} {footprint : Footprint} {callback : κ}
    {misfit : Misfit}
    (unfit : (center.registry.get world).housing.misfit? footprint = some misfit) :
    (center.trySubscribe signal footprint callback).runFrom world =
      (.error (.panic misfit.message), world) := by
  simp only [trySubscribe, Exec.runFrom_bind, Part.runFrom_read, unfit, Exec.runFrom_panic]

/-- Where a refusal must not happen it is a panic. -/
theorem runFrom_subscribe_of_refused {signal : Signal} {footprint : Footprint} {callback : κ}
    {error : SubscribeError} {left : σ}
    (refused : (center.trySubscribe signal footprint callback).runFrom world =
      (.ok (.error error), left)) :
    (center.subscribe signal footprint callback).runFrom world =
      (.error (.panic s!"event center: {error.message}"), left) := by
  simp only [subscribe, Exec.runFrom_bind, refused, Exec.runFrom_panic]

theorem runFrom_answer {α : Type} (note : EventNote) (value : α)
    (silent : (center.report note).runFrom world = (.ok (), world)) :
    (center.answer note value).runFrom world = (.ok value, world) := by
  rw [answer, Exec.runFrom_bind, silent]
  rfl

/-- A center that nobody listens to answers as the system does when a handle is released. -/
theorem outcome_reset {system : EventSystem κ} {place : Nat} {subscription : Subscription κ}
    (silent : ∀ note world, (center.report note).runFrom world = (.ok (), world))
    (held : system.subscriptions[place]? = some subscription)
    (shown : center.registry.get world = system.registry subscription.center) :
    ((center.reset subscription.handle).runFrom world).1 =
      .ok (subscription.released.handle, system.removes place) := by
  rw [runFrom_reset, EventSystem.removes, held, Option.any_some, shown]
  cases valid : subscription.valid with
  | true =>
      rw [if_pos rfl, center.runFrom_answer _ _ _ (silent _ _), Bool.true_and]
  | false =>
      have same : subscription.handle = subscription.released.handle := by
        simp [Subscription.handle, Subscription.released, valid]
      rw [if_neg (by simp), center.runFrom_answer _ _ _ (silent _ _), same, Bool.false_and]

end EventCenter

namespace EventSystem

variable {κ : Type} {system : EventSystem κ} {number signals subscribers words : Nat}

/-- A subscription that fails uses an id up, unless its callback does not fit, and does no more. -/
theorem perform_of_failing (sound : (system.registry number).IsSound)
    (housed : (system.registry number).IsHoused (.fixed signals subscribers words))
    {signal : Signal} {footprint : Footprint} {callback : κ}
    (failing : ¬system.Accepts (.subscribe number signal footprint callback)) :
    system.perform (.subscribe number signal footprint callback) =
      if ((Housing.inline words).misfit? footprint).isSome then system
      else
        { system with
          registry := Function.update system.registry number (system.registry number).counted
          issued := Function.update system.issued number (system.issued number + 1) } := by
  have housing_eq : (system.registry number).housing = .inline words := housed.housing_eq
  cases fits : (Housing.inline words).misfit? footprint with
  | some misfit => rw [Option.isSome_some, if_pos rfl, perform, housing_eq, fits]
  | none =>
      have still_fits : (system.registry number).housing.misfit? footprint = none :=
        housing_eq ▸ fits
      obtain ⟨table, result⟩ := sound.subscribe_eq_of_fixed housed signal callback
      rw [Option.isSome_none, if_neg (by simp)]
      split at result
      · exact system.perform_of_refused still_fits result
      · split at result
        · exact system.perform_of_refused still_fits result
        · exact absurd ⟨still_fits, _, congrArg Prod.snd result⟩ failing

/-- What a center with fixed tables answers to a subscription, and what it leaves. -/
theorem runFrom_trySubscribe_of_fixed {σ : Type} (center : EventCenter σ κ) (world : σ)
    (sound : (system.registry center.number).IsSound)
    (housed : (system.registry center.number).IsHoused (.fixed signals subscribers words))
    (shown : center.registry.get world = system.registry center.number) (signal : Signal)
    (footprint : Footprint) (callback : κ) :
    (center.trySubscribe signal footprint callback).runFrom world =
      match (Housing.inline words).misfit? footprint with
      | some misfit => (.error (.panic misfit.message), world)
      | none =>
          if (system.registry center.number).subscribers signal = [] ∧
              {other | (system.registry center.number).subscribers other ≠ []}.ncard = signals then
            (.ok (.error (.signalTableFull signals)),
              center.registry.set (system.registry center.number).counted world)
          else if ((system.registry center.number).subscribers signal).length = subscribers then
            (.ok (.error (.subscriberListFull signal subscribers)),
              center.registry.set (system.registry center.number).counted world)
          else
            (center.answer (.subscribed ⟨(system.registry center.number).nextId⟩ signal)
              (.ok { center := center.number, signal
                     id := some ⟨(system.registry center.number).nextId⟩ })).runFrom
              (center.registry.set
                ((system.perform (.subscribe center.number signal footprint callback)).registry
                  center.number) world) := by
  have housing_eq : (system.registry center.number).housing = .inline words := housed.housing_eq
  cases fits : (Housing.inline words).misfit? footprint with
  | some misfit =>
      apply EventCenter.runFrom_trySubscribe_of_misfit
      rw [shown, housing_eq, fits]
  | none =>
      have still_fits : (system.registry center.number).housing.misfit? footprint = none :=
        housing_eq ▸ fits
      obtain ⟨table, result⟩ := sound.subscribe_eq_of_fixed housed signal callback
      rw [EventCenter.runFrom_trySubscribe center world shown still_fits rfl]
      simp only
      split at result
      · next full =>
        rw [if_pos full, system.perform_of_refused still_fits result, result]
        simp only [Function.update_self]
      · next room =>
        rw [if_neg room]
        split at result
        · next full =>
          rw [if_pos full, system.perform_of_refused still_fits result, result]
          simp only [Function.update_self]
        · next list_room =>
          rw [if_neg list_room, result]
          rfl

/-- A center with fixed tables turns a subscription away just if its signal has no subscriber and as
many signals as there are rows have one, or if the signal has as many subscribers as there are
places.  A subscription that fails, also one whose callback does not fit, leaves everything but the
next id as it was.  In a run in which none fails everything is answered as by tables that grow. -/
theorem turned_away_only_when_full (storage : Nat → SubscriberStorage)
    (moves : List (EventMove κ)) (number : Nat) {signals subscribers words : Nat}
    (fixed : storage number = .fixed signals subscribers words) (system : EventSystem κ)
    (reached : system = (fresh storage).after moves) (registry : Registry κ)
    (shown : registry = system.registry number) :
    (∀ (signal : Signal) (footprint : Footprint) (callback : κ) (next : EventSystem κ),
      next = system.perform (.subscribe number signal footprint callback) →
      (¬system.Accepts (.subscribe number signal footprint callback) →
        next = if ((Housing.inline words).misfit? footprint).isSome then system
          else
            { system with
              registry := Function.update system.registry number registry.counted
              issued := Function.update system.issued number (system.issued number + 1) }) ∧
      ∀ {σ : Type} (center : EventCenter σ κ) (world : σ), center.number = number →
        center.registry.get world = registry →
        (center.trySubscribe signal footprint callback).runFrom world =
          (match (Housing.inline words).misfit? footprint with
          | some misfit => (.error (.panic misfit.message), world)
          | none =>
              if registry.subscribers signal = [] ∧
                  {other | registry.subscribers other ≠ []}.ncard = signals then
                (.ok (.error (.signalTableFull signals)),
                  center.registry.set registry.counted world)
              else if (registry.subscribers signal).length = subscribers then
                (.ok (.error (.subscriberListFull signal subscribers)),
                  center.registry.set registry.counted world)
              else
                (center.answer (.subscribed ⟨registry.nextId⟩ signal)
                  (.ok { center := number, signal, id := some ⟨registry.nextId⟩ })).runFrom
                  (center.registry.set (next.registry number) world)) ∧
        ∀ error left,
          (center.trySubscribe signal footprint callback).runFrom world =
            (.ok (.error error), left) →
          (center.subscribe signal footprint callback).runFrom world =
            (.error (.panic s!"event center: {error.message}"), left)) ∧
    ((fresh storage).AcceptsAll moves → ∀ twin, twin = (fresh fun _ => .growing).after moves →
      (fresh fun _ => .growing).answers moves = (fresh storage).answers moves ∧
      twin.subscriptions = system.subscriptions ∧ twin.inFlight = system.inFlight ∧
      twin.alive = system.alive ∧
      (twin.registry number).signalCount = registry.signalCount ∧
      (∀ signal, (twin.registry number).subscribers signal = registry.subscribers signal ∧
        (twin.registry number).subscriberCount signal = registry.subscriberCount signal) ∧
      ∀ {σ τ : Type} (center : EventCenter σ κ) (other : EventCenter τ κ) (world : σ)
        (twin_world : τ), center.registry.get world = registry →
        other.registry.get twin_world = twin.registry number →
        (∀ note world, (center.report note).runFrom world = (.ok (), world)) →
        (∀ note world, (other.report note).runFrom world = (.ok (), world)) →
        ∀ subscription ∈ system.subscriptions, subscription.center = number →
          ((other.reset subscription.handle).runFrom twin_world).1 =
            ((center.reset subscription.handle).runFrom world).1) := by
  subst shown
  have sound : (system.registry number).IsSound :=
    reached ▸ (isConsistent_after storage moves number).sound
  have housed : (system.registry number).IsHoused (.fixed signals subscribers words) := by
    rw [reached, ← fixed]
    exact isHoused_after storage moves number
  constructor
  · rintro signal footprint callback next rfl
    refine ⟨perform_of_failing sound housed, ?_⟩
    intro σ center world numbered registry_eq
    subst numbered
    exact ⟨runFrom_trySubscribe_of_fixed center world sound housed registry_eq signal footprint
        callback,
      fun error left refused => EventCenter.runFrom_subscribe_of_refused center world refused⟩
  · rintro accepted twin rfl
    obtain ⟨agrees, same⟩ := (agrees_fresh storage).after accepted
    rw [← reached] at agrees
    have alike := agrees.registry number
    refine ⟨same, agrees.subscriptions_eq, agrees.inFlight_eq, agrees.alive_eq,
      alike.signalCount_eq, fun signal => ⟨alike.subscribers_eq signal,
        alike.subscriberCount_eq signal⟩, ?_⟩
    intro σ τ center other world twin_world registry_eq twin_registry_eq silent other_silent
      subscription member own
    subst own
    obtain ⟨place, held⟩ := List.mem_iff_getElem?.mp member
    have twin_held := agrees.subscriptions_eq ▸ held
    rw [center.outcome_reset world silent held registry_eq,
      other.outcome_reset twin_world other_silent twin_held twin_registry_eq,
      agrees.removes_eq]

/-- A center whose surroundings are its registry. -/
def bareCenter : EventCenter (Registry Nat) Nat where
  number := 0
  registry := { get := id, set := fun registry _ => registry }
  alive := { get := fun _ => true, set := fun _ registry => registry }
  report _ := pure ()
  dispatcher :=
    { route := .inline
      backlog := { get := fun _ => .empty .unbounded, set := fun _ registry => registry }
      interrupts :=
        { get := fun _ => .empty .boxed .unbounded, set := fun _ registry => registry } }
  call _ _ := pure ()

/-- Two signals get a subscriber each, and the first of them another one in place of its own. -/
def fillingMoves : List (EventMove Nat) :=
  [.subscribe 0 ⟨1⟩ { bytes := 8 } 10, .subscribe 0 ⟨2⟩ { bytes := 8 } 11,
    .publish 0 (.empty ⟨1⟩), .reset 0, .subscribe 0 ⟨1⟩ { bytes := 8 } 12, .deliver 0]

def filledSystem : EventSystem Nat := (fresh fun _ => .fixed 2 1 4).after fillingMoves

theorem filled_tables_turn_away :
    (bareCenter.trySubscribe ⟨3⟩ { bytes := 8 } 13).runFrom (filledSystem.registry 0) =
      (.ok (.error (.signalTableFull 2)), (filledSystem.registry 0).counted) ∧
    (bareCenter.trySubscribe ⟨1⟩ { bytes := 8 } 13).runFrom (filledSystem.registry 0) =
      (.ok (.error (.subscriberListFull ⟨1⟩ 1)), (filledSystem.registry 0).counted) ∧
    (bareCenter.trySubscribe ⟨1⟩ { bytes := 48 } 13).runFrom (filledSystem.registry 0) =
      (.error (.panic (Misfit.size 48 32).message), filledSystem.registry 0) ∧
    filledSystem.perform (.subscribe 0 ⟨1⟩ { bytes := 48 } 13) = filledSystem ∧
    (fresh fun _ => .growing).answers fillingMoves =
      (fresh fun _ => .fixed 2 1 4).answers fillingMoves := by
  obtain ⟨turned_away, resembles⟩ := turned_away_only_when_full (fun _ => .fixed 2 1 4)
    fillingMoves 0 rfl filledSystem rfl _ rfl
  have sound : (filledSystem.registry 0).IsSound := (isConsistent_after _ fillingMoves 0).sound
  have no_row : (filledSystem.registry 0).subscribers ⟨3⟩ = [] := by decide +kernel
  have held : ((filledSystem.registry 0).subscribers ⟨1⟩).length = 1 := by decide +kernel
  have rows : {signal | (filledSystem.registry 0).subscribers signal ≠ []}.ncard = 2 := by
    rw [← sound.signalCount_eq_ncard]
    decide +kernel
  have new_signal := ((turned_away ⟨3⟩ { bytes := 8 } 13 _ rfl).2 bareCenter _ rfl rfl).1
  have known_signal := ((turned_away ⟨1⟩ { bytes := 8 } 13 _ rfl).2 bareCenter _ rfl rfl).1
  obtain ⟨untouched, large⟩ := turned_away ⟨1⟩ { bytes := 48 } 13 _ rfl
  have known : ¬((filledSystem.registry 0).subscribers ⟨1⟩ = [] ∧
      {signal | (filledSystem.registry 0).subscribers signal ≠ []}.ncard = 2) :=
    fun none_left => absurd held (by simp [none_left.1])
  simp only [no_row, rows] at new_signal
  simp only [if_neg known, held] at known_signal
  refine ⟨new_signal, known_signal, (large bareCenter _ rfl rfl).1, untouched ?_, ?_⟩
  · rintro ⟨fits, _⟩
    exact absurd fits (by decide +kernel)
  · refine (resembles ⟨⟨?_, ⟨0⟩, ?_⟩, ⟨?_, ⟨1⟩, ?_⟩, trivial, trivial, ⟨?_, ⟨2⟩, ?_⟩, trivial,
      trivial⟩ _ rfl).1
    all_goals decide +kernel

end EventSystem

end Reactor

import Reactor.Proofs.Timer.Room

/-!
# Fixed containers and containers that grow

A manager looks at the sizes of its containers only when one of them is to take something more.  As
long as there is room, a section of the manager is the same section of the manager with containers
that grow.
-/

namespace Reactor

namespace Roster

variable {α : Type} {roster : Roster α}

/-- The same entries in a roster that grows. -/
def grown (roster : Roster α) : Roster α := { roster with capacity := .unbounded }

@[simp]
theorem get?_grown (roster : Roster α) (index : Nat) :
    roster.grown.get? index = roster.get? index := rfl

@[simp]
theorem set_grown (roster : Roster α) (index : Nat) (entry : α) :
    roster.grown.set index entry = (roster.set index entry).grown := rfl

theorem push?_grown (entry : α) (room : roster.capacity.admits roster.size = true) :
    roster.grown.push? entry = (roster.push? entry).map grown := by
  rw [push?, push?, if_pos room]
  rfl

theorem swapRemove?_grown (roster : Roster α) (index : Nat) :
    roster.grown.swapRemove? index =
      (roster.swapRemove? index).map fun removed => (removed.1, removed.2.grown) := by
  simp only [swapRemove?, grown, size]
  cases roster.entries[index]? <;> rfl

end Roster

namespace ScheduledQueue

variable {queue : ScheduledQueue}

/-- The same heap in a queue that grows. -/
def grown (queue : ScheduledQueue) : ScheduledQueue := { heap := queue.heap.grown }

@[simp]
theorem ids_grown (queue : ScheduledQueue) : queue.grown.ids = queue.ids := rfl

@[simp]
theorem size_grown (queue : ScheduledQueue) : queue.grown.size = queue.size := rfl

@[simp]
theorem front?_grown (queue : ScheduledQueue) : queue.grown.front? = queue.front? := rfl

@[simp]
theorem siftFront_grown (key : TimerId → Ticks) (queue : ScheduledQueue) :
    queue.grown.siftFront key = (queue.siftFront key).grown := rfl

theorem popFront?_grown (key : TimerId → Ticks) (queue : ScheduledQueue) :
    queue.grown.popFront? key =
      (queue.popFront? key).map fun popped => (popped.1, popped.2.grown) := by
  rw [popFront?, popFront?, front?_grown]
  cases queue.front? <;> rfl

theorem remove?_grown (key : TimerId → Ticks) (queue : ScheduledQueue) (id : TimerId) :
    queue.grown.remove? key id = (queue.remove? key id).map grown := by
  rw [remove?, remove?, ids_grown]
  cases queue.ids.findIdx? (· == id) with
  | none => rfl
  | some position =>
      simp only [Option.bind_eq_bind, Option.bind_some, grown, Roster.swapRemove?_grown]
      cases queue.heap.swapRemove? position <;> rfl

theorem remove_grown (key : TimerId → Ticks) (queue : ScheduledQueue) (id : TimerId) :
    queue.grown.remove key id = (queue.remove key id).grown := by
  rw [remove, remove, remove?_grown]
  cases queue.remove? key id <;> rfl

theorem push?_grown (key : TimerId → Ticks) (id : TimerId)
    (room : queue.heap.capacity.admits queue.size = true) :
    queue.grown.push? key id = (queue.push? key id).map grown := by
  have pushed : queue.grown.heap.push? id = (queue.heap.push? id).map Roster.grown :=
    Roster.push?_grown id room
  rw [push?, push?, pushed]
  cases queue.heap.push? id with
  | none => rfl
  | some heap =>
      simp only [Option.map_some, Option.some.injEq]
      by_cases inside : heap.entries.size - 1 < heap.entries.size
      · have grown_inside : heap.grown.entries.size - 1 < heap.grown.entries.size := inside
        rw [dif_pos inside, dif_pos grown_inside]
        rfl
      · have grown_outside : ¬heap.grown.entries.size - 1 < heap.grown.entries.size := inside
        rw [dif_neg inside, dif_neg grown_outside]

end ScheduledQueue

namespace TimerManager

variable {H κ : Type} {manager : TimerManager H κ}

/-- The same manager with containers that grow and callbacks on the heap. -/
def grown (manager : TimerManager H κ) : TimerManager H κ :=
  { manager with
    housing := .boxed
    slots := manager.slots.grown
    queue := manager.queue.grown
    firedCapacity := .unbounded }

@[simp]
theorem remaining_grown (slots : Roster (Option (Timer κ))) :
    remaining slots.grown = remaining slots := rfl

@[simp]
theorem timer?_grown (manager : TimerManager H κ) (id : TimerId) :
    manager.grown.timer? id = manager.timer? id := rfl

theorem change_grown (slots : Roster (Option (Timer κ))) (id : TimerId) (f : Timer κ → Timer κ) :
    change slots.grown id f = (change slots id f).grown := by
  rw [change, change, Roster.get?_grown]
  cases (slots.get? id.index).join <;> rfl

theorem charge_grown (elapsed : Ticks) (ids : List TimerId) (slots : Roster (Option (Timer κ))) :
    charge elapsed ids slots.grown = (charge elapsed ids slots).grown := by
  rw [charge, charge]
  induction ids generalizing slots with
  | nil => rfl
  | cons id ids induction =>
      rw [List.foldl_cons, List.foldl_cons, change_grown]
      exact induction _

/-! ## Firing -/

theorem fireFront?_grown (manager : TimerManager H κ) :
    manager.grown.fireFront? =
      manager.fireFront?.map fun fired => (fired.1.grown, fired.2) := by
  have same_front : manager.grown.queue.front? = manager.queue.front? := rfl
  simp only [fireFront?, timer?_grown, same_front]
  cases in_front : manager.queue.front? with
  | none => rfl
  | some front =>
      cases held : manager.timer? front with
      | none => simp [held]
      | some timer =>
          cases zero : timer.remaining.isZero with
          | false => simp [held, zero]
          | true =>
              cases mode : timer.mode <;>
                simp [grown, held, zero, mode, ScheduledQueue.popFront?_grown, Option.bind_map]

theorem collect_grown {fired : Roster (Expiry κ)} (expiry : Option (Expiry κ))
    (room : fired.capacity.admits fired.size = true) :
    collect fired.grown expiry = (collect fired expiry).grown := by
  cases expiry with
  | none => rfl
  | some expiry =>
      rw [collect, collect, Option.bind_some, Option.bind_some, Roster.push?_grown expiry room]
      cases fired.push? expiry <;> rfl

theorem size_collect_le (fired : Roster (Expiry κ)) (expiry : Option (Expiry κ)) :
    (collect fired expiry).size ≤ fired.size + 1 := by
  have grown := (collect_sublist fired expiry).length_le
  have one_more : expiry.toList.length ≤ 1 := by
    cases expiry <;> simp
  rw [List.length_append, Array.length_toList, Array.length_toList] at grown
  rw [Roster.size, Roster.size]
  omega

/-- A pass that collects no more than there is room for. -/
theorem fireDue_grown {budget : Nat} (manager : TimerManager H κ) {fired : Roster (Expiry κ)}
    (room : ∀ size < fired.size + budget, fired.capacity.admits size = true) :
    fireDue budget manager.grown fired.grown =
      ((fireDue budget manager fired).1.grown, (fireDue budget manager fired).2.grown) := by
  induction budget generalizing manager fired with
  | zero => rfl
  | succ budget induction =>
      rw [fireDue, fireDue, fireFront?_grown]
      cases manager.fireFront? with
      | none => rfl
      | some front =>
          obtain ⟨next, expiry⟩ := front
          simp only [Option.map_some]
          rw [collect_grown expiry (room _ (by omega))]
          apply induction
          intro size small
          have grown := size_collect_le fired expiry
          rw [capacity_collect]
          exact room size (by omega)

theorem clearExpired_grown
    (room : ∀ size < manager.queue.size, manager.firedCapacity.admits size = true) :
    manager.grown.clearExpired = (manager.clearExpired.1.grown, manager.clearExpired.2) := by
  have enough : ∀ size < (Roster.empty manager.firedCapacity : Roster (Expiry κ)).size +
      manager.queue.size, manager.firedCapacity.admits size = true := by
    simpa [Roster.empty, Roster.size] using room
  have passed := fireDue_grown manager enough
  exact congrArg (fun pass => (pass.1, pass.2.entries.toList)) passed

/-! ## Sections -/

theorem enqueue_grown {id : TimerId} (mode : TimerMode) (ticks : Ticks) (callback : κ)
    (room : (manager.withdrawn id).heap.capacity.admits (manager.withdrawn id).size = true) :
    manager.grown.enqueue id mode ticks callback =
      ((manager.enqueue id mode ticks callback).1.grown,
        (manager.enqueue id mode ticks callback).2) := by
  have removed : manager.grown.queue.remove? (remaining manager.grown.slots) id =
      (manager.queue.remove? (remaining manager.slots) id).map ScheduledQueue.grown :=
    ScheduledQueue.remove?_grown _ _ _
  rw [enqueue, enqueue, removed, timer?_grown]
  rw [withdrawn, ScheduledQueue.remove] at room
  cases manager.timer? id with
  | none => cases manager.queue.remove? (remaining manager.slots) id <;> rfl
  | some timer =>
      cases found : manager.queue.remove? (remaining manager.slots) id with
      | none =>
          rw [found, Option.getD_none] at room
          simp only [grown, Option.map_none, Roster.set_grown, remaining_grown,
            ScheduledQueue.push?_grown _ id room]
          generalize pushed : manager.queue.push? _ id = outcome
          cases outcome with
          | none => simp [ScheduledQueue.push?_eq_none_iff.mp pushed] at room
          | some queue => rfl
      | some rest =>
          rw [found, Option.getD_some] at room
          simp only [grown, Option.map_some, Roster.set_grown, remaining_grown,
            ScheduledQueue.push?_grown _ id room]
          generalize pushed : rest.push? _ id = outcome
          cases outcome with
          | none => simp [ScheduledQueue.push?_eq_none_iff.mp pushed] at room
          | some queue => rfl

theorem enqueue_of_room {id : TimerId} {timer : Timer κ} (held : manager.timer? id = some timer)
    (mode : TimerMode) (ticks : Ticks) (callback : κ)
    (room : (manager.withdrawn id).heap.capacity.admits (manager.withdrawn id).size = true) :
    (manager.enqueue id mode ticks callback).2.2 = .ok () := by
  obtain ⟨notes, _, result⟩ := enqueue_eq held mode ticks callback
  rw [result]
  split
  · rfl
  · next refused =>
    rw [ScheduledQueue.push?_eq_none_iff.mp refused] at room
    cases room

variable [HardwareTimer H] {next : TimerManager H κ} {storage : TimerStorage} {id : TimerId}

theorem reconcile_grown (manager : TimerManager H κ) :
    manager.grown.reconcile = (manager.reconcile.1.grown, manager.reconcile.2) := by
  have same_armed : manager.grown.armed = manager.armed := rfl
  have same_stop : HardwareTimer.stop manager.grown.hardware =
      HardwareTimer.stop manager.hardware := rfl
  rw [reconcile, reconcile, same_armed, same_stop]
  split
  · rcases HardwareTimer.stop manager.hardware with ⟨hardware, _ | _⟩
    · rfl
    · simp [grown, charge_grown]
  · rfl

theorem startNext_grown (manager : TimerManager H κ) :
    manager.grown.startNext = (manager.startNext.1.grown, manager.startNext.2) := by
  rw [startNext, startNext]
  have same_front : manager.grown.queue.front? = manager.queue.front? := rfl
  rw [same_front]
  cases manager.queue.front? with
  | none => rfl
  | some front =>
      have same_restart : HardwareTimer.restart manager.grown.hardware
          (remaining manager.grown.slots front) =
            HardwareTimer.restart manager.hardware (remaining manager.slots front) := rfl
      simp only [same_restart]
      rcases HardwareTimer.restart manager.hardware (remaining manager.slots front) with
        ⟨hardware, _ | _⟩ <;> rfl

omit [HardwareTimer H] in
theorem Housed.of_frame (housed : manager.Housed storage)
    (capacity : next.slots.capacity = manager.slots.capacity)
    (size : next.slots.size = manager.slots.size)
    (room : next.queue.heap.capacity = manager.queue.heap.capacity)
    (fired : next.firedCapacity = manager.firedCapacity) : next.Housed storage where
  slots := capacity.trans housed.slots
  queue := room.trans housed.queue
  fired := fired.trans housed.fired
  within := size ▸ housed.within

theorem Housed.reconcile (housed : manager.Housed storage) :
    manager.reconcile.1.Housed storage := by
  rcases reconcile_cases manager with
    ⟨_, result⟩ | ⟨hardware, fault, _, _, result⟩ | ⟨hardware, _, _, result⟩
  · rw [result]
    exact housed
  · rw [result]
    exact housed.of_frame rfl rfl rfl rfl
  · rw [result]
    exact housed.of_frame (by simp [chargedTo]) (by simp [chargedTo]) rfl rfl

omit [HardwareTimer H] in
theorem Housed.vacated (housed : manager.Housed storage) (id : TimerId)
    (entry : Option (Timer κ)) : (manager.vacated id entry).Housed storage :=
  housed.of_frame rfl (Roster.size_set ..) ScheduledQueue.capacity_remove rfl

omit [HardwareTimer H] in
theorem Housed.enqueue (housed : manager.Housed storage) {timer : Timer κ}
    (held : manager.timer? id = some timer) (mode : TimerMode) (ticks : Ticks) (callback : κ) :
    (manager.enqueue id mode ticks callback).1.Housed storage := by
  obtain ⟨notes, _, result⟩ := enqueue_eq held mode ticks callback
  rw [result]
  split
  · next queue pushed =>
    obtain ⟨_, room, _⟩ := ScheduledQueue.of_push? pushed
    exact housed.of_frame rfl (Roster.size_set ..)
      (room.trans ScheduledQueue.capacity_remove) rfl
  · exact (housed.vacated id _).of_frame rfl rfl rfl rfl

/-- What is due fires and the hardware is armed, and there is room for all that fires. -/
theorem settle_grown (housed : manager.Housed storage) (coherent : manager.IsCoherent)
    (collects_all : storage.CollectsAll) :
    manager.grown.clearExpired = (manager.clearExpired.1.grown, manager.clearExpired.2) ∧
      manager.clearExpired.1.grown.startNext =
        (manager.clearExpired.1.startNext.1.grown, manager.clearExpired.1.startNext.2) :=
  ⟨clearExpired_grown (housed.collects coherent.inOrder collects_all), startNext_grown _⟩

end TimerManager

/-- The same section of a manager with containers that grow. -/
def TimerSection.grown {H κ α : Type} (done : TimerSection H κ α) : TimerSection H κ α :=
  { done with manager := done.manager.grown }

namespace TimerManager

variable {H κ : Type} [HardwareTimer H] {manager : TimerManager H κ} {storage : TimerStorage}
  {id : TimerId}

/-- Charging what the hardware counted leaves a timer that can be scheduled. -/
theorem held_of_reconcile {after : TimerManager H κ} {notes : List TimerNote} {timer : Timer κ}
    (housed : manager.Housed storage) (coherent : manager.IsCoherent)
    (held : manager.timer? id = some timer) (result : manager.reconcile = (after, .ok notes)) :
    after.Housed storage ∧ after.IsCoherent ∧ ∃ charged, after.timer? id = some charged := by
  have after_housed := housed.reconcile
  have after_coherent := coherent.reconcile
  have allocated := coherent.timer?_isSome_reconcile id
  rw [result] at after_housed after_coherent allocated
  rw [held, Option.isSome_some] at allocated
  exact ⟨after_housed, after_coherent, Option.isSome_iff_exists.mp allocated⟩

theorem schedule_grown (housed : manager.Housed storage) (coherent : manager.IsCoherent)
    (queues_all : storage.QueuesAll) (collects_all : storage.CollectsAll) (id : TimerId)
    {mode : TimerMode} {ticks : Ticks} (callback : κ)
    (period_pos : mode = .periodic → 0 < ticks.count) :
    manager.grown.schedule id mode ticks callback =
      (manager.schedule id mode ticks callback).grown := by
  cases held : manager.timer? id with
  | none => simp [schedule, held, TimerSection.grown]
  | some timer =>
      have grown_held : manager.grown.timer? id = some timer := held
      have same := reconcile_grown manager
      rcases result : manager.reconcile with ⟨after, fault | notes⟩
      · rw [result] at same
        rw [schedule_of_error held result, schedule_of_error grown_held same]
        rfl
      · rw [result] at same
        obtain ⟨after_housed, after_coherent, charged, still_held⟩ :=
          held_of_reconcile housed coherent held result
        have queued := enqueue_grown mode ticks callback
          (after_housed.admits_withdrawn after_coherent queues_all still_held)
        obtain ⟨cleared, started⟩ := settle_grown
          (after_housed.enqueue still_held mode ticks callback)
          (after_coherent.enqueue callback still_held period_pos (armed_of_reconcile result)).1
          collects_all
        rw [schedule_of_ok held result, schedule_of_ok grown_held same, queued, cleared, started]
        rfl

omit [HardwareTimer H] in
theorem verdict_ne_queueFull (attempt : Except Hardware.Fault (List TimerNote)) (capacity : Nat) :
    verdict attempt ≠ .error (.queueFull capacity) := by
  cases attempt <;> simp [verdict]

/-- No schedule is turned away. -/
theorem schedule_ne_queueFull (housed : manager.Housed storage) (coherent : manager.IsCoherent)
    (queues_all : storage.QueuesAll) (id : TimerId) (mode : TimerMode) (ticks : Ticks)
    (callback : κ) (capacity : Nat) :
    (manager.schedule id mode ticks callback).answer ≠ .error (.queueFull capacity) := by
  cases held : manager.timer? id with
  | none => simp [schedule, held]
  | some timer =>
      rcases result : manager.reconcile with ⟨after, fault | notes⟩
      · simp [schedule_of_error held result]
      · obtain ⟨after_housed, after_coherent, charged, still_held⟩ :=
          held_of_reconcile housed coherent held result
        rw [schedule_of_ok held result, enqueue_of_room still_held mode ticks callback
          (after_housed.admits_withdrawn after_coherent queues_all still_held)]
        exact verdict_ne_queueFull _ capacity

omit [HardwareTimer H] in
theorem IsCoherent.grown (coherent : manager.IsCoherent) : manager.grown.IsCoherent := by
  obtain ⟨ordered, distinct, queued_iff, ready⟩ := coherent
  exact ⟨ordered, distinct, queued_iff, ready⟩

omit [HardwareTimer H] in
theorem vacated_grown (manager : TimerManager H κ) (id : TimerId) (entry : Option (Timer κ)) :
    manager.grown.vacated id entry = (manager.vacated id entry).grown := by
  have removed : manager.grown.withdrawn id = (manager.withdrawn id).grown :=
    ScheduledQueue.remove_grown _ _ _
  rw [vacated, removed]
  rfl

theorem cancel_grown (housed : manager.Housed storage) (coherent : manager.IsCoherent)
    (collects_all : storage.CollectsAll) (id : TimerId) :
    manager.grown.cancel id = (manager.cancel id).grown := by
  cases held : manager.timer? id with
  | none => simp [cancel, held, TimerSection.grown]
  | some timer =>
      have grown_held : manager.grown.timer? id = some timer := held
      cases pending : timer.pending with
      | false =>
          rw [cancel_of_idle coherent held pending,
            cancel_of_idle coherent.grown grown_held pending, vacated_grown]
          rfl
      | true =>
          by_cases in_front : manager.queue.front? = some id
          · have grown_front : manager.grown.queue.front? = some id := in_front
            have same := reconcile_grown (manager.vacated id (some timer.retired))
            have after_housed := (housed.vacated id (some timer.retired)).reconcile
            have after_coherent := (coherent.vacated held
              (atRest_some (rfl : timer.retired.pending = false))).reconcile
            rw [← vacated_grown] at same
            rcases result : (manager.vacated id (some timer.retired)).reconcile with
              ⟨after, fault | notes⟩
            · rw [result] at same
              rw [cancel_of_error held pending in_front result,
                cancel_of_error grown_held pending grown_front same]
              rfl
            · rw [result] at same after_housed after_coherent
              obtain ⟨cleared, started⟩ := settle_grown after_housed after_coherent collects_all
              rw [cancel_of_ok held pending in_front result,
                cancel_of_ok grown_held pending grown_front same, cleared, started]
              rfl
          · have grown_behind : manager.grown.queue.front? ≠ some id := in_front
            rw [cancel_of_behind held pending in_front,
              cancel_of_behind grown_held pending grown_behind, vacated_grown]
            rfl

omit [HardwareTimer H] in
theorem free_grown (manager : TimerManager H κ) (id : TimerId) :
    manager.grown.free id = (manager.free id).grown := by
  have dequeued : manager.grown.dequeue id = (manager.dequeue id).grown := by
    have removed : manager.grown.queue.remove (remaining manager.grown.slots) id =
        (manager.queue.remove (remaining manager.slots) id).grown :=
      ScheduledQueue.remove_grown _ _ _
    rw [dequeue, removed]
    simp [grown, dequeue, change_grown]
  rw [free, dequeued]
  rfl

theorem expire_grown (housed : manager.Housed storage) (coherent : manager.IsCoherent)
    (collects_all : storage.CollectsAll) : manager.grown.expire = manager.expire.grown := by
  have after_housed := housed.reconcile
  have after_coherent := coherent.reconcile
  rw [expire, expire, reconcile_grown]
  rcases result : manager.reconcile with ⟨after, fault | notes⟩
  · rfl
  · rw [result] at after_housed after_coherent
    obtain ⟨cleared, started⟩ := settle_grown after_housed after_coherent collects_all
    simp only [cleared, started]
    rfl

theorem teardown_grown (manager : TimerManager H κ) :
    manager.grown.teardown = manager.teardown.grown := by
  have same_stop : HardwareTimer.stop manager.grown.hardware =
      HardwareTimer.stop manager.hardware := rfl
  rw [teardown, teardown, same_stop]
  rfl

omit [HardwareTimer H] in
/-- If every slot is taken there are as many timers as slots. -/
theorem allocatedCount_of_full (full : freeIndex? manager.slots = none) :
    manager.allocatedCount = manager.slots.size := by
  rw [allocatedCount, Roster.size, Array.countP_eq_size]
  intro entry member
  have taken := Array.findIdx?_eq_none_iff.mp full entry member
  rwa [Option.isNone_eq_false_iff] at taken

omit [HardwareTimer H] in
theorem allocate_grown (room : manager.slots.capacity.admits manager.allocatedCount = true) :
    manager.grown.allocate = manager.allocate.grown := by
  have same_free : freeIndex? manager.grown.slots = freeIndex? manager.slots := rfl
  rw [allocate, allocate, same_free]
  cases full : freeIndex? manager.slots with
  | some index => rfl
  | none =>
      rw [allocatedCount_of_full full] at room
      have pushed : manager.grown.slots.push? (some .idle) =
          (manager.slots.push? (some .idle)).map Roster.grown := Roster.push?_grown _ room
      simp only [pushed]
      cases refused : manager.slots.push? (some .idle) with
      | none => simp [Roster.push?_eq_none_iff.mp refused] at room
      | some slots => rfl

omit [HardwareTimer H] in
theorem accept_grown {footprint : Footprint} (fits : manager.housing.misfit? footprint = none)
    (mode : TimerMode) (delay : Duration) :
    manager.grown.accept mode delay footprint = manager.accept mode delay footprint := by
  have grown_fits : manager.grown.housing.misfit? footprint = none := rfl
  have same_resolution : manager.grown.resolution = manager.resolution := rfl
  rw [accept, accept, same_resolution, fits, grown_fits]

end TimerManager

end Reactor

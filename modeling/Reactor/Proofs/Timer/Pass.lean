import Reactor.Proofs.Timer.Room

/-!
# One pass over what is due

A pass looks at the front of the queue only and ends at the first timer that has ticks left.  It
misses none that is due all the same: whatever the shape of the heap, and whichever of the timers
start over, each firing puts the queue in order again.
-/

namespace Reactor.TimerManager

variable {H κ : Type} {manager next : TimerManager H κ} {ids : List TimerId} {id : TimerId}
  {timer : Timer κ}

/-- What has a schedule can be handed over. -/
theorem expiry?_of_schedule {schedule : Schedule κ} (held : manager.timer? id = some timer)
    (scheduled : timer.schedule = some schedule) :
    manager.expiry? id = some ⟨id, schedule.serial, schedule.callback⟩ :=
  expiry?_eq_some_iff.mpr ⟨rfl, timer, held, scheduled⟩

/-- All that is due is handed over. -/
theorem InOrder.map_some_expiries (inOrder : manager.InOrder)
    (due : ∀ id ∈ ids, id ∈ manager.dueIds) :
    (ids.filterMap manager.expiry?).map some = ids.map manager.expiry? := by
  rw [List.map_filterMap_some_eq_filter_map_isSome, List.filter_eq_self]
  intro expiry listed
  obtain ⟨id, member, rfl⟩ := List.mem_map.mp listed
  obtain ⟨timer, held, _, ready⟩ := inOrder.due_timer (due id member)
  obtain ⟨schedule, scheduled⟩ := Option.isSome_iff_exists.mp ready.scheduled
  rw [expiry?_of_schedule held scheduled]
  rfl

/-- A one-shot that has fired is out of the queue and keeps its schedule. -/
theorem Swept.oneshot (swept : Swept manager ids next) (fired : id ∈ ids)
    (held : manager.timer? id = some timer) (mode : timer.mode = .oneshot) :
    id ∉ next.queue.ids ∧ next.timer? id = some { timer with pending := false } := by
  have now : next.timer? id = some { timer with pending := false } := by
    rw [swept.timers, if_pos fired, held, Option.map_some, Timer.fired]
    simp only [mode]
  refine ⟨fun stays => ?_, now⟩
  cases ((swept.queued_iff id).mp stays).2 _ now

/-- A periodic timer that has fired stays in the queue and starts over. -/
theorem Swept.periodic (swept : Swept manager ids next) (inOrder : manager.InOrder)
    (fired : id ∈ ids) (held : manager.timer? id = some timer) (mode : timer.mode = .periodic) :
    id ∈ next.queue.ids ∧ next.timer? id = some { timer with remaining := timer.reload } := by
  have now : next.timer? id = some { timer with remaining := timer.reload } := by
    rw [swept.timers, if_pos fired, held, Option.map_some, Timer.fired]
    simp only [mode]
  have queued := (mem_dueIds.mp (swept.due id fired)).1
  refine ⟨(swept.queued_iff id).mpr ⟨queued, ?_⟩, now⟩
  have waits := inOrder.pending_of_queued queued held
  intro restarted held_restarted
  rw [now, Option.some.injEq] at held_restarted
  rwa [← held_restarted]

/-- A sweep leaves the timers alone that it does not fire. -/
theorem Swept.kept (swept : Swept manager ids next) (inOrder : manager.InOrder)
    (unfired : id ∉ ids) : next.timer? id = manager.timer? id ∧
      (id ∈ next.queue.ids ↔ id ∈ manager.queue.ids) := by
  have same : next.timer? id = manager.timer? id := by rw [swept.timers, if_neg unfired]
  refine ⟨same, ?_⟩
  rw [swept.queued_iff, same, and_iff_left_iff_imp]
  exact fun queued timer held => inOrder.pending_of_queued queued held

/-- A pass over a queue in order hands over each scheduled timer that has no ticks left, once and
under its own schedule, and no other; it takes the one-shots among them out of the queue, starts the
periodic ones over, and leaves all other timers alone.  It hands over less only if it has less room
than there are timers, which is so neither in growing nor in fixed storage. -/
theorem pass_fires_what_is_due {H κ : Type} (manager : TimerManager H κ)
    (inOrder : manager.InOrder) :
    ∃ next fired, manager.clearExpired = (next, fired) ∧ next.fireFront? = none ∧
      manager.dueIds.Nodup ∧
      (fired.map some).Subperm (manager.dueIds.map manager.expiry?) ∧
      (∀ storage : TimerStorage, storage.CollectsAll → manager.Housed storage →
        (fired.map some).Perm (manager.dueIds.map manager.expiry?)) ∧
      (∀ id ∈ manager.dueIds, ∃ timer schedule,
        manager.timer? id = some timer ∧ timer.schedule = some schedule ∧
        manager.expiry? id = some ⟨id, schedule.serial, schedule.callback⟩ ∧
        (timer.mode = .oneshot → id ∉ next.queue.ids ∧
          next.timer? id = some { timer with pending := false }) ∧
        (timer.mode = .periodic → id ∈ next.queue.ids ∧
          next.timer? id = some { timer with remaining := timer.reload })) ∧
      (∀ id ∉ manager.dueIds, next.timer? id = manager.timer? id ∧
        (id ∈ next.queue.ids ↔ id ∈ manager.queue.ids)) ∧
      next.InOrder ∧ (∀ id ∈ next.queue.ids, remaining next.slots id ≠ .zero) ∧
      next.slots.size = manager.slots.size ∧
      next = { manager with slots := next.slots, queue := next.queue } := by
  obtain ⟨ids, swept, none_due, all, sublist, full⟩ := clearExpired_swept inOrder
  have expiries : ((ids.filterMap manager.expiry?).map some).Perm
      (manager.dueIds.map manager.expiry?) := by
    rw [inOrder.map_some_expiries swept.due]
    exact all.map _
  refine ⟨manager.clearExpired.1, manager.clearExpired.2, rfl,
    fireFront?_of_dueIds_eq_nil swept.inOrder none_due, inOrder.nodup_dueIds, ?_, ?_, ?_, ?_,
    swept.inOrder, ?_, swept.size, swept.frame⟩
  · exact (sublist.map some).subperm.trans expiries.subperm
  · intro storage collects_all housed
    have few : manager.dueIds.length ≤ manager.queue.size := List.length_filter_le _ _
    rw [full fun size small => housed.collects inOrder collects_all size (by omega)]
    exact expiries
  · intro id due
    obtain ⟨timer, held, _, ready⟩ := inOrder.due_timer due
    obtain ⟨schedule, scheduled⟩ := Option.isSome_iff_exists.mp ready.scheduled
    have fired := all.mem_iff.mpr due
    exact ⟨timer, schedule, held, scheduled, expiry?_of_schedule held scheduled,
      swept.oneshot fired held, swept.periodic inOrder fired held⟩
  · intro id waits
    exact swept.kept inOrder fun fired => waits (swept.due id fired)
  · intro id queued zero
    have due : id ∈ manager.clearExpired.1.dueIds := mem_dueIds.mpr ⟨queued, by rw [zero]; rfl⟩
    rw [none_due] at due
    cases due

/-- A timer under a schedule whose number is also its callback. -/
def scheduledTimer (mode : TimerMode) (remaining : Nat) (serial : UInt32) : Timer UInt32 where
  mode
  remaining := .clamp remaining
  reload := .clamp 4
  pending := true
  schedule := some { serial, callback := serial }

/-- Two one-shots and two periodic timers are due, another one-shot has some ticks left, one place
is free, and the last timer claims to wait and is not in the queue. -/
def crowded : TimerManager Unit UInt32 where
  hardware := ()
  resolution := .microsecond
  housing := .inline 4
  slots :=
    { capacity := .bounded 7
      entries := #[some (scheduledTimer .oneshot 0 10), some (scheduledTimer .periodic 0 11),
        some (scheduledTimer .oneshot 3 12), none, some (scheduledTimer .periodic 0 14),
        some (scheduledTimer .oneshot 0 15), some (scheduledTimer .oneshot 0 16)] }
  queue := { heap := { capacity := .bounded 7, entries := #[⟨4⟩, ⟨0⟩, ⟨5⟩, ⟨2⟩, ⟨1⟩] } }
  firedCapacity := .bounded 7

theorem inOrder_crowded : crowded.InOrder where
  ordered := ScheduledQueue.isHeap_iff.mp (by decide)
  distinct := by decide
  waiting := by
    intro id queued
    have listed : id ∈ [⟨4⟩, ⟨0⟩, ⟨5⟩, ⟨2⟩, (⟨1⟩ : TimerId)] := Array.mem_toList_iff.mpr queued
    simp only [List.mem_cons, List.not_mem_nil, or_false] at listed
    rcases listed with rfl | rfl | rfl | rfl | rfl
    all_goals exact ⟨_, rfl, rfl, rfl, by decide⟩

theorem housed_crowded : crowded.Housed (.fixed 7 4) where
  slots := rfl
  queue := rfl
  fired := rfl
  within := fun _ small => decide_eq_true small

/-- The four that are due are handed over, and the timer that is not in the queue is not. -/
theorem pass_over_crowded :
    crowded.InOrder ∧ TimerStorage.CollectsAll (.fixed 7 4) ∧ crowded.Housed (.fixed 7 4) ∧
      crowded.dueIds = [⟨4⟩, ⟨0⟩, ⟨5⟩, ⟨1⟩] ∧
      ∃ next fired, crowded.clearExpired = (next, fired) ∧
        (fired.map some).Perm
          [some ⟨⟨4⟩, 14, 14⟩, some ⟨⟨0⟩, 10, 10⟩, some ⟨⟨5⟩, 15, 15⟩, some ⟨⟨1⟩, 11, 11⟩] ∧
        ⟨0⟩ ∉ next.queue.ids ∧ ⟨1⟩ ∈ next.queue.ids ∧ ⟨2⟩ ∈ next.queue.ids ∧
        next.timer? ⟨1⟩ = some { scheduledTimer .periodic 0 11 with remaining := .clamp 4 } ∧
        next.timer? ⟨6⟩ = some (scheduledTimer .oneshot 0 16) ∧ next.InOrder := by
  have collects_all := TimerStorage.collectsAll_fixed 7 4
  obtain ⟨next, fired, cleared, _, _, _, handed_over, due, others, inOrder, _⟩ :=
    pass_fires_what_is_due crowded inOrder_crowded
  obtain ⟨first, _, held_first, _, _, oneshot, _⟩ := due ⟨0⟩ (by decide)
  obtain ⟨second, _, held_second, _, _, _, periodic⟩ := due ⟨1⟩ (by decide)
  obtain rfl : scheduledTimer .oneshot 0 10 = first := Option.some.inj held_first
  obtain rfl : scheduledTimer .periodic 0 11 = second := Option.some.inj held_second
  refine ⟨inOrder_crowded, collects_all, housed_crowded, by decide, next, fired, cleared,
    handed_over _ collects_all housed_crowded, (oneshot rfl).1, (periodic rfl).1,
    (others ⟨2⟩ (by decide)).2.mpr (Array.mem_toList_iff.mp (by decide)), (periodic rfl).2,
    (others ⟨6⟩ (by decide)).1, inOrder⟩

end Reactor.TimerManager

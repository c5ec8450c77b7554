import Reactor.Proofs.Timer.Coherence
import Mathlib.Data.List.Perm.Subperm
import Mathlib.Data.Option.Basic

/-!
# Firing what is due

A pass over the scheduled queue fires the timer in front while it is due.  Firing one timer leaves
the others alone and leaves that timer undue, so a pass fires every due timer once, whatever the
order in which the heap brings them to the front.
-/

namespace Reactor.TimerManager

variable {H κ : Type} {manager next last : TimerManager H κ} {front : TimerId} {timer : Timer κ}
  {ids : List TimerId}

/-- The slots and the queue of the manager are coherent. -/
def IsCoherent (manager : TimerManager H κ) : Prop := Coherent manager.slots manager.queue

theorem IsCoherent.ready (coherent : manager.IsCoherent) {id : TimerId}
    (held : manager.timer? id = some timer) (pending : timer.pending = true) : timer.Ready :=
  Coherent.ready coherent id timer held pending

/-! ## The timers that are due -/

/-- The queue is in heap order and free of repetition, and all it holds waits and can fire.  Other
timers may say of themselves whatever they want. -/
structure InOrder (manager : TimerManager H κ) : Prop where
  /-- The timer with the fewest ticks left is in front. -/
  ordered : manager.queue.Ordered (remaining manager.slots)
  /-- No timer is queued twice. -/
  distinct : manager.queue.ids.toList.Nodup
  /-- What is queued is allocated, waits and can fire. -/
  waiting : ∀ id ∈ manager.queue.ids,
    ∃ timer, manager.timer? id = some timer ∧ timer.pending = true ∧ timer.Ready

theorem IsCoherent.inOrder (coherent : manager.IsCoherent) : manager.InOrder where
  ordered := Coherent.ordered coherent
  distinct := Coherent.distinct coherent
  waiting := by
    intro id queued
    obtain ⟨timer, held, pending⟩ := (Coherent.queued_iff coherent id).mp queued
    exact ⟨timer, held, pending, coherent.ready held pending⟩

theorem InOrder.pending_of_queued (inOrder : manager.InOrder) {id : TimerId}
    (queued : id ∈ manager.queue.ids) (held : manager.timer? id = some timer) :
    timer.pending = true := by
  obtain ⟨other, same, pending, _⟩ := inOrder.waiting id queued
  rw [held] at same
  cases same
  exact pending

/-- The scheduled timers that have no ticks left. -/
def dueIds (manager : TimerManager H κ) : List TimerId :=
  manager.queue.ids.toList.filter fun id => (remaining manager.slots id).isZero

theorem mem_dueIds {id : TimerId} : id ∈ manager.dueIds ↔
    id ∈ manager.queue.ids ∧ (remaining manager.slots id).isZero = true := by
  rw [dueIds, List.mem_filter, Array.mem_toList_iff]

theorem InOrder.nodup_dueIds (inOrder : manager.InOrder) : manager.dueIds.Nodup :=
  inOrder.distinct.filter _

/-- What is due is allocated and can fire. -/
theorem InOrder.due_timer (inOrder : manager.InOrder) {id : TimerId} (due : id ∈ manager.dueIds) :
    ∃ timer, manager.timer? id = some timer ∧ timer.isDue = true ∧ timer.Ready := by
  obtain ⟨queued, zero⟩ := mem_dueIds.mp due
  obtain ⟨timer, held, pending, ready⟩ := inOrder.waiting id queued
  rw [remaining_of_held? held] at zero
  exact ⟨timer, held, by rw [Timer.isDue, pending, zero]; rfl, ready⟩

/-- Among coherent slots, a timer is due by what its slot says alone. -/
theorem IsCoherent.mem_dueIds_iff (coherent : manager.IsCoherent) {id : TimerId} :
    id ∈ manager.dueIds ↔ ∃ timer, manager.timer? id = some timer ∧ timer.isDue = true := by
  constructor
  · intro due
    obtain ⟨timer, held, is_due, _⟩ := coherent.inOrder.due_timer due
    exact ⟨timer, held, is_due⟩
  · rintro ⟨timer, held, is_due⟩
    obtain ⟨pending, none_left⟩ := Timer.isDue_iff.mp is_due
    refine mem_dueIds.mpr ⟨Coherent.queued coherent held pending, ?_⟩
    rw [remaining_of_held? held, Ticks.isZero, none_left]
    rfl

/-! ## Sweeps -/

/-- `next` is what is left of `manager` once the due timers `ids` have fired. -/
structure Swept (manager : TimerManager H κ) (ids : List TimerId) (next : TimerManager H κ) :
    Prop where
  /-- Only the slots and the queue change. -/
  frame : next = { manager with slots := next.slots, queue := next.queue }
  /-- No slot comes or goes. -/
  size : next.slots.size = manager.slots.size
  /-- The slots stay in the same container. -/
  capacity : next.slots.capacity = manager.slots.capacity
  /-- The queue stays in the same container. -/
  room : next.queue.heap.capacity = manager.queue.heap.capacity
  /-- The queue stays in order. -/
  inOrder : next.InOrder
  /-- Each timer fires once. -/
  distinct : ids.Nodup
  /-- What fires was due. -/
  due : ∀ id ∈ ids, id ∈ manager.dueIds
  /-- What fires is fired, and the others stay as they are. -/
  timers : ∀ id, next.timer? id =
    if id ∈ ids then (manager.timer? id).map Timer.fired else manager.timer? id
  /-- What was queued stays in the queue for as long as it waits. -/
  queued_iff : ∀ id, id ∈ next.queue.ids ↔
    id ∈ manager.queue.ids ∧ ∀ timer, next.timer? id = some timer → timer.pending = true

theorem Swept.refl (inOrder : manager.InOrder) : Swept manager [] manager where
  frame := rfl
  size := rfl
  capacity := rfl
  room := rfl
  inOrder
  distinct := List.nodup_nil
  due := by simp
  timers := by simp
  queued_iff := fun id =>
    ⟨fun queued => ⟨queued, fun _ => inOrder.pending_of_queued queued⟩, And.left⟩

/-- A sweep makes no timer wait. -/
theorem Swept.pending_before (swept : Swept manager ids next) {id : TimerId}
    (held : next.timer? id = some timer) (pending : timer.pending = true) :
    ∃ before, manager.timer? id = some before ∧ before.pending = true ∧
      (before.Ready → timer.Ready) := by
  rw [swept.timers] at held
  split at held
  · obtain ⟨before, was_held, rfl⟩ := Option.map_eq_some_iff.mp held
    exact ⟨before, was_held, Timer.pending_of_fired pending, Timer.ready_fired⟩
  · exact ⟨timer, held, pending, fun ready => ready⟩

/-- A sweep leaves the queue and the slots telling the same story. -/
theorem Swept.coherent (swept : Swept manager ids next) (coherent : manager.IsCoherent) :
    next.IsCoherent where
  ordered := swept.inOrder.ordered
  distinct := swept.inOrder.distinct
  queued_iff := by
    intro id
    constructor
    · intro queued
      obtain ⟨timer, held, pending, _⟩ := swept.inOrder.waiting id queued
      exact ⟨timer, held, pending⟩
    · rintro ⟨timer, held, pending⟩
      obtain ⟨before, was_held, waited, _⟩ := swept.pending_before held pending
      refine (swept.queued_iff id).mpr ⟨Coherent.queued coherent was_held waited, ?_⟩
      rw [timer?_eq_held?, held]
      rintro _ ⟨⟩
      exact pending
  ready := by
    intro id timer held pending
    obtain ⟨before, was_held, waited, ready⟩ := swept.pending_before held pending
    exact ready (coherent.ready was_held waited)

/-- What has fired is not due any more. -/
theorem Swept.not_due_of_mem (swept : Swept manager ids next) (inOrder : manager.InOrder)
    {id : TimerId} (fired : id ∈ ids) : id ∉ next.dueIds := by
  intro again
  obtain ⟨before, was_held, _, ready⟩ := inOrder.due_timer (swept.due id fired)
  obtain ⟨timer, held, due, _⟩ := swept.inOrder.due_timer again
  rw [swept.timers, if_pos fired, was_held, Option.map_some, Option.some.injEq] at held
  rw [← held, ready.isDue_fired] at due
  cases due

/-- What is due after a sweep was due before. -/
theorem Swept.due_before (swept : Swept manager ids next) (inOrder : manager.InOrder)
    {id : TimerId} (due : id ∈ next.dueIds) : id ∉ ids ∧ id ∈ manager.dueIds := by
  have unfired : id ∉ ids := fun fired => swept.not_due_of_mem inOrder fired due
  obtain ⟨queued, zero⟩ := mem_dueIds.mp due
  refine ⟨unfired, mem_dueIds.mpr ⟨((swept.queued_iff id).mp queued).1, ?_⟩⟩
  have same := swept.timers id
  rw [if_neg unfired, timer?_eq_held?, timer?_eq_held?] at same
  rwa [remaining_eq, ← same, ← remaining_eq]

theorem Swept.trans {more : List TimerId} (inOrder : manager.InOrder)
    (first : Swept manager ids next) (second : Swept next more last) :
    Swept manager (ids ++ more) last := by
  have unfired : ∀ id ∈ more, id ∉ ids ∧ id ∈ manager.dueIds :=
    fun id again => first.due_before inOrder (second.due id again)
  constructor
  · rw [second.frame, first.frame]
  · rw [second.size, first.size]
  · rw [second.capacity, first.capacity]
  · rw [second.room, first.room]
  · exact second.inOrder
  · rw [List.nodup_append']
    exact ⟨first.distinct, second.distinct, fun id fired again => (unfired id again).1 fired⟩
  · intro id fired
    rcases List.mem_append.mp fired with fired | fired
    · exact first.due id fired
    · exact (unfired id fired).2
  · intro id
    rw [second.timers, first.timers]
    by_cases again : id ∈ more
    · simp [again, (unfired id again).1]
    · simp [again]
  · intro id
    rw [second.queued_iff, first.queued_iff]
    constructor
    · rintro ⟨⟨queued, _⟩, waits⟩
      exact ⟨queued, waits⟩
    · rintro ⟨queued, waits⟩
      refine ⟨⟨queued, ?_⟩, waits⟩
      intro timer held
      have now := second.timers id
      split at now
      · rw [held, Option.map_some] at now
        exact Timer.pending_of_fired (waits _ now)
      · exact waits timer (now.trans held)

theorem fireFront?_of_not_due (in_front : manager.queue.front? = some front)
    (held : manager.timer? front = some timer) (waits : timer.remaining.isZero = false) :
    manager.fireFront? = none := by
  simp [fireFront?, in_front, held, waits]

theorem fireFront?_of_periodic (in_front : manager.queue.front? = some front)
    (held : manager.timer? front = some timer) (zero : timer.remaining.isZero = true)
    (mode : timer.mode = .periodic) :
    manager.fireFront? = some ({ manager with
      slots := manager.slots.set front.index (some timer.fired)
      queue := manager.queue.siftFront
        (remaining (manager.slots.set front.index (some timer.fired))) },
      timer.expiry? front) := by
  obtain ⟨_, left, reload, pending, schedule⟩ := timer
  subst mode
  simp [fireFront?, in_front, held, zero, Timer.fired, Timer.expiry?]

theorem fireFront?_of_oneshot {rest : ScheduledQueue}
    (in_front : manager.queue.front? = some front)
    (held : manager.timer? front = some timer) (zero : timer.remaining.isZero = true)
    (mode : timer.mode = .oneshot)
    (popped : manager.queue.popFront?
      (remaining (manager.slots.set front.index (some timer.fired))) = some (front, rest)) :
    manager.fireFront? = some ({ manager with
      slots := manager.slots.set front.index (some timer.fired)
      queue := rest }, timer.expiry? front) := by
  obtain ⟨_, left, reload, pending, schedule⟩ := timer
  subst mode
  simp only [Timer.fired] at popped
  simp [fireFront?, in_front, held, zero, Timer.fired, Timer.expiry?, popped]

/-- Firing a timer that is due is one step of a sweep. -/
theorem swept_singleton {queue : ScheduledQueue} (inOrder : manager.InOrder)
    (held : manager.timer? front = some timer) (due : front ∈ manager.dueIds)
    (room : queue.heap.capacity = manager.queue.heap.capacity)
    (ordered : queue.Ordered (remaining (manager.slots.set front.index (some timer.fired))))
    (distinct : queue.ids.toList.Nodup)
    (members : ∀ id, id ∈ queue.ids ↔
      id ∈ manager.queue.ids ∧ (id = front → timer.fired.pending = true)) :
    Swept manager [front] { manager with
      slots := manager.slots.set front.index (some timer.fired), queue } := by
  have ready : timer.Ready := by
    obtain ⟨same, held_same, _, ready⟩ := inOrder.due_timer due
    rw [held] at held_same
    cases held_same
    exact ready
  have fired_held : held? (manager.slots.set front.index (some timer.fired)) front =
      some timer.fired := held?_set_self _ (lt_size_of_held? held)
  have waiting : ∀ id ∈ manager.queue.ids, (id = front → timer.fired.pending = true) →
      ∃ now, held? (manager.slots.set front.index (some timer.fired)) id = some now ∧
        now.pending = true ∧ now.Ready := by
    intro id queued stays
    by_cases same : id = front
    · subst same
      exact ⟨timer.fired, fired_held, stays rfl, Timer.ready_fired ready⟩
    · rw [held?_set_ne _ same]
      exact inOrder.waiting id queued
  constructor
  · rfl
  · exact Roster.size_set _ _ _
  · rfl
  · exact room
  · constructor
    · exact ordered
    · exact distinct
    · intro id queued
      obtain ⟨queued_before, stays⟩ := (members id).mp queued
      exact waiting id queued_before stays
  · exact List.nodup_singleton front
  · simpa using due
  · intro id
    simp only [timer?_eq_held?, List.mem_singleton]
    split
    · next same => rw [same, fired_held, ← timer?_eq_held?, held, Option.map_some]
    · next apart => exact held?_set_ne _ apart
  · intro id
    rw [members]
    refine and_congr_right fun queued => ⟨fun stays now held_now => ?_, ?_⟩
    · obtain ⟨other, held_other, pending, _⟩ := waiting id queued stays
      rw [timer?_eq_held?, held_other] at held_now
      cases held_now
      exact pending
    · rintro waits rfl
      exact waits _ fired_held

theorem fireFront?_of_due (inOrder : manager.InOrder)
    (in_front : manager.queue.front? = some front) (held : manager.timer? front = some timer)
    (zero : timer.remaining.isZero = true) :
    ∃ next, manager.fireFront? = some (next, timer.expiry? front) ∧
      Swept manager [front] next := by
  have queued := ScheduledQueue.mem_of_front? in_front
  have due : front ∈ manager.dueIds := by
    rw [mem_dueIds, remaining_of_held? held]
    exact ⟨queued, zero⟩
  cases mode : timer.mode with
  | periodic =>
      have pending : timer.fired.pending = true := by
        have waits := inOrder.pending_of_queued queued held
        rwa [Timer.fired, mode]
      refine ⟨_, fireFront?_of_periodic in_front held zero mode,
        swept_singleton inOrder held due rfl ?_ ?_ ?_⟩
      · have once := List.count_eq_one_of_mem inOrder.distinct (Array.mem_toList_iff.mpr queued)
        apply inOrder.ordered.siftFront in_front once
        intro other _ apart
        exact remaining_set_ne _ apart
      · exact ScheduledQueue.siftFront_perm.nodup_iff.mpr inOrder.distinct
      · intro id
        rw [← Array.mem_toList_iff, ScheduledQueue.siftFront_perm.mem_iff, Array.mem_toList_iff]
        simp [pending]
  | oneshot =>
      have fired : timer.fired = { timer with pending := false } := by simp [Timer.fired, mode]
      obtain ⟨rest, popped, permuted, room, kept⟩ := ScheduledQueue.popFront?_of_front?
        (remaining (manager.slots.set front.index (some timer.fired))) in_front
      obtain ⟨absent, distinct⟩ :=
        List.nodup_cons.mp (permuted.nodup_iff.mp inOrder.distinct)
      refine ⟨_, fireFront?_of_oneshot in_front held zero mode popped,
        swept_singleton inOrder held due room ?_ distinct ?_⟩
      · apply kept
        rw [remaining_set_of_same held (by rw [fired])]
        exact inOrder.ordered
      · intro id
        rw [← Array.mem_toList_iff, ← Array.mem_toList_iff, permuted.mem_iff, List.mem_cons]
        rw [fired]
        by_cases same : id = front
        · subst same
          simpa using absent
        · simp [same]

/-- A pass comes to an end only where nothing is due. -/
theorem fireFront?_cases (inOrder : manager.InOrder) :
    (manager.fireFront? = none ∧ manager.dueIds = []) ∨
      ∃ front timer next, manager.queue.front? = some front ∧
        manager.timer? front = some timer ∧
        manager.fireFront? = some (next, timer.expiry? front) ∧ Swept manager [front] next := by
  cases in_front : manager.queue.front? with
  | none =>
      left
      constructor
      · simp [fireFront?, in_front]
      · simp [dueIds, ScheduledQueue.front?_eq_none_iff.mp in_front]
  | some front =>
      obtain ⟨timer, held, _, _⟩ := inOrder.waiting front (ScheduledQueue.mem_of_front? in_front)
      cases zero : timer.remaining.isZero with
      | false =>
          left
          refine ⟨fireFront?_of_not_due in_front held zero, ?_⟩
          rw [List.eq_nil_iff_forall_not_mem]
          -- The front has the fewest ticks left, and it has some.
          intro id due
          obtain ⟨queued, none_left⟩ := mem_dueIds.mp due
          have least := inOrder.ordered.front_le in_front queued
          rw [remaining_of_held? held, Ticks.le_iff] at least
          simp only [Ticks.isZero, beq_iff_eq, beq_eq_false_iff_ne] at zero none_left
          omega
      | true =>
          right
          obtain ⟨next, fires, swept⟩ := fireFront?_of_due inOrder in_front held zero
          exact ⟨front, timer, next, rfl, held, fires, swept⟩

/-- Where nothing is due, no pass goes any further. -/
theorem fireFront?_of_dueIds_eq_nil (inOrder : manager.InOrder) (none_due : manager.dueIds = []) :
    manager.fireFront? = none := by
  rcases fireFront?_cases inOrder with ⟨ends, _⟩ | ⟨front, timer, next, _, _, _, one⟩
  · exact ends
  · have due := one.due front (List.mem_singleton_self front)
    rw [none_due] at due
    cases due

/-- What the timer with an id hands over when it fires. -/
def expiry? (manager : TimerManager H κ) (id : TimerId) : Option (Expiry κ) :=
  (manager.timer? id).bind fun timer => timer.expiry? id

/-- Whether no timer is due. -/
def NoneDue (manager : TimerManager H κ) : Prop :=
  ∀ id timer, manager.timer? id = some timer → timer.isDue = false

theorem Swept.expiry?_eq (swept : Swept manager ids next) {id : TimerId} (unfired : id ∉ ids) :
    next.expiry? id = manager.expiry? id := by
  rw [expiry?, expiry?, swept.timers, if_neg unfired]

theorem collect_sublist (fired : Roster (Expiry κ)) (expiry : Option (Expiry κ)) :
    (collect fired expiry).entries.toList.Sublist (fired.entries.toList ++ expiry.toList) := by
  cases expiry with
  | none => simp [collect]
  | some expiry =>
      simp only [collect, Option.bind_some, Roster.push?]
      split
      · simp
      · simp

theorem collect_of_admits {fired : Roster (Expiry κ)} (expiry : Option (Expiry κ))
    (room : fired.capacity.admits fired.size = true) :
    (collect fired expiry).entries.toList = fired.entries.toList ++ expiry.toList := by
  cases expiry with
  | none => simp [collect]
  | some expiry => simp [collect, Roster.push?, room]

@[simp]
theorem capacity_collect (fired : Roster (Expiry κ)) (expiry : Option (Expiry κ)) :
    (collect fired expiry).capacity = fired.capacity := by
  cases expiry with
  | none => rfl
  | some expiry =>
      simp only [collect, Option.bind_some, Roster.push?]
      split <;> rfl

/-- A bounded pass sweeps some timers, and either leaves nothing due or uses up its budget. -/
theorem fireDue_swept (inOrder : manager.InOrder) (budget : Nat) (fired : Roster (Expiry κ)) :
    ∃ ids, Swept manager ids (fireDue budget manager fired).1 ∧
      ((fireDue budget manager fired).1.dueIds = [] ∨ ids.length = budget) ∧
      (fireDue budget manager fired).2.entries.toList.Sublist
        (fired.entries.toList ++ ids.filterMap manager.expiry?) ∧
      ((∀ size < fired.size + ids.length, fired.capacity.admits size = true) →
        (fireDue budget manager fired).2.entries.toList =
          fired.entries.toList ++ ids.filterMap manager.expiry?) := by
  induction budget generalizing manager fired with
  | zero => exact ⟨[], Swept.refl inOrder, Or.inr rfl, by simp [fireDue], by simp [fireDue]⟩
  | succ budget induction =>
      rcases fireFront?_cases inOrder with
        ⟨ends, none_due⟩ | ⟨front, timer, next, _, held, fires, one⟩
      · have result : fireDue (budget + 1) manager fired = (manager, fired) := by
          rw [fireDue, ends]
        rw [result]
        exact ⟨[], Swept.refl inOrder, Or.inl none_due, by simp, by simp⟩
      · have result : fireDue (budget + 1) manager fired =
            fireDue budget next (collect fired (timer.expiry? front)) := by
          rw [fireDue, fires]
        obtain ⟨ids, more, ends, sublist, full⟩ :=
          induction one.inOrder (collect fired (timer.expiry? front))
        have swept := one.trans inOrder more
        have fresh : front ∉ ids := (List.nodup_cons.mp swept.distinct).1
        have expiries : ids.filterMap next.expiry? = ids.filterMap manager.expiry? := by
          apply List.filterMap_congr
          intro id fired_later
          apply one.expiry?_eq
          rintro same
          rw [List.mem_singleton] at same
          exact fresh (same ▸ fired_later)
        have first : [front].filterMap manager.expiry? = (timer.expiry? front).toList := by
          cases given : timer.expiry? front with
          | none => simp [expiry?, held, given]
          | some expiry => simp [expiry?, held, given]
        rw [result]
        refine ⟨[front] ++ ids, swept, ?_, ?_, ?_⟩
        · rcases ends with none_due | used
          · exact Or.inl none_due
          · right
            simp [used]
        · rw [List.filterMap_append, first, ← List.append_assoc, ← expiries]
          exact sublist.trans ((collect_sublist _ _).append_right _)
        · intro room
          rw [List.length_append, List.length_singleton] at room
          rw [List.filterMap_append, first, ← List.append_assoc, ← expiries,
            ← collect_of_admits _ (room _ (by omega))]
          apply full
          intro size small
          rw [capacity_collect]
          apply room
          have grown := (collect_sublist fired (timer.expiry? front)).length_le
          have one_more : (timer.expiry? front).toList.length ≤ 1 := by
            cases timer.expiry? front <;> simp
          simp only [List.length_append, Array.length_toList] at grown
          simp only [Roster.size] at small ⊢
          omega

/-- A sweep of as many timers as are queued leaves none that is due. -/
theorem Swept.dueIds_eq_nil (swept : Swept manager ids next) (inOrder : manager.InOrder)
    (used : ids.length = manager.queue.size) : next.dueIds = [] := by
  have within : ids ⊆ manager.queue.ids.toList :=
    fun id fired => Array.mem_toList_iff.mpr (mem_dueIds.mp (swept.due id fired)).1
  have all : ids.Perm manager.queue.ids.toList := by
    apply (List.subperm_of_subset swept.distinct within).perm_of_length_le
    simp only [Array.length_toList, used, ScheduledQueue.size, Nat.le_refl]
  rw [List.eq_nil_iff_forall_not_mem]
  intro id due
  obtain ⟨unfired, due_before⟩ := swept.due_before inOrder due
  exact unfired (all.mem_iff.mpr (Array.mem_toList_iff.mpr (mem_dueIds.mp due_before).1))

/-- A sweep that leaves no timer due has fired every timer that was. -/
theorem Swept.perm_dueIds (swept : Swept manager ids next) (inOrder : manager.InOrder)
    (none_due : next.dueIds = []) : ids.Perm manager.dueIds := by
  rw [List.perm_ext_iff_of_nodup swept.distinct inOrder.nodup_dueIds]
  refine fun id => ⟨swept.due id, fun due => ?_⟩
  by_contra unfired
  -- What is due and does not fire stays as it is, and so it is still due.
  have still := swept.timers id
  rw [if_neg unfired] at still
  obtain ⟨queued, zero⟩ := mem_dueIds.mp due
  obtain ⟨timer, held, pending, _⟩ := inOrder.waiting id queued
  have due_still : id ∈ next.dueIds := by
    refine mem_dueIds.mpr ⟨(swept.queued_iff id).mpr ⟨queued, ?_⟩, ?_⟩
    · rw [still, held]
      rintro _ ⟨⟩
      exact pending
    · rwa [remaining_of_held? (still.trans held), ← remaining_of_held? held]
  rw [none_due] at due_still
  cases due_still

/-- A pass over the whole queue fires what is due and leaves nothing due. -/
theorem clearExpired_swept (inOrder : manager.InOrder) :
    ∃ ids, Swept manager ids manager.clearExpired.1 ∧ manager.clearExpired.1.dueIds = [] ∧
      ids.Perm manager.dueIds ∧ manager.clearExpired.2.Sublist (ids.filterMap manager.expiry?) ∧
      ((∀ size < manager.dueIds.length, manager.firedCapacity.admits size = true) →
        manager.clearExpired.2 = ids.filterMap manager.expiry?) := by
  obtain ⟨ids, swept, ends, sublist, full⟩ :=
    fireDue_swept inOrder manager.queue.size (.empty manager.firedCapacity)
  have result : manager.clearExpired =
      ((fireDue manager.queue.size manager (.empty manager.firedCapacity)).1,
        (fireDue manager.queue.size manager (.empty manager.firedCapacity)).2.entries.toList) :=
    rfl
  have none_due := ends.elim (fun ended => ended) (swept.dueIds_eq_nil inOrder)
  have all := swept.perm_dueIds inOrder none_due
  rw [result]
  refine ⟨ids, swept, none_due, all, ?_, ?_⟩
  · simpa [Roster.empty] using sublist
  · rw [← all.length_eq]
    simpa [Roster.empty, Roster.size] using full

theorem NoneDue.remaining_pos (none_due : manager.NoneDue) (coherent : manager.IsCoherent)
    {id : TimerId} (queued : id ∈ manager.queue.ids) :
    0 < (remaining manager.slots id).count := by
  obtain ⟨timer, held, pending⟩ := (Coherent.queued_iff coherent id).mp queued
  have waits := none_due id timer held
  rw [Bool.eq_false_iff, ne_eq, Timer.isDue_iff, not_and] at waits
  rw [remaining_of_held? held]
  exact Nat.pos_of_ne_zero (waits pending)

/-! ## A whole pass -/

/-- What a pass over the due timers leaves of a manager, and what it collects. -/
structure Cleared (manager next : TimerManager H κ) (collected : List (Expiry κ)) : Prop where
  /-- Only the slots and the queue change. -/
  frame : next = { manager with slots := next.slots, queue := next.queue }
  /-- No slot comes or goes. -/
  size : next.slots.size = manager.slots.size
  /-- The slots stay in the same container. -/
  capacity : next.slots.capacity = manager.slots.capacity
  /-- The queue stays in the same container. -/
  room : next.queue.heap.capacity = manager.queue.heap.capacity
  /-- The slots and the queue stay coherent. -/
  coherent : next.IsCoherent
  /-- Every due timer has fired. -/
  timers : ∀ id, next.timer? id = (manager.timer? id).map Timer.settled
  /-- No timer is collected twice. -/
  distinct : (collected.map Expiry.id).Nodup
  /-- What is collected belongs to a due timer and its schedule. -/
  due : ∀ expiry ∈ collected, ∃ timer, manager.timer? expiry.id = some timer ∧
    timer.isDue = true ∧ timer.schedule = some ⟨expiry.serial, expiry.callback⟩
  /-- Every due timer is collected if there is room. -/
  complete : (∀ size < manager.queue.size, manager.firedCapacity.admits size = true) →
    ∀ id timer, manager.timer? id = some timer → timer.isDue = true →
      ∃ expiry ∈ collected, expiry.id = id

theorem expiry?_eq_some_iff {id : TimerId} {expiry : Expiry κ} :
    manager.expiry? id = some expiry ↔ expiry.id = id ∧
      ∃ timer, manager.timer? id = some timer ∧
        timer.schedule = some ⟨expiry.serial, expiry.callback⟩ := by
  rw [expiry?]
  cases manager.timer? id with
  | none => simp
  | some timer =>
      obtain ⟨other, serial, callback⟩ := expiry
      cases scheduled : timer.schedule with
      | none => simp [Timer.expiry?, scheduled]
      | some schedule =>
          obtain ⟨number, action⟩ := schedule
          simp only [Timer.expiry?, Option.bind_some, scheduled, Option.map_some,
            Option.some.injEq, Expiry.mk.injEq]
          constructor
          · rintro ⟨rfl, rfl, rfl⟩
            exact ⟨rfl, timer, rfl, scheduled⟩
          · rintro ⟨rfl, same, rfl, given⟩
            rw [scheduled, Option.some.injEq, Schedule.mk.injEq] at given
            exact ⟨rfl, given.1, given.2⟩

theorem map_id_expiries (ids : List TimerId) :
    ((ids.filterMap manager.expiry?).map Expiry.id).Sublist ids := by
  induction ids with
  | nil => simp
  | cons id ids induction =>
      cases given : manager.expiry? id with
      | none =>
          rw [List.filterMap_cons_none given]
          exact induction.cons id
      | some expiry =>
          rw [List.filterMap_cons_some given, List.map_cons, (expiry?_eq_some_iff.mp given).1]
          exact induction.cons_cons id

/-- A pass fires every due timer and collects what they hand over. -/
theorem clearExpired_cleared (coherent : manager.IsCoherent) :
    Cleared manager manager.clearExpired.1 manager.clearExpired.2 := by
  obtain ⟨ids, swept, _, all, sublist, full⟩ := clearExpired_swept coherent.inOrder
  have swept_iff : ∀ id timer, manager.timer? id = some timer →
      (id ∈ ids ↔ timer.isDue = true) := by
    intro id timer held
    rw [all.mem_iff, coherent.mem_dueIds_iff, held]
    simp
  constructor
  · exact swept.frame
  · exact swept.size
  · exact swept.capacity
  · exact swept.room
  · exact swept.coherent coherent
  · intro id
    rw [swept.timers]
    cases held : manager.timer? id with
    | none => simp
    | some timer =>
        rw [Option.map_some, Option.map_some, Timer.settled]
        simp only [swept_iff id timer held]
        split <;> rfl
  · exact ((sublist.map Expiry.id).trans (map_id_expiries ids)).nodup swept.distinct
  · intro expiry collected
    obtain ⟨id, fired, given⟩ := List.mem_filterMap.mp (sublist.mem collected)
    obtain ⟨rfl, timer, held, scheduled⟩ := expiry?_eq_some_iff.mp given
    exact ⟨timer, held, (swept_iff _ timer held).mp fired, scheduled⟩
  · intro room id timer held due
    have ready := coherent.ready held (Timer.isDue_iff.mp due).1
    obtain ⟨schedule, scheduled⟩ := Option.isSome_iff_exists.mp ready.scheduled
    have given : manager.expiry? id = some ⟨id, schedule.serial, schedule.callback⟩ :=
      expiry?_eq_some_iff.mpr ⟨rfl, timer, held, scheduled⟩
    have few : manager.dueIds.length ≤ manager.queue.size := List.length_filter_le _ _
    refine ⟨⟨id, schedule.serial, schedule.callback⟩, ?_, rfl⟩
    rw [full fun size small => room size (by omega)]
    exact List.mem_filterMap.mpr ⟨id, (swept_iff id timer held).mpr due, given⟩

theorem Cleared.nextSerial {collected : List (Expiry κ)}
    (cleared : Cleared manager next collected) :
    next.nextSerial = manager.nextSerial := by
  rw [cleared.frame]

theorem Cleared.armed {collected : List (Expiry κ)} (cleared : Cleared manager next collected) :
    next.armed = manager.armed := by
  rw [cleared.frame]

theorem Cleared.noneDue {collected : List (Expiry κ)} (cleared : Cleared manager next collected)
    (coherent : manager.IsCoherent) : next.NoneDue := by
  intro id timer held
  rw [cleared.timers, Option.map_eq_some_iff] at held
  obtain ⟨before, held_before, rfl⟩ := held
  rw [Timer.settled]
  split
  · next due => exact (coherent.ready held_before (Timer.isDue_iff.mp due).1).isDue_fired
  · next waits => exact Bool.eq_false_iff.mpr waits

end Reactor.TimerManager

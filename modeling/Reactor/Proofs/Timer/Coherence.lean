import Reactor.Proofs.ScheduledQueue.Contents
import Reactor.Proofs.Timer.Slots

/-!
# Coherence of slots and queue

The state of a timer is spread over its slot and the scheduled queue.  The two are coherent when the
queue holds the waiting timers, once each and in heap order by the ticks that their slots say they
have left.
-/

namespace Reactor

namespace Timer

variable {κ : Type}

/-- What a timer that waits must have: a schedule, and a period if it is to start over. -/
structure Ready (timer : Timer κ) : Prop where
  /-- There is something to hand over. -/
  scheduled : timer.schedule.isSome = true
  /-- A periodic timer starts over with at least one tick. -/
  reload_pos : timer.mode = .periodic → 0 < timer.reload.count

/-- Whether the timer waits and has no ticks left. -/
def isDue (timer : Timer κ) : Bool := timer.pending && timer.remaining.isZero

/-- The timer after it has fired. -/
def fired (timer : Timer κ) : Timer κ :=
  match timer.mode with
  | .periodic => { timer with remaining := timer.reload }
  | .oneshot => { timer with pending := false }

/-- The timer after a pass that fires what is due. -/
def settled (timer : Timer κ) : Timer κ := if timer.isDue then timer.fired else timer

/-- What the timer hands over when it fires. -/
def expiry? (timer : Timer κ) (id : TimerId) : Option (Expiry κ) :=
  timer.schedule.map fun schedule =>
    { id, serial := schedule.serial, callback := schedule.callback }

theorem isDue_iff {timer : Timer κ} :
    timer.isDue = true ↔ timer.pending = true ∧ timer.remaining.count = 0 := by
  simp [isDue, Ticks.isZero]

@[simp]
theorem schedule_fired (timer : Timer κ) : timer.fired.schedule = timer.schedule := by
  rw [fired]
  split <;> rfl

@[simp]
theorem schedule_settled (timer : Timer κ) : timer.settled.schedule = timer.schedule := by
  rw [settled]
  split
  · exact timer.schedule_fired
  · rfl

/-- Firing makes no timer wait that did not wait before. -/
theorem pending_of_fired {timer : Timer κ} (pending : timer.fired.pending = true) :
    timer.pending = true := by
  rw [fired] at pending
  split at pending
  · exact pending
  · cases pending

theorem ready_fired {timer : Timer κ} (ready : timer.Ready) : timer.fired.Ready := by
  rw [Timer.fired]
  split <;> exact ⟨ready.scheduled, ready.reload_pos⟩

/-- A timer that has fired is not due again. -/
theorem Ready.isDue_fired {timer : Timer κ} (ready : timer.Ready) : timer.fired.isDue = false := by
  cases mode : timer.mode with
  | oneshot => simp [fired, mode, isDue]
  | periodic =>
      have positive := ready.reload_pos mode
      have nonzero : timer.reload.isZero = false := by
        rw [Ticks.isZero, beq_eq_false_iff_ne]
        omega
      simp [fired, mode, isDue, nonzero]

end Timer

namespace TimerManager

variable {H κ : Type} {slots : Roster (Option (Timer κ))} {queue : ScheduledQueue}
  {id : TimerId} {timer : Timer κ}

/-- The slots and the queue tell the same story. -/
structure Coherent (slots : Roster (Option (Timer κ))) (queue : ScheduledQueue) : Prop where
  /-- The timer with the fewest ticks left is in front. -/
  ordered : queue.Ordered (remaining slots)
  /-- No timer is queued twice. -/
  distinct : queue.ids.toList.Nodup
  /-- A timer is queued just when it waits. -/
  queued_iff : ∀ id, id ∈ queue.ids ↔ ∃ timer, held? slots id = some timer ∧ timer.pending = true
  /-- A timer that waits can fire. -/
  ready : ∀ id timer, held? slots id = some timer → timer.pending = true → timer.Ready

/-- Without timers there is nothing to disagree about. -/
theorem Coherent.empty (timers scheduled : Capacity) :
    Coherent (.empty timers : Roster (Option (Timer κ))) (.empty scheduled) where
  ordered := fun child inside => absurd inside (Nat.not_lt_zero child)
  distinct := List.nodup_nil
  queued_iff := by simp [ScheduledQueue.ids, ScheduledQueue.empty, Roster.empty, held?, Roster.get?]
  ready := by simp [Roster.empty, held?, Roster.get?]

theorem Coherent.queued (coherent : Coherent slots queue) (held : held? slots id = some timer)
    (pending : timer.pending = true) : id ∈ queue.ids :=
  (coherent.queued_iff id).mpr ⟨timer, held, pending⟩

theorem Coherent.pending_of_queued (coherent : Coherent slots queue)
    (held : held? slots id = some timer) (queued : id ∈ queue.ids) : timer.pending = true := by
  obtain ⟨other, same, pending⟩ := (coherent.queued_iff id).mp queued
  rw [held] at same
  cases same
  exact pending

theorem Coherent.not_pending (coherent : Coherent slots queue)
    (held : held? slots id = some timer) (unqueued : id ∉ queue.ids) : timer.pending = false := by
  cases pending : timer.pending with
  | false => rfl
  | true => exact absurd (coherent.queued held pending) unqueued

/-- Keys matter for the ids in the queue only. -/
theorem ordered_set_of_not_mem (entry : Option (Timer κ)) (absent : id ∉ queue.ids) :
    queue.Ordered (remaining (slots.set id.index entry)) ↔ queue.Ordered (remaining slots) := by
  have same : ∀ other ∈ queue.ids,
      remaining (slots.set id.index entry) other = remaining slots other := by
    intro other queued
    apply remaining_set_ne
    rintro rfl
    exact absent queued
  constructor
  · intro ordered
    apply ordered.of_keys
    intro first first_queued second second_queued le
    rwa [same first first_queued, same second second_queued] at le
  · intro ordered
    apply ordered.of_keys
    intro first first_queued second second_queued le
    rwa [same first first_queued, same second second_queued]

/-- What may stay in the slot of a timer that leaves the queue. -/
def AtRest (entry : Option (Timer κ)) : Prop :=
  ∀ timer, entry = some timer → timer.pending = false

theorem atRest_none : AtRest (none : Option (Timer κ)) := by
  rintro _ ⟨⟩

theorem atRest_some (idle : timer.pending = false) : AtRest (some timer) := by
  rintro _ ⟨⟩
  exact idle

/-- A timer leaves the queue and does not wait any more. -/
theorem Coherent.leave {rest : ScheduledQueue} {entry : Option (Timer κ)}
    (coherent : Coherent slots queue) (inside : id.index < slots.size)
    (idle : AtRest entry)
    (permuted : rest.ids.toList.Perm (queue.ids.toList.erase id))
    (ordered : rest.Ordered (remaining slots)) :
    Coherent (slots.set id.index entry) rest := by
  have rest_iff : ∀ other, other ∈ rest.ids ↔ other ≠ id ∧ other ∈ queue.ids := by
    intro other
    rw [← Array.mem_toList_iff, permuted.mem_iff, coherent.distinct.mem_erase_iff,
      Array.mem_toList_iff]
  have absent : id ∉ rest.ids := by simp [rest_iff]
  constructor
  · exact (ordered_set_of_not_mem entry absent).mpr ordered
  · exact permuted.nodup_iff.mpr (coherent.distinct.erase id)
  · intro other
    rw [rest_iff]
    by_cases same : other = id
    · subst same
      rw [held?_set_self _ inside]
      simp only [ne_eq, not_true_eq_false, false_and, false_iff]
      rintro ⟨timer, holds, pending⟩
      rw [idle timer holds] at pending
      cases pending
    · rw [held?_set_ne _ same, coherent.queued_iff]
      simp [same]
  · intro other timer held pending
    by_cases same : other = id
    · subst same
      rw [held?_set_self _ inside] at held
      rw [idle timer held] at pending
      cases pending
    · rw [held?_set_ne _ same] at held
      exact coherent.ready other timer held pending

/-- A timer that waits takes its place in the queue, or keeps it. -/
theorem Coherent.set_waiting {next : ScheduledQueue} (coherent : Coherent slots queue)
    (inside : id.index < slots.size) (pending : timer.pending = true) (ready : timer.Ready)
    (distinct : next.ids.toList.Nodup)
    (members : ∀ other, other ∈ next.ids ↔ other = id ∨ other ∈ queue.ids)
    (ordered : next.Ordered (remaining (slots.set id.index (some timer)))) :
    Coherent (slots.set id.index (some timer)) next := by
  constructor
  · exact ordered
  · exact distinct
  · intro other
    rw [members]
    by_cases same : other = id
    · subst same
      rw [held?_set_self _ inside]
      simp [pending]
    · rw [held?_set_ne _ same, coherent.queued_iff]
      simp [same]
  · intro other held holds waits
    by_cases same : other = id
    · subst same
      rw [held?_set_self _ inside] at holds
      cases holds
      exact ready
    · rw [held?_set_ne _ same] at holds
      exact coherent.ready other held holds waits

/-- A timer that does not wait takes a place that held none. -/
theorem Coherent.place {after : Roster (Option (Timer κ))} (coherent : Coherent slots queue)
    (absent : held? slots id = none) (idle : timer.pending = false)
    (placed : ∀ other, held? after other = if other = id then some timer else held? slots other) :
    Coherent after queue := by
  have unqueued : id ∉ queue.ids := by
    rw [coherent.queued_iff, absent]
    rintro ⟨other, held, _⟩
    cases held
  have same : ∀ other, other ≠ id → held? after other = held? slots other :=
    fun other apart => by rw [placed, if_neg apart]
  have keys : ∀ other ∈ queue.ids, remaining after other = remaining slots other := by
    intro other queued
    obtain ⟨found, held, _⟩ := (coherent.queued_iff other).mp queued
    have apart : other ≠ id := by
      rintro rfl
      exact unqueued queued
    rw [remaining_of_held? held, remaining_of_held? ((same other apart).trans held)]
  constructor
  · apply coherent.ordered.of_keys
    intro first first_queued second second_queued le
    rwa [keys first first_queued, keys second second_queued]
  · exact coherent.distinct
  · intro other
    by_cases at_id : other = id
    · subst at_id
      rw [placed, if_pos rfl]
      simp [unqueued, idle]
    · rw [coherent.queued_iff, same other at_id]
  · intro other found held pending
    by_cases at_id : other = id
    · rw [placed, if_pos at_id, Option.some.injEq] at held
      rw [← held, idle] at pending
      cases pending
    · exact coherent.ready other found (by rwa [same other at_id] at held) pending

/-- Charging ticks keeps the order, since stopping at zero is monotone. -/
theorem Coherent.charge (coherent : Coherent slots queue) (elapsed : Ticks) :
    Coherent (charge elapsed queue.ids.toList slots) queue := by
  have held_iff : ∀ id, held? (TimerManager.charge elapsed queue.ids.toList slots) id =
      if id ∈ queue.ids then (held? slots id).map (Timer.charged elapsed)
      else held? slots id := by
    intro id
    rw [held?_charge elapsed coherent.distinct]
    simp only [Array.mem_toList_iff]
  have less : ∀ id ∈ queue.ids, remaining (TimerManager.charge elapsed queue.ids.toList slots) id =
      remaining slots id - elapsed := by
    intro id queued
    obtain ⟨timer, held, _⟩ := (coherent.queued_iff id).mp queued
    have charged := held_iff id
    rw [if_pos queued, held, Option.map_some] at charged
    rw [remaining_of_held? charged, remaining_of_held? held]
    rfl
  constructor
  · apply coherent.ordered.of_keys
    intro first first_queued second second_queued le
    rw [less first first_queued, less second second_queued]
    simp only [Ticks.le_iff, Ticks.count_sub] at le ⊢
    omega
  · exact coherent.distinct
  · intro id
    rw [coherent.queued_iff, held_iff]
    split
    · cases held? slots id with
      | none => simp
      | some timer => simp [Timer.charged]
    · rfl
  · intro id timer held pending
    rw [held_iff] at held
    split at held
    · obtain ⟨before, was_held, rfl⟩ := Option.map_eq_some_iff.mp held
      have ready := coherent.ready id before was_held pending
      exact ⟨ready.scheduled, ready.reload_pos⟩
    · exact coherent.ready id timer held pending

end TimerManager

end Reactor

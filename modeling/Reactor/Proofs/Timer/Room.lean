import Reactor.Proofs.Timer.Ownership

/-!
# Room for timers

Every container of a manager holds at most one entry for each allocated timer.  A container that
takes as many entries as there may be timers is therefore never full when it is needed.  Growing and
fixed storage have such containers.  What is said of every storage includes those with less room,
where a queue turns schedules away and a pass drops callbacks; a result that fails there asks for
`QueuesAll` or `CollectsAll`.
-/

namespace Reactor

namespace TimerStorage

/-- What one section collects has room for as many callbacks as there may be timers. -/
def CollectsAll (storage : TimerStorage) : Prop :=
  ∀ size, storage.timers.admits size = true → storage.fired.admits size = true

/-- The scheduled queue has room for as many timers as there may be. -/
def QueuesAll (storage : TimerStorage) : Prop :=
  ∀ size, storage.timers.admits size = true → storage.scheduled.admits size = true

theorem collectsAll_growing : growing.CollectsAll := fun _ _ => rfl

theorem collectsAll_fixed (limit words : Nat) : (fixed limit words).CollectsAll :=
  fun _ admits => admits

theorem queuesAll_fixed (limit words : Nat) : (fixed limit words).QueuesAll :=
  fun _ admits => admits

end TimerStorage

namespace TimerManager

variable {H κ : Type} {manager : TimerManager H κ} {id : TimerId} {timer : Timer κ}
  {storage : TimerStorage}

/-- There are no more ids than places for them. -/
theorem length_le_of_within {ids : List TimerId} {places : Nat} (distinct : ids.Nodup)
    (within : ∀ id ∈ ids, id.index < places) : ids.length ≤ places := by
  have indices : (ids.map TimerId.index).Nodup := by
    apply distinct.map
    rintro ⟨first⟩ ⟨second⟩ same
    simpa using same
  have subset : ids.map TimerId.index ⊆ List.range places := by
    intro index member
    obtain ⟨id, listed, rfl⟩ := List.mem_map.mp member
    exact List.mem_range.mpr (within id listed)
  simpa using (List.subperm_of_subset indices subset).length_le

theorem InOrder.lt_size_of_queued (inOrder : manager.InOrder)
    (queued : id ∈ manager.queue.ids) : id.index < manager.slots.size := by
  obtain ⟨timer, held, _⟩ := inOrder.waiting id queued
  exact lt_size_of_held? held

/-- At most as many timers are scheduled as there are slots. -/
theorem InOrder.size_queue_le (inOrder : manager.InOrder) :
    manager.queue.size ≤ manager.slots.size := by
  apply length_le_of_within inOrder.distinct
  exact fun id queued => inOrder.lt_size_of_queued (Array.mem_toList_iff.mp queued)

/-- A timer that has left the queue leaves room for itself. -/
theorem IsCoherent.size_withdrawn_lt (coherent : manager.IsCoherent)
    (held : manager.timer? id = some timer) :
    (manager.withdrawn id).size < manager.slots.size := by
  have distinct : (id :: (manager.withdrawn id).ids.toList).Nodup := by
    apply List.nodup_cons.mpr
    constructor
    · rw [Array.mem_toList_iff, coherent.mem_withdrawn]
      exact fun kept => kept.1 rfl
    · exact withdrawn_perm.nodup_iff.mpr ((Coherent.distinct coherent).erase id)
  apply length_le_of_within distinct
  intro other listed
  rcases List.mem_cons.mp listed with rfl | listed
  · exact lt_size_of_held? held
  · rw [Array.mem_toList_iff, coherent.mem_withdrawn] at listed
    exact coherent.inOrder.lt_size_of_queued listed.2

/-- The containers of the manager are those of the storage, and none holds too much. -/
structure Housed (storage : TimerStorage) (manager : TimerManager H κ) : Prop where
  /-- The slots are where timers are allocated. -/
  slots : manager.slots.capacity = storage.timers
  /-- The queue is where timers are scheduled. -/
  queue : manager.queue.heap.capacity = storage.scheduled
  /-- Collected callbacks are where they are kept. -/
  fired : manager.firedCapacity = storage.fired
  /-- Every slot was admitted. -/
  within : ∀ size < manager.slots.size, storage.timers.admits size = true

theorem Housed.collects (housed : manager.Housed storage) (inOrder : manager.InOrder)
    (collects_all : storage.CollectsAll) :
    ∀ size < manager.queue.size, manager.firedCapacity.admits size = true := by
  intro size small
  rw [housed.fired]
  have bound := inOrder.size_queue_le
  exact collects_all size (housed.within size (by omega))

/-- A queue with room for all timers takes every timer. -/
theorem Housed.admits_withdrawn (housed : manager.Housed storage) (coherent : manager.IsCoherent)
    (queues_all : storage.QueuesAll) (held : manager.timer? id = some timer) :
    (manager.withdrawn id).heap.capacity.admits (manager.withdrawn id).size = true := by
  rw [withdrawn, ScheduledQueue.capacity_remove, housed.queue]
  exact queues_all _ (housed.within _ (coherent.size_withdrawn_lt held))

end TimerManager

namespace TimerSystem

open TimerManager

variable {H κ : Type} [HardwareTimer H] {system next : TimerSystem H κ} {storage : TimerStorage}

theorem housed_fresh (hardware : H) (storage : TimerStorage) :
    (fresh hardware storage : TimerSystem H κ).manager.Housed storage where
  slots := rfl
  queue := rfl
  fired := rfl
  within := fun size small => absurd small (Nat.not_lt_zero size)

theorem stage_housed (housed : system.manager.Housed storage)
    (coherent : system.manager.IsCoherent) (stage : Stage system next) :
    next.manager.Housed storage := by
  obtain ⟨slots, queue, fired, within⟩ := housed
  cases stage with
  | stopFailed | restartFailed | restarted | givenUp | handedOver =>
      exact ⟨slots, queue, fired, within⟩
  | charged =>
      simp only [manager_record, chargedTo]
      exact ⟨by simpa using slots, queue, fired, by simpa using within⟩
  | queued idle owned held period_pos pushed =>
      obtain ⟨_, room, _⟩ := ScheduledQueue.of_push? pushed
      rw [withdrawn, ScheduledQueue.capacity_remove] at room
      simp only [manager_record, slotsWaiting]
      exact ⟨slots, room.trans queue, fired, by simpa using within⟩
  | turnedAway | retired | freed =>
      simp only [manager_record, vacated, withdrawn]
      exact ⟨slots, by simpa using queue, fired, by simpa using within⟩
  | cleared idle =>
      have cleared := clearExpired_cleared coherent
      have same_fired : system.manager.clearExpired.1.firedCapacity =
          system.manager.firedCapacity := by rw [cleared.frame]
      simp only [manager_record]
      refine ⟨cleared.capacity.trans slots, cleared.room.trans queue, same_fired.trans fired, ?_⟩
      rw [cleared.size]
      exact within
  | @allocated id after absent placed capacity size =>
      refine ⟨capacity.trans slots, queue, fired, ?_⟩
      intro place small
      rcases size with same | ⟨grown, admitted⟩
      · exact within place (same ▸ small)
      · simp only [grown] at small
        rw [slots] at admitted
        exact Capacity.admits_of_le (by omega) admitted

/-- No timer has been turned away for want of room. -/
def NoneTurnedAway (history : List (Entry κ)) : Prop :=
  ∀ entry ∈ history, ∀ id, entry.event ≠ .turnedAway id

omit [HardwareTimer H] in
theorem NoneTurnedAway.append {history : List (Entry κ)} (none : NoneTurnedAway history)
    {time : Nat} {events : List (TimerEvent κ)} (others : ∀ event ∈ events, ∀ id,
      event ≠ .turnedAway id) : NoneTurnedAway (history ++ events.map (Entry.mk time)) := by
  intro entry member id
  rcases List.mem_append.mp member with earlier | recorded
  · exact none entry earlier id
  · obtain ⟨event, listed, rfl⟩ := List.mem_map.mp recorded
    exact others event listed id

theorem stage_noneTurnedAway (queues_all : storage.QueuesAll)
    (housed : system.manager.Housed storage) (coherent : system.manager.IsCoherent)
    (none : NoneTurnedAway system.history) (stage : Stage system next) :
    NoneTurnedAway next.history := by
  cases stage with
  | stopFailed | restartFailed | restarted | givenUp | allocated => exact none
  | charged | queued | retired | freed | handedOver => exact none.append (by simp)
  | turnedAway idle held full =>
      rw [housed.admits_withdrawn coherent queues_all held] at full
      cases full
  | cleared =>
      apply none.append
      intro event member id
      rcases mem_firing.mp member with ⟨expiry, _, rfl⟩ | rfl <;> simp

end TimerSystem

end Reactor

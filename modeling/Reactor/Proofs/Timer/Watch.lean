import Reactor.Proofs.Timer.OpenRun

/-!
# The hardware under watch

While no call of the hardware fails, the manager keeps it in step with the scheduled queue: it
counts towards the front of the queue whenever there is one.
-/

namespace Reactor

open Hardware

/-- A way to tell of a hardware timer whether its calls have gone well and which period it got. -/
structure Watch (H : Type) [HardwareTimer H] where
  /-- Whether no call has failed. -/
  Flawless : H → Prop
  /-- The period that the timer was armed with. -/
  period? : H → Option Ticks
  /-- A call to stop the timer that goes well is one that is answered so. -/
  stop_ok : ∀ hardware, Flawless (HardwareTimer.stop hardware).1 →
    (HardwareTimer.stop hardware).2 = .ok ()
  /-- A call to arm the timer that goes well is answered so and sets the period. -/
  restart_ok : ∀ hardware ticks, 0 < ticks.count →
    Flawless (HardwareTimer.restart hardware ticks).1 →
    (HardwareTimer.restart hardware ticks).2 = .ok () ∧
      period? (HardwareTimer.restart hardware ticks).1 = some ticks

namespace TimerManager

variable {H κ : Type} [HardwareTimer H] {watch : Watch H} {manager next : TimerManager H κ}
  {id : TimerId} {timer : Timer κ}

/-- The hardware counts towards the front of the queue, which has some ticks left. -/
structure Synced (watch : Watch H) (manager : TimerManager H κ) : Prop where
  /-- The hardware counts whenever a timer waits. -/
  armed_iff : manager.armed = true ↔ manager.queue.ids ≠ #[]
  /-- It was armed with what the front had left. -/
  period : ∀ front, manager.queue.front? = some front →
    watch.period? manager.hardware = some (remaining manager.slots front)
  /-- No timer that waits is due. -/
  remaining_pos : ∀ id ∈ manager.queue.ids, 0 < (remaining manager.slots id).count

/-- A change that the queue and the hardware do not notice. -/
theorem Synced.congr (synced : manager.Synced watch) (queue : next.queue = manager.queue)
    (keys : ∀ id ∈ manager.queue.ids, remaining next.slots id = remaining manager.slots id)
    (armed : next.armed = manager.armed)
    (period : watch.period? next.hardware = watch.period? manager.hardware) :
    next.Synced watch := by
  constructor
  · rw [armed, queue]
    exact synced.armed_iff
  · intro front in_front
    rw [queue] at in_front
    rw [period, keys front (ScheduledQueue.mem_of_front? in_front)]
    exact synced.period front in_front
  · intro id queued
    rw [queue] at queued
    rw [keys id queued]
    exact synced.remaining_pos id queued

/-- A timer that is not the soonest leaves the queue without a trace. -/
theorem Synced.vacated (synced : manager.Synced watch) (coherent : manager.IsCoherent)
    (held : manager.timer? id = some timer) {entry : Option (Timer κ)} (idle : AtRest entry)
    (behind : manager.queue.front? ≠ some id) : (manager.vacated id entry).Synced watch := by
  have kept := coherent.vacated held idle
  have keys : ∀ other, other ∈ (manager.withdrawn id).ids →
      remaining (manager.vacated id entry).slots other = remaining manager.slots other := by
    intro other queued
    exact remaining_set_ne _ (coherent.mem_withdrawn.mp queued).1
  constructor
  · rw [TimerManager.vacated, synced.armed_iff]
    constructor
    · intro nonempty empty
      cases in_front : manager.queue.front? with
      | none => exact nonempty (ScheduledQueue.front?_eq_none_iff.mp in_front)
      | some front =>
          have stays : front ∈ (manager.withdrawn id).ids := by
            rw [coherent.mem_withdrawn]
            exact ⟨fun same => behind (same ▸ in_front), ScheduledQueue.mem_of_front? in_front⟩
          simp only [empty] at stays
          exact absurd stays (Array.not_mem_empty front)
    · intro nonempty empty
      apply nonempty
      have absent : id ∉ manager.queue.ids := by simp [empty]
      rw [withdrawn_of_not_mem absent, empty]
  · intro front in_front
    have queued := ScheduledQueue.mem_of_front? in_front
    have was_queued := (coherent.mem_withdrawn.mp queued).2
    cases was_in_front : manager.queue.front? with
    | none =>
        rw [ScheduledQueue.front?_eq_none_iff] at was_in_front
        simp [was_in_front] at was_queued
    | some old =>
        have stays : old ∈ (manager.withdrawn id).ids := by
          rw [coherent.mem_withdrawn]
          exact ⟨fun same => behind (same ▸ was_in_front),
            ScheduledQueue.mem_of_front? was_in_front⟩
        have least := (Coherent.ordered coherent).front_le was_in_front was_queued
        have least_after := (Coherent.ordered kept).front_le in_front stays
        rw [keys front queued, keys old stays] at least_after
        rw [keys front queued]
        have same : remaining manager.slots front = remaining manager.slots old :=
          Ticks.ext (Nat.le_antisymm least_after least)
        rw [same]
        exact synced.period old was_in_front
  · intro other queued
    rw [keys other queued]
    exact synced.remaining_pos other (coherent.mem_withdrawn.mp queued).2

/-- A pass that goes well puts the hardware in step. -/
theorem synced_settled (coherent : manager.IsCoherent) (idle : manager.armed = false)
    (flawless : watch.Flawless manager.clearExpired.1.startNext.1.hardware) :
    manager.clearExpired.1.startNext.1.Synced watch := by
  have cleared := clearExpired_cleared coherent
  have none_due := cleared.noneDue coherent
  have still_idle := cleared.armed.trans idle
  have positive : ∀ id ∈ manager.clearExpired.1.queue.ids,
      0 < (remaining manager.clearExpired.1.slots id).count :=
    fun id queued => none_due.remaining_pos cleared.coherent queued
  generalize manager.clearExpired.1 = after at *
  rcases startNext_cases after with ⟨empty, result⟩ |
    ⟨front, in_front, ⟨hardware, fault, failed, result⟩ | ⟨hardware, armed, result⟩⟩
  · rw [result]
    rw [ScheduledQueue.front?_eq_none_iff] at empty
    constructor
    · simp [still_idle, empty]
    · simp [ScheduledQueue.front?, empty]
    · exact positive
  · rw [result] at flawless
    have went_well := watch.restart_ok after.hardware (remaining after.slots front)
      (positive front (ScheduledQueue.mem_of_front? in_front)) (by rw [failed]; exact flawless)
    rw [failed] at went_well
    cases went_well.1
  · rw [result] at flawless ⊢
    have went_well := watch.restart_ok after.hardware (remaining after.slots front)
      (positive front (ScheduledQueue.mem_of_front? in_front)) (by rw [armed]; exact flawless)
    rw [armed] at went_well
    constructor
    · have nonempty : after.queue.ids ≠ #[] := by
        intro empty
        simp [ScheduledQueue.front?, empty] at in_front
      simp [nonempty]
    · intro other also_in_front
      rw [in_front, Option.some.injEq] at also_in_front
      rw [← also_in_front]
      exact went_well.2
    · exact positive

/-- A manager that could not stop its hardware has not gone well. -/
theorem not_flawless_of_reconcile {fault : Fault}
    (failed : manager.reconcile = (next, .error fault)) :
    ¬watch.Flawless next.hardware := by
  intro flawless
  obtain ⟨_, hardware, stopped, rfl⟩ := stopFailed_of_reconcile failed
  have went_well := watch.stop_ok manager.hardware (by rw [stopped]; exact flawless)
  rw [stopped] at went_well
  cases went_well

theorem synced_schedule {mode : TimerMode} {ticks : Ticks} {callback : κ}
    (coherent : manager.IsCoherent) (held : manager.timer? id = some timer)
    (period_pos : mode = .periodic → 0 < ticks.count)
    (flawless : watch.Flawless (manager.schedule id mode ticks callback).manager.hardware) :
    (manager.schedule id mode ticks callback).manager.Synced watch := by
  rcases schedule_cases mode ticks callback coherent held with
    ⟨_, _, stuck, _, result⟩ | ⟨_, _, _, reconciled, kept, still_held, result⟩
  all_goals rw [result] at flawless ⊢
  · exact absurd flawless (not_flawless_of_reconcile stuck)
  · obtain ⟨coherent_after, idle⟩ := kept.enqueue callback still_held period_pos
      (armed_of_reconcile reconciled)
    exact synced_settled coherent_after idle flawless

theorem synced_cancel (coherent : manager.IsCoherent) (held : manager.timer? id = some timer)
    (synced : watch.Flawless manager.hardware → manager.Synced watch)
    (flawless : watch.Flawless (manager.cancel id).manager.hardware) :
    (manager.cancel id).manager.Synced watch := by
  have idle : AtRest (some timer.retired) := atRest_some rfl
  have kept := coherent.vacated held idle
  rcases cancel_cases coherent held with ⟨not_pending, result⟩ | ⟨_, behind, result⟩ |
    ⟨_, _, _, _, stuck, result⟩ | ⟨_, _, _, _, reconciled, result⟩
  all_goals rw [result] at flawless ⊢
  · have behind : manager.queue.front? ≠ some id := by
      intro in_front
      rw [Coherent.pending_of_queued coherent held (ScheduledQueue.mem_of_front? in_front)]
        at not_pending
      cases not_pending
    exact (synced flawless).vacated coherent held idle behind
  · exact (synced flawless).vacated coherent held idle behind
  · exact absurd flawless (not_flawless_of_reconcile stuck)
  · have coherent_after := kept.reconcile
    rw [reconciled] at coherent_after
    exact synced_settled coherent_after (armed_of_reconcile reconciled) flawless

theorem synced_expire (coherent : manager.IsCoherent)
    (flawless : watch.Flawless manager.expire.manager.hardware) :
    manager.expire.manager.Synced watch := by
  have kept := coherent.reconcile
  rcases result : manager.reconcile with ⟨after, fault | notes⟩
  · rw [expire_of_error result] at flawless
    exact absurd flawless (not_flawless_of_reconcile result)
  · obtain ⟨starting, _, expired⟩ := expire_of_ok result
    rw [result] at kept
    rw [expired] at flawless ⊢
    exact synced_settled kept (armed_of_reconcile result) flawless

end TimerManager

namespace TimerSystem

open TimerManager

variable {H κ : Type} [HardwareTimer H] {watch : Watch H} {system : TimerSystem H κ}

/-- A new manager has nothing to wait for. -/
theorem synced_fresh (hardware : H) (storage : TimerStorage) :
    (fresh hardware storage : TimerSystem H κ).manager.Synced watch where
  armed_iff := by simp [fresh, new, ScheduledQueue.empty, Roster.empty, ScheduledQueue.ids]
  period := by
    simp [fresh, new, ScheduledQueue.empty, Roster.empty, ScheduledQueue.ids,
      ScheduledQueue.front?]
  remaining_pos := by simp [fresh, new, ScheduledQueue.empty, Roster.empty, ScheduledQueue.ids]

/-- Every move of a user keeps the hardware in step, as long as no call fails. -/
theorem perform_synced (wellFormed : system.WellFormed)
    (synced : watch.Flawless system.manager.hardware → system.manager.Synced watch)
    (move : TimerMove κ) : watch.Flawless (system.perform move).manager.hardware →
    (system.perform move).manager.Synced watch := by
  have coherent := wellFormed.coherent
  cases move with
  | allocate =>
      rw [perform]
      split
      · next id allocated =>
          intro flawless
          obtain ⟨slots, result, absent, placed, _, _⟩ := allocate_of_ok allocated
          simp only [result] at flawless ⊢
          refine (synced flawless).congr rfl ?_ rfl rfl
          intro other queued
          obtain ⟨timer, held, _⟩ := (Coherent.queued_iff coherent other).mp queued
          have apart : other ≠ id := by
            rintro rfl
            rw [← timer?_eq_held?, absent] at held
            cases held
          rw [remaining_eq, placed, if_neg apart, timer?_eq_held?, ← remaining_eq]
      · exact synced
  | schedule id mode delay footprint callback =>
      rw [perform]
      split
      · next owned =>
          obtain ⟨timer, held⟩ := wellFormed.exists_timer (Or.inl owned)
          split
          · next ticks accepted =>
              exact synced_schedule coherent held (period_pos_of_accept accepted)
          · exact synced
      · exact synced
  | cancel id =>
      rw [perform]
      split
      · next owned =>
          obtain ⟨timer, held⟩ := wellFormed.exists_timer (Or.inl owned)
          exact synced_cancel coherent held synced
      · exact synced
  | release id =>
      rw [perform]
      split
      · next owned =>
          obtain ⟨timer, held⟩ := wellFormed.exists_timer (Or.inl owned)
          exact synced_cancel coherent held synced
      · exact synced
  | free id =>
      rw [perform]
      split
      · next given_up =>
          obtain ⟨timer, held⟩ := wellFormed.exists_timer (Or.inr given_up)
          have idle := wellFormed.not_pending held (wellFormed.unplanned id given_up)
          have behind : system.manager.queue.front? ≠ some id := by
            intro in_front
            rw [Coherent.pending_of_queued coherent held
              (ScheduledQueue.mem_of_front? in_front)] at idle
            cases idle
          rw [free_eq held]
          intro flawless
          exact (synced flawless).vacated coherent held atRest_none behind
      · exact synced
  | expire => exact synced_expire coherent
  | handOver place =>
      rw [perform]
      split <;> exact synced

end TimerSystem

end Reactor

import Reactor.Proofs.Timer.Cancellation
import Reactor.Proofs.Timer.Invariant

/-!
# What a manager arms its hardware for

A section stops the hardware at most once, and then arms it at most once.  Whatever has failed
before, all that is due has fired by then, so the hardware is armed for as long as the soonest of the
waiting timers has left, which is some time.
-/

namespace Reactor

namespace TimerManager

variable {H κ : Type} {before after manager : TimerManager H κ} {id : TimerId} {timer : Timer κ}

/-! ## The soonest timer -/

/-- `period` is what the soonest of the waiting timers has left, and not zero. -/
def Soonest (manager : TimerManager H κ) (period : Ticks) : Prop :=
  0 < period.count ∧ ∃ id timer, manager.timer? id = some timer ∧ timer.pending = true ∧
    timer.remaining = period ∧
    ∀ other waiting, manager.timer? other = some waiting → waiting.pending = true →
      period ≤ waiting.remaining

theorem Soonest.congr {period : Ticks} (soonest : before.Soonest period)
    (timers : ∀ id, after.timer? id = before.timer? id) : after.Soonest period := by
  obtain ⟨positive, id, timer, held, pending, left, least⟩ := soonest
  refine ⟨positive, id, timer, (timers id).trans held, pending, left, ?_⟩
  intro other waiting found waits
  exact least other waiting ((timers other).symm.trans found) waits

/-- The timer in front is the soonest, and it has time left if nothing is due. -/
theorem IsCoherent.soonest_front {front : TimerId} (coherent : manager.IsCoherent)
    (none_due : manager.NoneDue) (in_front : manager.queue.front? = some front) :
    manager.Soonest (remaining manager.slots front) := by
  have queued := ScheduledQueue.mem_of_front? in_front
  obtain ⟨timer, held, pending⟩ := (Coherent.queued_iff coherent front).mp queued
  refine ⟨none_due.remaining_pos coherent queued, front, timer, held, pending,
    (remaining_of_held? held).symm, ?_⟩
  intro other waiting found waits
  rw [← remaining_of_held? found]
  exact (Coherent.ordered coherent).front_le in_front (Coherent.queued coherent found waits)

/-! ## Sections -/

variable [HardwareTimer H]

/-- What a section of a manager can make of it. -/
inductive SectionOf (before : TimerManager H κ) : TimerManager H κ → Prop where
  /-- A timer is allocated, if there is room. -/
  | allocate : SectionOf before before.allocate.manager
  /-- A timer is scheduled by a call that has not been refused. -/
  | schedule {mode : TimerMode} {delay : Duration} {footprint : Footprint} {ticks : Ticks}
      (id : TimerId) (callback : κ)
      (accepted : before.accept mode delay footprint = .ok ticks) :
      SectionOf before (before.schedule id mode ticks callback).manager
  /-- A timer is cancelled. -/
  | cancel (id : TimerId) : SectionOf before (before.cancel id).manager
  /-- A timer is freed. -/
  | free (id : TimerId) : SectionOf before (before.free id).manager
  /-- An expiry of the hardware is worked off. -/
  | expire : SectionOf before before.expire.manager
  /-- The manager is torn down. -/
  | teardown : SectionOf before before.teardown.manager

/-- What the manager does with its hardware on the way from `before` to `after`: it may stop it, and
then it may arm it for the soonest timer. -/
def Drives (before after : TimerManager H κ) : Prop :=
  ∃ stopped, (stopped = before.hardware ∨ stopped = (HardwareTimer.stop before.hardware).1) ∧
    (after.hardware = stopped ∨ ∃ period, after.Soonest period ∧
      after.hardware = (HardwareTimer.restart stopped period).1)

theorem Drives.of_same (same : after.hardware = before.hardware) : Drives before after :=
  ⟨_, Or.inl rfl, Or.inl same⟩

theorem Drives.of_stop (stopped : after.hardware = (HardwareTimer.stop before.hardware).1) :
    Drives before after :=
  ⟨_, Or.inr rfl, Or.inl stopped⟩

theorem hardware_reconcile (manager : TimerManager H κ) :
    manager.reconcile.1.hardware = manager.hardware ∨
      manager.reconcile.1.hardware = (HardwareTimer.stop manager.hardware).1 := by
  rcases reconcile_cases manager with ⟨_, result⟩ | ⟨hardware, fault, _, stopped, result⟩ |
    ⟨hardware, _, stopped, result⟩
  all_goals rw [result]
  · exact Or.inl rfl
  · rw [stopped]
    exact Or.inr rfl
  · rw [stopped]
    exact Or.inr rfl

omit [HardwareTimer H] in
theorem hardware_enqueue {mode : TimerMode} {ticks : Ticks} {callback : κ}
    (held : manager.timer? id = some timer) :
    (manager.enqueue id mode ticks callback).1.hardware = manager.hardware := by
  obtain ⟨notes, _, result⟩ := enqueue_eq held mode ticks callback
  rw [result]
  split <;> rfl

/-- Clearing what is due and arming the hardware are the end of a section. -/
theorem IsCoherent.drives_startNext (coherent : manager.IsCoherent)
    (stopped : manager.hardware = before.hardware ∨
      manager.hardware = (HardwareTimer.stop before.hardware).1) :
    manager.clearExpired.1.startNext.1.IsCoherent ∧
      Drives before manager.clearExpired.1.startNext.1 := by
  have cleared := clearExpired_cleared coherent
  have same : manager.clearExpired.1.hardware = manager.hardware := by rw [cleared.frame]
  refine ⟨cleared.coherent.startNext, manager.hardware, stopped, ?_⟩
  rcases startNext_cases manager.clearExpired.1 with
    ⟨_, result⟩ | ⟨front, in_front, armed⟩
  · rw [result]
    exact Or.inl same
  · -- The period is what the front has left once nothing is due, whether the hardware takes it or not.
    right
    have soonest := cleared.coherent.soonest_front (cleared.noneDue coherent) in_front
    refine ⟨_, soonest.congr (timer?_startNext manager.clearExpired.1), ?_⟩
    rcases armed with ⟨hardware, fault, failed, result⟩ | ⟨hardware, armed, result⟩
    · rw [result, ← same, failed]
    · rw [result, ← same, armed]

/-- A section that could not stop the hardware ends there. -/
theorem IsCoherent.drives_stopFailed {fault : Hardware.Fault} (coherent : manager.IsCoherent)
    (same : manager.hardware = before.hardware)
    (failed : manager.reconcile = (after, .error fault)) :
    after.IsCoherent ∧ Drives before after := by
  have kept := coherent.reconcile
  obtain ⟨_, hardware, stopped, rfl⟩ := stopFailed_of_reconcile failed
  rw [failed] at kept
  refine ⟨kept, Drives.of_stop ?_⟩
  rw [← same, stopped]

omit [HardwareTimer H] in
theorem hardware_allocate (manager : TimerManager H κ) :
    manager.allocate.manager.hardware = manager.hardware := by
  cases answer : manager.allocate.answer with
  | ok id =>
      obtain ⟨slots, result, _⟩ := allocate_of_ok answer
      rw [result]
  | error error => rw [allocate_of_error answer]

/-- Every section keeps the manager coherent, and arms the hardware for the soonest timer if it arms
it at all. -/
theorem SectionOf.sound (one : SectionOf before after) (coherent : before.IsCoherent) :
    after.IsCoherent ∧ Drives before after := by
  cases one with
  | allocate => exact ⟨coherent.allocate, Drives.of_same (hardware_allocate before)⟩
  | @schedule mode delay footprint ticks id callback accepted =>
      cases held : before.timer? id with
      | none =>
          rw [schedule_of_absent held]
          exact ⟨coherent, Drives.of_same rfl⟩
      | some timer =>
          rcases schedule_cases mode ticks callback coherent held with
            ⟨next, fault, stuck, _, result⟩ |
            ⟨next, notes, now, reconciled, kept, still_held, result⟩
          all_goals rw [result]
          · exact coherent.drives_stopFailed rfl stuck
          · have queued := (kept.enqueue callback still_held
              (TimerSystem.period_pos_of_accept accepted) (armed_of_reconcile reconciled)).1
            have stopped := hardware_reconcile before
            rw [reconciled, ← hardware_enqueue still_held] at stopped
            exact queued.drives_startNext stopped
  | cancel id =>
      cases held : before.timer? id with
      | none =>
          rw [cancel_of_absent held]
          exact ⟨coherent, Drives.of_same rfl⟩
      | some timer =>
          have away := coherent.vacated held (atRest_some (rfl : timer.retired.pending = false))
          rcases cancel_cases coherent held with ⟨_, result⟩ | ⟨_, _, result⟩ |
            ⟨next, fault, _, _, stuck, result⟩ | ⟨next, notes, _, _, reconciled, result⟩
          all_goals rw [result]
          · exact ⟨away, Drives.of_same rfl⟩
          · exact ⟨away, Drives.of_same rfl⟩
          · exact away.drives_stopFailed rfl stuck
          · have kept := away.reconcile
            have stopped := hardware_reconcile (before.vacated id (some timer.retired))
            rw [reconciled] at kept stopped
            exact kept.drives_startNext stopped
  | free id =>
      cases held : before.timer? id with
      | none =>
          rw [coherent.free_of_absent held]
          exact ⟨coherent, Drives.of_same rfl⟩
      | some timer =>
          rw [free_eq held]
          exact ⟨coherent.vacated held atRest_none, Drives.of_same rfl⟩
  | expire =>
      have kept := coherent.reconcile
      have stopped := hardware_reconcile before
      rcases result : before.reconcile with ⟨next, fault | notes⟩
      · rw [expire_of_error result]
        exact coherent.drives_stopFailed rfl result
      · rw [result] at kept stopped
        obtain ⟨_, _, expired⟩ := expire_of_ok result
        rw [expired]
        exact kept.drives_startNext stopped
  | teardown => exact ⟨coherent.congr rfl rfl, Drives.of_stop rfl⟩

end TimerManager

namespace TracedTimer

variable {H κ : Type} [HardwareTimer H] {before after : TimerManager (TracedTimer H) κ}

/-- The calls that a manager makes: it never starts the hardware with an earlier period, and arms it
for the soonest timer only. -/
theorem exists_calls_of_drives (drives : before.Drives after) :
    ∃ made, after.hardware.calls = made ++ before.hardware.calls ∧
      (∀ outcome, .start outcome ∉ made) ∧
      ∀ period outcome, .restart period outcome ∈ made → after.Soonest period ∧
        ∃ timer : H, outcome = (HardwareTimer.restart timer period).2 := by
  obtain ⟨stopped, stops, arms⟩ := drives
  have silenced : ∃ stops, stopped.calls = stops ++ before.hardware.calls ∧
      ∀ call ∈ stops, ∃ outcome, call = .stop outcome := by
    rcases stops with rfl | rfl
    · exact ⟨[], rfl, nofun⟩
    · exact ⟨[.stop _], rfl, fun call made => ⟨_, List.mem_singleton.mp made⟩⟩
  obtain ⟨stops, calls, only_stops⟩ := silenced
  rcases arms with same | ⟨period, soonest, armed⟩
  · refine ⟨stops, by rw [same, calls], ?_, ?_⟩
    · intro outcome made
      obtain ⟨_, ⟨⟩⟩ := only_stops _ made
    · intro period outcome made
      obtain ⟨_, ⟨⟩⟩ := only_stops _ made
  · refine ⟨.restart period (HardwareTimer.restart stopped.timer period).2 :: stops, ?_, ?_, ?_⟩
    · rw [armed, List.cons_append, ← calls]
      rfl
    · intro outcome made
      rcases List.mem_cons.mp made with ⟨⟨⟩⟩ | made
      obtain ⟨_, ⟨⟩⟩ := only_stops _ made
    · intro other outcome made
      rcases List.mem_cons.mp made with same | made
      · cases same
        exact ⟨soonest, stopped.timer, rfl⟩
      · obtain ⟨_, ⟨⟩⟩ := only_stops _ made

end TracedTimer

namespace TimerSystem

open TimerManager

variable {H κ : Type} [HardwareTimer H] {system : TimerSystem H κ}

/-- A move of a user is at most one section. -/
theorem perform_section (system : TimerSystem H κ) (move : TimerMove κ) :
    (system.perform move).manager = system.manager ∨
      SectionOf system.manager (system.perform move).manager := by
  cases move with
  | allocate =>
      rw [perform]
      split
      · exact Or.inr .allocate
      · exact Or.inl rfl
  | schedule id mode delay footprint callback =>
      rw [perform]
      split
      · split
        · next accepted => exact Or.inr (.schedule id callback accepted)
        · exact Or.inl rfl
      · exact Or.inl rfl
  | cancel id =>
      rw [perform]
      split
      · exact Or.inr (.cancel id)
      · exact Or.inl rfl
  | release id =>
      rw [perform]
      split
      · exact Or.inr (.cancel id)
      · exact Or.inl rfl
  | free id =>
      rw [perform]
      split
      · exact Or.inr (.free id)
      · exact Or.inl rfl
  | expire => exact Or.inr .expire
  | handOver place =>
      rw [perform]
      split <;> exact Or.inl rfl

/-- Whatever happens to a manager, unless the hardware changes by itself, is at most one section. -/
theorem WellFormed.drives_undergo {δ : Type} {change : δ → H → H}
    (wellFormed : system.WellFormed) {move : OpenMove δ κ} (made : ∀ cause, move ≠ .stir cause) :
    system.manager.Drives (system.undergo change move).manager := by
  cases move with
  | use move =>
      rw [TimerSystem.undergo]
      split
      · rcases perform_section system move with same | one
        · rw [same]
          exact Drives.of_same rfl
        · exact (one.sound wellFormed.coherent).2
      · exact Drives.of_same rfl
  | stir cause => exact absurd rfl (made cause)
  | abandon | deliver => exact Drives.of_same rfl
  | teardown => exact Drives.of_stop rfl

end TimerSystem

end Reactor

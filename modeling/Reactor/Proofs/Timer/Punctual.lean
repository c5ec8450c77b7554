import Reactor.Proofs.Hardware.Advance
import Reactor.Proofs.Timer.Decisions
import Reactor.Proofs.Timer.Ledger
import Reactor.Proofs.Timer.OpenRun
import Reactor.Proofs.Timer.Timely

/-!
# Punctual systems

A manager on a simulated timer stays on time and in step with the timer, whatever its users do and
however far the timer counts before they do it.
-/

namespace Reactor

namespace TimerSystem

open TimerManager

variable {κ : Type} {system next : TimerSystem SimulatedTimer κ} {storage : TimerStorage}

/-! ## The hardware ticks -/

/-- The hardware has counted, and the time has gone on with it. -/
def counted (system : TimerSystem SimulatedTimer κ) (hardware : SimulatedTimer) (notices : Nat) :
    TimerSystem SimulatedTimer κ :=
  { system with
    manager := { system.manager with hardware }
    notices
    time := system.time + (hardware.elapsed.count - system.manager.hardware.elapsed.count) }

/-- The hardware counts whenever it is armed. -/
def Ticking (system : TimerSystem SimulatedTimer κ) : Prop :=
  system.manager.armed = true → system.manager.hardware.phase = .armed

theorem phase_of_restart {timer moved : SimulatedTimer} {ticks : Ticks}
    (restarted : HardwareTimer.restart timer ticks = (moved, .ok ())) : moved.phase = .armed := by
  by_cases zero : ticks.count = 0
  · simp [HardwareTimer.restart, SimulatedTimer.restart, SimulatedTimer.start, Ticks.isZero,
      zero] at restarted
  · rw [SimulatedTimer.restart_eq (Nat.pos_of_ne_zero zero)] at restarted
    cases restarted
    rfl

/-- A stage leaves the hardware ticking, at rest, or as it was. -/
theorem WellFormed.stage_ticking (wellFormed : system.WellFormed) (stage : Stage system next) :
    next.Ticking ∨ next.manager.armed = system.manager.armed ∧
      next.manager.hardware = system.manager.hardware ∧ next.notices = system.notices := by
  cases stage with
  | stopFailed armed failed =>
      rw [SimulatedTimer.stop_eq] at failed
      cases failed
  | charged => exact Or.inl fun armed => absurd armed Bool.false_ne_true
  | cleared idle =>
      have cleared := clearExpired_cleared wellFormed.coherent
      left
      intro armed
      rw [manager_record, cleared.armed, idle] at armed
      cases armed
  | restartFailed idle =>
      left
      intro armed
      rw [idle] at armed
      cases armed
  | restarted idle none_due in_front armed => exact Or.inl fun _ => phase_of_restart armed
  | _ => exact Or.inr ⟨rfl, rfl, rfl⟩

theorem Ticking.stage (ticking : system.Ticking) (wellFormed : system.WellFormed)
    (stage : Stage system next) : next.Ticking := by
  rcases wellFormed.stage_ticking stage with after | ⟨armed, hardware, _⟩
  · exact after
  · rw [Ticking, armed, hardware]
    exact ticking

/-- Working off an expiry leaves the hardware ticking or at rest. -/
theorem ticking_expire (wellFormed : system.WellFormed) : (system.perform .expire).Ticking := by
  have kept := wellFormed.coherent.reconcile
  rcases result : system.manager.reconcile with ⟨after, fault | notes⟩
  · have failed : ¬SimulatedTimer.watch.Flawless after.hardware := not_flawless_of_reconcile result
    exact absurd trivial failed
  · rw [result] at kept
    have coherent_after : after.IsCoherent := kept
    obtain ⟨starting, _, expired⟩ := expire_of_ok result
    have cleared := clearExpired_cleared coherent_after
    have idle := cleared.armed.trans (armed_of_reconcile result)
    rw [Ticking, TimerSystem.perform, commit, expired, manager_record]
    rcases startNext_cases after.clearExpired.1 with
      ⟨_, started⟩ | ⟨front, _, ⟨hardware, fault, _, started⟩ | ⟨hardware, armed, started⟩⟩
    · simp [started, idle]
    · simp [started, idle]
    · rw [started]
      exact fun _ => phase_of_restart armed

/-! ## Punctual systems -/

/-- The manager is on time and in step with its hardware. -/
structure Punctual (storage : TimerStorage) (system : TimerSystem SimulatedTimer κ) : Prop where
  /-- The manager is well-formed. -/
  wellFormed : system.WellFormed
  /-- The containers are those of the storage. -/
  housed : system.manager.Housed storage
  /-- Every timer is on time. -/
  timely : system.Timely
  /-- The hardware counts towards the front of the queue. -/
  synced : system.manager.Synced SimulatedTimer.watch
  /-- What has been collected belonged to the schedule in force. -/
  collects : CollectsInForce system.history

theorem punctual_fresh (hardware : SimulatedTimer) (storage : TimerStorage) :
    (fresh hardware storage : TimerSystem SimulatedTimer κ).Punctual storage where
  wellFormed := wellFormed_fresh hardware storage
  housed := housed_fresh hardware storage
  timely := timely_fresh hardware storage
  synced := synced_fresh hardware storage
  collects := AtEach.nil

/-- Whatever the users do, the system stays punctual; and what every stage keeps that starts in
time, every move keeps. -/
theorem Punctual.perform_keeps (punctual : system.Punctual storage)
    (collects_all : storage.CollectsAll) (kept : TimerSystem SimulatedTimer κ → Prop)
    (start : kept system)
    (stage_keeps : ∀ system next : TimerSystem SimulatedTimer κ, system.WellFormed →
      system.manager.Housed storage → system.Timely → kept system → Stage system next → kept next)
    (move : TimerMove κ) : (system.perform move).Punctual storage ∧ kept (system.perform move) := by
  have staged := punctual.wellFormed.perform_keeps
    (fun system => system.manager.Housed storage ∧ system.Timely ∧
      CollectsInForce system.history ∧ kept system)
    ⟨punctual.housed, punctual.timely, punctual.collects, start⟩
    (fun system next wellFormed ⟨housed, timely, collects, held⟩ stage =>
      ⟨stage_housed housed wellFormed.coherent stage,
        timely.stage wellFormed housed collects_all stage,
        stage_collectsInForce collects wellFormed stage,
        stage_keeps system next wellFormed housed timely held stage⟩) move
  obtain ⟨housed, timely, collects, held⟩ := staged
  have wellFormed := punctual.wellFormed.perform move
  have synced := perform_synced punctual.wellFormed (fun _ => punctual.synced) move trivial
  exact ⟨⟨wellFormed, housed, timely, synced, collects⟩, held⟩

/-- The hardware counts on, and the time goes on with it. -/
theorem Punctual.elapse (punctual : system.Punctual storage) {hardware : SimulatedTimer}
    {time : Nat} {notices : Nat} (period : hardware.period = system.manager.hardware.period)
    (forward : system.time ≤ time)
    (in_step : system.manager.armed = true →
      time + system.manager.hardware.elapsed.count = system.time + hardware.elapsed.count)
    (running : system.manager.armed = true →
      (hardware.phase = .armed ∧ hardware.elapsed.count < hardware.period.count) ∨
      (hardware.phase = .expired ∧ hardware.elapsed = hardware.period)) :
    ({ system with manager := { system.manager with hardware }, notices, time } :
      TimerSystem SimulatedTimer κ).Punctual storage where
  wellFormed := punctual.wellFormed.touch rfl rfl rfl rfl rfl
  housed := ⟨punctual.housed.slots, punctual.housed.queue, punctual.housed.fired,
    punctual.housed.within⟩
  timely := punctual.timely.elapse punctual.wellFormed punctual.synced period forward in_step
    running
  synced := punctual.synced.congr rfl (fun _ _ => rfl) rfl (congrArg some period)
  collects := punctual.collects

/-- A schedule in force has been collected whenever it was due, unless the hardware has expired for
it just now. -/
theorem Punctual.upToDate_or_dueNow (punctual : system.Punctual storage) {id : TimerId}
    {plan : Plan κ} (planned : plan? id system.history = some plan) :
    plan.UpToDate system.time ∨
      plan.DueNow system.time ∧ system.manager.armed = true ∧
        system.manager.hardware.phase = .expired := by
  obtain ⟨timer, held⟩ := punctual.wellFormed.timer_of_plan? planned
  have on_time := punctual.timely.on_time id plan timer planned held
  have period_pos := punctual.wellFormed.ticks_pos punctual.timely planned held
  cases pending : timer.pending with
  | false =>
      left
      apply on_time.upToDate period_pos
      intro waits
      rw [pending] at waits
      cases waits
  | true =>
      obtain ⟨armed, bound⟩ := punctual.wellFormed.period_le punctual.synced held pending
      have due_eq := on_time.due_eq pending
      rw [uncharged_of_armed armed] at due_eq
      rcases punctual.timely.running armed with ⟨_, short⟩ | ⟨expired, reached⟩
      · left
        apply on_time.upToDate period_pos
        intro _
        omega
      · rw [reached] at due_eq
        by_cases due : plan.nextDue = system.time
        · exact Or.inr ⟨on_time.dueNow period_pos pending due, armed, expired⟩
        · left
          apply on_time.upToDate period_pos
          intro _
          omega

/-- While the hardware counts, every schedule in force has been collected whenever it was due. -/
theorem Punctual.upToDate (punctual : system.Punctual storage) (ticking : system.Ticking) :
    UpToDate system.history system.time := by
  intro id plan planned
  rcases punctual.upToDate_or_dueNow planned with up_to_date | ⟨_, armed, expired⟩
  · exact up_to_date
  · rw [ticking armed] at expired
    cases expired

end TimerSystem

end Reactor

import Reactor.Hardware.Simulated
import Reactor.Proofs.Timer.Watch

/-!
# The invariant of a timer manager

Whatever happens to a manager, its queue and its timers stay consistent.  If no call of the hardware
has failed, the hardware counts towards the front of the queue after every move.  Any hardware timer
can be asked whether a call has failed once its calls are traced.
-/

namespace Reactor

open Hardware

/-- A call of a hardware timer and how it went. -/
inductive HardwareCall where
  /-- The timer was armed with the last period. -/
  | start (outcome : Except Fault Unit)
  /-- The timer was stopped. -/
  | stop (outcome : Except Fault Unit)
  /-- The timer was armed with a new period. -/
  | restart (period : Ticks) (outcome : Except Fault Unit)
deriving DecidableEq

namespace HardwareCall

/-- Whether a call has failed. -/
def fails : HardwareCall → Bool
  | start (.error _) | stop (.error _) | restart _ (.error _) => true
  | _ => false

/-- The period that a call has set. -/
def period? : HardwareCall → Option Ticks
  | restart period (.ok ()) => some period
  | _ => none

end HardwareCall

/-- A hardware timer whose calls are traced. -/
structure TracedTimer (H : Type) where
  /-- The timer. -/
  timer : H
  /-- The calls that were made of it, the latest first. -/
  calls : List HardwareCall := []

namespace TracedTimer

variable {H κ : Type} [HardwareTimer H]

instance : HardwareTimer (TracedTimer H) where
  resolution traced := HardwareTimer.resolution traced.timer
  start traced :=
    ({ timer := (HardwareTimer.start traced.timer).1
       calls := .start (HardwareTimer.start traced.timer).2 :: traced.calls },
      (HardwareTimer.start traced.timer).2)
  stop traced :=
    ({ timer := (HardwareTimer.stop traced.timer).1
       calls := .stop (HardwareTimer.stop traced.timer).2 :: traced.calls },
      (HardwareTimer.stop traced.timer).2)
  restart traced period :=
    ({ timer := (HardwareTimer.restart traced.timer period).1
       calls := .restart period (HardwareTimer.restart traced.timer period).2 :: traced.calls },
      (HardwareTimer.restart traced.timer period).2)
  count traced := HardwareTimer.count traced.timer
  phase traced := HardwareTimer.phase traced.timer

omit [HardwareTimer H] in
/-- Whether no call has failed. -/
def flawless (traced : TracedTimer H) : Bool := traced.calls.all fun call => !call.fails

omit [HardwareTimer H] in
/-- The period that the timer was armed with last. -/
def period? (traced : TracedTimer H) : Option Ticks := traced.calls.findSome? HardwareCall.period?

omit [HardwareTimer H] in
/-- A change that the timer makes by itself leaves no trace. -/
def stir (change : H → H) (traced : TracedTimer H) : TracedTimer H :=
  { traced with timer := change traced.timer }

/-- The trace tells how the calls went. -/
def watch : Watch (TracedTimer H) where
  Flawless traced := traced.flawless = true
  period? := period?
  stop_ok traced flawless := by
    simp only [HardwareTimer.stop, TracedTimer.flawless, List.all_cons,
      Bool.and_eq_true] at flawless ⊢
    cases outcome : (HardwareTimer.stop traced.timer).2 with
    | ok => rfl
    | error fault => simp [outcome, HardwareCall.fails] at flawless
  restart_ok traced ticks _ flawless := by
    simp only [HardwareTimer.restart, TracedTimer.flawless, List.all_cons,
      Bool.and_eq_true] at flawless ⊢
    cases outcome : (HardwareTimer.restart traced.timer ticks).2 with
    | ok => exact ⟨rfl, rfl⟩
    | error fault => simp [outcome, HardwareCall.fails] at flawless

end TracedTimer

namespace TimerManager

variable {H κ : Type}

/-- What holds of the timers and the queue of a manager at any time. -/
structure Consistent (manager : TimerManager H κ) : Prop where
  /-- The queue is in heap order by the ticks that its timers have left. -/
  ordered : manager.queue.isHeap (remaining manager.slots) = true
  /-- No timer is queued twice. -/
  distinct : manager.queue.ids.toList.Nodup
  /-- Every queued timer is allocated. -/
  allocated : ∀ id ∈ manager.queue.ids, (manager.timer? id).isSome = true
  /-- A timer waits just if it is queued. -/
  pending_iff : ∀ id timer, manager.timer? id = some timer →
    (timer.pending = true ↔ id ∈ manager.queue.ids)
  /-- A timer that waits has a schedule. -/
  scheduled : ∀ id timer, manager.timer? id = some timer → timer.pending = true →
    timer.schedule.isSome = true
  /-- The number of a schedule has been given out. -/
  issued : ∀ id timer schedule, manager.timer? id = some timer →
    timer.schedule = some schedule → schedule.serial < manager.nextSerial
  /-- No two timers hold the same number. -/
  serials : ∀ id other timer otherTimer schedule otherSchedule,
    manager.timer? id = some timer → timer.schedule = some schedule →
    manager.timer? other = some otherTimer → otherTimer.schedule = some otherSchedule →
    schedule.serial = otherSchedule.serial → id = other
  /-- A periodic timer that waits has a period. -/
  period_pos : ∀ id timer, manager.timer? id = some timer → timer.pending = true →
    timer.mode = .periodic → 0 < timer.reload.count

end TimerManager

namespace TimerSystem

open TimerManager

variable {H κ : Type} {system : TimerSystem H κ}

/-- A schedule that a timer holds is in the history. -/
theorem WellFormed.exists_scheduled (wellFormed : system.WellFormed) {id : TimerId}
    {timer : Timer κ} {schedule : Schedule κ} (held : system.manager.timer? id = some timer)
    (scheduled : timer.schedule = some schedule) :
    ∃ before time mode ticks after, system.history =
      before ++ ⟨time, .scheduled id mode ticks schedule.serial schedule.callback⟩ :: after := by
  have planned := wellFormed.schedule_eq held
  rw [scheduled] at planned
  obtain ⟨plan, in_force, rfl⟩ := Option.map_eq_some_iff.mp planned.symm
  obtain ⟨before, reign, split_at, _⟩ := reign_of_plan? in_force
  exact ⟨before, plan.start, plan.mode, plan.ticks, reign, split_at⟩

theorem WellFormed.consistent (wellFormed : system.WellFormed) (numbered : system.Numbered)
    (few : issued system.history < UInt32.size) : system.manager.Consistent := by
  have coherent := wellFormed.coherent
  constructor
  · exact ScheduledQueue.isHeap_iff.mpr (Coherent.ordered coherent)
  · exact Coherent.distinct coherent
  · intro id queued
    obtain ⟨timer, held, _⟩ := (Coherent.queued_iff coherent id).mp queued
    rw [timer?_eq_held?, held, Option.isSome_some]
  · intro id timer held
    exact ⟨Coherent.queued coherent held, Coherent.pending_of_queued coherent held⟩
  · exact fun id timer held pending => (coherent.ready held pending).scheduled
  · intro id timer schedule held scheduled
    obtain ⟨before, time, mode, ticks, after, split_at⟩ :=
      wellFormed.exists_scheduled held scheduled
    have fewer : issued before < issued system.history := by
      rw [split_at, issued_append, issued_cons rfl]
      omega
    rw [numbered.counts _ _ _ split_at _ _ _ _ _ rfl, numbered.next_eq, UInt32.lt_iff_toNat_lt,
      UInt32.toNat_ofNat_of_lt' (Nat.lt_trans fewer few), UInt32.toNat_ofNat_of_lt' few]
    exact fewer
  · intro id other timer otherTimer schedule otherSchedule held scheduled other_held
      other_scheduled same
    obtain ⟨_, _, _, _, _, split_at⟩ := wellFormed.exists_scheduled held scheduled
    obtain ⟨_, _, _, _, _, other_split⟩ := wellFormed.exists_scheduled other_held other_scheduled
    rw [← same] at other_split
    exact (numbered.counts.split_eq few split_at other_split).1
  · exact fun id timer held pending => (coherent.ready held pending).reload_pos

variable [HardwareTimer H]

theorem synced_openRun {κ : Type} (hardware : H) (storage : TimerStorage)
    (moves : List (OpenMove (H → H) κ)) (system : TimerSystem (TracedTimer H) κ)
    (ran : openRun TracedTimer.stir { timer := hardware } storage moves = system)
    (alive : system.alive = true) (flawless : system.manager.hardware.flawless = true) :
    system.manager.Synced TracedTimer.watch := by
  have all : system.WellFormed ∧ (system.alive = true →
      TracedTimer.watch.Flawless system.manager.hardware →
      system.manager.Synced TracedTimer.watch) := by
    rw [← ran]
    apply openRun_keeps (fun system : TimerSystem (TracedTimer H) κ => system.WellFormed ∧
      (system.alive = true → TracedTimer.watch.Flawless system.manager.hardware →
        system.manager.Synced TracedTimer.watch))
    · exact ⟨wellFormed_fresh _ _, fun _ _ => synced_fresh _ _⟩
    · rintro system move ⟨wellFormed, synced⟩
      refine ⟨wellFormed.undergo move, ?_⟩
      cases move with
      | use move =>
          rw [undergo]
          split
          · next living => exact fun _ => perform_synced wellFormed (synced living) move
          · exact synced
      | stir change =>
          exact fun living unbroken => (synced living unbroken).congr rfl (fun _ _ => rfl) rfl rfl
      | abandon | deliver => exact synced
      | teardown => exact fun living => absurd living Bool.false_ne_true
  exact all.2 alive flawless

/-- The manager is consistent after every open run with fewer than `2 ^ 32` schedules, and as long
as it lives and no call of the hardware has failed, the hardware counts towards the front. -/
theorem consistent_and_armed_for_front (hardware : H) (storage : TimerStorage)
    (moves : List (OpenMove (H → H) κ)) (system : TimerSystem (TracedTimer H) κ)
    (ran : openRun TracedTimer.stir { timer := hardware } storage moves = system)
    (few : issued system.history < UInt32.size) :
    system.manager.Consistent ∧
    (system.alive = true → system.manager.hardware.flawless = true →
      (system.manager.armed = true ↔ system.manager.queue.isEmpty = false) ∧
      (∀ front, system.manager.queue.front? = some front →
        system.manager.hardware.period? = some (remaining system.manager.slots front)) ∧
      ∀ id timer, system.manager.timer? id = some timer → timer.pending = true →
        0 < timer.remaining.count) := by
  obtain ⟨wellFormed, numbered⟩ : system.WellFormed ∧ system.Numbered := by
    rw [← ran]
    exact openRun_sound _ _ _ _
  refine ⟨wellFormed.consistent numbered few, ?_⟩
  intro alive flawless
  have synced := synced_openRun hardware storage moves system ran alive flawless
  refine ⟨?_, synced.period, ?_⟩
  · rw [synced.armed_iff, ScheduledQueue.isEmpty, Bool.eq_false_iff, ne_eq, ne_eq,
      Array.isEmpty_iff]
  · intro id timer held pending
    have positive := synced.remaining_pos id (Coherent.queued wellFormed.coherent held pending)
    rwa [remaining_of_held? held] at positive

/-- Two timers wait, the sooner of them periodic. -/
def waitingSystem : TimerSystem (TracedTimer SimulatedTimer) Nat :=
  openRun TracedTimer.stir { timer := { resolution := .microsecond } } .growing
    [.use .allocate, .use .allocate,
      .use (.schedule ⟨0⟩ .oneshot (.ofMicros 30) { bytes := 8 } 1),
      .use (.schedule ⟨1⟩ .periodic (.ofMicros 20) { bytes := 8 } 2)]

/-- The hardware counts towards the periodic timer. -/
theorem consistent_and_armed_for_periodic :
    issued waitingSystem.history < UInt32.size ∧ waitingSystem.manager.Consistent ∧
    waitingSystem.manager.armed = true ∧
    waitingSystem.manager.hardware.period? = some (.clamp 20) := by
  have few : issued waitingSystem.history < UInt32.size := by decide +kernel
  obtain ⟨consistent, in_step⟩ := consistent_and_armed_for_front
    { resolution := .microsecond } .growing _ waitingSystem rfl few
  obtain ⟨armed_iff, period, _⟩ := in_step (by decide +kernel) (by decide +kernel)
  exact ⟨few, consistent, armed_iff.mpr (by decide +kernel),
    (period ⟨1⟩ (by decide +kernel)).trans (by decide +kernel)⟩

end TimerSystem

end Reactor

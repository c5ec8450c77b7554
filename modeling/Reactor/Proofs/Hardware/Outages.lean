import Reactor.Hardware.Unreliable

/-!
# What unreliable hardware may do

A hardware timer takes no notice of a call that comes during an outage.  Whatever fails, it keeps
its count when it is stopped and starts to count anew when it is armed.
-/

namespace Reactor

open Hardware

/-- The count of the hardware can be relied on, whichever of its calls fail. -/
structure Metered (H : Type) [HardwareTimer H] : Prop where
  /-- The count stays readable, whether the hardware stops or not. -/
  count_stop : ∀ hardware : H,
    HardwareTimer.count (HardwareTimer.stop hardware).1 = HardwareTimer.count hardware
  /-- Armed hardware counts from zero. -/
  count_restart : ∀ {hardware next : H} {ticks : Ticks}, 0 < ticks.count →
    HardwareTimer.restart hardware ticks = (next, .ok ()) → HardwareTimer.count next = .zero

namespace SimulatedTimer

theorem stop_eq (timer : SimulatedTimer) : HardwareTimer.stop timer =
    (if timer.phase = .armed then { timer with phase := .stopped } else timer, .ok ()) := rfl

theorem restart_eq {timer : SimulatedTimer} {ticks : Ticks} (positive : 0 < ticks.count) :
    HardwareTimer.restart timer ticks =
      ({ timer with period := ticks, elapsed := .zero, phase := .armed
                    restarts := timer.restarts + 1 }, .ok ()) := by
  have nonzero : ticks.isZero = false := by
    rw [Ticks.isZero, beq_eq_false_iff_ne]
    omega
  simp [HardwareTimer.restart, restart, start, nonzero]

@[simp]
theorem count_stop (timer : SimulatedTimer) :
    HardwareTimer.count (HardwareTimer.stop timer).1 = timer.elapsed := by
  rw [stop_eq]
  split <;> rfl

end SimulatedTimer

namespace UnreliableTimer

/-- What happens to an unreliable timer by itself. -/
inductive Change where
  /-- Ticks pass, up to the period. -/
  | tick (ticks : Ticks)
  /-- Calls that stop the timer begin to fail. -/
  | stopOutage (outage : Outage)
  /-- Calls that arm the timer begin to fail. -/
  | restartOutage (outage : Outage)

/-- The timer after a change. -/
def change : Change → UnreliableTimer → UnreliableTimer
  | .tick ticks, unreliable =>
      match unreliable.timer.pass ticks with
      | .done timer | .expiry timer _ => { unreliable with timer }
  | .stopOutage outage, unreliable => { unreliable with stopOutage := some outage }
  | .restartOutage outage, unreliable => { unreliable with restartOutage := some outage }

/-- Outages do not touch the count. -/
theorem metered : Metered UnreliableTimer where
  count_stop unreliable := by
    have kept : unreliable.stop.1.timer.elapsed = unreliable.timer.elapsed := by
      rw [stop]
      split
      · rfl
      · exact unreliable.timer.count_stop
    exact kept
  count_restart {unreliable next ticks} positive restarted := by
    have result : unreliable.restart ticks = (next, .ok ()) := restarted
    rw [restart] at result
    split at result
    · cases result
    · have armed : unreliable.timer.restart ticks = _ := SimulatedTimer.restart_eq positive
      rw [armed] at result
      cases result
      rfl

end UnreliableTimer

end Reactor

import Reactor.Exec
import Reactor.Hardware

/-!
# A simulated hardware timer

The clock of a simulated timer moves only when it is told to.  Each time the armed period is
reached, the timer expires and a callback runs; if the callback rearms the timer, the ticks that
are left count against the new period, so one advance may expire the timer several times.
-/

namespace Reactor

open Hardware

/-- A hardware timer moved by hand. -/
structure SimulatedTimer where
  /-- The length of one tick. -/
  resolution : Duration
  /-- The period it was last armed with. -/
  period : Ticks := .zero
  /-- The ticks counted since it was last armed. -/
  elapsed : Ticks := .zero
  /-- Where it is in its cycle. -/
  phase : Phase := .stopped
  /-- How many times it has been armed. -/
  restarts : Nat := 0
deriving DecidableEq

namespace SimulatedTimer

/-- Arms the timer with the last period, which must not be zero. -/
def start (timer : SimulatedTimer) : Attempt SimulatedTimer :=
  if timer.period.isZero then (timer, .error .invalidPeriod)
  else
    ({ timer with elapsed := .zero, phase := .armed, restarts := timer.restarts + 1 }, .ok ())

/-- Stops the timer if it is counting. -/
def stop (timer : SimulatedTimer) : Attempt SimulatedTimer :=
  (if timer.phase = .armed then { timer with phase := .stopped } else timer, .ok ())

/-- Sets the period and starts the timer. -/
def restart (timer : SimulatedTimer) (period : Ticks) : Attempt SimulatedTimer :=
  start { timer with period }

instance : HardwareTimer SimulatedTimer where
  resolution := resolution
  start := start
  stop := stop
  restart := restart
  count := elapsed
  phase := phase

/-- The period, if the timer is counting towards it. -/
def armedPeriod? (timer : SimulatedTimer) : Option Ticks :=
  if timer.phase = .armed then some timer.period else none

/-- How far some ticks carry a timer. -/
inductive Passage where
  /-- All ticks are used up, or the timer is not counting. -/
  | done (timer : SimulatedTimer)
  /-- The timer expires and some ticks are left. -/
  | expiry (timer : SimulatedTimer) (left : Ticks)

/-- Lets ticks pass, up to the next expiry. -/
def pass (timer : SimulatedTimer) (ticks : Ticks) : Passage :=
  if timer.phase = .armed then
    let remaining := timer.period - timer.elapsed
    if ticks < remaining then .done { timer with elapsed := timer.elapsed + ticks }
    else .expiry { timer with elapsed := timer.period, phase := .expired } (ticks - remaining)
  else .done timer

/-- Moves the clock of a timer that is part of a larger state.  `expired` runs at every expiry and
may do anything to the state; `budget` bounds the number of expiries. -/
def advance {σ : Type} (timer : Part σ SimulatedTimer) (expired : Exec σ Unit) :
    Nat → Ticks → Exec σ Unit
  | 0, _ => throw .exhausted
  | budget + 1, ticks => do
      match (← timer.read).pass ticks with
      | .done moved => timer.write moved
      | .expiry moved left =>
          timer.write moved
          expired
          advance timer expired budget left

end SimulatedTimer

end Reactor

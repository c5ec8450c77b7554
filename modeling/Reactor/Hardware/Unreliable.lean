import Reactor.Hardware.Simulated

/-!
# An unreliable hardware timer

A simulated timer whose next calls of an operation can be made to fail.  A failing call leaves the
timer as it was.
-/

namespace Reactor

open Hardware

/-- How many of the next calls fail, and how. -/
structure Outage where
  /-- The number of calls that will fail. -/
  calls : Nat
  /-- The fault they report. -/
  fault : Fault
deriving DecidableEq

namespace Outage

/-- The fault of the next call, if it fails, and the outage that remains. -/
def next? : Option Outage → Option (Fault × Option Outage)
  | some { calls := calls + 1, fault } => some (fault, some { calls, fault })
  | _ => none

end Outage

/-- A simulated timer with outages of two of its operations. -/
structure UnreliableTimer where
  /-- The timer that works when there is no outage. -/
  timer : SimulatedTimer
  /-- The outage of `stop`. -/
  stopOutage : Option Outage := none
  /-- The outage of `restart`. -/
  restartOutage : Option Outage := none
deriving DecidableEq

namespace UnreliableTimer

/-- Stops the timer, unless there is an outage. -/
def stop (unreliable : UnreliableTimer) : Attempt UnreliableTimer :=
  match Outage.next? unreliable.stopOutage with
  | some (fault, stopOutage) => ({ unreliable with stopOutage }, .error fault)
  | none =>
      let (timer, result) := unreliable.timer.stop
      ({ unreliable with timer }, result)

/-- Arms the timer with a new period, unless there is an outage. -/
def restart (unreliable : UnreliableTimer) (period : Ticks) : Attempt UnreliableTimer :=
  match Outage.next? unreliable.restartOutage with
  | some (fault, restartOutage) => ({ unreliable with restartOutage }, .error fault)
  | none =>
      let (timer, result) := unreliable.timer.restart period
      ({ unreliable with timer }, result)

/-- Arms the timer with the last period. -/
def start (unreliable : UnreliableTimer) : Attempt UnreliableTimer :=
  let (timer, result) := unreliable.timer.start
  ({ unreliable with timer }, result)

instance : HardwareTimer UnreliableTimer where
  resolution unreliable := unreliable.timer.resolution
  start := start
  stop := stop
  restart := restart
  count unreliable := unreliable.timer.elapsed
  phase unreliable := unreliable.timer.phase

end UnreliableTimer

end Reactor

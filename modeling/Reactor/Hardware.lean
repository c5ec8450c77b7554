import Reactor.Duration

/-!
# Hardware timers

A hardware timer counts up from zero once it is armed with a period and expires when its count
reaches the period.  It does not rearm itself.  Each operation may fail.
-/

namespace Reactor

namespace Hardware

/-- Why a hardware timer refuses an operation. -/
inductive Fault where
  /-- The period is zero. -/
  | invalidPeriod
  /-- The timer cannot do this. -/
  | notSupported
  /-- The timer is gone. -/
  | shutDown
  /-- Anything else. -/
  | broken (what : String)
deriving DecidableEq

/-- What a fault says. -/
def Fault.message : Fault → String
  | invalidPeriod => "invalid timer period"
  | notSupported => "operation not supported by this timer"
  | shutDown => "timer backend has shut down"
  | broken what => s!"hardware fault: {what}"

/-- Where a hardware timer is in its cycle. -/
inductive Phase where
  /-- Not counting; the last count can be read. -/
  | stopped
  /-- Counting towards the period. -/
  | armed
  /-- The period was reached. -/
  | expired
deriving DecidableEq, Inhabited

/-- The name of a phase. -/
def Phase.text : Phase → String
  | stopped => "Stopped"
  | armed => "Armed"
  | expired => "Expired"

/-- An operation on a timer `H`: what it leaves, and whether it failed. -/
abbrev Attempt (H : Type) := H × Except Fault Unit

end Hardware

open Hardware in
/-- The operations of a hardware timer. -/
class HardwareTimer (H : Type) where
  /-- The length of one tick. -/
  resolution : H → Duration
  /-- Arms the timer with the last period. -/
  start : H → Attempt H
  /-- Stops the timer; its count stays readable. -/
  stop : H → Attempt H
  /-- Arms the timer with a new period, counting from zero. -/
  restart : H → Ticks → Attempt H
  /-- The ticks counted since the timer was last armed. -/
  count : H → Ticks
  /-- Where the timer is in its cycle. -/
  phase : H → Phase

end Reactor

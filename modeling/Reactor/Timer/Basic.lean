import Reactor.Hardware
import Reactor.Timer.ScheduledQueue

/-!
# Software timers

A software timer waits for a number of ticks and then hands its callback over to be run.  Each time
it is scheduled it gets a new serial number; a callback that was handed over runs only while the
timer still holds the schedule with that number.
-/

namespace Reactor

/-- What a timer does when its ticks have passed. -/
inductive TimerMode where
  /-- It fires once. -/
  | oneshot
  /-- It fires and starts over. -/
  | periodic
deriving DecidableEq, Inhabited

/-- The name of a mode. -/
def TimerMode.text : TimerMode → String
  | oneshot => "Oneshot"
  | periodic => "Periodic"

/-- A callback `κ` and the number of the schedule it belongs to. -/
structure Schedule (κ : Type) where
  /-- The number of the schedule, unique within a manager until the numbers wrap around. -/
  serial : UInt32
  /-- What to run when the timer fires. -/
  callback : κ

/-- An allocated software timer. -/
structure Timer (κ : Type) where
  /-- What happens when the ticks have passed. -/
  mode : TimerMode := .oneshot
  /-- The ticks left at the last time the hardware was read. -/
  remaining : Ticks := .zero
  /-- The ticks a periodic timer starts over with. -/
  reload : Ticks := .zero
  /-- Whether the timer waits in the scheduled queue. -/
  pending : Bool := false
  /-- The schedule in force; it outlives the firing of a one-shot. -/
  schedule : Option (Schedule κ) := none

namespace Timer

variable {κ : Type}

/-- A timer as it is allocated. -/
def idle : Timer κ := {}

/-- Gives up the schedule, so that nothing handed over under it runs any more. -/
def disarm (timer : Timer κ) : Timer κ := { timer with schedule := none }

/-- Whether a callback handed over under `serial` may still run. -/
def holds (timer : Timer κ) (serial : UInt32) : Bool :=
  timer.schedule.any fun schedule => schedule.serial == serial

end Timer

/-- A callback that a timer hands over when it fires. -/
structure Expiry (κ : Type) where
  /-- The timer that fired. -/
  id : TimerId
  /-- The number of its schedule. -/
  serial : UInt32
  /-- What to run. -/
  callback : κ
deriving DecidableEq

/-- Why a timer operation fails. -/
inductive TimerError where
  /-- Every place for a timer is taken. -/
  | listFull (capacity : Nat)
  /-- Every place in the scheduled queue is taken. -/
  | queueFull (capacity : Nat)
  /-- The handle has been released. -/
  | invalidHandle
  /-- A periodic timer without a period would fire forever. -/
  | zeroPeriod
  /-- The hardware timer failed. -/
  | hardware (fault : Hardware.Fault)
deriving DecidableEq

/-- What a timer error says. -/
def TimerError.message : TimerError → String
  | listFull capacity => s!"timer list is full (capacity {capacity})"
  | queueFull capacity => s!"scheduled queue is full (capacity {capacity})"
  | invalidHandle => "handle no longer refers to an allocated timer"
  | zeroPeriod => "periodic timer needs a non-zero period"
  | hardware fault => s!"hardware timer: {fault.message}"

end Reactor

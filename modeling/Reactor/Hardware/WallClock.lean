import Reactor.Hardware
import Reactor.Log

/-!
# A hardware timer on a wall clock

The timer counts the ticks that a clock has gone through since it was armed, and a watcher that
looks at the clock makes it expire once its deadline has come.  Between two looks the timer stays
armed, with a count that stops at the period.
-/

namespace Reactor

open Hardware

/-- A hardware timer that counts by a clock. -/
structure WallClockTimer where
  /-- The length of one tick. -/
  resolution : Duration
  /-- What the clock shows, in nanoseconds. -/
  now : Nat := 0
  /-- The period it was last armed with. -/
  period : Ticks := .zero
  /-- What the clock showed when it was armed, while it counts. -/
  armedAt : Option Nat := none
  /-- The count that was reached when it stopped counting. -/
  kept : Ticks := .zero
  /-- Where it is in its cycle. -/
  phase : Phase := .stopped
  /-- Whether it has been shut down. -/
  shutDown : Bool := false
  /-- Whether the watcher has failed at a deadline that the clock cannot show. -/
  unwatched : Bool := false
  /-- A tick takes some time. -/
  resolution_pos : 0 < resolution.nanos
deriving DecidableEq

/-- A report of a timer on a wall clock. -/
inductive WallClockNote where
  /-- The timer has started its watcher. -/
  | started (resolution : Duration)
  /-- The timer has stopped. -/
  | stopped
  /-- The timer was dropped by its own watcher. -/
  | droppedFromWithin
  /-- The watcher had failed. -/
  | watcherFailed

/-- The log record of a report. -/
def WallClockNote.record : WallClockNote → LogRecord
  | started resolution => ⟨.debug, s!"posix timer started, resolution {resolution.text}"⟩
  | stopped => ⟨.debug, "posix timer stopped"⟩
  | droppedFromWithin => ⟨.debug, "posix timer dropped from its own thread, not joining"⟩
  | watcherFailed => ⟨.error, "posix timer thread panicked"⟩

namespace WallClockTimer

/-- A stopped timer; nothing if the resolution is zero. -/
def new? (resolution : Duration) : Option WallClockTimer :=
  if positive : 0 < resolution.nanos then some { resolution, resolution_pos := positive } else none

/-- The ticks counted since the timer was last armed, at most its period. -/
def count (timer : WallClockTimer) : Ticks :=
  match timer.armedAt with
  | some start =>
      let elapsed := Ticks.clamp ((timer.now - start) / timer.resolution.nanos)
      if elapsed ≤ timer.period then elapsed else timer.period
  | none => timer.kept

/-- Stops the timer if it is counting, and keeps its count. -/
def stop (timer : WallClockTimer) : Attempt WallClockTimer :=
  (if timer.phase = .armed then
      { timer with kept := timer.count, phase := .stopped, armedAt := none }
    else timer,
    .ok ())

/-- Arms the timer with a period, which must not be zero, unless it has been shut down. -/
def restart (timer : WallClockTimer) (period : Ticks) : Attempt WallClockTimer :=
  if period.isZero then (timer, .error .invalidPeriod)
  else if timer.shutDown then (timer, .error .shutDown)
  else
    ({ timer with period, kept := .zero, armedAt := some timer.now, phase := .armed }, .ok ())

/-- Arms the timer with the last period. -/
def start (timer : WallClockTimer) : Attempt WallClockTimer := timer.restart timer.period

instance : HardwareTimer WallClockTimer where
  resolution := resolution
  start := start
  stop := stop
  restart := restart
  count := count
  phase := phase

/-- What the clock shows when the period has passed, while the timer counts. -/
def deadline? (timer : WallClockTimer) : Option Nat :=
  timer.armedAt.map (· + (timer.period.toDuration timer.resolution).nanos)

/-- What the clock cannot show any more: its seconds have 63 bits. -/
def clockLimit : Nat := (1 <<< 63) * Duration.second

/-- One look of the watcher at the clock: the timer expires if its deadline has come.  A deadline
that the clock cannot show ends the watcher. -/
def watch (timer : WallClockTimer) : WallClockTimer :=
  if timer.unwatched then timer
  else
    match timer.deadline? with
    | none => timer
    | some deadline =>
        if clockLimit ≤ deadline then { timer with unwatched := true }
        else if timer.now < deadline then timer
        else { timer with kept := timer.period, phase := .expired, armedAt := none }

/-- Lets the clock go on to a later moment. -/
def goOn (timer : WallClockTimer) (moment : Nat) : WallClockTimer :=
  { timer with now := max timer.now moment }

/-- Lets the clock go on to the deadline and the watcher look at it: the expired timer, or nothing
if it is not to expire. -/
def awaitExpiry? (timer : WallClockTimer) : Option WallClockTimer := do
  let deadline ← timer.deadline?
  let expired := (timer.goOn deadline).watch
  guard (expired.phase = .expired)
  return expired

/-- Shuts the timer down: it stops counting and cannot be armed again. -/
def close (timer : WallClockTimer) : WallClockTimer :=
  { timer with shutDown := true, phase := .stopped, armedAt := none }

/-- What dropping the timer reports, given whether its own watcher drops it. -/
def farewell (timer : WallClockTimer) (fromWithin : Bool) : List WallClockNote :=
  if fromWithin then [.droppedFromWithin]
  else if timer.unwatched then [.watcherFailed, .stopped]
  else [.stopped]

theorem restart_of_error {timer left : WallClockTimer} {period : Ticks} {fault : Fault}
    (failed : timer.restart period = (left, .error fault)) : left = timer := by
  unfold restart at failed
  split at failed
  · exact (Prod.mk.inj failed).1.symm
  · split at failed
    · exact (Prod.mk.inj failed).1.symm
    · simp at failed

end WallClockTimer

end Reactor

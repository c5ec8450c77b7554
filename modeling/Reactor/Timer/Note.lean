import Reactor.Log
import Reactor.Timer.Basic

/-!
# What a timer manager reports

Each constructor is one kind of report; `record` gives its level and its wording.
-/

namespace Reactor

/-- A report of a timer manager. -/
inductive TimerNote where
  /-- The manager has been made. -/
  | created (resolution : Duration)
  /-- A timer has been allocated. -/
  | allocated (id : TimerId)
  /-- A timer has been freed. -/
  | freed (id : TimerId)
  /-- The ticks that passed have been charged to the scheduled timers. -/
  | reconciled (scheduled : Nat) (elapsed : Ticks)
  /-- The hardware counts towards the soonest timer. -/
  | armed (remaining : Ticks) (id : TimerId)
  /-- A pending timer is about to be scheduled anew. -/
  | rescheduled (id : TimerId)
  /-- A scheduling call has gone through. -/
  | scheduled (id : TimerId) (mode : TimerMode) (ticks : Ticks)
  /-- A timer that was not the soonest has been cancelled. -/
  | cancelled (id : TimerId)
  /-- The soonest timer has been cancelled. -/
  | cancelledFront (id : TimerId)
  /-- An expiry of the hardware has been worked off. -/
  | expired (count : Nat)
  /-- A callback was not run because its schedule is no longer in force. -/
  | skipped (id : TimerId)
  /-- A cancellation through a handle failed. -/
  | cancelFailed (error : TimerError)
  /-- The cancellation that is part of a release failed. -/
  | releaseFailed (id : TimerId) (error : TimerError)
  /-- The hardware could not be stopped at an expiry. -/
  | stopFailed (fault : Hardware.Fault)
  /-- The hardware could not be armed at an expiry. -/
  | rearmFailed (fault : Hardware.Fault)
  /-- The hardware could not be stopped when the manager was torn down. -/
  | teardownFailed (fault : Hardware.Fault)
  /-- The manager has been torn down. -/
  | stopped (scheduled : Nat)

/-- The log record of a report. -/
def TimerNote.record : TimerNote → LogRecord
  | created resolution =>
      ⟨.debug, s!"timer manager created, resolution {resolution.text}"⟩
  | allocated id => ⟨.debug, s!"allocated {id.text}"⟩
  | freed id => ⟨.debug, s!"freed {id.text}"⟩
  | reconciled count elapsed =>
      ⟨.trace, s!"reconciled {count} scheduled timer(s) against {elapsed.text}"⟩
  | armed ticks id => ⟨.trace, s!"hardware timer armed for {ticks.text} ({id.text})"⟩
  | rescheduled id => ⟨.trace, s!"{id.text} rescheduled while pending"⟩
  | scheduled id mode ticks => ⟨.trace, s!"{id.text} scheduled {mode.text} in {ticks.text}"⟩
  | cancelled id => ⟨.trace, s!"{id.text} cancelled"⟩
  | cancelledFront id => ⟨.trace, s!"{id.text} cancelled at the front of the queue"⟩
  | expired count => ⟨.trace, s!"{count} timer(s) expired"⟩
  | skipped id => ⟨.trace, s!"{id.text}: skipped retired delivery"⟩
  | cancelFailed error => ⟨.error, s!"cancel failed: {error.message}"⟩
  | releaseFailed id error => ⟨.error, s!"{id.text}: cancel on release failed: {error.message}"⟩
  | stopFailed fault =>
      ⟨.error, s!"timer expiry: cannot stop hardware timer: {fault.message}"⟩
  | rearmFailed fault =>
      ⟨.error, s!"timer expiry: cannot rearm hardware timer: {fault.message}"⟩
  | teardownFailed fault =>
      ⟨.warn, s!"timer manager teardown: cannot stop hardware timer: {fault.message}"⟩
  | stopped count =>
      ⟨.debug, s!"timer manager stopped with {count} timer(s) scheduled"⟩

end Reactor

import Reactor.Dispatcher
import Reactor.Timer.Manager

/-!
# Timers in their surroundings

A timer manager is part of a larger state.  The operations here run one section of the manager,
report what it notes and hand what it fired over to a dispatcher; only then does the caller get the
answer.  The dispatcher may run a callback at once, and a callback may use the manager again.
-/

namespace Reactor

/-- Where a manager lives and how it reaches its surroundings. -/
structure TimerService (σ H κ : Type) where
  /-- The manager within the state. -/
  manager : Part σ (TimerManager H κ)
  /-- Whether the manager has not been torn down. -/
  alive : Part σ Bool
  /-- Takes a report. -/
  report : TimerNote → Exec σ Unit
  /-- Takes the callbacks that fired. -/
  dispatcher : Dispatcher σ (Expiry κ)
  /-- Runs a callback. -/
  call : κ → Exec σ Unit

namespace TimerService

variable {σ H κ α : Type}

/-- Runs a callback that was handed over, if the manager still lives and the schedule it was handed
over under is still in force. -/
def deliver (service : TimerService σ H κ) (expiry : Expiry κ) : Exec σ Unit := do
  if (← service.alive.read) && (← service.manager.read).isCurrent expiry.id expiry.serial then
    service.call expiry.callback
  else
    service.report (.skipped expiry.id)

/-- Hands over a callback that fired. -/
def handOver (service : TimerService σ H κ) : Expiry κ → Exec σ Unit :=
  service.dispatcher.dispatch service.deliver

/-- Runs one section of the manager and what follows from it. -/
def commit (service : TimerService σ H κ)
    (act : TimerManager H κ → TimerSection H κ α) : Exec σ α := do
  let done := act (← service.manager.read)
  service.manager.write done.manager
  done.notes.forM service.report
  done.fired.forM service.handOver
  return done.answer

/-- Allocates a timer, or says why there is no room. -/
def tryAllocate (service : TimerService σ H κ) : Exec σ (Except TimerError TimerId) :=
  service.commit TimerManager.allocate

/-- Allocates a timer; panics if there is no room. -/
def allocate (service : TimerService σ H κ) : Exec σ TimerId := do
  match ← service.tryAllocate with
  | .ok id => return id
  | .error error => Exec.panic s!"timer manager: {error.message}"

/-- Schedules the timer of a handle. -/
def schedule [HardwareTimer H] (service : TimerService σ H κ) (handle : Option TimerId)
    (mode : TimerMode) (delay : Duration) (footprint : Footprint) (callback : κ) :
    Exec σ (Except TimerError Unit) := do
  match handle with
  | none => return .error .invalidHandle
  | some id =>
      match (← service.manager.read).accept mode delay footprint with
      | .error (.panic message) => Exec.panic message
      | .error (.error error) => return .error error
      | .ok ticks => service.commit (·.schedule id mode ticks callback)

/-- Cancels the timer of a handle and answers whether it was pending, or why that failed. -/
def tryCancel [HardwareTimer H] (service : TimerService σ H κ) (handle : Option TimerId) :
    Exec σ (Except TimerError Bool) :=
  match handle with
  | none => return .error .invalidHandle
  | some id => service.commit (·.cancel id)

/-- Cancels the timer of a handle and answers whether it was pending.  A hardware failure is only
reported. -/
def cancel [HardwareTimer H] (service : TimerService σ H κ) (handle : Option TimerId) :
    Exec σ Bool := do
  match ← service.tryCancel handle with
  | .ok pending => return pending
  | .error .invalidHandle => return false
  | .error error =>
      service.report (.cancelFailed error)
      return false

/-- Cancels a timer if needed and frees it. -/
def release [HardwareTimer H] (service : TimerService σ H κ) (id : TimerId) : Exec σ Unit := do
  match ← service.commit (·.cancel id) with
  | .ok _ | .error .invalidHandle => pure ()
  | .error error => service.report (.releaseFailed id error)
  service.commit (·.free id)

/-- Releases the timer of a handle, if the handle still has one, and answers whether it had.  It has
none from then on, whatever happens. -/
def reset [HardwareTimer H] (service : TimerService σ H κ) (handle : Part σ (Option TimerId)) :
    Exec σ Bool := do
  match ← handle.read with
  | none => return false
  | some id =>
      handle.write none
      service.release id
      return true

/-- Works off an expiry of the hardware. -/
def expire [HardwareTimer H] (service : TimerService σ H κ) : Exec σ Unit :=
  service.commit TimerManager.expire

/-- Tears the manager down. -/
def teardown [HardwareTimer H] (service : TimerService σ H κ) : Exec σ Unit := do
  service.commit TimerManager.teardown
  service.alive.write false

end TimerService

end Reactor

import Reactor.Hardware.Simulated
import Reactor.Session.Stage

/-!
# Sessions with a simulated hardware timer
-/

namespace Reactor.Session

/-- Something done to a simulated timer directly. -/
inductive ClockAct where
  /-- Arms it with the last period. -/
  | start
  /-- Stops it. -/
  | stop
  /-- Arms it with a new period. -/
  | restart (period : Ticks)
  /-- Lets ticks pass. -/
  | advance (ticks : Ticks)

/-- Performs an act on a timer that is part of a state; `expired` runs at every expiry. -/
def ClockAct.perform {σ : Type} (act : ClockAct) (timer : Part σ SimulatedTimer)
    (expired : Exec σ Unit) : Exec σ Reply := do
  match act with
  | .start => apply SimulatedTimer.start
  | .stop => apply SimulatedTimer.stop
  | .restart period => apply (·.restart period)
  | .advance ticks =>
      SimulatedTimer.advance timer expired ample ticks
      return .silent
where
  /-- Performs one operation of the timer. -/
  apply (operation : SimulatedTimer → Hardware.Attempt SimulatedTimer) : Exec σ Reply := do
    let (next, result) := operation (← timer.read)
    timer.write next
    return .ofAttempt .hardware result

/-- A step of a session with a simulated timer. -/
inductive ClockStep (τ : Type) where
  /-- Does something to the timer. -/
  | act (act : ClockAct)
  /-- Registers the callback that runs at an expiry. -/
  | register (script : Script τ (ClockStep τ))
  /-- Asks for the length of a tick. -/
  | resolution
  /-- Panics. -/
  | panic (message : String)

namespace Clock

variable {τ : Type}

/-- The timer and the callback registered with it. -/
structure Bench (τ : Type) where
  /-- The timer. -/
  timer : SimulatedTimer
  /-- What runs at an expiry. -/
  callback : Option (Hook τ (ClockStep τ)) := none

/-- The state of the session; nothing waits for a pump here. -/
abbrev World (τ : Type) := Stage τ Unit (Bench τ)

/-- The timer as a part of the session. -/
def timerPart : Part (World τ) SimulatedTimer where
  get stage := stage.component.timer
  set timer stage := { stage with component := { stage.component with timer } }

/-- Performs a step; `depth` bounds how deep callbacks nest. -/
def perform : Nat → ClockStep τ → Exec (World τ) Reply
  | 0, _ => throw .exhausted
  | depth + 1, step => do
      match step with
      | .act act =>
          act.perform timerPart do
            match (← get).component.callback with
            | none => pure ()
            | some callback => Stage.play (perform depth) callback (.expired callback.tag)
      | .register script =>
          let callback ← Stage.register script
          modify fun stage =>
            { stage with component := { stage.component with callback := some callback } }
          return .silent
      | .resolution => return .text (toString (← timerPart.read).resolution.nanos)
      | .panic message => Exec.panic message

/-- A session before its first step. -/
def start (resolution : Duration) : World τ := { component := { timer := { resolution } } }

/-- Everything a script shows, for a timer of a resolution. -/
def run (resolution : Duration) (steps : List (ClockStep τ)) : List (Reply × World τ) :=
  Stage.run (perform ample) (start resolution) steps

end Clock

end Reactor.Session

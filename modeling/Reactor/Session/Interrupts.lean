import Reactor.Session.Stage

/-!
# Sessions with an interrupt queue
-/

namespace Reactor.Session

/-- A step of a session with an interrupt queue. -/
inductive InterruptStep (τ : Type) where
  /-- Pushes an operation. -/
  | push (script : Script τ (InterruptStep τ))
  /-- Pushes an operation, or says that there is no room. -/
  | tryPush (script : Script τ (InterruptStep τ))
  /-- Runs what waits. -/
  | drain
  /-- Asks how many operations wait. -/
  | pending
  /-- Panics. -/
  | panic (message : String)

namespace Interrupts

variable {τ : Type}

/-- A pushed operation. -/
abbrev Operation (τ : Type) := Hook τ (InterruptStep τ)

/-- The queue and its notifier. -/
structure Bench (τ : Type) where
  /-- The queue. -/
  queue : InterruptQueue (Operation τ)
  /-- What runs after every accepted push. -/
  notifier : Option (Operation τ) := none

/-- The state of the session; nothing waits for a pump here. -/
abbrev World (τ : Type) := Stage τ Unit (Bench τ)

/-- The queue as a part of the session. -/
def queuePart : Part (World τ) (InterruptQueue (Operation τ)) where
  get stage := stage.component.queue
  set queue stage := { stage with component := { stage.component with queue } }

/-- Performs a step; `depth` bounds how deep operations nest. -/
def perform : Nat → InterruptStep τ → Exec (World τ) Reply
  | 0, _ => throw .exhausted
  | depth + 1, step => do
      let run (operation : Operation τ) : Exec (World τ) Unit :=
        Stage.play (perform depth) operation (.ran operation.tag)
      let notify : Exec (World τ) Unit := do
        match (← get).component.notifier with
        | none => pure ()
        | some notifier => Stage.play (perform depth) notifier (.notified notifier.tag)
      match step with
      | .push script =>
          let operation ← Stage.register script
          InterruptQueue.push queuePart notify operation (.ofWords script.words)
          return .done
      | .tryPush script =>
          let operation ← Stage.register script
          let result ← InterruptQueue.tryPush queuePart notify operation (.ofWords script.words)
          return .ofAttempt (fun error => .dispatch (.queueFull error)) result
      | .drain => return .count (← InterruptQueue.drain queuePart run ample)
      | .pending => return .count (← queuePart.read).queue.size
      | .panic message => Exec.panic message

/-- A session before its first step. -/
def start (housing : Housing) (capacity : Capacity)
    (notifier : Option (Script τ (InterruptStep τ))) : World τ where
  runsLeft := (notifier.map Script.times).toArray
  component :=
    { queue := .empty housing capacity
      notifier := notifier.map fun script =>
        { tag := script.tag, steps := script.steps, ticket := 0 } }

/-- Everything a script shows. -/
def run (housing : Housing) (capacity : Capacity) (notifier : Option (Script τ (InterruptStep τ)))
    (steps : List (InterruptStep τ)) : List (Reply × World τ) :=
  Stage.run (perform ample) (start housing capacity notifier) steps

end Interrupts

end Reactor.Session

import Reactor.Session.Stage

/-!
# Sessions with a dispatcher
-/

namespace Reactor.Session

/-- A step of a session with a dispatcher. -/
inductive DispatchingStep (τ : Type) where
  /-- Dispatches a callback, through the session's dispatcher or one that runs it at once. -/
  | dispatch (script : Script τ (DispatchingStep τ)) (atOnce : Bool)
  /-- Runs waiting callbacks. -/
  | pump (pump : Pump)
  /-- Panics. -/
  | panic (message : String)

namespace Dispatching

variable {τ : Type}

/-- A dispatched callback. -/
abbrev Call (τ : Type) := Hook τ (DispatchingStep τ)

/-- The state of the session. -/
abbrev World (τ : Type) := Stage τ (Call τ) (InterruptQueue (Call τ))

/-- The session's dispatcher. -/
def dispatcher (routing : Routing) : Dispatcher (World τ) (Call τ) :=
  routing.dispatcher Stage.backlogPart Stage.componentPart

/-- Performs a step; `depth` bounds how deep callbacks nest. -/
def perform (routing : Routing) : Nat → DispatchingStep τ → Exec (World τ) Reply
  | 0, _ => throw .exhausted
  | depth + 1, step => do
      let run (call : Call τ) : Exec (World τ) Unit :=
        Stage.play (perform routing depth) call (.ran call.tag)
      match step with
      | .dispatch script atOnce =>
          let call ← Stage.register script
          if atOnce then run call else (dispatcher routing).dispatch run call
          return .silent
      | .pump pump => pump.perform (dispatcher routing) run
      | .panic message => Exec.panic message

/-- A session before its first step. -/
def start (routing : Routing) : World τ := { component := routing.interrupts }

/-- Everything a script shows. -/
def run (routing : Routing) (steps : List (DispatchingStep τ)) : List (Reply × World τ) :=
  Stage.run (perform routing ample) (start routing) steps

end Dispatching

end Reactor.Session

import Reactor.Dispatch.Note
import Reactor.Session.Stage

/-!
# Work for executors

Work in these sessions has a number.  A piece of work either runs through, or holds its worker until
the session releases it, or panics; it leaves a mark when it runs and another kind of mark when it is
dropped without running.
-/

namespace Reactor.Session

/-- What a piece of work does when it runs. -/
inductive JobKind where
  /-- It runs through. -/
  | run
  /-- It holds its worker until it is released, and then runs through. -/
  | hold
  /-- It panics. -/
  | panic
deriving DecidableEq

/-- A piece of work. -/
structure Job where
  /-- Its number. -/
  id : Nat
  /-- What it does. -/
  kind : JobKind
deriving DecidableEq

/-- What becomes visible while an executor works. -/
inductive WorkMark where
  /-- A piece of work ran. -/
  | ran (id : Nat)
  /-- A piece of work was dropped without running. -/
  | dropped (id : Nat)
  /-- A worker shows its name. -/
  | thread (name : String)
  /-- A number of workers met. -/
  | met (count : Nat)
  /-- The first hook of an active object ran on a worker of this name. -/
  | started (name : String)
  /-- The last hook of an active object ran after a number of items. -/
  | stopped (processed : Nat)
  /-- A piece of work came back from shutting its own executor down. -/
  | left (id : Nat)
deriving DecidableEq

/-- What a step with an executor shows. -/
structure WorkShown where
  /-- The answer. -/
  reply : Reply
  /-- The marks, in order. -/
  marks : List WorkMark := []
  /-- The reports, in order. -/
  notes : List DispatchNote := []

/-- The answer to a submission. -/
def Reply.ofSubmission : Option DispatchError → Reply
  | none => .done
  | some error => .failed (.dispatch error)

end Reactor.Session

/-!
# Running callbacks

Callbacks act on the state around them and may panic.  A panic abandons everything that encloses
the callback, but what was done to the state before it stays done.  Loops whose length a callback
decides are run with a budget; an exhausted budget is kept apart from every other outcome.
-/

namespace Reactor

/-- Why a run ended early. -/
inductive Halt where
  /-- A callback or a component panicked with a message. -/
  | panic (message : String)
  /-- The budget of a loop was used up. -/
  | exhausted
deriving DecidableEq

/-- A run over a state `σ` that answers with an `α` or halts; the state outlives a halt. -/
abbrev Exec (σ : Type) := ExceptT Halt (StateM σ)

/-- A part of a larger state that can be looked at and replaced. -/
structure Part (σ α : Type) where
  /-- The part within the whole. -/
  get : σ → α
  /-- The whole with another part. -/
  set : α → σ → σ

namespace Part

variable {σ α β : Type}

/-- A part of a part. -/
def andThen (outer : Part σ α) (inner : Part α β) : Part σ β where
  get whole := inner.get (outer.get whole)
  set part whole := outer.set (inner.set part (outer.get whole)) whole

/-- Looks at a part. -/
def read (part : Part σ α) : Exec σ α := return part.get (← MonadState.get)

/-- Replaces a part. -/
def write (part : Part σ α) (value : α) : Exec σ Unit := modify (part.set value)

/-- Changes a part. -/
def update (part : Part σ α) (change : α → α) : Exec σ Unit :=
  modify fun whole => part.set (change (part.get whole)) whole

end Part

namespace Exec

variable {σ α : Type}

/-- Panics. -/
def panic (message : String) : Exec σ α := throw (.panic message)

/-- The outcome of a run from a state, and the state it leaves. -/
def runFrom (run : Exec σ α) (state : σ) : Except Halt α × σ := StateT.run (ExceptT.run run) state

/-- Runs `cleanup` after `body`, also when `body` halts; a halt of `body` goes on afterwards. -/
def ensuring (body : Exec σ α) (cleanup : Exec σ Unit) : Exec σ α := do
  let outcome ← ExceptT.lift (ExceptT.run body)
  cleanup
  match outcome with
  | .ok answer => return answer
  | .error halt => throw halt

end Exec

end Reactor

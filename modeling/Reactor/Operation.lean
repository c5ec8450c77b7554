import Reactor.Slot

/-!
# Operations

An operation is a closure whose type is forgotten and that runs at most once.  On the heap it is
called and dropped as the closure it is.  An inline slot only has its words, beside a function that
reads the closure out of them and calls it and one that drops it where it lies.
-/

namespace Reactor

/-- What happens to the closure of an operation `ω`. -/
inductive Life (ω : Type) where
  /-- The closure runs. -/
  | ran (operation : ω)
  /-- The closure is dropped. -/
  | dropped (operation : ω)
deriving DecidableEq

/-- What a piece of code does to closures, and the message of the panic that ends it, if any. -/
structure Effect (ω : Type) where
  /-- The runs and drops, in order. -/
  lives : List (Life ω)
  /-- What the panic says. -/
  panic : Option String := none

namespace Effect

variable {ω α : Type}

/-- Code that owns a value: the value is dropped at the end, also if the code panics. -/
def owning (body drop : Effect ω) : Effect ω := { body with lives := body.lives ++ drop.lives }

/-- The answer of code that gives one unless it panics. -/
def answer (effect : Effect ω) (value : α) : Except String α :=
  match effect.panic with
  | some message => .error message
  | none => .ok value

end Effect

/-! ## Closures -/

section

variable {ω : Type}

/-- Drops a closure. -/
def dropClosure (closure : ω) : Effect ω := { lives := [.dropped closure] }

/-- Calls a closure by value, so that the call owns what the closure has captured; `panics` tells
which closures panic, and how. -/
def callClosure (panics : ω → Option String) (closure : ω) : Effect ω :=
  Effect.owning { lives := [.ran closure], panic := panics closure } (dropClosure closure)

end

/-! ## Operations in inline slots -/

/-- An operation in an inline slot. -/
structure InlineOperation (ω : Type) where
  /-- The words of the slot, as the closure that was written there. -/
  words : ω
  /-- Reads a closure out of words and calls it. -/
  callWords : (ω → Option String) → ω → Effect ω
  /-- Drops the closure that lies in words. -/
  dropWords : ω → Effect ω

namespace InlineOperation

variable {ω : Type}

/-- Writes a closure into a slot. -/
def ofClosure (closure : ω) : InlineOperation ω :=
  { words := closure, callWords := callClosure, dropWords := dropClosure }

/-- Drops an operation, and with it the closure that its slot still holds. -/
def discard (operation : InlineOperation ω) : Effect ω := operation.dropWords operation.words

/-- Runs an operation.  The closure is read out and its words stay behind, so the run does not own
the operation: dropping that too would drop the closure twice. -/
def run (operation : InlineOperation ω) (panics : ω → Option String) : Effect ω :=
  operation.callWords panics operation.words

end InlineOperation

/-! ## Operations of either kind -/

namespace Housing

variable {ω : Type}

/-- Runs an operation that is kept this way. -/
def run (housing : Housing) (panics : ω → Option String) (operation : ω) : Effect ω :=
  match housing with
  | boxed => callClosure panics operation
  | inline _ => (InlineOperation.ofClosure operation).run panics

/-- Drops an operation that is kept this way, without running it. -/
def discard (housing : Housing) (operation : ω) : Effect ω :=
  match housing with
  | boxed => dropClosure operation
  | inline _ => (InlineOperation.ofClosure operation).discard

/-- Drops operations one after the other. -/
def discardAll (housing : Housing) (operations : List ω) : List (Life ω) :=
  operations.flatMap fun operation => (housing.discard operation).lives

/-- However an operation is kept, running it uses it up, also if it panics. -/
theorem run_eq (housing : Housing) (panics : ω → Option String) (operation : ω) :
    housing.run panics operation =
      { lives := [.ran operation, .dropped operation], panic := panics operation } := by
  cases housing <;> rfl

theorem discard_eq (housing : Housing) (operation : ω) :
    housing.discard operation = { lives := [.dropped operation] } := by
  cases housing <;> rfl

theorem discardAll_eq (housing : Housing) (operations : List ω) :
    housing.discardAll operations = operations.map .dropped := by
  rw [List.map_eq_flatMap]
  simp only [discardAll, discard_eq]

end Housing

end Reactor

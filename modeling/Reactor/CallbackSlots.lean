import Reactor.Slot

/-!
# Callbacks in slots

A callback runs many times and can be cloned.  A shared callback is one closure that its clones
refer to; it is dropped with the last of them.  An inline callback owns its closure, of which it
only has the words, beside functions that call, clone and drop what lies there: a clone is a copy,
and each copy is dropped on its own.
-/

namespace Reactor

/-- A reference to a closure `γ`. -/
structure Callback (γ : Type) where
  /-- The closure. -/
  closure : γ
  /-- Which copy of the closure this is. -/
  copy : Nat
deriving DecidableEq

/-- What happens to closures, or to their copies, whichever `γ` stands for. -/
inductive Touch (γ α : Type) where
  /-- A closure is called with an argument. -/
  | called (closure : γ) (argument : α)
  /-- A closure is copied. -/
  | cloned (closure : γ)
  /-- A closure is dropped. -/
  | dropped (closure : γ)
deriving DecidableEq

/-- What happens to closures, seen otherwise. -/
def Touch.map {γ δ α : Type} (see : γ → δ) : Touch γ α → Touch δ α
  | called closure argument => called (see closure) argument
  | cloned closure => cloned (see closure)
  | dropped closure => dropped (see closure)

/-! ## Callbacks in inline slots -/

/-- A callback in an inline slot. -/
structure InlineCallback (γ α : Type) where
  /-- The words of the slot, as the closure that was written there. -/
  words : Callback γ
  /-- Calls the closure that lies in words. -/
  callWords : Callback γ → α → List (Touch (Callback γ) α)
  /-- Copies the closure that lies in words; the copy gets a number. -/
  cloneWords : Callback γ → Nat → Callback γ × List (Touch (Callback γ) α)
  /-- Drops the closure that lies in words. -/
  dropWords : Callback γ → List (Touch (Callback γ) α)

namespace InlineCallback

variable {γ α : Type}

/-- Writes a closure into a slot. -/
def ofClosure (closure : Callback γ) : InlineCallback γ α :=
  { words := closure
    callWords := fun closure argument => [.called closure argument]
    cloneWords := fun closure copy => ({ closure with copy }, [.cloned closure])
    dropWords := fun closure => [.dropped closure] }

/-- Calls a callback. -/
def call (callback : InlineCallback γ α) (argument : α) : List (Touch (Callback γ) α) :=
  callback.callWords callback.words argument

/-- Clones a callback into a fresh slot. -/
def clone (callback : InlineCallback γ α) (copy : Nat) :
    InlineCallback γ α × List (Touch (Callback γ) α) :=
  let (words, touches) := callback.cloneWords callback.words copy
  ({ callback with words }, touches)

/-- Drops a callback, and with it the closure in its slot. -/
def discard (callback : InlineCallback γ α) : List (Touch (Callback γ) α) :=
  callback.dropWords callback.words

end InlineCallback

/-! ## Callbacks of either kind -/

/-- A callback. -/
inductive KeptCallback (γ α : Type) where
  /-- A reference to a shared closure. -/
  | shared (callback : Callback γ)
  /-- An inline slot of its own. -/
  | inline (callback : InlineCallback γ α)

namespace KeptCallback

variable {γ α : Type}

/-- Makes a callback from a closure. -/
def ofClosure (housing : Housing) (closure : Callback γ) : KeptCallback γ α :=
  match housing with
  | .boxed => shared closure
  | .inline _ => inline (.ofClosure closure)

/-- The closure that a callback refers to or has in its words. -/
def closure : KeptCallback γ α → Callback γ
  | shared callback => callback
  | inline callback => callback.words

@[simp] theorem closure_ofClosure (housing : Housing) (closure : Callback γ) :
    (ofClosure housing closure : KeptCallback γ α).closure = closure := by
  cases housing <;> rfl

/-- Calls a callback. -/
def call : KeptCallback γ α → α → List (Touch (Callback γ) α)
  | shared callback, argument => [.called callback argument]
  | inline callback, argument => callback.call argument

theorem call_ofClosure (housing : Housing) (closure : Callback γ) (argument : α) :
    (ofClosure housing closure).call argument = [.called closure argument] := by
  cases housing <;> rfl

end KeptCallback

/-! ## Slots -/

/-- Slots that each hold a callback or nothing. -/
structure CallbackSlots (γ α : Type) where
  /-- How callbacks are made: boxed ones are shared. -/
  housing : Housing
  /-- The slots. -/
  slots : List (Option (KeptCallback γ α))
  /-- How many copies of closures there have been. -/
  copies : Nat := 0

namespace CallbackSlots

variable {γ α : Type}

/-- A number of empty slots. -/
def empty (housing : Housing) (count : Nat) : CallbackSlots γ α :=
  { housing, slots := List.replicate count none }

/-- The callback in a slot. -/
def kept? (table : CallbackSlots γ α) (slot : Nat) : Option (KeptCallback γ α) :=
  (table.slots[slot]?).join

/-- The closure of the callback in a slot. -/
def get? (table : CallbackSlots γ α) (slot : Nat) : Option (Callback γ) :=
  (table.kept? slot).map KeptCallback.closure

/-- Whether some slot refers to a copy. -/
def refersTo (table : CallbackSlots γ α) (copy : Nat) : Bool :=
  table.slots.any fun kept => kept.any fun callback => callback.closure.copy == copy

/-- What becomes of a callback that a slot has given up.  A shared closure is dropped unless another
slot still refers to it, an inline callback in any case. -/
def letGo (table : CallbackSlots γ α) : KeptCallback γ α → List (Touch (Callback γ) α)
  | .shared callback => if table.refersTo callback.copy then [] else [.dropped callback]
  | .inline callback => callback.discard

theorem letGo_of_boxed (table : CallbackSlots γ α) {housing : Housing} (boxed : housing = .boxed)
    (closure : Callback γ) :
    table.letGo (.ofClosure housing closure) =
      if table.refersTo closure.copy then [] else [.dropped closure] := by
  rw [boxed]
  rfl

theorem letGo_of_inline (table : CallbackSlots γ α) {housing : Housing}
    (inlined : housing ≠ .boxed) (closure : Callback γ) :
    table.letGo (.ofClosure housing closure) = [.dropped closure] := by
  cases housing with
  | boxed => exact absurd rfl inlined
  | inline words => rfl

theorem letGo_cases (table : CallbackSlots γ α) (housing : Housing) (closure : Callback γ) :
    table.letGo (.ofClosure housing closure) = [] ∨
      table.letGo (.ofClosure housing closure) = [.dropped closure] := by
  by_cases boxed : housing = .boxed
  · rw [letGo_of_boxed table boxed]
    cases table.refersTo closure.copy <;> simp
  · exact Or.inr (letGo_of_inline table boxed closure)

/-- Puts a callback, or nothing, into a slot and lets go of the callback that was there. -/
def put (table : CallbackSlots γ α) (slot : Nat) (callback : Option (KeptCallback γ α)) :
    CallbackSlots γ α × List (Touch (Callback γ) α) :=
  let next := { table with slots := table.slots.set slot callback }
  match table.kept? slot with
  | none => (next, [])
  | some old => (next, next.letGo old)

/-- The slots after another copy has been made. -/
def grown (table : CallbackSlots γ α) : CallbackSlots γ α :=
  { table with copies := table.copies + 1 }

/-- A closure, as the next copy. -/
def number (table : CallbackSlots γ α) (closure : γ) : Callback γ × CallbackSlots γ α :=
  ({ closure, copy := table.copies }, table.grown)

/-- Makes a callback from a closure and puts it into a slot.  A closure that does not fit is
dropped and the slot keeps what it has. -/
def create (table : CallbackSlots γ α) (slot : Nat) (closure : γ) (footprint : Footprint) :
    CallbackSlots γ α × List (Touch (Callback γ) α) × Option Misfit :=
  let (numbered, grown) := table.number closure
  match table.housing.misfit? footprint with
  | some misfit => (grown, [.dropped numbered], some misfit)
  | none =>
      let (next, touches) := grown.put slot (some (.ofClosure table.housing numbered))
      (next, touches, none)

/-- Clones the callback of one slot into another, or empties that one if there is none to clone.
Answers whether there was one. -/
def clone (table : CallbackSlots γ α) (slot source : Nat) :
    CallbackSlots γ α × List (Touch (Callback γ) α) × Bool :=
  match table.kept? source with
  | none =>
      let (next, touches) := table.put slot none
      (next, touches, false)
  | some (.shared callback) =>
      let (next, touches) := table.put slot (some (.shared callback))
      (next, touches, true)
  | some (.inline callback) =>
      let (copied, touches) := callback.clone table.copies
      let (next, more) := table.grown.put slot (some (.inline copied))
      (next, touches ++ more, true)

/-- Calls the callback in a slot and answers whether there was one. -/
def call (table : CallbackSlots γ α) (slot : Nat) (argument : α) :
    List (Touch (Callback γ) α) × Bool :=
  match table.kept? slot with
  | none => ([], false)
  | some callback => (callback.call argument, true)

/-- Empties a slot and answers whether it held a callback. -/
def drop (table : CallbackSlots γ α) (slot : Nat) :
    CallbackSlots γ α × List (Touch (Callback γ) α) × Bool :=
  let (next, touches) := table.put slot none
  (next, touches, (table.kept? slot).isSome)

/-- Empties every slot, first to last. -/
def dropEach (table : CallbackSlots γ α) : CallbackSlots γ α × List (Touch (Callback γ) α) :=
  (List.range table.slots.length).foldl
    (fun (table, touches) slot =>
      let (next, more, _) := table.drop slot
      (next, touches ++ more))
    (table, [])

/-- Empties every slot, as it shows to whoever cannot tell copies apart. -/
def dropAll (table : CallbackSlots γ α) : CallbackSlots γ α × List (Touch γ α) :=
  let (next, touches) := table.dropEach
  (next, touches.map (Touch.map Callback.closure))

end CallbackSlots

end Reactor

import Reactor.FunctionQueue

/-!
# Calls of a function queue

What each call of a function queue does, by whether a closure fits and whether there is room.  No
call depends on how operations are kept, as long as its closure can be kept both ways.
-/

namespace Reactor

namespace FunctionQueue

variable {ω : Type} {functions : FunctionQueue ω} {footprint : Footprint}

/-- The operations that wait, oldest first. -/
def waiting (functions : FunctionQueue ω) : List ω := functions.queue.items

/-- The queue with other operations waiting. -/
def withWaiting (functions : FunctionQueue ω) (operations : List ω) : FunctionQueue ω :=
  { functions with queue := { functions.queue with items := operations } }

@[simp]
theorem waiting_withWaiting (functions : FunctionQueue ω) (operations : List ω) :
    (functions.withWaiting operations).waiting = operations := rfl

/-- Whether there is room for another operation. -/
def hasRoom (functions : FunctionQueue ω) : Bool :=
  functions.queue.capacity.admits functions.waiting.length

theorem build_of_misfit {α : Type} (operation : ω) (next : Turn ω α) {misfit : Misfit}
    (misfits : functions.housing.misfit? footprint = some misfit) :
    functions.build operation footprint next =
      { queue := functions, lives := [.dropped operation], answer := .error misfit.message } := by
  rw [build, misfits]
  rfl

theorem build_of_fit {α : Type} (operation : ω) (next : Turn ω α)
    (fits : functions.housing.misfit? footprint = none) :
    functions.build operation footprint next = next := by
  rw [build, fits]

theorem tryPush_of_misfit (operation : ω) {misfit : Misfit}
    (misfits : functions.housing.misfit? footprint = some misfit) :
    functions.tryPush operation footprint =
      { queue := functions, lives := [.dropped operation], answer := .error misfit.message } := by
  rw [tryPush, build_of_misfit _ _ misfits]

theorem push_of_misfit (operation : ω) {misfit : Misfit}
    (misfits : functions.housing.misfit? footprint = some misfit) :
    functions.push operation footprint =
      { queue := functions, lives := [.dropped operation], answer := .error misfit.message } := by
  rw [push, tryPush_of_misfit operation misfits]
  rfl

theorem tryPushOperation_of_misfit (operation : ω) {misfit : Misfit}
    (misfits : functions.housing.misfit? footprint = some misfit) :
    functions.tryPushOperation operation footprint =
      { queue := functions, lives := [.dropped operation], answer := .error misfit.message } := by
  rw [tryPushOperation, build_of_misfit _ _ misfits]

/-- A closure that fits is accepted if there is room and dropped otherwise. -/
theorem tryPush_of_fit (operation : ω) (fits : functions.housing.misfit? footprint = none) :
    functions.tryPush operation footprint =
      if functions.hasRoom then
        { queue := functions.withWaiting (functions.waiting ++ [operation])
          answer := .ok (.ok ()) }
      else
        { queue := functions
          lives := [.dropped operation]
          answer := .ok (.error functions.fullError) } := by
  rw [tryPush, build_of_fit _ _ fits]
  cases room : functions.hasRoom with
  | true =>
      rw [offer?_of_room operation room]
      rfl
  | false =>
      rw [offer?_of_full operation room, Housing.discard_eq]
      rfl

theorem push_of_fit (operation : ω) (fits : functions.housing.misfit? footprint = none) :
    functions.push operation footprint =
      if functions.hasRoom then
        { queue := functions.withWaiting (functions.waiting ++ [operation]), answer := .ok () }
      else
        { queue := functions
          lives := [.dropped operation]
          answer := .error functions.fullError.message } := by
  rw [push, tryPush_of_fit operation fits]
  split <;> rfl

theorem tryPushOperation_of_fit (operation : ω)
    (fits : functions.housing.misfit? footprint = none) :
    functions.tryPushOperation operation footprint =
      if functions.hasRoom then
        { queue := functions.withWaiting (functions.waiting ++ [operation]), answer := .ok false }
      else { queue := functions, answer := .ok true } := by
  rw [tryPushOperation, build_of_fit _ _ fits]
  cases room : functions.hasRoom with
  | true =>
      rw [offer?_of_room operation room]
      rfl
  | false =>
      rw [offer?_of_full operation room]
      rfl

/-- A closure that fits finds the queue full: it is dropped or handed back, and the queue stays as
it is. -/
structure Refuses (functions : FunctionQueue ω) (closure : ω) (footprint : Footprint) : Prop where
  tryPush_eq : functions.tryPush closure footprint =
    { queue := functions
      lives := [.dropped closure]
      answer := .ok (.error { what := "function queue", capacity := functions.waiting.length }) }
  push_eq : functions.push closure footprint =
    { queue := functions
      lives := [.dropped closure]
      answer := .error s!"function queue is full (capacity {functions.waiting.length})" }
  tryPushOperation_eq : functions.tryPushOperation closure footprint =
    { queue := functions, answer := .ok true }
  offer?_eq : functions.offer? closure = none

/-- A closure that fits finds room: it is appended. -/
structure Accepts (functions : FunctionQueue ω) (closure : ω) (footprint : Footprint) : Prop where
  tryPush_eq : functions.tryPush closure footprint =
    { queue := functions.withWaiting (functions.waiting ++ [closure]), answer := .ok (.ok ()) }
  push_eq : functions.push closure footprint =
    { queue := functions.withWaiting (functions.waiting ++ [closure]), answer := .ok () }
  tryPushOperation_eq : functions.tryPushOperation closure footprint =
    { queue := functions.withWaiting (functions.waiting ++ [closure]), answer := .ok false }
  offer?_eq : functions.offer? closure =
    some (functions.withWaiting (functions.waiting ++ [closure]))

/-- A closure that does not fit is never turned into an operation: it is dropped, with a panic. -/
structure Rejects (functions : FunctionQueue ω) (closure : ω) (footprint : Footprint)
    (misfit : Misfit) : Prop where
  tryPush_eq : functions.tryPush closure footprint =
    { queue := functions, lives := [.dropped closure], answer := .error misfit.message }
  push_eq : functions.push closure footprint =
    { queue := functions, lives := [.dropped closure], answer := .error misfit.message }
  tryPushOperation_eq : functions.tryPushOperation closure footprint =
    { queue := functions, lives := [.dropped closure], answer := .error misfit.message }

theorem Refuses.of_full (closure : ω) (fits : functions.housing.misfit? footprint = none)
    (full : functions.hasRoom = false)
    (capacity_eq : functions.queue.capacity = .bounded functions.waiting.length) :
    functions.Refuses closure footprint := by
  have error_eq : functions.fullError =
      { what := "function queue", capacity := functions.waiting.length } := by
    rw [fullError, capacity_eq]
    rfl
  refine ⟨?_, ?_, ?_, offer?_of_full closure full⟩
  · rw [tryPush_of_fit closure fits, full, error_eq]
    rfl
  · rw [push_of_fit closure fits, full, error_eq]
    rfl
  · rw [tryPushOperation_of_fit closure fits, full]
    rfl

theorem Accepts.of_room (closure : ω) (fits : functions.housing.misfit? footprint = none)
    (room : functions.hasRoom = true) : functions.Accepts closure footprint := by
  refine ⟨?_, ?_, ?_, offer?_of_room closure room⟩
  · rw [tryPush_of_fit closure fits, room, if_pos rfl]
  · rw [push_of_fit closure fits, room, if_pos rfl]
  · rw [tryPushOperation_of_fit closure fits, room, if_pos rfl]

theorem Rejects.of_misfit (closure : ω) {misfit : Misfit}
    (misfits : functions.housing.misfit? footprint = some misfit) :
    functions.Rejects closure footprint misfit :=
  ⟨tryPush_of_misfit closure misfits, push_of_misfit closure misfits,
    tryPushOperation_of_misfit closure misfits⟩

theorem pop?_of_empty (empty : functions.waiting = []) : functions.pop? = none := by
  rw [pop?, Fifo.pop?_eq_none_iff.mpr empty, Option.map_none]

theorem pop?_of_cons {operation : ω} {rest : List ω}
    (oldest : functions.waiting = operation :: rest) :
    functions.pop? = some (operation, functions.withWaiting rest) := by
  rw [waiting] at oldest
  simp only [pop?, Fifo.pop?, oldest, Option.map_some]
  rfl

theorem runOne_of_empty (panics : ω → Option String) (empty : functions.waiting = []) :
    functions.runOne panics = { queue := functions, answer := .ok false } := by
  rw [runOne, pop?_of_empty empty]

/-- Running the oldest operation takes that operation and no other, also if it panics. -/
theorem runOne_of_cons (panics : ω → Option String) {operation : ω} {rest : List ω}
    (oldest : functions.waiting = operation :: rest) :
    functions.runOne panics =
      { queue := functions.withWaiting rest
        lives := [.ran operation, .dropped operation]
        answer :=
          match panics operation with
          | some message => .error message
          | none => .ok true } := by
  rw [runOne, pop?_of_cons oldest]
  simp only [Housing.run_eq]
  rfl

theorem popDrop_of_empty (empty : functions.waiting = []) :
    functions.popDrop = { queue := functions, answer := .ok false } := by
  rw [popDrop, pop?_of_empty empty]

theorem popDrop_of_cons {operation : ω} {rest : List ω}
    (oldest : functions.waiting = operation :: rest) :
    functions.popDrop =
      { queue := functions.withWaiting rest
        lives := [.dropped operation]
        answer := .ok true } := by
  rw [popDrop, pop?_of_cons oldest]
  simp only [Housing.discard_eq]

theorem clear_eq (functions : FunctionQueue ω) :
    functions.clear =
      { queue := functions.withWaiting []
        lives := functions.waiting.map .dropped
        answer := .ok () } := by
  rw [clear, Housing.discardAll_eq]
  rfl

end FunctionQueue

/-! ## How operations are kept -/

/-- The queue with operations kept in another way. -/
def FunctionQueue.rehoused {ω : Type} (housing : Housing) (functions : FunctionQueue ω) :
    FunctionQueue ω :=
  { functions with housing }

/-- What a call leaves, with operations kept in another way. -/
def Turn.rehoused {ω α : Type} (housing : Housing) (turn : Turn ω α) : Turn ω α :=
  { turn with queue := turn.queue.rehoused housing }

namespace FunctionQueue

variable {ω : Type} {functions : FunctionQueue ω} {footprint : Footprint} {housing : Housing}

theorem waiting_rehoused (housing : Housing) (functions : FunctionQueue ω) :
    (functions.rehoused housing).waiting = functions.waiting := rfl

theorem hasRoom_rehoused (housing : Housing) (functions : FunctionQueue ω) :
    (functions.rehoused housing).hasRoom = functions.hasRoom := rfl

theorem build_rehoused {α : Type} (operation : ω) (next : Turn ω α)
    (fits : functions.housing.misfit? footprint = none)
    (fits_other : housing.misfit? footprint = none) :
    (functions.rehoused housing).build operation footprint (next.rehoused housing) =
      (functions.build operation footprint next).rehoused housing := by
  rw [build_of_fit operation next fits, build_of_fit]
  exact fits_other

theorem tryPush_rehoused (operation : ω) (fits : functions.housing.misfit? footprint = none)
    (fits_other : housing.misfit? footprint = none) :
    (functions.rehoused housing).tryPush operation footprint =
      (functions.tryPush operation footprint).rehoused housing := by
  have fits_rehoused : (functions.rehoused housing).housing.misfit? footprint = none := fits_other
  rw [tryPush_of_fit operation fits, tryPush_of_fit operation fits_rehoused, hasRoom_rehoused]
  split <;> rfl

theorem push_rehoused (operation : ω) (fits : functions.housing.misfit? footprint = none)
    (fits_other : housing.misfit? footprint = none) :
    (functions.rehoused housing).push operation footprint =
      (functions.push operation footprint).rehoused housing := by
  rw [push, tryPush_rehoused operation fits fits_other]
  rfl

theorem tryPushOperation_rehoused (operation : ω)
    (fits : functions.housing.misfit? footprint = none)
    (fits_other : housing.misfit? footprint = none) :
    (functions.rehoused housing).tryPushOperation operation footprint =
      (functions.tryPushOperation operation footprint).rehoused housing := by
  have fits_rehoused : (functions.rehoused housing).housing.misfit? footprint = none := fits_other
  rw [tryPushOperation_of_fit operation fits, tryPushOperation_of_fit operation fits_rehoused,
    hasRoom_rehoused]
  split <;> rfl

theorem offer?_rehoused (operation : ω) :
    (functions.rehoused housing).offer? operation =
      (functions.offer? operation).map (rehoused housing) := by
  rw [offer?, offer?, Option.map_map]
  rfl

theorem pop?_rehoused :
    (functions.rehoused housing).pop? =
      functions.pop?.map fun (operation, rest) => (operation, rest.rehoused housing) := by
  rw [pop?, pop?, Option.map_map]
  rfl

theorem runOne_rehoused (panics : ω → Option String) :
    (functions.rehoused housing).runOne panics = (functions.runOne panics).rehoused housing := by
  rw [runOne, runOne, pop?_rehoused]
  simp only [Housing.run_eq]
  cases functions.pop? <;> rfl

theorem popDrop_rehoused :
    (functions.rehoused housing).popDrop = functions.popDrop.rehoused housing := by
  rw [popDrop, popDrop, pop?_rehoused]
  simp only [Housing.discard_eq]
  cases functions.pop? <;> rfl

theorem clear_rehoused : (functions.rehoused housing).clear = functions.clear.rehoused housing := by
  rw [clear_eq, clear_eq]
  rfl

end FunctionQueue

end Reactor

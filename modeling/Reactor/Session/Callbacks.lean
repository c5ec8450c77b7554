import Reactor.CallbackSlots
import Reactor.Session.Scan
import Reactor.Ticks

/-!
# Sessions with callbacks in slots

Closures own a value with a number, which shows when they are called, copied and dropped; a closure
of no bytes has no room for a number and shows zero.
-/

namespace Reactor.Session

/-- A step of a session with callbacks in slots. -/
inductive CallbackStep where
  /-- Puts a new callback into a slot. -/
  | create (slot id : Nat) (footprint : Footprint)
  /-- Clones the callback of one slot into another. -/
  | clone (slot source : Nat)
  /-- Calls the callback in a slot. -/
  | call (slot : Nat) (argument : Ticks)
  /-- Empties a slot. -/
  | drop (slot : Nat)

/-- The answer to a step. -/
inductive CallbackReply where
  | done
  | flag (value : Bool)
  | panic (message : String)

/-- The slots of a session, whose callbacks are called with tick counts. -/
abbrev CallbackSlots (γ : Type) := Reactor.CallbackSlots γ Ticks

/-- What happens to the closures of a session. -/
abbrev ClosureTouch := Touch Nat Ticks

/-- What a session shows of what happens to copies of closures. -/
def closureTouches (touches : List (Touch (Callback Nat) Ticks)) : List ClosureTouch :=
  touches.map (Touch.map Callback.closure)

/-- What a step shows. -/
structure CallbackShown where
  /-- The answer. -/
  reply : CallbackReply
  /-- The calls, copies and drops. -/
  touches : List ClosureTouch

/-- Takes a step. -/
def CallbackStep.take (table : CallbackSlots Nat) :
    CallbackStep → CallbackShown × CallbackSlots Nat
  | create slot id footprint =>
      let shown := if footprint.bytes = 0 then 0 else id
      let (next, touches, misfit) := table.create slot shown footprint
      match misfit with
      | some misfit => ({ reply := .panic misfit.message, touches := closureTouches touches }, next)
      | none => ({ reply := .done, touches := closureTouches touches }, next)
  | clone slot source =>
      let (next, touches, filled) := table.clone slot source
      ({ reply := .flag filled, touches := closureTouches touches }, next)
  | call slot argument =>
      let (touches, filled) := table.call slot argument
      ({ reply := .flag filled, touches := closureTouches touches }, table)
  | drop slot =>
      let (next, touches, filled) := table.drop slot
      ({ reply := .flag filled, touches := closureTouches touches }, next)

/-- The sizes of the slots that inline callbacks and operations have by default and at least. -/
def slotSizes : List Nat := [4, 0, 6, 0].filterMap fun words => (Housing.inline words).slotBytes?

end Reactor.Session

import Reactor.Dispatch.Error
import Reactor.Dispatcher
import Reactor.Event.Center
import Reactor.Session.Scan
import Reactor.Timer.Basic

/-!
# Sessions

A session puts a component through a script of steps and shows what each step does.  Steps register
callbacks that carry scripts of their own: when a callback runs, it leaves a mark and performs its
steps, a limited number of times.
-/

namespace Reactor.Session

/-- Why a step failed. -/
inductive Failure where
  /-- A container of limited capacity is full. -/
  | capacity (error : CapacityError)
  /-- An executor did not accept work. -/
  | dispatch (error : DispatchError)
  /-- A subscription failed. -/
  | subscription (error : SubscribeError)
  /-- A timer operation failed. -/
  | timer (error : TimerError)
  /-- A hardware timer failed. -/
  | hardware (fault : Hardware.Fault)
  /-- The step panicked. -/
  | panic (message : String)
  /-- The step ran longer than any budget. -/
  | exhausted

/-- The answer to a step. -/
inductive Reply where
  /-- The step has no answer. -/
  | silent
  /-- The step succeeded. -/
  | done
  /-- Yes or no. -/
  | flag (value : Bool)
  /-- A number of things. -/
  | count (value : Nat)
  /-- A written form. -/
  | text (value : String)
  /-- The step failed. -/
  | failed (failure : Failure)
  /-- Something the step needs is not there. -/
  | missing (what : String)
  /-- Something the step needs is in use. -/
  | busy
  /-- Several answers. -/
  | several (replies : List Reply)

namespace Reply

/-- The answer to an operation that may fail. -/
def ofExcept {ε α : Type} (failure : ε → Failure) (reply : α → Reply) : Except ε α → Reply
  | .ok value => reply value
  | .error error => failed (failure error)

/-- The answer to an operation that succeeds or fails. -/
def ofAttempt {ε : Type} (failure : ε → Failure) : Except ε Unit → Reply :=
  ofExcept failure fun () => done

/-- An optional written form. -/
def ofText? (text : Option String) : Reply :=
  match text with
  | some text => .text text
  | none => silent

end Reply

/-- What callbacks leave behind when they run; `τ` is the type of their tags. -/
inductive Mark (τ : Type) where
  /-- A dispatched callback ran. -/
  | ran (tag : τ)
  /-- The callback of a hardware timer ran. -/
  | expired (tag : τ)
  /-- The callback of a software timer ran. -/
  | fired (tag : τ)
  /-- A notifier ran. -/
  | notified (tag : τ)
  /-- A subscriber ran for an event. -/
  | got (tag : τ) (event : Notice)
  /-- A callback performed one of its steps. -/
  | did (reply : Reply)

/-- A callback to register, with steps of the type `S`. -/
structure Script (τ S : Type) where
  /-- What its marks show. -/
  tag : τ
  /-- The steps it performs. -/
  steps : List S
  /-- How many of its runs perform them. -/
  times : Nat
  /-- Its size in machine words. -/
  words : Nat

/-- A registered callback. -/
structure Hook (τ S : Type) where
  /-- What its marks show. -/
  tag : τ
  /-- The steps it performs. -/
  steps : List S
  /-- Where its remaining runs are counted. -/
  ticket : Nat

/-- The state of a session: the component `ς`, the deliveries `δ` that wait for a pump, and what is
to be shown. -/
structure Stage (τ δ ς : Type) where
  /-- The marks of the step, in order. -/
  marks : Array (Mark τ) := #[]
  /-- The log records of the step, in order. -/
  log : Array LogRecord := #[]
  /-- The runs that registered callbacks have left. -/
  runsLeft : Array Nat := #[]
  /-- The deliveries that wait for a pump. -/
  backlog : Fifo δ := .empty .unbounded
  /-- The component. -/
  component : ς

namespace Stage

variable {τ δ ς S : Type}

/-- The waiting deliveries as a part of the session. -/
def backlogPart : Part (Stage τ δ ς) (Fifo δ) where
  get := backlog
  set backlog stage := { stage with backlog }

/-- The component as a part of the session. -/
def componentPart : Part (Stage τ δ ς) ς where
  get := component
  set component stage := { stage with component }

/-- Leaves a mark. -/
def mark (mark : Mark τ) : Exec (Stage τ δ ς) Unit :=
  modify fun stage => { stage with marks := stage.marks.push mark }

/-- Takes a log record. -/
def report (record : LogRecord) : Exec (Stage τ δ ς) Unit :=
  modify fun stage => { stage with log := stage.log.push record }

/-- Registers a callback. -/
def register (script : Script τ S) : Exec (Stage τ δ ς) (Hook τ S) := do
  let stage ← get
  set { stage with runsLeft := stage.runsLeft.push script.times }
  return { tag := script.tag, steps := script.steps, ticket := stage.runsLeft.size }

/-- Runs a callback: leaves its mark and, if it has runs left, takes one off and performs its steps,
marking each answer. -/
def play (perform : S → Exec (Stage τ δ ς) Reply) (hook : Hook τ S) (shown : Mark τ) :
    Exec (Stage τ δ ς) Unit := do
  mark shown
  let left := (← get).runsLeft.getD hook.ticket 0
  if 0 < left then
    modify fun stage =>
      { stage with runsLeft := stage.runsLeft.setIfInBounds hook.ticket (left - 1) }
    hook.steps.forM fun step => do
      let reply ← perform step
      mark (.did reply)

/-- Performs a step at the outermost level, where a panic ends: it becomes the answer. -/
def take (perform : S → Exec (Stage τ δ ς) Reply) (stage : Stage τ δ ς) (step : S) :
    Reply × Stage τ δ ς :=
  let (outcome, after) := (perform step).runFrom { stage with marks := #[], log := #[] }
  match outcome with
  | .ok reply => (reply, after)
  | .error (.panic message) => (.failed (.panic message), after)
  | .error .exhausted => (.failed .exhausted, after)

/-- Performs steps one after the other and shows each answer with the session after it. -/
def run (perform : S → Exec (Stage τ δ ς) Reply) (stage : Stage τ δ ς) (steps : List S) :
    List (Reply × Stage τ δ ς) :=
  scan (take perform) stage steps

end Stage

/-- A budget that no session can use up: the number of its steps is far below. -/
def ample : Nat := 1 <<< 62

/-- How a dispatcher is set up. -/
structure Routing where
  /-- Where deliveries go. -/
  route : Route
  /-- The capacity of the interrupt queue, if deliveries go there. -/
  capacity : Capacity := .unbounded

/-- An interrupt queue of a dispatcher, with room for any delivery in each place. -/
def Routing.interrupts {δ : Type} (routing : Routing) : InterruptQueue δ :=
  .empty .boxed routing.capacity

/-- A request to run waiting deliveries. -/
structure Pump where
  /-- How many to run at most. -/
  limit : Option Nat := none
  /-- Which to run first. -/
  order : PumpOrder := .oldestFirst

/-- The dispatcher of a routing over a state. -/
def Routing.dispatcher {σ δ : Type} (routing : Routing) (backlog : Part σ (Fifo δ))
    (interrupts : Part σ (InterruptQueue δ)) : Dispatcher σ δ :=
  { route := routing.route, backlog, interrupts }

/-- Runs the deliveries that wait at a dispatcher. -/
def Pump.perform {σ δ : Type} (pump : Pump) (dispatcher : Dispatcher σ δ)
    (run : δ → Exec σ Unit) : Exec σ Reply := do
  return .count (← dispatcher.work run pump.order ample pump.limit)

end Reactor.Session

import Reactor.Proofs.Deferral.Timers

/-!
# Users and callbacks as programs

A user of a timer manager, and likewise a callback, carries out a task: it does one thing after the
other, and what it does next may depend on all that it has seen.  A callback may use the manager
that runs it in any way but move its clock, and so may the callbacks that this sets off in turn.
-/

namespace Reactor

variable {σ κ ω : Type}

/-- A use that leaves the clock alone. -/
def TimerCall.Still : TimerCall κ → Prop
  | advance _ => False
  | _ => True

/-- What a user or a callback does. -/
inductive TimerTask (κ ω : Type) where
  /-- Nothing more. -/
  | done
  /-- Uses the manager and goes on with the answer. -/
  | use (call : TimerCall κ) (still : call.Still) (next : TimerAnswer → TimerTask κ ω)
  /-- Runs callbacks that wait at the dispatcher and goes on with their number. -/
  | work (order : PumpOrder) (limit : Option Nat) (next : Nat → TimerTask κ ω)
  /-- Looks at everything there is. -/
  | look (next : TimerUse.World κ ω → TimerTask κ ω)
  /-- Changes what the callbacks act on. -/
  | change (rest : ω) (next : TimerTask κ ω)
  /-- Panics. -/
  | panic (message : String)

/-- What it takes to carry out tasks on a state `σ`. -/
structure TaskMeans (σ κ ω : Type) where
  /-- Uses the manager. -/
  use : TimerCall κ → Exec σ TimerAnswer
  /-- Runs callbacks that wait. -/
  work : PumpOrder → Option Nat → Exec σ Nat
  /-- What there is to see. -/
  view : σ → TimerUse.World κ ω
  /-- Changes what the callbacks act on. -/
  change : ω → σ → σ

/-- Carries out a task. -/
def TimerTask.carryOut (means : TaskMeans σ κ ω) : TimerTask κ ω → Exec σ Unit
  | done => return ()
  | use call _ next => do (next (← means.use call)).carryOut means
  | work order limit next => do (next (← means.work order limit)).carryOut means
  | look next => do (next (means.view (← get))).carryOut means
  | change rest next => do
      modify (means.change rest)
      next.carryOut means
  | panic message => Exec.panic message

/-- What comes next in a session: a user carries out a task, or the clock moves. -/
inductive TimerTurn (κ ω : Type) where
  | task (task : TimerTask κ ω)
  | advance (ticks : Ticks)

/-- How far a turn moves the clock. -/
def TimerTurn.ticks : TimerTurn κ ω → Nat
  | task _ => 0
  | advance ticks => ticks.count

namespace TimerUse

open Host

/-- A manager with its callbacks. -/
def serviceOf (route : Route) (call : κ → Exec (World κ ω) Unit) :
    TimerService (World κ ω) SimulatedTimer κ :=
  { service (fun _ rest => rest) route with call }

/-- A manager whose callbacks leave a mark and then use the manager; they can set each other off to
a depth. -/
def nested (route : Route)
    (body : TimerService (World κ ω) SimulatedTimer κ → κ → Exec (World κ ω) Unit) :
    Nat → TimerService (World κ ω) SimulatedTimer κ
  | 0 => serviceOf route fun _ => throw .exhausted
  | depth + 1 => serviceOf route fun callback => do
      play (fun _ rest => rest) callback
      body (nested route body depth) callback

/-- Carries out tasks in a world; `budget` bounds how many callbacks one call runs that wait. -/
def means (route : Route) (budget : Nat) (service : TimerService (World κ ω) SimulatedTimer κ) :
    TaskMeans (World κ ω) κ ω where
  use := perform service budget
  work order limit := (dispatcher route).work service.deliver order budget limit
  view world := world
  change rest world := { world with rest }

/-- A manager whose callbacks carry out tasks. -/
def tasked (route : Route) (budget : Nat) (body : κ → TimerTask κ ω) (depth : Nat) :
    TimerService (World κ ω) SimulatedTimer κ :=
  nested route (fun service callback => (body callback).carryOut (means route budget service)) depth

/-- Takes a turn; `budget` also bounds how often the clock expires while it moves. -/
def takeTurn (route : Route) (budget : Nat)
    (service : TimerService (World κ ω) SimulatedTimer κ) : TimerTurn κ ω → Exec (World κ ω) Unit
  | .task task => task.carryOut (means route budget service)
  | .advance ticks => SimulatedTimer.advance clockPart service.expire budget ticks

end TimerUse

end Reactor

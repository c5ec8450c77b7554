import Reactor.Hardware.Unreliable
import Reactor.Session.Clock
import Reactor.Timer.Service

/-!
# Sessions with a timer manager

A manager runs over a simulated hardware timer that the session also reaches directly.  Timers are
held by handles with names.  A handle in use cannot be released: an operation on it counts as a
reader, a release needs it alone.  A handle that loses its name is released at once, or by its last
reader if it is in use.
-/

namespace Reactor.Session

/-- The operations of the hardware that can be made to fail. -/
inductive OutageTarget where
  | stop
  | restart

/-- A step of a session with a timer manager. -/
inductive TimerStep (τ : Type) where
  /-- Allocates a timer for a handle; panics if there is no room. -/
  | allocate (name : String)
  /-- Allocates a timer for a handle, or says that there is no room. -/
  | tryAllocate (name : String)
  /-- Schedules the timer of a handle. -/
  | schedule (name : String) (mode : TimerMode) (delay : Duration)
      (script : Script τ (TimerStep τ))
  /-- Cancels the timer of a handle. -/
  | cancel (name : String)
  /-- Cancels the timer of a handle, or says why that failed. -/
  | tryCancel (name : String)
  /-- Releases a handle, which keeps its name. -/
  | reset (name : String)
  /-- Gives up a handle and its name. -/
  | drop (name : String)
  /-- Asks whether the timer of a handle waits to fire. -/
  | isPending (name : String)
  /-- Asks whether a handle has a timer. -/
  | isValid (name : String)
  /-- Asks for the timer of a handle. -/
  | id (name : String)
  /-- Does something to the hardware directly. -/
  | clock (act : ClockAct)
  /-- Makes the next calls of a hardware operation fail, if the hardware is unreliable. -/
  | fail (target : OutageTarget) (outage : Outage)
  /-- Works off an expiry that may not have happened. -/
  | expire
  /-- Asks for the length of a tick. -/
  | resolution
  /-- Runs waiting callbacks. -/
  | pump (pump : Pump)
  /-- Tears the manager down and forgets every handle. -/
  | dropManager
  /-- Panics. -/
  | panic (message : String)

namespace Timers

variable {τ : Type}

/-- A callback of a software timer. -/
abbrev Call (τ : Type) := Hook τ (TimerStep τ)

/-- What stands behind a handle. -/
structure Cell where
  /-- The timer, until the handle is released. -/
  timer : Option TimerId
  /-- How many operations on the handle are running. -/
  readers : Nat := 0
  /-- Whether the handle is being released. -/
  releasing : Bool := false
  /-- Whether the handle has lost its name. -/
  abandoned : Bool := false

/-- Whether no operation on the handle is running. -/
def Cell.isFree (cell : Cell) : Bool := cell.readers == 0 && !cell.releasing

/-- The component of the session. -/
structure Bench (τ : Type) where
  /-- The manager; once it has been torn down only its hardware is of interest. -/
  manager : TimerManager UnreliableTimer (Call τ)
  /-- Whether the manager has not been torn down. -/
  alive : Bool := true
  /-- The interrupt queue of the manager's dispatcher. -/
  interrupts : InterruptQueue (Expiry (Call τ))
  /-- The cell behind each name. -/
  names : List (String × Nat) := []
  /-- Every handle there has been. -/
  cells : Array Cell := #[]

/-- The state of the session. -/
abbrev World (τ : Type) := Stage τ (Expiry (Call τ)) (Bench τ)

/-- How a session is set up. -/
structure Setup where
  /-- Where deliveries go. -/
  routing : Routing
  /-- The containers of the manager. -/
  storage : TimerStorage
  /-- The length of a tick. -/
  resolution : Duration
  /-- Whether the hardware can be made to fail. -/
  unreliable : Bool

/-- The manager as a part of the session. -/
def managerPart : Part (World τ) (TimerManager UnreliableTimer (Call τ)) :=
  Stage.componentPart.andThen
    { get := Bench.manager, set := fun manager bench => { bench with manager } }

/-- Whether the manager lives, as a part of the session. -/
def alivePart : Part (World τ) Bool :=
  Stage.componentPart.andThen
    { get := Bench.alive, set := fun alive bench => { bench with alive } }

/-- The interrupt queue as a part of the session. -/
def interruptsPart : Part (World τ) (InterruptQueue (Expiry (Call τ))) :=
  Stage.componentPart.andThen
    { get := Bench.interrupts, set := fun interrupts bench => { bench with interrupts } }

/-- The names as a part of the session. -/
def namesPart : Part (World τ) (List (String × Nat)) :=
  Stage.componentPart.andThen
    { get := Bench.names, set := fun names bench => { bench with names } }

/-- The handles as a part of the session. -/
def cellsPart : Part (World τ) (Array Cell) :=
  Stage.componentPart.andThen
    { get := Bench.cells, set := fun cells bench => { bench with cells } }

/-- The hardware as a part of the session. -/
def hardwarePart : Part (World τ) UnreliableTimer :=
  managerPart.andThen
    { get := TimerManager.hardware
      set := fun hardware manager => { manager with hardware } }

/-- The timer behind the hardware, which never fails, as a part of the session. -/
def clockPart : Part (World τ) SimulatedTimer :=
  hardwarePart.andThen
    { get := UnreliableTimer.timer, set := fun timer hardware => { hardware with timer } }

/-- The cell at an index; there is always one. -/
def cellAt (index : Nat) : Exec (World τ) Cell :=
  return (← cellsPart.read).getD index { timer := none }

/-- Changes a cell. -/
def updateCell (index : Nat) (f : Cell → Cell) : Exec (World τ) Unit :=
  cellsPart.update fun cells => cells.modify index f

/-- The dispatcher of the manager. -/
def dispatcher (routing : Routing) : Dispatcher (World τ) (Expiry (Call τ)) :=
  routing.dispatcher Stage.backlogPart interruptsPart

/-- The manager in the session, given how callbacks perform their steps. -/
def service (routing : Routing) (perform : TimerStep τ → Exec (World τ) Reply) :
    TimerService (World τ) UnreliableTimer (Call τ) where
  manager := managerPart
  alive := alivePart
  report note := Stage.report note.record
  dispatcher := dispatcher routing
  call hook := Stage.play perform hook (.fired hook.tag)

/-- The service of a session. -/
abbrev Manager (τ : Type) := TimerService (World τ) UnreliableTimer (Call τ)

/-- The timer of a cell as a part of the session. -/
def timerPart (index : Nat) : Part (World τ) (Option TimerId) :=
  cellsPart.andThen
    { get := fun cells => (cells.getD index { timer := none }).timer
      set := fun timer cells => cells.modify index fun cell => { cell with timer } }

/-- Releases the timer of a cell, if it still has one. -/
def releaseCell (manager : Manager τ) (index : Nat) : Exec (World τ) Bool :=
  manager.reset (timerPart index)

/-- Gives up a handle that has lost its name: it is released at once unless it is in use. -/
def abandon (manager : Manager τ) (index : Nat) : Exec (World τ) Unit := do
  updateCell index fun cell => { cell with abandoned := true }
  if (← cellAt index).isFree then
    let _ ← releaseCell manager index
    return ()

/-- Ends an operation on a handle, and releases the handle if that is now due. -/
def leave (manager : Manager τ) (index : Nat) (f : Cell → Cell) : Exec (World τ) Unit := do
  updateCell index f
  let cell ← cellAt index
  if cell.abandoned && cell.isFree then
    let _ ← releaseCell manager index
    return ()

/-- Performs an operation on a named handle as one of its readers. -/
def reading (manager : Manager τ) (name : String)
    (operation : Option TimerId → Exec (World τ) Reply) : Exec (World τ) Reply := do
  match (← namesPart.read).lookup name with
  | none => return .missing "handle"
  | some index =>
      let cell ← cellAt index
      if cell.releasing then return .busy
      updateCell index fun cell => { cell with readers := cell.readers + 1 }
      Exec.ensuring (operation cell.timer)
        (leave manager index fun cell => { cell with readers := cell.readers - 1 })

/-- Releases a named handle, unless it is in use. -/
def resetNamed (manager : Manager τ) (name : String) : Exec (World τ) Reply := do
  match (← namesPart.read).lookup name with
  | none => return .missing "handle"
  | some index =>
      if !(← cellAt index).isFree then return .busy
      updateCell index fun cell => { cell with releasing := true }
      let released ← Exec.ensuring (releaseCell manager index)
        (leave manager index fun cell => { cell with releasing := false })
      return .flag released

/-- Gives up a named handle, unless it is in use. -/
def dropNamed (manager : Manager τ) (name : String) : Exec (World τ) Reply := do
  match (← namesPart.read).lookup name with
  | none => return .missing "handle"
  | some index =>
      if !(← cellAt index).isFree then return .busy
      namesPart.update fun names => names.filter fun entry => entry.1 ≠ name
      abandon manager index
      return .silent

/-- Gives a name to a new timer; the handle that had the name is given up afterwards. -/
def bindName (manager : Manager τ) (name : String) (id : TimerId) : Exec (World τ) Reply := do
  let names ← namesPart.read
  let cells ← cellsPart.read
  cellsPart.write (cells.push { timer := some id })
  namesPart.write ((name, cells.size) :: names.filter fun entry => entry.1 ≠ name)
  match names.lookup name with
  | none => pure ()
  | some old => abandon manager old
  return .text id.text

/-- Performs `operation`, if the manager has not been torn down. -/
def withManager (operation : Exec (World τ) Reply) : Exec (World τ) Reply := do
  if ← alivePart.read then operation else return .missing "manager"

/-- Schedules the timer of a named handle. -/
def scheduleNamed (manager : Manager τ) (name : String) (mode : TimerMode) (delay : Duration)
    (script : Script τ (TimerStep τ)) : Exec (World τ) Reply :=
  reading manager name fun handle => do
    let callback ← Stage.register script
    let footprint := Footprint.ofWords script.words
    return .ofAttempt .timer (← manager.schedule handle mode delay footprint callback)

/-- Tears the manager down: its handles are forgotten, and what waits in its interrupt queue goes
with it. -/
def dropManager (manager : Manager τ) : Exec (World τ) Reply := do
  namesPart.write []
  manager.teardown
  interruptsPart.update fun interrupts => { interrupts with queue := interrupts.queue.clear }
  return .silent

/-- Makes the next calls of a hardware operation fail. -/
def breakHardware (target : OutageTarget) (outage : Outage) : Exec (World τ) Unit :=
  hardwarePart.update fun hardware =>
    match target with
    | .stop => { hardware with stopOutage := some outage }
    | .restart => { hardware with restartOutage := some outage }

/-- Performs a step; `depth` bounds how deep callbacks nest, and `outermost` tells the steps of the
session from those of callbacks. -/
def perform (setup : Setup) : Nat → Bool → TimerStep τ → Exec (World τ) Reply
  | 0, _, _ => throw .exhausted
  | depth + 1, outermost, step => do
      let manager := service setup.routing (perform setup depth false)
      let reading (name : String) (operation : Option TimerId → Exec (World τ) Reply) :=
        withManager (reading manager name operation)
      match step with
      | .allocate name => withManager do bindName manager name (← manager.allocate)
      | .tryAllocate name =>
          withManager do
            match ← manager.tryAllocate with
            | .ok id => bindName manager name id
            | .error error => return .failed (.timer error)
      | .schedule name mode delay script =>
          withManager (scheduleNamed manager name mode delay script)
      | .cancel name => reading name fun handle => return .flag (← manager.cancel handle)
      | .tryCancel name =>
          reading name fun handle => return .ofExcept .timer .flag (← manager.tryCancel handle)
      | .reset name => withManager (resetNamed manager name)
      | .drop name => withManager (dropNamed manager name)
      | .isPending name =>
          reading name fun handle =>
            return .flag (handle.any (← managerPart.read).isPending)
      | .isValid name => reading name fun handle => return .flag handle.isSome
      | .id name => reading name fun handle => return .ofText? (handle.map TimerId.text)
      | .clock act =>
          act.perform clockPart do
            if ← alivePart.read then manager.expire
      | .fail target outage =>
          if setup.unreliable then breakHardware target outage
          return .silent
      | .expire => withManager do manager.expire; return .silent
      | .resolution =>
          withManager do return .text (toString (← managerPart.read).resolution.nanos)
      | .pump pump =>
          if ← alivePart.read then pump.perform manager.dispatcher manager.deliver
          else
            return .count (← Dispatcher.pump Stage.backlogPart manager.deliver pump.order ample
              pump.limit)
      | .dropManager =>
          withManager do if outermost then dropManager manager else return .busy
      | .panic message => Exec.panic message

/-- A session before its first step. -/
def start (setup : Setup) : World τ where
  log := #[(TimerNote.created setup.resolution).record]
  component :=
    { manager := .new { timer := { resolution := setup.resolution } } setup.storage
      interrupts := setup.routing.interrupts }

/-- The number of callbacks that wait to be run. -/
def pending (setup : Setup) (world : World τ) : Nat := (dispatcher setup.routing).pending world

/-- The named handles with their timers, and whether these wait to fire. -/
def handles (world : World τ) : List (String × Option TimerId × Bool) :=
  world.component.names.map fun (name, index) =>
    let timer := (world.component.cells.getD index { timer := none }).timer
    (name, timer, timer.any world.component.manager.isPending)

/-- Everything a script shows. -/
def run (setup : Setup) (steps : List (TimerStep τ)) : List (Reply × World τ) :=
  Stage.run (perform setup ample true) (start setup) steps

end Timers

end Reactor.Session

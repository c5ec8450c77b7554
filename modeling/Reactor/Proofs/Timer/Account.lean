import Reactor.Proofs.Timer.Exact
import Reactor.Proofs.Timer.Tasks

/-!
# Sessions with an account

A session can be told while it goes on.  The account says what time it is, repeats every section of
the manager as a move of a timer system, and notes each callback at the moment at which it is handed
to the dispatcher.  Nothing that happens depends on the account.
-/

namespace Reactor

/-- The state `ω` of callbacks, beside an account of what has happened. -/
structure Account (κ ω : Type) where
  /-- What the callbacks act on. -/
  rest : ω
  /-- The manager's moves so far, with the time and the history that they make. -/
  system : TimerSystem SimulatedTimer κ
  /-- What has been handed to the dispatcher, and when. -/
  handed : List (Nat × Expiry κ) := []

namespace TimerUse

open Host

variable {κ ω α : Type}

/-- A world with an account. -/
abbrev Told (κ ω : Type) := World κ (Account κ ω)

/-- The world without the account. -/
def forget (world : Told κ ω) : World κ ω :=
  { component := world.component
    rest := world.rest.rest
    runs := world.runs
    notes := world.notes
    waiting := world.waiting }

/-- A manager over a new timer, with an empty account. -/
def opening (resolution : Duration) (storage : TimerStorage) (rest : ω) : Told κ ω :=
  { component := { manager := .new { resolution } storage }
    rest := { rest, system := .fresh { resolution } storage } }

/-- Changes the system of the account. -/
def retell (change : TimerSystem SimulatedTimer κ → TimerSystem SimulatedTimer κ)
    (world : Told κ ω) : Told κ ω :=
  { world with rest := { world.rest with system := change world.rest.system } }

/-- Notes that a callback is handed over, which is collected at a place. -/
def book (place : Nat) (expiry : Expiry κ) (world : Told κ ω) : Told κ ω :=
  { world with
    rest := { world.rest with
      system := world.rest.system.perform (.handOver place)
      handed := world.rest.handed ++ [(world.rest.system.time, expiry)] } }

namespace Told

variable (service : TimerService (Told κ ω) SimulatedTimer κ)

/-- Hands over a callback that fired, and notes it. -/
def handOver (place : Nat) (expiry : Expiry κ) : Exec (Told κ ω) Unit := do
  modify (book place expiry)
  service.handOver expiry

/-- Runs one section of the manager, which is also a move, and what follows from it. -/
def commit (move : TimerMove κ)
    (act : TimerManager SimulatedTimer κ → TimerSection SimulatedTimer κ α) :
    Exec (Told κ ω) α := do
  let place := (← get).rest.system.collected.length
  let done := act (← service.manager.read)
  service.manager.write done.manager
  modify (retell (·.perform move))
  done.notes.forM service.report
  done.fired.forM (handOver service place)
  return done.answer

/-- Allocates a timer, or says why there is no room. -/
def tryAllocate : Exec (Told κ ω) (Except TimerError TimerId) :=
  commit service .allocate TimerManager.allocate

/-- Allocates a timer; panics if there is no room. -/
def allocate : Exec (Told κ ω) TimerId := do
  match ← tryAllocate service with
  | .ok id => return id
  | .error error => Exec.panic s!"timer manager: {error.message}"

/-- Schedules the timer of a handle. -/
def schedule (handle : Option TimerId) (mode : TimerMode) (delay : Duration)
    (footprint : Footprint) (callback : κ) : Exec (Told κ ω) (Except TimerError Unit) := do
  match handle with
  | none => return .error .invalidHandle
  | some id =>
      match (← service.manager.read).accept mode delay footprint with
      | .error (.panic message) => Exec.panic message
      | .error (.error error) => return .error error
      | .ok ticks =>
          commit service (.schedule id mode delay footprint callback)
            (·.schedule id mode ticks callback)

/-- Cancels the timer of a handle, or says why that failed. -/
def tryCancel (handle : Option TimerId) : Exec (Told κ ω) (Except TimerError Bool) :=
  match handle with
  | none => return .error .invalidHandle
  | some id => commit service (.cancel id) (·.cancel id)

/-- Cancels the timer of a handle. -/
def cancel (handle : Option TimerId) : Exec (Told κ ω) Bool := do
  match ← tryCancel service handle with
  | .ok pending => return pending
  | .error .invalidHandle => return false
  | .error error =>
      service.report (.cancelFailed error)
      return false

/-- Cancels a timer and frees it. -/
def release (id : TimerId) : Exec (Told κ ω) Unit := do
  match ← commit service (.release id) (·.cancel id) with
  | .ok _ | .error .invalidHandle => pure ()
  | .error error => service.report (.releaseFailed id error)
  commit service (.free id) (·.free id)

/-- Releases a handle. -/
def reset (place : Nat) : Option TimerId → Exec (Told κ ω) TimerAnswer
  | none => return .released false
  | some id => do
      handlesPart.write ((← handlesPart.read).set place none)
      release service id
      return .released true

/-- Works off an expiry of the hardware. -/
def expire : Exec (Told κ ω) Unit := commit service .expire TimerManager.expire

/-- Moves the clock; the time goes on with the ticks that are used up. -/
def advance : Nat → Ticks → Exec (Told κ ω) Unit
  | 0, _ => throw .exhausted
  | budget + 1, ticks => do
      match (← clockPart.read).pass ticks with
      | .done moved => do
          clockPart.write moved
          modify (retell (·.elapse moved ticks.count))
      | .expiry moved left => do
          clockPart.write moved
          modify (retell (·.elapse moved (ticks.count - left.count)))
          expire service
          advance budget left

/-- Uses a manager. -/
def perform (budget : Nat) : TimerCall κ → Exec (Told κ ω) TimerAnswer
  | .allocate => do keep (← allocate service)
  | .tryAllocate => do
      match ← tryAllocate service with
      | .error error => return .allocated (.error error)
      | .ok id => keep id
  | .schedule place mode delay footprint callback =>
      onHandle place fun handle =>
        return .scheduled (← schedule service handle mode delay footprint callback)
  | .cancel place => onHandle place fun handle => return .cancelled (.ok (← cancel service handle))
  | .tryCancel place => onHandle place fun handle => return .cancelled (← tryCancel service handle)
  | .reset place => onHandle place (reset service place)
  | .expire => do
      expire service
      return .done
  | .advance ticks => do
      advance service budget ticks
      return .done

/-- Carries out tasks in a world with an account. -/
def means (route : Route) (budget : Nat) : TaskMeans (Told κ ω) κ ω where
  use := perform service budget
  work order limit := (dispatcher route).work service.deliver order budget limit
  view := forget
  change rest world := { world with rest := { world.rest with rest } }

/-- Takes a turn. -/
def takeTurn (route : Route) (budget : Nat) : TimerTurn κ ω → Exec (Told κ ω) Unit
  | .task task => task.carryOut (means service route budget)
  | .advance ticks => advance service budget ticks

end Told

/-- A manager whose callbacks carry out tasks, with an account. -/
def toldTasked (route : Route) (budget : Nat) (body : κ → TimerTask κ ω) (depth : Nat) :
    TimerService (Told κ ω) SimulatedTimer κ :=
  nested route (fun service callback => (body callback).carryOut (Told.means service route budget))
    depth

end TimerUse

end Reactor

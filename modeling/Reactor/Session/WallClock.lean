import Reactor.Hardware.WallClock
import Reactor.Session.Stage
import Reactor.Timer.Manager

/-!
# Sessions with a timer on a wall clock

The clock of such a session stands still except while a step waits for an expiry, so no answer
depends on how fast the session is.  Besides the timer itself, a session can run a whole timer
manager on a timer of its own.
-/

namespace Reactor.Session

/-! ## A manager on a wall clock -/

/-- A timer manager on a wall clock, with numbers for callbacks. -/
structure ClockedManager where
  /-- The manager. -/
  manager : TimerManager WallClockTimer Nat
  /-- The callbacks that have run, in order. -/
  fired : List Nat := []
  /-- The records of all reports, in order. -/
  log : List LogRecord := []

namespace ClockedManager

/-- A manager on a stopped timer. -/
def new (timer : WallClockTimer) : ClockedManager where
  manager := .new timer .growing
  log :=
    [(WallClockNote.started timer.resolution).record, (TimerNote.created timer.resolution).record]

/-- Runs one section of the manager, and the callbacks that it hands over. -/
def commit {α : Type} (clocked : ClockedManager)
    (act : TimerManager WallClockTimer Nat → TimerSection WallClockTimer Nat α) :
    α × ClockedManager :=
  let done := act clocked.manager
  (done.answer,
    { manager := done.manager
      fired := clocked.fired ++ done.fired.map Expiry.callback
      log := clocked.log ++ done.notes.map TimerNote.record })

/-- Allocates a timer at an index and schedules it. -/
def add (clocked : ClockedManager) (index : Nat) (mode : TimerMode) (delay : Duration)
    (callback : Nat) : ClockedManager :=
  let allocated := (clocked.commit TimerManager.allocate).2
  match delay.toTicks? allocated.manager.resolution with
  | none => allocated
  | some ticks => (allocated.commit (·.schedule ⟨index⟩ mode ticks callback)).2

/-- Lets the clock go on from expiry to expiry until `enough` callbacks have run or nothing is left
to expire, for at most `budget` expiries. -/
def runUntil (enough : Nat) : Nat → ClockedManager → ClockedManager
  | 0, clocked => clocked
  | budget + 1, clocked =>
      if enough ≤ clocked.fired.length then clocked
      else
        match clocked.manager.hardware.awaitExpiry? with
        | none => clocked
        | some hardware =>
            let expired := { clocked with manager := { clocked.manager with hardware } }
            runUntil enough budget (expired.commit TimerManager.expire).2

/-- Cancels a timer and answers whether it was pending. -/
def cancel (clocked : ClockedManager) (index : Nat) : Bool × ClockedManager :=
  let (result, next) := clocked.commit (·.cancel ⟨index⟩)
  (result.toOption.getD false, next)

/-- The log of a manager whose timers at these indices are released and which is then torn down. -/
def farewell (clocked : ClockedManager) (indices : List Nat) : List LogRecord :=
  let freed := indices.foldl (fun clocked index => (clocked.commit (·.free ⟨index⟩)).2) clocked
  (freed.commit TimerManager.teardown).2.log ++ [WallClockNote.stopped.record]

end ClockedManager

/-- What a run of one-shot timers shows. -/
structure OneshotRun where
  /-- The delays of the timers in the order in which they fired, in microseconds. -/
  order : List Nat
  /-- Whether each of the timers is pending afterwards. -/
  pending : List Bool
  /-- Whether a timer far in the future is pending, and what cancelling it twice answers. -/
  far : List Bool
  /-- How many timers are scheduled at the end. -/
  scheduled : Nat

/-- What a run of a periodic timer shows. -/
structure PeriodicRun where
  /-- What cancelling the timer answers. -/
  cancelled : Bool
  /-- What cancelling it again answers. -/
  again : Bool
  /-- How many timers are scheduled at the end. -/
  scheduled : Nat

namespace ClockedManager

/-- A delay that no session waits for. -/
def farAway : Duration := .ofNanos (100000 * Duration.second)

/-- Runs one-shot timers with delays in microseconds, beside one far in the future. -/
def runOneshots (timer : WallClockTimer) (delays : List Nat) : OneshotRun × List LogRecord :=
  let count := delays.length
  let filled := delays.zipIdx.foldl
    (fun clocked (delay, index) => clocked.add index .oneshot (.ofMicros delay) delay)
    (new timer)
  let ran := runUntil count count (filled.add count .oneshot farAway 0)
  let (first, once) := ran.cancel count
  let (second, twice) := once.cancel count
  ({ order := ran.fired
     pending := (List.range count).map fun index => ran.manager.isPending ⟨index⟩
     far := [ran.manager.isPending ⟨count⟩, first, second]
     scheduled := twice.manager.scheduledCount },
    twice.farewell (count :: List.range count))

/-- Runs a periodic timer, with a period in microseconds, until it has fired a number of times. -/
def runPeriodic (timer : WallClockTimer) (period fires : Nat) : PeriodicRun × List LogRecord :=
  let ran := runUntil fires fires ((new timer).add 0 .periodic (.ofMicros period) 0)
  let (cancelled, once) := ran.cancel 0
  let (again, twice) := once.cancel 0
  ({ cancelled, again, scheduled := twice.manager.scheduledCount }, twice.farewell [0])

end ClockedManager

/-! ## The timer itself -/

/-- Something done with the timer, while there is one. -/
inductive WallClockAct where
  /-- Arms the timer with the last period. -/
  | start
  /-- Stops the timer. -/
  | stop
  /-- Arms the timer with a new period. -/
  | restart (period : Ticks)
  /-- Asks where the timer is in its cycle. -/
  | phase
  /-- Asks for the ticks counted. -/
  | count
  /-- Asks for the length of a tick. -/
  | resolution
  /-- Registers a callback, which may drop the timer. -/
  | register (dropsTimer : Bool)

/-- A step of a session with a timer on a wall clock. -/
inductive WallClockStep where
  /-- Does something with the timer. -/
  | act (act : WallClockAct)
  /-- Waits until the callback has run at an expiry. -/
  | wait
  /-- Waits until the callback has dropped the timer. -/
  | waitLeft
  /-- Drops the timer. -/
  | drop
  /-- Runs a manager with one-shot timers. -/
  | oneshots (delays : List Nat)
  /-- Runs a manager with a periodic timer. -/
  | periodic (period fires : Nat)

/-- The answer to a step. -/
inductive WallClockReply where
  /-- The answer of the timer. -/
  | plain (reply : Reply)
  /-- What one-shot timers did. -/
  | oneshots (run : OneshotRun)
  /-- What a periodic timer did. -/
  | periodic (run : PeriodicRun)

/-- What a step shows. -/
structure WallClockShown where
  /-- The answer. -/
  reply : WallClockReply
  /-- The log records, in order. -/
  log : List LogRecord := []

/-- The state of the session. -/
structure WallClockBench where
  /-- The timer, until it is dropped. -/
  timer : Option WallClockTimer
  /-- A timer as every manager gets one. -/
  fresh : WallClockTimer
  /-- Whether the registered callback drops the timer. -/
  dropsTimer : Bool := false
  /-- How many runs of the callback no step has waited for yet. -/
  expiries : Nat := 0
  /-- Whether the callback has dropped the timer; this stays so. -/
  departed : Bool := false

namespace WallClockBench

/-- Shows an answer that leaves the timer in some state. -/
def leave (bench : WallClockBench) (timer : WallClockTimer) (reply : Reply) :
    WallClockShown × WallClockBench :=
  ({ reply := .plain reply }, { bench with timer := some timer.watch })

/-- Shows that an operation of the timer was attempted. -/
def attempt (bench : WallClockBench) (attempt : Hardware.Attempt WallClockTimer) :
    WallClockShown × WallClockBench :=
  bench.leave attempt.1 (.ofAttempt .hardware attempt.2)

/-- Lets the timer expire and its callback run, if it is to expire; gives the log records of
that. -/
def expire (bench : WallClockBench) : List LogRecord × WallClockBench :=
  match bench.timer.bind WallClockTimer.awaitExpiry? with
  | none => ([], bench)
  | some expired =>
      let counted := { bench with expiries := bench.expiries + 1 }
      if bench.dropsTimer then
        ((expired.farewell true).map WallClockNote.record,
          { counted with timer := none, departed := true })
      else ([], { counted with timer := some expired })

/-- The answer of a step that waits for something that is not to come. -/
def vain (bench : WallClockBench) : Reply :=
  if bench.timer.isSome then .silent else .missing "timer"

/-- Waits until the callback has run. -/
def wait (bench : WallClockBench) : WallClockShown × WallClockBench :=
  let (log, waited) := if bench.expiries = 0 then bench.expire else ([], bench)
  if waited.expiries = 0 then ({ reply := .plain waited.vain, log }, waited)
  else
    ({ reply := .plain (.text "expired"), log },
      { waited with expiries := waited.expiries - 1 })

/-- Waits until the callback has dropped the timer; once it has, there is nothing left to wait
for. -/
def waitLeft (bench : WallClockBench) : WallClockShown × WallClockBench :=
  let (log, waited) := if bench.departed then ([], bench) else bench.expire
  let reply := if waited.departed then .text "left" else waited.vain
  ({ reply := .plain reply, log }, waited)

/-- Does something with the timer. -/
def perform (bench : WallClockBench) (timer : WallClockTimer) :
    WallClockAct → WallClockShown × WallClockBench
  | .start => bench.attempt timer.start
  | .stop => bench.attempt timer.stop
  | .restart period => bench.attempt (timer.restart period)
  | .phase => bench.leave timer (.text timer.phase.text)
  | .count => bench.leave timer (.text (toString timer.count.count))
  | .resolution => bench.leave timer (.text (toString timer.resolution.nanos))
  | .register dropsTimer => { bench with dropsTimer }.leave timer .silent

/-- Takes a step. -/
def take (bench : WallClockBench) : WallClockStep → WallClockShown × WallClockBench
  | .act act =>
      match bench.timer with
      | some timer => bench.perform timer act
      | none => ({ reply := .plain (.missing "timer") }, bench)
  | .wait => bench.wait
  | .waitLeft => bench.waitLeft
  | .drop =>
      match bench.timer with
      | some timer =>
          ({ reply := .plain (.flag true)
             log := (timer.farewell false).map WallClockNote.record },
            { bench with timer := none })
      | none => ({ reply := .plain (.flag false) }, bench)
  | .oneshots delays =>
      let (run, log) := ClockedManager.runOneshots bench.fresh delays
      ({ reply := .oneshots run, log }, bench)
  | .periodic period fires =>
      let (run, log) := ClockedManager.runPeriodic bench.fresh period fires
      ({ reply := .periodic run, log }, bench)

/-- The records of the start go with the first step. -/
def withStart (resolution : Duration) (shown : List WallClockShown) : List WallClockShown :=
  match shown with
  | [] => []
  | first :: rest =>
      { first with log := (WallClockNote.started resolution).record :: first.log } :: rest

/-- Everything a script shows for a timer of a resolution; nothing if that is zero. -/
def run? (resolution : Duration) (steps : List WallClockStep) : Option (List WallClockShown) := do
  let timer ← WallClockTimer.new? resolution
  let fresh ← WallClockTimer.new? .microsecond
  return withStart resolution ((scan take { timer := some timer, fresh } steps).map Prod.fst)

end WallClockBench

end Reactor.Session

import Reactor.Slot
import Reactor.Timer.Note

/-!
# The timer manager

A timer manager runs many software timers on one hardware timer.  No counter moves while time
passes.  Whenever the hardware expires or the schedule changes, the manager reconciles:

1. it stops the hardware and reads the ticks that it counted,
2. it takes that count off every scheduled timer, stopping at zero,
3. it fires every timer that has reached zero and reloads the periodic ones,
4. it arms the hardware for the timer that is now the soonest.

Every operation here is one uninterrupted section: it answers, and lists what fired, for the
callbacks to be handed over after the section.
-/

namespace Reactor

/-- The containers of a timer manager.  Their capacities are free: `growing` and `fixed`, which come
with the manager, have room for every timer in each of them, but a queue or a list of collected
callbacks may also be smaller than the timer list. -/
structure TimerStorage where
  /-- How many timers may be allocated at a time. -/
  timers : Capacity
  /-- How many timers may be scheduled at a time. -/
  scheduled : Capacity
  /-- How many callbacks one section can hand over. -/
  fired : Capacity
  /-- How callbacks are kept. -/
  housing : Housing

namespace TimerStorage

/-- Storage that grows, with callbacks on the heap. -/
def growing : TimerStorage :=
  { timers := .unbounded, scheduled := .unbounded, fired := .unbounded, housing := .boxed }

/-- Storage for `limit` timers, with callbacks in inline slots of `words` words. -/
def fixed (limit words : Nat) : TimerStorage :=
  { timers := .bounded limit, scheduled := .bounded limit, fired := .bounded limit
    housing := .inline words }

end TimerStorage

/-- Many software timers on a hardware timer `H`, with callbacks `κ`. -/
structure TimerManager (H κ : Type) where
  /-- The hardware timer. -/
  hardware : H
  /-- The length of one tick. -/
  resolution : Duration
  /-- How callbacks are kept. -/
  housing : Housing
  /-- Whether the hardware counts towards the front of the scheduled queue. -/
  armed : Bool := false
  /-- The number of the next schedule. -/
  nextSerial : UInt32 := 0
  /-- The timers by index; a freed place holds nothing. -/
  slots : Roster (Option (Timer κ))
  /-- The timers that wait to fire. -/
  queue : ScheduledQueue
  /-- How many callbacks one section can hand over. -/
  firedCapacity : Capacity

/-- What a section of a manager leaves behind. -/
structure TimerSection (H κ α : Type) where
  /-- The manager after the section. -/
  manager : TimerManager H κ
  /-- What the section reports, in order. -/
  notes : List TimerNote := []
  /-- The callbacks to hand over, in order of firing. -/
  fired : List (Expiry κ) := []
  /-- The answer, which the caller gets after the callbacks have been handed over. -/
  answer : α

namespace TimerManager

variable {H κ : Type}

/-- A manager without timers. -/
def new [HardwareTimer H] (hardware : H) (storage : TimerStorage) : TimerManager H κ where
  hardware
  resolution := HardwareTimer.resolution hardware
  housing := storage.housing
  slots := .empty storage.timers
  queue := .empty storage.scheduled
  firedCapacity := storage.fired

/-- The allocated timer with an id. -/
def timer? (manager : TimerManager H κ) (id : TimerId) : Option (Timer κ) :=
  (manager.slots.get? id.index).join

/-- The order of the scheduled queue: the ticks that a timer has left.  A freed timer comes last. -/
def remaining (slots : Roster (Option (Timer κ))) (id : TimerId) : Ticks :=
  match (slots.get? id.index).join with
  | some timer => timer.remaining
  | none => .max

/-- The slots after a change of one allocated timer. -/
def change (slots : Roster (Option (Timer κ))) (id : TimerId) (f : Timer κ → Timer κ) :
    Roster (Option (Timer κ)) :=
  match (slots.get? id.index).join with
  | some timer => slots.set id.index (some (f timer))
  | none => slots

/-- Takes ticks off a number of timers. -/
def charge (elapsed : Ticks) (ids : List TimerId) (slots : Roster (Option (Timer κ))) :
    Roster (Option (Timer κ)) :=
  ids.foldl
    (fun slots id =>
      change slots id fun timer => { timer with remaining := timer.remaining - elapsed })
    slots

/-- Stops the hardware, if it counts, and charges the ticks it counted to every scheduled
timer. -/
def reconcile [HardwareTimer H] (manager : TimerManager H κ) :
    TimerManager H κ × Except Hardware.Fault (List TimerNote) :=
  if manager.armed then
    match HardwareTimer.stop manager.hardware with
    | (hardware, .error fault) => ({ manager with hardware }, .error fault)
    | (hardware, .ok ()) =>
        let elapsed := HardwareTimer.count hardware
        ({ manager with
            hardware
            armed := false
            slots := charge elapsed manager.queue.ids.toList manager.slots },
          .ok [.reconciled manager.queue.size elapsed])
  else (manager, .ok [])

/-- Fires the timer in front of the queue, if it is due: a periodic timer starts over, a one-shot
leaves the queue and keeps its schedule.  Gives the callback to hand over. -/
def fireFront? (manager : TimerManager H κ) :
    Option (TimerManager H κ × Option (Expiry κ)) := do
  let front ← manager.queue.front?
  let timer ← manager.timer? front
  guard timer.remaining.isZero
  let expiry := timer.schedule.map fun schedule =>
    { id := front, serial := schedule.serial, callback := schedule.callback }
  match timer.mode with
  | .periodic =>
      let slots := manager.slots.set front.index (some { timer with remaining := timer.reload })
      return ({ manager with slots, queue := manager.queue.siftFront (remaining slots) }, expiry)
  | .oneshot =>
      let slots := manager.slots.set front.index (some { timer with pending := false })
      let (_, queue) ← manager.queue.popFront? (remaining slots)
      return ({ manager with slots, queue }, expiry)

/-- Adds a callback to those to hand over; one that finds no room is given up. -/
def collect (fired : Roster (Expiry κ)) (expiry : Option (Expiry κ)) : Roster (Expiry κ) :=
  (expiry.bind fired.push?).getD fired

/-- Fires timers in front of the queue while they are due, at most `budget` of them. -/
def fireDue : Nat → TimerManager H κ → Roster (Expiry κ) → TimerManager H κ × Roster (Expiry κ)
  | 0, manager, fired => (manager, fired)
  | budget + 1, manager, fired =>
      match manager.fireFront? with
      | none => (manager, fired)
      | some (next, expiry) => fireDue budget next (collect fired expiry)

/-- Fires every timer that is due.  No timer is due twice, since a periodic one starts over with
at least one tick, so there are at most as many as are scheduled. -/
def clearExpired (manager : TimerManager H κ) : TimerManager H κ × List (Expiry κ) :=
  let (next, fired) := fireDue manager.queue.size manager (.empty manager.firedCapacity)
  (next, fired.entries.toList)

/-- Arms the hardware for the soonest timer, if there is one. -/
def startNext [HardwareTimer H] (manager : TimerManager H κ) :
    TimerManager H κ × Except Hardware.Fault (List TimerNote) :=
  match manager.queue.front? with
  | none => (manager, .ok [])
  | some front =>
      let ticks := remaining manager.slots front
      match HardwareTimer.restart manager.hardware ticks with
      | (hardware, .error fault) => ({ manager with hardware }, .error fault)
      | (hardware, .ok ()) =>
          ({ manager with hardware, armed := true }, .ok [.armed ticks front])

/-- What an attempt reports when it succeeds. -/
def notesOf (attempt : Except Hardware.Fault (List TimerNote)) : List TimerNote :=
  attempt.toOption.getD []

/-- An attempt as part of the answer of a timer operation. -/
def verdict (attempt : Except Hardware.Fault (List TimerNote)) : Except TimerError Unit :=
  match attempt with
  | .ok _ => .ok ()
  | .error fault => .error (.hardware fault)

/-- Puts a timer into the queue under a new schedule, in place of one that may be pending.  If the
queue is full the timer is left idle. -/
def enqueue (manager : TimerManager H κ) (id : TimerId) (mode : TimerMode) (ticks : Ticks)
    (callback : κ) : TimerManager H κ × List TimerNote × Except TimerError Unit :=
  let (queue, notes) :=
    match manager.queue.remove? (remaining manager.slots) id with
    | some queue => (queue, [.rescheduled id])
    | none => (manager.queue, [])
  match manager.timer? id with
  | none => ({ manager with queue }, notes, .error .invalidHandle)
  | some timer =>
      let waiting : Timer κ :=
        { timer with
          mode
          remaining := ticks
          reload := ticks
          pending := true
          schedule := some { serial := manager.nextSerial, callback } }
      let slots := manager.slots.set id.index (some waiting)
      let next := { manager with queue, slots, nextSerial := manager.nextSerial + 1 }
      match queue.push? (remaining slots) id with
      | some queue => ({ next with queue }, notes, .ok ())
      | none =>
          let idle := { waiting.disarm with pending := false }
          ({ next with slots := slots.set id.index (some idle) }, notes,
            .error (.queueFull queue.heap.capacity.limit))

/-- Takes a timer out of the queue and leaves the hardware alone. -/
def dequeue (manager : TimerManager H κ) (id : TimerId) : TimerManager H κ :=
  { manager with
    queue := manager.queue.remove (remaining manager.slots) id
    slots := change manager.slots id fun timer => { timer with pending := false } }

/-- Why a scheduling call goes no further. -/
inductive Refusal where
  /-- The call panics. -/
  | panic (message : String)
  /-- The call returns an error. -/
  | error (error : TimerError)

/-- The ticks of a delay, unless the call is refused: the resolution must not be zero, a period
must not be zero and the callback must fit. -/
def accept (manager : TimerManager H κ) (mode : TimerMode) (delay : Duration)
    (footprint : Footprint) : Except Refusal Ticks :=
  match delay.toTicks? manager.resolution with
  | none => .error (.panic Duration.zeroResolution)
  | some ticks =>
      if mode = .periodic ∧ ticks.isZero = true then .error (.error .zeroPeriod)
      else
        match manager.housing.misfit? footprint with
        | some misfit => .error (.panic misfit.message)
        | none => .ok ticks

/-- Schedules a timer.  A delay of zero ticks fires in the same section. -/
def schedule [HardwareTimer H] (manager : TimerManager H κ) (id : TimerId) (mode : TimerMode)
    (ticks : Ticks) (callback : κ) : TimerSection H κ (Except TimerError Unit) :=
  match manager.timer? id with
  | none => { manager, answer := .error .invalidHandle }
  | some _ =>
      match manager.reconcile with
      | (reconciled, .error fault) =>
          { manager := reconciled, answer := .error (.hardware fault) }
      | (reconciled, .ok charged) =>
          let (queued, rescheduled, result) := reconciled.enqueue id mode ticks callback
          let (cleared, fired) := queued.clearExpired
          let (started, start) := cleared.startNext
          { manager := started
            notes := charged ++ rescheduled ++ notesOf start ++ [.scheduled id mode ticks]
            fired
            answer := result.bind fun () => verdict start }

/-- Cancels a timer and retires what it has handed over; answers whether it was pending.  Only the
cancellation of the soonest timer touches the hardware. -/
def cancel [HardwareTimer H] (manager : TimerManager H κ) (id : TimerId) :
    TimerSection H κ (Except TimerError Bool) :=
  match manager.timer? id with
  | none => { manager, answer := .error .invalidHandle }
  | some timer =>
      let disarmed := { manager with slots := manager.slots.set id.index (some timer.disarm) }
      if !timer.pending then { manager := disarmed, answer := .ok false }
      else
        let dequeued := disarmed.dequeue id
        if manager.queue.front? ≠ some id then
          { manager := dequeued, notes := [.cancelled id], answer := .ok true }
        else
          match dequeued.reconcile with
          | (reconciled, .error fault) =>
              { manager := reconciled, answer := .error (.hardware fault) }
          | (reconciled, .ok charged) =>
              let (cleared, fired) := reconciled.clearExpired
              let (started, start) := cleared.startNext
              { manager := started
                notes := charged ++ notesOf start ++ [.cancelledFront id]
                fired
                answer := (verdict start).map fun () => true }

/-- Frees a timer that has been cancelled. -/
def free (manager : TimerManager H κ) (id : TimerId) : TimerSection H κ Unit :=
  let dequeued := manager.dequeue id
  { manager := { dequeued with slots := dequeued.slots.set id.index none }
    notes := [.freed id]
    answer := () }

/-- Works off an expiry of the hardware. -/
def expire [HardwareTimer H] (manager : TimerManager H κ) : TimerSection H κ Unit :=
  match manager.reconcile with
  | (reconciled, .error fault) =>
      { manager := reconciled, notes := [.stopFailed fault], answer := () }
  | (reconciled, .ok charged) =>
      let (cleared, fired) := reconciled.clearExpired
      let (started, start) := cleared.startNext
      let starting :=
        match start with
        | .ok notes => notes
        | .error fault => [.rearmFailed fault]
      { manager := started
        notes := charged ++ starting ++ [.expired fired.length]
        fired
        answer := () }

/-- The lowest index that holds no timer. -/
def freeIndex? (slots : Roster (Option (Timer κ))) : Option Nat :=
  slots.entries.findIdx? Option.isNone

/-- Allocates an idle timer at the lowest free index. -/
def allocate (manager : TimerManager H κ) : TimerSection H κ (Except TimerError TimerId) :=
  match freeIndex? manager.slots with
  | some index =>
      { manager := { manager with slots := manager.slots.set index (some .idle) }
        notes := [.allocated ⟨index⟩]
        answer := .ok ⟨index⟩ }
  | none =>
      match manager.slots.push? (some .idle) with
      | none => { manager, answer := .error (.listFull manager.slots.capacity.limit) }
      | some slots =>
          { manager := { manager with slots }
            notes := [.allocated ⟨manager.slots.size⟩]
            answer := .ok ⟨manager.slots.size⟩ }

/-- Stops the hardware for good. -/
def teardown [HardwareTimer H] (manager : TimerManager H κ) : TimerSection H κ Unit :=
  let (hardware, result) := HardwareTimer.stop manager.hardware
  let failure :=
    match result with
    | .ok () => []
    | .error fault => [.teardownFailed fault]
  { manager := { manager with hardware, armed := false }
    notes := failure ++ [.stopped manager.queue.size]
    answer := () }

/-- Whether a timer waits to fire. -/
def isPending (manager : TimerManager H κ) (id : TimerId) : Bool :=
  (manager.timer? id).any Timer.pending

/-- Whether what was handed over under `serial` belongs to the schedule in force. -/
def isCurrent (manager : TimerManager H κ) (id : TimerId) (serial : UInt32) : Bool :=
  (manager.timer? id).any (Timer.holds · serial)

/-- The number of timers that wait to fire. -/
def scheduledCount (manager : TimerManager H κ) : Nat := manager.queue.size

/-- The number of allocated timers. -/
def allocatedCount (manager : TimerManager H κ) : Nat :=
  manager.slots.entries.countP Option.isSome

end TimerManager

end Reactor

import Reactor.Proofs.Timer.History
import Reactor.Timer.Manager

/-!
# A manager and those who use it

A timer manager is used through handles.  Its users may call it in any order, also from inside the
callbacks that it hands over, so a run is an arbitrary list of moves.  Each move carries out one
section of the manager or hands over one callback; a move that is not open to a user, such as one on
a timer whose handle is gone, changes nothing.  A release takes two moves, since other sections may
come between the cancellation and the freeing.
-/

namespace Reactor

/-- A timer manager, what its users hold, and what has happened so far. -/
structure TimerSystem (H κ : Type) where
  /-- The manager. -/
  manager : TimerManager H κ
  /-- Whether the manager has not been torn down. -/
  alive : Bool := true
  /-- The timers of the handles that are in use. -/
  handles : List TimerId := []
  /-- The timers that have been cancelled for release and are yet to be freed. -/
  releasing : List TimerId := []
  /-- What the sections have collected and is yet to be handed over. -/
  collected : List (Expiry κ) := []
  /-- What has been handed over and is yet to be run. -/
  inFlight : List (Expiry κ) := []
  /-- The expiries of the hardware that are yet to be noticed. -/
  notices : Nat := 0
  /-- The time in ticks. -/
  time : Nat := 0
  /-- What has happened to the timers. -/
  history : List (Entry κ) := []

/-- What a user of a manager does. -/
inductive TimerMove (κ : Type) where
  /-- Asks for a new timer. -/
  | allocate
  /-- Schedules a timer. -/
  | schedule (id : TimerId) (mode : TimerMode) (delay : Duration) (footprint : Footprint)
      (callback : κ)
  /-- Cancels a timer. -/
  | cancel (id : TimerId)
  /-- Gives up a handle and cancels its timer. -/
  | release (id : TimerId)
  /-- Frees the timer of a handle that has been given up. -/
  | free (id : TimerId)
  /-- Reports an expiry of the hardware, whether there was one or not. -/
  | expire
  /-- Hands over one of the collected callbacks. -/
  | handOver (place : Nat)

/-- The charges that a section reports. -/
def chargesOf {κ : Type} (notes : List TimerNote) : List (TimerEvent κ) :=
  notes.filterMap fun note =>
    match note with
    | .reconciled _ elapsed => some (.charged elapsed)
    | _ => none

/-- Whether a report says that a section has gone through all stages. -/
def TimerNote.endsPass : TimerNote → Bool
  | scheduled .. | cancelledFront _ | expired _ => true
  | _ => false

/-- What a section has collected, and the end of its pass if it made one. -/
def passOf {κ : Type} (notes : List TimerNote) (fired : List (Expiry κ)) :
    List (TimerEvent κ) :=
  fired.map .collected ++ if notes.any TimerNote.endsPass then [.passed] else []

namespace TimerSystem

variable {H κ α : Type}

/-- Adds events to the history. -/
def record (system : TimerSystem H κ) (events : List (TimerEvent κ)) : TimerSystem H κ :=
  { system with history := system.history ++ events.map (Entry.mk system.time) }

@[simp]
theorem manager_record (system : TimerSystem H κ) (events : List (TimerEvent κ)) :
    (system.record events).manager = system.manager := rfl

@[simp]
theorem history_record (system : TimerSystem H κ) (events : List (TimerEvent κ)) :
    (system.record events).history = system.history ++ events.map (Entry.mk system.time) := rfl

@[simp]
theorem record_nil (system : TimerSystem H κ) : system.record [] = system := by simp [record]

theorem record_record (system : TimerSystem H κ) (first second : List (TimerEvent κ)) :
    (system.record first).record second = system.record (first ++ second) := by
  simp [record]

/-- Carries out a section, in which `decision` comes after what the hardware counted has been
charged and before anything fires. -/
def commit (system : TimerSystem H κ) (done : TimerSection H κ α)
    (decision : List (TimerEvent κ)) : TimerSystem H κ :=
  { system with
      manager := done.manager
      collected := system.collected ++ done.fired }.record
    (chargesOf done.notes ++ decision ++ passOf done.notes done.fired)

/-- What a scheduling section decides: nothing, unless it takes a number. -/
def decision (before : TimerManager H κ) (done : TimerSection H κ (Except TimerError Unit))
    (id : TimerId) (mode : TimerMode) (ticks : Ticks) (callback : κ) : List (TimerEvent κ) :=
  if done.manager.nextSerial = before.nextSerial then []
  else
    match done.answer with
    | .error (.queueFull _) => [.turnedAway id]
    | _ => [.scheduled id mode ticks before.nextSerial callback]

variable [HardwareTimer H]

/-- Cancels a timer. -/
def retire (system : TimerSystem H κ) (id : TimerId) : TimerSystem H κ :=
  (system.record [.cancelled id]).commit (system.manager.cancel id) []

/-- The system after a move. -/
def perform (system : TimerSystem H κ) : TimerMove κ → TimerSystem H κ
  | .allocate =>
      match system.manager.allocate.answer with
      | .ok id =>
          { system with
            manager := system.manager.allocate.manager
            handles := id :: system.handles }
      | .error _ => system
  | .schedule id mode delay footprint callback =>
      if id ∈ system.handles then
        match system.manager.accept mode delay footprint with
        | .ok ticks =>
            let done := system.manager.schedule id mode ticks callback
            system.commit done (decision system.manager done id mode ticks callback)
        | .error _ => system
      else system
  | .cancel id => if id ∈ system.handles then system.retire id else system
  | .release id =>
      if id ∈ system.handles then
        { system.retire id with
          handles := system.handles.erase id
          releasing := id :: system.releasing }
      else system
  | .free id =>
      if id ∈ system.releasing then
        { (system.record [.freed id]).commit (system.manager.free id) [] with
          releasing := system.releasing.erase id }
      else system
  | .expire => system.commit system.manager.expire []
  | .handOver place =>
      match system.collected[place]? with
      | none => system
      | some expiry =>
          { system with
              collected := system.collected.eraseIdx place
              inFlight := system.inFlight ++ [expiry] }.record [.handedOver expiry]

variable {system : TimerSystem H κ} {id : TimerId}

theorem perform_allocate_of_ok (answer : system.manager.allocate.answer = .ok id) :
    system.perform .allocate =
      { system with
        manager := system.manager.allocate.manager
        handles := id :: system.handles } := by
  simp only [perform, answer]

theorem perform_allocate_of_error {error : TimerError}
    (answer : system.manager.allocate.answer = .error error) :
    system.perform .allocate = system := by
  simp only [perform, answer]

theorem perform_schedule {mode : TimerMode} {delay : Duration} {footprint : Footprint}
    {ticks : Ticks} {callback : κ} (owned : id ∈ system.handles)
    (accepted : system.manager.accept mode delay footprint = .ok ticks) :
    system.perform (.schedule id mode delay footprint callback) =
      system.commit (system.manager.schedule id mode ticks callback)
        (decision system.manager (system.manager.schedule id mode ticks callback) id mode ticks
          callback) := by
  simp only [perform, owned, accepted, if_true]

theorem perform_cancel (owned : id ∈ system.handles) :
    system.perform (.cancel id) = system.retire id := if_pos owned

theorem perform_release (owned : id ∈ system.handles) :
    system.perform (.release id) =
      { system.retire id with
        handles := system.handles.erase id
        releasing := id :: system.releasing } := if_pos owned

theorem perform_free (given_up : id ∈ system.releasing) :
    system.perform (.free id) =
      { (system.record [.freed id]).commit (system.manager.free id) [] with
        releasing := system.releasing.erase id } := if_pos given_up

theorem perform_handOver {place : Nat} {expiry : Expiry κ}
    (waits : system.collected[place]? = some expiry) :
    system.perform (.handOver place) =
      { system with
          collected := system.collected.eraseIdx place
          inFlight := system.inFlight ++ [expiry] }.record [.handedOver expiry] := by
  simp only [perform, waits]

/-- A system whose manager is new. -/
def fresh (hardware : H) (storage : TimerStorage) : TimerSystem H κ :=
  { manager := .new hardware storage }

end TimerSystem

end Reactor

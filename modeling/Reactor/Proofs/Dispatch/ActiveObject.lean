import Reactor.Dispatch.ActiveObject
import Reactor.Proofs.Dispatch.Ledger

/-!
# Active objects, their workers and their shutdowns

Callers enqueue items and shut the object down, and its worker runs hooks and processes items, in
any interleaving.  The first shutdown closes the object, takes the handle of the worker and waits
for its end, unless the worker itself makes the call, and then discards what still waits, item by
item.  Every later shutdown finds the object closed and returns at once; dropping the object comes
to one more shutdown.
-/

namespace Reactor

/-- How far a shutdown has come. -/
inductive ShutdownStage where
  /-- It has closed the object. -/
  | closing
  /-- It has taken the handle of the worker. -/
  | joining
  | discarding
  | returned
  /-- It has found the object closed and has returned at once. -/
  | late
deriving DecidableEq

/-- A shutdown of an active object. -/
structure Shutdown where
  /-- Whether the worker itself makes the call, from what it runs. -/
  byWorker : Bool
  stage : ShutdownStage
deriving DecidableEq

/-- An active object together with what has happened to it. -/
structure ActiveSystem (ι : Type) where
  object : ActiveObject ι
  /-- Whether the worker is inside one of its hooks. -/
  inHook : Bool := false
  /-- Whether nobody has taken the handle of the worker. -/
  joinable : Bool := true
  trace : List (ActiveEvent ι) := []
  accepted : List ι := []
  discarded : List ι := []
  /-- The shutdowns in the order in which they asked for the object to be closed. -/
  shutdowns : List Shutdown := []

/-- What happens to an active object in one go. -/
inductive ActiveMove (ι : Type) where
  | enqueue (item : ι)
  /-- The worker takes a step by itself. -/
  | step
  /-- The hook or the item that the worker runs comes to its end. -/
  | complete
  /-- The hook or the item that the worker runs panics. -/
  | panic
  /-- A shutdown begins. -/
  | shutDown (byWorker : Bool)
  /-- A shutdown goes on, if it need not wait. -/
  | advance (shutdown : Nat)

namespace ActiveEvent

variable {ι : Type}

/-- Whether an event is a hook. -/
def isHook : ActiveEvent ι → Bool
  | .processes _ => false
  | .started | .stopped => true

/-- The item that an event processes. -/
def item? : ActiveEvent ι → Option ι
  | .processes item => some item
  | .started | .stopped => none

end ActiveEvent

namespace ActiveSystem

variable {ι : Type} {system : ActiveSystem ι} {capacity : Capacity}

/-- A new active object. -/
def opened (config : ActiveConfig) (capacity : Capacity) : ActiveSystem ι :=
  { object := .new config capacity }

/-- The items that the worker has been given. -/
def processed (system : ActiveSystem ι) : List ι := system.trace.filterMap ActiveEvent.item?

/-- Whether the worker has returned or died. -/
def hasEnded (system : ActiveSystem ι) : Bool :=
  !system.inHook &&
    match system.object.worker with
    | .finished | .dead => true
    | .starting | .waiting | .processing _ => false

theorem hasEnded_iff : system.hasEnded = true ↔ system.inHook = false ∧
    (system.object.worker = .finished ∨ system.object.worker = .dead) := by
  rw [hasEnded]
  cases system.object.worker <;> simp

/-- The system with a shutdown at another stage. -/
def withStage (system : ActiveSystem ι) (place : Nat) (shutdown : Shutdown)
    (stage : ShutdownStage) : ActiveSystem ι :=
  { system with shutdowns := system.shutdowns.set place { shutdown with stage } }

/-- The system after a shutdown has gone on. -/
def proceed (system : ActiveSystem ι) (place : Nat) (shutdown : Shutdown) : ActiveSystem ι :=
  match shutdown.stage with
  | .closing =>
      { system.withStage place shutdown (if system.joinable then .joining else .discarding) with
        joinable := false }
  | .joining =>
      if shutdown.byWorker || system.hasEnded then system.withStage place shutdown .discarding
      else system
  | .discarding =>
      match system.object.work.discardOne? with
      | some (item, work) =>
          { system with
            object := { system.object with work }
            discarded := system.discarded ++ [item] }
      | none => system.withStage place shutdown .returned
  | .returned | .late => system

/-- The system after a move. -/
def perform (system : ActiveSystem ι) : ActiveMove ι → ActiveSystem ι
  | .enqueue item =>
      match system.object.enqueue item with
      | .ok object => { system with object, accepted := system.accepted ++ [item] }
      | .error _ => system
  | .step =>
      if system.inHook then system
      else
        match system.object.step? with
        | some (event, object) =>
            { system with object, inHook := event.isHook, trace := system.trace ++ [event] }
        | none => system
  | .complete =>
      if system.inHook then { system with inHook := false }
      else
        match system.object.current? with
        | some _ => { system with object := system.object.finish }
        | none => system
  | .panic =>
      if system.inHook || system.object.current?.isSome then
        { system with object := system.object.crash, inHook := false }
      else system
  | .shutDown byWorker =>
      let (wasOpen, object) := system.object.close
      { system with
        object
        shutdowns :=
          system.shutdowns ++ [{ byWorker, stage := if wasOpen then .closing else .late }] }
  | .advance place =>
      match system.shutdowns[place]? with
      | some shutdown => system.proceed place shutdown
      | none => system

/-- The system after some moves. -/
def after (system : ActiveSystem ι) (moves : List (ActiveMove ι)) : ActiveSystem ι :=
  moves.foldl perform system

theorem after_append (first second : List (ActiveMove ι)) :
    system.after (first ++ second) = (system.after first).after second :=
  List.foldl_append

theorem after_concat (moves : List (ActiveMove ι)) (move : ActiveMove ι) :
    system.after (moves ++ [move]) = (system.after moves).perform move := by
  rw [after_append]
  rfl

/-! ## What a move does -/

/-- A move that has an effect. -/
inductive Turn (system : ActiveSystem ι) : ActiveMove ι → ActiveSystem ι → Prop
  | enqueued {item : ι} {work : WorkQueue ι} (pushed : system.object.work.push item = .ok work) :
      Turn system (.enqueue item)
        { system with
          object := { system.object with work }
          accepted := system.accepted ++ [item] }
  | starts (quiet : system.inHook = false) (starting : system.object.worker = .starting) :
      Turn system .step
        { system with
          object := { system.object with worker := .waiting }
          inHook := true
          trace := system.trace ++ [.started] }
  | takes {item : ι} {work : WorkQueue ι} (quiet : system.inHook = false)
      (waits : system.object.worker = .waiting)
      (given : system.object.work.next? = some (item, work)) :
      Turn system .step
        { system with
          object := { system.object with work, worker := .processing item }
          inHook := false
          trace := system.trace ++ [.processes item] }
  | stops (quiet : system.inHook = false) (waits : system.object.worker = .waiting)
      (shut : system.object.work.closed = true) :
      Turn system .step
        { system with
          object := { system.object with worker := .finished }
          inHook := true
          trace := system.trace ++ [.stopped] }
  | leaves (inside : system.inHook = true) : Turn system .complete { system with inHook := false }
  | finishes {item : ι} (quiet : system.inHook = false)
      (busy : system.object.worker = .processing item) :
      Turn system .complete
        { system with object := { system.object with worker := .waiting }, inHook := false }
  | panics (busy : system.inHook = true ∨ ∃ item, system.object.worker = .processing item) :
      Turn system .panic
        { system with object := { system.object with worker := .dead }, inHook := false }
  | closes {byWorker : Bool} (isOpen : system.object.work.closed = false) :
      Turn system (.shutDown byWorker)
        { system with
          object := { system.object with work := { system.object.work with closed := true } }
          shutdowns := system.shutdowns ++ [{ byWorker, stage := .closing }] }
  | comesLate {byWorker : Bool} (shut : system.object.work.closed = true) :
      Turn system (.shutDown byWorker)
        { system with shutdowns := system.shutdowns ++ [{ byWorker, stage := .late }] }
  | takesHandle {place : Nat} {byWorker : Bool}
      (found : system.shutdowns[place]? = some { byWorker, stage := .closing }) :
      Turn system (.advance place)
        { system.withStage place { byWorker, stage := .closing }
            (if system.joinable then .joining else .discarding) with
          joinable := false }
  | joins {place : Nat} {byWorker : Bool}
      (found : system.shutdowns[place]? = some { byWorker, stage := .joining })
      (free : byWorker = true ∨ system.hasEnded = true) :
      Turn system (.advance place)
        (system.withStage place { byWorker, stage := .joining } .discarding)
  | discards {place : Nat} {byWorker : Bool} {item : ι} {rest : List ι}
      (found : system.shutdowns[place]? = some { byWorker, stage := .discarding })
      (in_front : system.object.work.queue.items = item :: rest) :
      Turn system (.advance place)
        { system with
          object :=
            { system.object with
              work :=
                { system.object.work with
                  queue := { system.object.work.queue with items := rest } } }
          discarded := system.discarded ++ [item] }
  | returns {place : Nat} {byWorker : Bool}
      (found : system.shutdowns[place]? = some { byWorker, stage := .discarding })
      (none_left : system.object.work.queue.items = []) :
      Turn system (.advance place)
        (system.withStage place { byWorker, stage := .discarding } .returned)

theorem step_cases (system : ActiveSystem ι) :
    system.perform .step = system ∨ system.Turn .step (system.perform .step) := by
  rw [perform]
  cases quiet : system.inHook with
  | true => exact Or.inl rfl
  | false =>
      simp only [Bool.false_eq_true, if_false, ActiveObject.step?]
      cases state : system.object.worker with
      | starting => exact Or.inr (.starts quiet state)
      | waiting =>
          cases shut : system.object.work.closed with
          | true => exact Or.inr (.stops quiet state shut)
          | false =>
              cases given : system.object.work.next? with
              | none => exact Or.inl rfl
              | some next => exact Or.inr (.takes quiet state given)
      | processing | finished | dead => exact Or.inl rfl

theorem advance_cases (system : ActiveSystem ι) (place : Nat) :
    system.perform (.advance place) = system ∨
      system.Turn (.advance place) (system.perform (.advance place)) := by
  rw [perform]
  cases found : system.shutdowns[place]? with
  | none => exact Or.inl rfl
  | some shutdown =>
      obtain ⟨byWorker, stage⟩ := shutdown
      cases stage with
      | closing => exact Or.inr (.takesHandle found)
      | joining =>
          simp only [proceed]
          split
          · next free =>
            rw [Bool.or_eq_true] at free
            exact Or.inr (.joins found free)
          · exact Or.inl rfl
      | discarding =>
          simp only [proceed]
          cases given : system.object.work.discardOne? with
          | none =>
              rw [WorkQueue.discardOne?, Option.map_eq_none_iff, Fifo.pop?_eq_none_iff] at given
              exact Or.inr (.returns found given)
          | some next =>
              obtain ⟨item, work⟩ := next
              obtain ⟨rest, in_front, rfl⟩ := WorkQueue.discardOne?_eq_some_iff.mp given
              exact Or.inr (.discards found in_front)
      | returned | late => exact Or.inl rfl

theorem perform_cases (system : ActiveSystem ι) (move : ActiveMove ι) :
    system.perform move = system ∨ system.Turn move (system.perform move) := by
  cases move with
  | enqueue item =>
      rw [perform, ActiveObject.enqueue]
      cases pushed : system.object.work.push item with
      | error => exact Or.inl rfl
      | ok work => exact Or.inr (.enqueued pushed)
  | step => exact system.step_cases
  | complete =>
      rw [perform]
      cases inside : system.inHook with
      | true => exact Or.inr (.leaves inside)
      | false =>
          simp only [Bool.false_eq_true, if_false, ActiveObject.current?]
          cases state : system.object.worker with
          | processing item => exact Or.inr (.finishes inside state)
          | starting | waiting | finished | dead => exact Or.inl rfl
  | panic =>
      rw [perform]
      split
      · next busy =>
        refine Or.inr (.panics ?_)
        rw [Bool.or_eq_true] at busy
        refine busy.imp_right fun current => ?_
        rw [ActiveObject.current?] at current
        cases state : system.object.worker <;> simp [state] at current ⊢
      · exact Or.inl rfl
  | shutDown byWorker =>
      rw [perform, ActiveObject.close, WorkQueue.close]
      cases state : system.object.work.closed with
      | false => exact Or.inr (.closes state)
      | true =>
          have late : system.Turn (.shutDown byWorker) _ := .comesLate state
          have same : ({ system.object.work with closed := true } : WorkQueue ι) =
              system.object.work := by
            rw [← state]
          simp only [same]
          exact Or.inr late
  | advance place => exact system.advance_cases place

/-- A worker that has ended shows nothing more. -/
theorem Turn.ended {move : ActiveMove ι} {next : ActiveSystem ι} (turn : system.Turn move next)
    (ended : system.hasEnded = true) : next.hasEnded = true ∧ next.trace = system.trace := by
  obtain ⟨quiet, gone⟩ := hasEnded_iff.mp ended
  cases turn with
  | starts _ state | takes _ state | stops _ state | finishes _ state =>
      rw [state] at gone
      cases gone with
      | inl finished => cases finished
      | inr dead => cases dead
  | leaves inside => exact absurd (quiet.symm.trans inside) (by simp)
  | panics busy =>
      rcases busy with inside | ⟨item, state⟩
      · exact absurd (quiet.symm.trans inside) (by simp)
      · rw [state] at gone
        cases gone with
        | inl finished => cases finished
        | inr dead => cases dead
  | enqueued | closes | comesLate | takesHandle | joins | discards | returns => exact ⟨ended, rfl⟩

end ActiveSystem

end Reactor

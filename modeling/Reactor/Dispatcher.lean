import Reactor.InterruptQueue

/-!
# Dispatchers

Components decide when a callback is due, and a dispatcher decides where it runs: at once, when a
waiting list is pumped, or in the bottom half of an interrupt.
-/

namespace Reactor

/-- Where deliveries go. -/
inductive Route where
  /-- They run at once. -/
  | inline
  /-- They wait in a list until it is pumped. -/
  | deferred
  /-- They wait in an interrupt queue until it is drained. -/
  | interrupt
deriving DecidableEq

/-- A dispatcher of deliveries `δ` over a state `σ`. -/
structure Dispatcher (σ δ : Type) where
  /-- Where deliveries go. -/
  route : Route
  /-- The list in which deferred deliveries wait. -/
  backlog : Part σ (Fifo δ)
  /-- The interrupt queue of this dispatcher. -/
  interrupts : Part σ (InterruptQueue δ)

/-- Which waiting delivery runs next. -/
inductive PumpOrder where
  | oldestFirst
  | newestFirst
deriving DecidableEq

namespace Dispatcher

variable {σ δ : Type}

/-- Accepts a delivery, which `run` runs when its time has come.  The waiting list has no limit; a
full interrupt queue panics. -/
def dispatch (dispatcher : Dispatcher σ δ) (run : δ → Exec σ Unit) (delivery : δ) :
    Exec σ Unit :=
  match dispatcher.route with
  | .inline => run delivery
  | .deferred => dispatcher.backlog.update fun list => (list.push? delivery).getD list
  | .interrupt =>
      InterruptQueue.push dispatcher.interrupts (pure ()) delivery { bytes := 0 }

/-- Takes the next waiting delivery of a list. -/
def next? (order : PumpOrder) (list : Fifo δ) : Option (δ × Fifo δ) :=
  match order with
  | .oldestFirst => list.pop?
  | .newestFirst => list.popLast?

/-- Takes deliveries off the waiting list and runs them until none is left or `limit` have run, and
answers how many ran.  `budget` bounds their number. -/
def pump (backlog : Part σ (Fifo δ)) (run : δ → Exec σ Unit) (order : PumpOrder) :
    Nat → Option Nat → Exec σ Nat
  | 0, _ => throw .exhausted
  | _ + 1, some 0 => return 0
  | budget + 1, limit => do
      match next? order (← backlog.read) with
      | none => return 0
      | some (delivery, rest) =>
          backlog.write rest
          run delivery
          return (← pump backlog run order budget (limit.map (· - 1))) + 1

/-- Runs what waits at a dispatcher and answers how many deliveries ran.  An interrupt queue is
drained; every other dispatcher pumps the waiting list. -/
def work (dispatcher : Dispatcher σ δ) (run : δ → Exec σ Unit) (order : PumpOrder) (budget : Nat)
    (limit : Option Nat) : Exec σ Nat :=
  match dispatcher.route with
  | .interrupt => InterruptQueue.drain dispatcher.interrupts run budget
  | _ => pump dispatcher.backlog run order budget limit

/-- The number of deliveries that wait at a dispatcher. -/
def pending (dispatcher : Dispatcher σ δ) (state : σ) : Nat :=
  match dispatcher.route with
  | .interrupt => (dispatcher.interrupts.get state).queue.size
  | _ => (dispatcher.backlog.get state).size

end Dispatcher

end Reactor

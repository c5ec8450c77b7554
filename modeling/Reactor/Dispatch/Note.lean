import Reactor.Log

/-!
# What executors report

Each constructor is one kind of report; `record` gives its level and its wording.
-/

namespace Reactor

/-- A report of an executor. -/
inductive DispatchNote where
  /-- A dispatch queue has started its workers. -/
  | poolStarted (name : String) (threads : Nat)
  /-- An operation is being submitted. -/
  | submitted (name : String)
  /-- A dispatch queue has stopped and dropped some operations. -/
  | poolStopped (name : String) (dropped : Nat)
  /-- An active object has started. -/
  | objectStarted (name : String)
  /-- An active object has been shut down and has dropped some items. -/
  | objectShutDown (name : String) (dropped : Nat)
  /-- An active object has stopped because it was dropped. -/
  | objectStopped (name : String)
  /-- An item came after the shutdown. -/
  | tooLate (name : String)
  /-- A worker had been ended by a panic. -/
  | workerDied (name worker : String)
  /-- An executor was torn down by its own worker. -/
  | tornDownFromWithin (name : String)

/-- The log record of a report. -/
def DispatchNote.record : DispatchNote → LogRecord
  | poolStarted name threads =>
      ⟨.debug, s!"dispatch queue '{name}' started with {threads} worker(s)"⟩
  | submitted name => ⟨.trace, s!"dispatch queue '{name}': dispatch"⟩
  | poolStopped name dropped =>
      ⟨.debug, s!"dispatch queue '{name}' stopped, {dropped} pending operation(s) dropped"⟩
  | objectStarted name => ⟨.debug, s!"active object '{name}' started"⟩
  | objectShutDown name dropped =>
      ⟨.debug, s!"active object '{name}' stopped, {dropped} pending item(s) dropped"⟩
  | objectStopped name => ⟨.debug, s!"active object '{name}' stopped"⟩
  | tooLate name => ⟨.warn, s!"active object '{name}': item enqueued after shutdown dropped"⟩
  | workerDied name worker =>
      ⟨.error, s!"{name}: worker {worker} terminated by a panicking operation"⟩
  | tornDownFromWithin name =>
      ⟨.warn, s!"{name}: torn down from its own worker, leaving it to exit on its own"⟩

end Reactor

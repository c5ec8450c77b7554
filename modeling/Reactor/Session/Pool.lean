import Reactor.Dispatch.Pool
import Reactor.Session.Executor

/-!
# Sessions with a dispatch queue

After every step the workers go on until none of them can do anything more: a worker is then idle
with nothing to take, held by an operation, or dead.
-/

namespace Reactor.Session

/-- A step of a session with a dispatch queue. -/
inductive PoolStep where
  /-- Submits an operation; panics if it is refused. -/
  | dispatch (job : Job)
  /-- Submits an operation, or says why it is refused. -/
  | tryDispatch (job : Job)
  /-- Lets every held operation go on. -/
  | release
  /-- Lets every live worker run one operation that waits for the others. -/
  | meet
  /-- Drops the queue. -/
  | drop
  /-- Holds an operation on the only worker, submits others, and drops the queue from the first. -/
  | dropFromWorker (pending : List Nat)

/-- The session's queue, until it is dropped. -/
abbrev PoolBench := Option (Pool Job)

namespace PoolBench

/-- What an operation does once a worker has taken it, short of holding the worker. -/
def work (pool : Pool Job) (worker : Nat) (job : Job) : List WorkMark × Pool Job :=
  match job.kind with
  | .run => ([.ran job.id], pool.finish worker)
  | .hold => ([], pool)
  | .panic => ([.ran job.id], pool.crash worker)

/-- Lets idle workers take operations, at most `budget` of them. -/
def settleWithin : Nat → Pool Job → List WorkMark × Pool Job
  | 0, pool => ([], pool)
  | budget + 1, pool =>
      match pool.pickUp? with
      | none => ([], pool)
      | some (worker, job, taken) =>
          let (marks, next) := work taken worker job
          let (more, last) := settleWithin budget next
          (marks ++ more, last)

/-- Lets the workers go on until none of them can do anything more. -/
def settle (pool : Pool Job) : List WorkMark × Pool Job := settleWithin pool.work.size pool

/-- The size of the operations that a session submits. -/
def footprint : Footprint := { bytes := 2 * wordBytes, align := wordBytes }

/-- Submits an operation, which panics if it does not fit; a refused operation is dropped. -/
def submit (pool : Pool Job) (job : Job) :
    Except Misfit (Option DispatchError) × List WorkMark × Pool Job :=
  match pool.housing.misfit? footprint with
  | some misfit => (.error misfit, [.dropped job.id], pool)
  | none =>
      match pool.submit job with
      | .error error => (.ok (some error), [.dropped job.id], pool)
      | .ok grown => (.ok none, [], grown)

/-- The answer to a submission that panics if it is refused. -/
def insisted (pool : Pool Job) : Except Misfit (Option DispatchError) → Reply
  | .error misfit => .failed (.panic misfit.message)
  | .ok none => .done
  | .ok (some error) => .failed (.panic (pool.refusal error))

/-- The answer to a submission that says why it is refused. -/
def answered : Except Misfit (Option DispatchError) → Reply
  | .error misfit => .failed (.panic misfit.message)
  | .ok refusal => .ofSubmission refusal

/-- Submits an operation and lets the workers go on. -/
def submitAndSettle (pool : Pool Job) (job : Job)
    (reply : Except Misfit (Option DispatchError) → Reply) : WorkShown × PoolBench :=
  let (result, dropped, next) := submit pool job
  let (marks, settled) := settle next
  ({ reply := reply result
     marks := dropped ++ marks
     notes := [.submitted pool.config.name] },
    some settled)

/-- Lets every held operation come to its end. -/
def unhold (pool : Pool Job) : List WorkMark × Pool Job :=
  (pool.running.map fun job => .ran job.id, pool.finishAll)

/-- What the workers show when each live one runs an operation that waits for the others: their
names, or only their number if a worker has died. -/
def meeting (pool : Pool Job) : List WorkMark :=
  if pool.live.length = pool.workers.length then
    pool.live.map fun number => .thread (pool.workerName number)
  else [.met pool.live.length]

/-- Lets the live workers meet, each in an operation of its own.  If such an operation is refused, so
is the first one, and nobody meets. -/
def meet (pool : Pool Job) : WorkShown × PoolBench :=
  if pool.live.isEmpty then ({ reply := .silent, marks := meeting pool }, some pool)
  else
    match submit pool { id := 0, kind := .run } with
    | (.ok none, _, _) =>
        let notes := pool.live.map fun _ => .submitted pool.config.name
        ({ reply := .silent, marks := meeting pool, notes }, some pool)
    | (refused, dropped, left) =>
        ({ reply := insisted pool refused
           marks := dropped
           notes := [.submitted pool.config.name] },
          some left)

/-- Submits operations that run through, one after the other, while the only worker is held. -/
def submitAll (pool : Pool Job) : List Nat → List Reply × List WorkMark × Pool Job
  | [] => ([], [], pool)
  | id :: ids =>
      let (result, dropped, next) := submit pool { id, kind := .run }
      let (replies, marks, last) := submitAll next ids
      (answered result :: replies, dropped ++ marks, last)

/-- Holds an operation on the only worker, submits others behind it and drops the queue from it.  If
the first operation is refused, the queue stays. -/
def dropFromWorker (pool : Pool Job) (pending : List Nat) : WorkShown × PoolBench :=
  let submitted := DispatchNote.submitted pool.config.name
  match submit pool { id := 0, kind := .hold } with
  | (.ok none, _, taken) =>
      let (marks, held) := settle taken
      let (replies, refused, filled) := submitAll held pending
      let (dropped, notes) := filled.teardownFromWithin
      ({ reply := .several replies
         marks := marks ++ refused ++ dropped.map fun job => .dropped job.id
         notes := submitted :: pending.map (fun _ => submitted) ++ notes },
        none)
  | (refused, _, left) =>
      ({ reply := insisted pool refused, notes := [submitted] }, some left)

/-- Takes a step with a queue that has not been dropped. -/
def takeWith (pool : Pool Job) : PoolStep → WorkShown × PoolBench
  | .dispatch job => submitAndSettle pool job (insisted pool)
  | .tryDispatch job => submitAndSettle pool job answered
  | .release =>
      let (released, freed) := unhold pool
      let (marks, settled) := settle freed
      ({ reply := .silent, marks := released ++ marks }, some settled)
  | .meet => meet pool
  | .drop =>
      let (released, freed) := unhold pool.close
      let (dropped, notes) := freed.teardown
      let marks := released ++ dropped.map fun job => .dropped job.id
      ({ reply := .silent, marks, notes }, none)
  | .dropFromWorker pending => dropFromWorker pool pending

/-- Takes a step. -/
def take : PoolBench → PoolStep → WorkShown × PoolBench
  | some pool, step => takeWith pool step
  | none, .release => ({ reply := .silent }, none)
  | none, _ => ({ reply := .missing "queue" }, none)

end PoolBench

end Reactor.Session

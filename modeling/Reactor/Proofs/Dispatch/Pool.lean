import Reactor.Dispatch.Pool
import Reactor.Proofs.Dispatch.Ledger

/-!
# Dispatch queues and their workers

Whoever holds a dispatch queue submits operations, and its workers pick them up, run them to their
ends or die of them.  When the queue is dropped it is closed first, and what waits is dropped in the
end; the workers may still be at work in between.  A single worker runs one operation at a time, so
it runs the accepted operations in their order, as far as it gets.
-/

namespace Reactor

/-- A dispatch queue and what has become of the operations that were submitted to it. -/
structure PoolSystem (ω : Type) where
  pool : Pool ω
  accepted : List ω := []
  /-- The operations that workers have begun to run. -/
  begun : List ω := []
  /-- Those that have come to their ends, by a panic or otherwise. -/
  ended : List ω := []
  /-- The operations that were dropped without being run. -/
  dropped : List ω := []

/-- A turn at a dispatch queue. -/
inductive PoolMove (ω : Type) where
  | submit (footprint : Footprint) (operation : ω)
  /-- A worker picks an operation up, if there is one and a worker is idle. -/
  | pickUp
  | finish (worker : Nat)
  | crash (worker : Nat)
  /-- The queue begins to be torn down. -/
  | close
  /-- One waiting operation is dropped, once the queue has been closed. -/
  | discard

/-- Whether a turn drops a waiting operation. -/
def PoolMove.isDiscard {ω : Type} : PoolMove ω → Bool
  | .discard => true
  | _ => false

namespace Pool

variable {ω : Type} {pool next : Pool ω} {operation : ω}

theorem pickUp?_eq_some_iff {worker : Nat} : pool.pickUp? = some (worker, operation, next) ↔
    pool.workers.findIdx? isIdle = some worker ∧
      ∃ work, pool.work.next? = some (operation, work) ∧
        next = { pool with work, workers := pool.workers.set worker (.running operation) } := by
  rw [pickUp?]
  cases pool.workers.findIdx? isIdle with
  | none => simp
  | some idle =>
      cases pool.work.next? with
      | none => simp
      | some given =>
          obtain ⟨given, rest⟩ := given
          simp only [bind, Option.bind, pure, Option.some.injEq, Prod.mk.injEq]
          constructor
          · rintro ⟨rfl, rfl, rfl⟩
            exact ⟨rfl, rest, ⟨rfl, rfl⟩, rfl⟩
          · rintro ⟨rfl, _, ⟨rfl, rfl⟩, rfl⟩
            exact ⟨rfl, rfl, rfl⟩

theorem live_eq_nil_iff : pool.live = [] ↔ ∀ worker ∈ pool.workers, isLive worker = false := by
  rw [live, List.filterMap_eq_nil_iff]
  constructor
  · intro none_live worker member
    obtain ⟨number, inside, rfl⟩ := List.getElem_of_mem member
    have skipped := none_live (pool.workers[number], number)
      (List.mk_mem_zipIdx_iff_getElem?.mpr (List.getElem?_eq_getElem inside))
    simpa using skipped
  · rintro none_live ⟨worker, number⟩ member
    simp [none_live worker (List.fst_mem_of_mem_zipIdx member)]

end Pool

namespace PoolSystem

variable {ω : Type} {system : PoolSystem ω}

/-- The system after a turn. -/
def perform (system : PoolSystem ω) : PoolMove ω → PoolSystem ω
  | .submit footprint operation =>
      match system.pool.housing.misfit? footprint with
      | some _ => system
      | none =>
          match system.pool.submit operation with
          | .ok pool => { system with pool, accepted := system.accepted ++ [operation] }
          | .error _ => system
  | .pickUp =>
      match system.pool.pickUp? with
      | some (_, operation, pool) => { system with pool, begun := system.begun ++ [operation] }
      | none => system
  | .finish worker =>
      match (system.pool.workers[worker]?).bind Pool.current? with
      | some operation =>
          { system with pool := system.pool.finish worker, ended := system.ended ++ [operation] }
      | none => system
  | .crash worker =>
      match (system.pool.workers[worker]?).bind Pool.current? with
      | some operation =>
          { system with pool := system.pool.crash worker, ended := system.ended ++ [operation] }
      | none => system
  | .close => { system with pool := system.pool.close }
  | .discard =>
      if system.pool.work.closed then
        match system.pool.work.discardOne? with
        | some (operation, work) =>
            { system with
              pool := { system.pool with work }
              dropped := system.dropped ++ [operation] }
        | none => system
      else system

/-- The system after some turns. -/
def after (system : PoolSystem ω) (moves : List (PoolMove ω)) : PoolSystem ω :=
  moves.foldl perform system

theorem after_concat (moves : List (PoolMove ω)) (move : PoolMove ω) :
    system.after (moves ++ [move]) = (system.after moves).perform move := by
  rw [after, List.foldl_append]
  rfl

/-! ## The books of a dispatch queue -/

/-- The books of the work queue: what a worker has begun to run it has taken. -/
def ledger (system : PoolSystem ω) : WorkLedger ω where
  work := system.pool.work
  accepted := system.accepted
  taken := system.begun
  discarded := system.dropped

/-- A turn at a dispatch queue comes to one turn at its work queue, or to none. -/
theorem exists_ledger_perform (system : PoolSystem ω) (move : PoolMove ω) :
    ∃ turns, (system.perform move).ledger = system.ledger.after turns ∧
      turns.countP WorkMove.isDiscard = if move.isDiscard then 1 else 0 := by
  cases move with
  | submit footprint operation =>
      cases misfit : system.pool.housing.misfit? footprint with
      | some _ => exact ⟨[], by rw [perform, misfit]; rfl, rfl⟩
      | none =>
          refine ⟨[.push operation], ?_, rfl⟩
          cases pushed : system.pool.work.push operation <;>
            simp [perform, misfit, Pool.submit, pushed, Except.map, ledger, WorkLedger.after,
              WorkLedger.perform]
  | pickUp =>
      cases picked : system.pool.pickUp? with
      | none => exact ⟨[], by rw [perform, picked]; rfl, rfl⟩
      | some given =>
          obtain ⟨worker, operation, pool⟩ := given
          obtain ⟨_, work, next, rfl⟩ := Pool.pickUp?_eq_some_iff.mp picked
          refine ⟨[.next], ?_, rfl⟩
          simp [perform, picked, ledger, WorkLedger.after, WorkLedger.perform, next]
  | finish worker | crash worker =>
      rw [perform]
      split <;> exact ⟨[], rfl, rfl⟩
  | close => exact ⟨[.close], rfl, rfl⟩
  | discard =>
      refine ⟨[.discard], ?_, rfl⟩
      cases shut : system.pool.work.closed <;> cases given : system.pool.work.discardOne? <;>
        simp [perform, shut, given, ledger, WorkLedger.after, WorkLedger.perform]

theorem exists_ledger_after (system : PoolSystem ω) (moves : List (PoolMove ω)) :
    ∃ turns, (system.after moves).ledger = system.ledger.after turns ∧
      turns.countP WorkMove.isDiscard = moves.countP PoolMove.isDiscard := by
  induction moves using List.reverseRecOn with
  | nil => exact ⟨[], rfl, rfl⟩
  | append_singleton moves move induction =>
      obtain ⟨turns, same, counted⟩ := induction
      obtain ⟨last, last_same, last_counted⟩ := (system.after moves).exists_ledger_perform move
      refine ⟨turns ++ last, ?_, ?_⟩
      · rw [after_concat, last_same, same, WorkLedger.after_append]
      · rw [List.countP_append, List.countP_append, counted, last_counted, List.countP_singleton]

/-! ## A single worker -/

/-- One worker, which has come to the end of all it has begun but for what it runs. -/
structure Serial (system : PoolSystem ω) : Prop where
  alone : ∃ worker, system.pool.workers = [worker]
  begun_eq : system.begun = system.ended ++ system.pool.running

theorem Serial.perform (serial : system.Serial) (move : PoolMove ω) :
    (system.perform move).Serial := by
  obtain ⟨⟨worker, alone⟩, begun_eq⟩ := serial
  have running : system.pool.running = (Pool.current? worker).toList := by
    rw [Pool.running, alone]
    cases worker <;> rfl
  have ends : ∀ (place : Nat) (operation : ω),
      (system.pool.workers[place]?).bind Pool.current? = some operation →
      place = 0 ∧ system.begun = system.ended ++ [operation] := by
    intro place operation current
    rw [alone] at current
    cases place with
    | zero =>
        refine ⟨rfl, ?_⟩
        rw [begun_eq, running, show Pool.current? worker = some operation from current]
        rfl
    | succ place => cases current
  cases move with
  | submit footprint operation =>
      rw [PoolSystem.perform]
      split
      · exact ⟨⟨worker, alone⟩, begun_eq⟩
      · rw [Pool.submit]
        cases system.pool.work.push operation <;> exact ⟨⟨worker, alone⟩, begun_eq⟩
  | pickUp =>
      rw [PoolSystem.perform]
      split
      · next place operation pool picked =>
        obtain ⟨found, work, _, rfl⟩ := Pool.pickUp?_eq_some_iff.mp picked
        rw [alone] at found
        cases worker with
        | idle =>
            cases found
            refine ⟨⟨.running operation, by rw [alone]; rfl⟩, ?_⟩
            rw [begun_eq, running, Pool.running, alone]
            simp [Pool.current?]
        | running | dead => cases found
      · exact ⟨⟨worker, alone⟩, begun_eq⟩
  | finish place | crash place =>
      rw [PoolSystem.perform]
      split
      · next operation current =>
        obtain ⟨rfl, begun⟩ := ends place operation current
        refine ⟨⟨_, congrArg (List.set · 0 _) alone⟩, ?_⟩
        simp [begun, Pool.running, Pool.finish, Pool.crash, alone, Pool.current?]
      · exact ⟨⟨worker, alone⟩, begun_eq⟩
  | close => exact ⟨⟨worker, alone⟩, begun_eq⟩
  | discard =>
      rw [PoolSystem.perform]
      split
      · split <;> exact ⟨⟨worker, alone⟩, begun_eq⟩
      · exact ⟨⟨worker, alone⟩, begun_eq⟩

theorem Serial.after (serial : system.Serial) (moves : List (PoolMove ω)) :
    (system.after moves).Serial := by
  induction moves using List.reverseRecOn with
  | nil => exact serial
  | append_singleton moves move induction =>
      rw [after_concat]
      exact induction.perform move

theorem Serial.length_running_le (serial : system.Serial) : system.pool.running.length ≤ 1 := by
  obtain ⟨worker, alone⟩ := serial.alone
  rw [Pool.running, alone]
  exact List.length_filterMap_le Pool.current? [worker]

/-- A dispatch queue whose workers have all died begins nothing more. -/
theorem begun_after_of_dead (dead : system.pool.live = []) (moves : List (PoolMove ω)) :
    (system.after moves).begun = system.begun ∧ (system.after moves).pool.live = [] := by
  induction moves using List.reverseRecOn with
  | nil => exact ⟨rfl, dead⟩
  | append_singleton moves move induction =>
      rw [after_concat]
      obtain ⟨begun_eq, still_dead⟩ := induction
      have none_live := Pool.live_eq_nil_iff.mp still_dead
      have none_current (worker : Nat) :
          (((system.after moves).pool.workers[worker]?).bind Pool.current?) = none := by
        cases found : (system.after moves).pool.workers[worker]? with
        | none => rfl
        | some state =>
            have ended := none_live state (List.mem_of_getElem? found)
            cases state with
            | dead => rfl
            | idle | running => cases ended
      cases move with
      | submit footprint operation =>
          rw [perform]
          split
          · exact ⟨begun_eq, still_dead⟩
          · rw [Pool.submit]
            cases (system.after moves).pool.work.push operation <;> exact ⟨begun_eq, still_dead⟩
      | pickUp =>
          rw [perform]
          split
          · next worker operation pool picked =>
            obtain ⟨found, _⟩ := Pool.pickUp?_eq_some_iff.mp picked
            obtain ⟨inside, idle, _⟩ := List.findIdx?_eq_some_iff_getElem.mp found
            have ended := none_live _ (List.getElem_mem inside)
            cases state : (system.after moves).pool.workers[worker] <;>
              simp [state, Pool.isIdle, Pool.isLive] at idle ended
          · exact ⟨begun_eq, still_dead⟩
      | finish worker | crash worker =>
          rw [perform, none_current worker]
          exact ⟨begun_eq, still_dead⟩
      | close => exact ⟨begun_eq, still_dead⟩
      | discard =>
          rw [perform]
          split
          · split <;> exact ⟨begun_eq, still_dead⟩
          · exact ⟨begun_eq, still_dead⟩

/-- Once a dispatch queue has been closed no operation is accepted or begun, and those that wait are
dropped one by one. -/
theorem dropped_after_of_closed {capacity : Capacity} (balanced : system.ledger.Balanced capacity)
    (shut : system.pool.work.closed = true) (later : List (PoolMove ω)) :
    (system.after later).accepted = system.accepted ∧
      (system.after later).begun = system.begun ∧
      (system.pool.work.size ≤ later.countP PoolMove.isDiscard →
        system.accepted = system.begun ++ (system.after later).dropped) := by
  obtain ⟨turns, same, counted⟩ := system.exists_ledger_after later
  have winding : system.ledger.Winding (system.ledger.after turns) :=
    WorkLedger.winding_after shut turns
  have still_balanced := balanced.after turns
  have few : (system.ledger.after turns).waiting.length ≤ _ :=
    WorkLedger.length_waiting_after_le shut turns
  rw [← same] at winding still_balanced few
  refine ⟨winding.accepted_eq, winding.taken_eq, fun enough => ?_⟩
  have none_waits : (system.after later).ledger.waiting = [] := by
    apply List.eq_nil_of_length_eq_zero
    rw [counted] at few
    have all : system.ledger.waiting.length = system.pool.work.size := rfl
    omega
  have books := still_balanced.accepted_eq
  rw [none_waits, List.append_nil, winding.accepted_eq, winding.taken_eq] at books
  exact books

/-! ## Operations leave in the order in which they came -/

section Started

variable {config : DispatchConfig} {housing : Housing} {capacity : Capacity} {pool : Pool ω}

theorem ledger_started (started : Pool.start? config housing capacity = some pool) :
    ({ pool } : PoolSystem ω).ledger = .opened capacity := by
  rw [Pool.start?] at started
  split at started
  · cases started
  · cases started
    rfl

theorem serial_started (started : Pool.start? config housing capacity = some pool)
    (single : config.threads = 1) : ({ pool } : PoolSystem ω).Serial := by
  rw [Pool.start?, single] at started
  cases started
  exact ⟨⟨.idle, rfl⟩, rfl⟩

end Started

/-- What a work queue gives out, what it discards and what still waits are the accepted items in
their order.  So a dispatch queue with one worker begins the accepted operations in their order, and
those it has not begun when it is torn down are dropped. -/
theorem work_leaves_in_order {α : Type} (capacity : Capacity) :
    (∀ turns : List (WorkMove α), ∀ ledger, ledger = (WorkLedger.opened capacity).after turns →
      ledger.accepted = ledger.taken ++ ledger.discarded ++ ledger.work.queue.items ∧
      (ledger.work.closed = true ↔ WorkMove.close ∈ turns) ∧
      (ledger.work.closed = true → ∀ later,
        (ledger.after later).work.next? = none ∧
        (ledger.after later).taken = ledger.taken ∧
        (ledger.after later).accepted = ledger.accepted) ∧
      (∀ item, ledger.work.push item = .error .shutDown ↔ ledger.work.closed = true) ∧
      (∀ item error, ledger.work.push item = .error (.queueFull error) ↔
        ledger.work.closed = false ∧
          ∃ limit, capacity = .bounded limit ∧ ledger.work.size = limit ∧
            error = { what := "queue", capacity := limit }) ∧
      (∀ item error, ledger.work.push item = .error error →
        ledger.perform (.push item) = ledger) ∧
      (ledger.work.closed = true →
        ledger.after (List.replicate ledger.work.size .discard) =
          { ledger with
            work := ledger.work.discard.2
            discarded := ledger.discarded ++ ledger.work.discard.1 }) ∧
      (WorkMove.close ∈ turns →
        ∃! before, (∃ later, turns = before ++ .close :: later) ∧
          ((WorkLedger.opened capacity).after before).work.close.1 = true)) ∧
    ∀ (config : DispatchConfig) (housing : Housing) (pool : Pool α),
      Pool.start? config housing capacity = some pool → config.threads = 1 →
      ∀ moves, ∀ system, system = ({ pool } : PoolSystem α).after moves →
        system.begun = system.ended ++ system.pool.running ∧
        system.pool.running.length ≤ 1 ∧
        system.accepted = system.begun ++ system.dropped ++ system.pool.work.queue.items ∧
        system.accepted = system.begun ++ system.dropped ++ system.pool.teardown.1 ∧
        system.accepted = system.begun ++ system.dropped ++ system.pool.teardownFromWithin.1 ∧
        (system.pool.live = [] → ∀ later, (system.after later).begun = system.begun) ∧
        (system.pool.work.closed = true → ∀ later,
          (system.after later).accepted = system.accepted ∧
          (system.after later).begun = system.begun ∧
          (system.pool.work.size ≤ later.countP PoolMove.isDiscard →
            system.accepted = system.begun ++ (system.after later).dropped)) := by
  constructor
  · rintro turns ledger rfl
    have balanced : ((WorkLedger.opened capacity).after turns).Balanced capacity :=
      (WorkLedger.balanced_opened capacity).after turns
    refine ⟨balanced.accepted_eq, WorkLedger.closed_after_iff rfl turns, ?_,
      fun item => WorkLedger.push_eq_shutDown_iff, fun item error => balanced.push_eq_queueFull_iff,
      ?_, WorkLedger.after_discards, WorkLedger.existsUnique_close rfl⟩
    · intro shut later
      obtain ⟨closed, accepted_eq, taken_eq⟩ := WorkLedger.winding_after shut later
      exact ⟨WorkQueue.next?_of_closed closed, taken_eq, accepted_eq⟩
    · intro item error refused
      rw [WorkLedger.perform, refused]
  · rintro config housing pool started single moves system rfl
    have serial := (serial_started started single).after moves
    generalize reached : ({ pool } : PoolSystem α).after moves = system at serial ⊢
    have balanced : system.ledger.Balanced capacity := by
      obtain ⟨turns, same, _⟩ := ({ pool } : PoolSystem α).exists_ledger_after moves
      rw [← reached, same, ledger_started started]
      exact (WorkLedger.balanced_opened capacity).after turns
    exact ⟨serial.begun_eq, serial.length_running_le, balanced.accepted_eq, balanced.accepted_eq,
      balanced.accepted_eq, fun dead later => (begun_after_of_dead dead later).1,
      dropped_after_of_closed balanced⟩

/-- A queue with one worker and room for two operations. -/
def narrowPool : Pool Nat :=
  { config := {}, housing := .boxed, work := .empty (.bounded 2), workers := [.idle] }

/-- The first operation kills the worker, the fourth finds the queue full, and the fifth comes too
late. -/
def fatalSystem : PoolSystem Nat :=
  ({ pool := narrowPool } : PoolSystem Nat).after
    [.submit { bytes := 8 } 1, .submit { bytes := 8 } 2, .pickUp, .crash 0,
      .submit { bytes := 8 } 3, .submit { bytes := 8 } 4, .close, .submit { bytes := 8 } 5]

theorem crashed_worker_leaves_work_to_drop :
    Pool.start? {} .boxed (.bounded 2) = some narrowPool ∧
    fatalSystem.accepted = [1, 2, 3] ∧
    fatalSystem.pool.live = [] ∧
    ∀ later, (fatalSystem.after later).begun = [1] ∧
      (2 ≤ later.countP PoolMove.isDiscard → (fatalSystem.after later).dropped = [2, 3]) := by
  have accepted : fatalSystem.accepted = [1, 2, 3] := by decide +kernel
  have begun : fatalSystem.begun = [1] := by decide +kernel
  have dead : fatalSystem.pool.live = [] := by decide +kernel
  obtain ⟨_, _, _, _, _, stuck, winding⟩ := (work_leaves_in_order (.bounded 2)).2 {} .boxed
    narrowPool rfl rfl _ fatalSystem rfl
  refine ⟨rfl, accepted, dead, fun later => ⟨(stuck dead later).trans begun, fun enough => ?_⟩⟩
  obtain ⟨_, _, drops⟩ := winding (by decide +kernel) later
  rw [accepted, begun] at drops
  exact (List.cons.inj (drops (Nat.le_trans (by decide +kernel) enough))).2.symm

end PoolSystem

end Reactor

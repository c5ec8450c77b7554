import Reactor.InterruptQueue
import Reactor.Proofs.Exec

/-!
# Draining while operations push

Operations that run in a drain push further ones, are refused while the queue is full, and panic.
What happens is recorded, and the record is compared with a plain list: every operation that runs is
the oldest that waits, an accepted one is appended and noticed once, and a refused one leaves no
trace but the attempt.
-/

namespace Reactor

/-! ## Single pushes -/

namespace InterruptQueue

variable {σ δ : Type} {queue : Part σ (InterruptQueue δ)} {notify : Exec σ Unit}

/-- An operation that fits is accepted just if there is room, and only then the notifier runs. -/
theorem runFrom_tryPush (operation : δ) {footprint : Footprint} {state : σ}
    (fits : (queue.get state).housing.misfit? footprint = none) :
    (tryPush queue notify operation footprint).runFrom state =
      match (queue.get state).offer? operation with
      | none => (.ok (.error (fullError (queue.get state))), state)
      | some grown =>
          ((do notify; pure (.ok ())) : Exec σ (Except CapacityError Unit)).runFrom
            (queue.set grown state) := by
  rw [tryPush, Exec.runFrom_bind, Part.runFrom_read]
  simp only [fits]
  cases (queue.get state).offer? operation with
  | none => rfl
  | some grown => rw [Exec.runFrom_bind, Part.runFrom_write]

theorem runFrom_tryPush_of_misfit (operation : δ) {footprint : Footprint} {state : σ}
    {misfit : Misfit} (misfits : (queue.get state).housing.misfit? footprint = some misfit) :
    (tryPush queue notify operation footprint).runFrom state =
      (.error (.panic misfit.message), state) := by
  rw [tryPush, Exec.runFrom_bind, Part.runFrom_read]
  simp only [misfits, Exec.runFrom_panic]

end InterruptQueue

/-! ## Single rounds of a drain -/

namespace InterruptQueue

variable {σ δ : Type} {queue : Part σ (InterruptQueue δ)} {run : δ → Exec σ Unit} {state : σ}

theorem runFrom_drain_of_empty (run : δ → Exec σ Unit) (budget : Nat)
    (idle : (queue.get state).queue.items = []) :
    (drain queue run (budget + 1)).runFrom state = (.ok 0, state) := by
  have none_left : (queue.get state).pop? = none := by
    rw [FunctionQueue.pop?, Fifo.pop?_eq_none_iff.mpr idle, Option.map_none]
  rw [drain, Exec.runFrom_bind, Part.runFrom_read]
  simp only [none_left, Exec.runFrom_pure]

/-- A drain takes the oldest operation before it runs it. -/
theorem runFrom_drain_of_cons (run : δ → Exec σ Unit) (budget : Nat) {operation : δ}
    {rest : List δ} (waits : (queue.get state).queue.items = operation :: rest) :
    (drain queue run (budget + 1)).runFrom state =
      ((do run operation; return (← drain queue run budget) + 1) : Exec σ Nat).runFrom
        (queue.set { queue.get state with
          queue := { (queue.get state).queue with items := rest } } state) := by
  have taken : (queue.get state).pop? = some (operation, { queue.get state with
      queue := { (queue.get state).queue with items := rest } }) := by
    simp only [FunctionQueue.pop?, Fifo.pop?, waits, Option.map_some]
  rw [drain, Exec.runFrom_bind, Part.runFrom_read]
  simp only [taken]
  rw [Exec.runFrom_bind, Part.runFrom_write]

end InterruptQueue

/-! ## Operations and what they do -/

/-- What an operation does, where `ρ` is all it can reach beside the queue. -/
inductive Behaviour (ρ δ : Type) where
  /-- It is done. -/
  | done
  /-- It panics. -/
  | panic (message : String)
  /-- It looks at the number of waiting operations and at its surroundings. -/
  | look (next : Nat → ρ → Behaviour ρ δ)
  /-- It changes its surroundings. -/
  | leave (rest : ρ) (next : Behaviour ρ δ)
  /-- It pushes an operation and panics if that is refused. -/
  | push (operation : δ) (footprint : Footprint) (next : Behaviour ρ δ)
  /-- It pushes an operation and looks whether that was refused. -/
  | tryPush (operation : δ) (footprint : Footprint)
      (next : Except CapacityError Unit → Behaviour ρ δ)
  /-- It does something and catches the panic, if there is one. -/
  | guarded (body : Behaviour ρ δ) (next : Option String → Behaviour ρ δ)

/-- What happens at an interrupt queue. -/
inductive Happening (δ : Type) where
  /-- Somebody tries to push an operation. -/
  | tried (operation : δ) (footprint : Footprint)
  /-- The notifier runs. -/
  | notified
  /-- An operation is taken and runs. -/
  | ran (operation : δ)
deriving DecidableEq

/-- An interrupt queue, all else that operations can reach, and a record of what happened. -/
structure BottomHalf (ρ δ : Type) where
  /-- The queue. -/
  queue : InterruptQueue δ
  /-- All else. -/
  rest : ρ
  /-- What happened so far. -/
  record : List (Happening δ) := []

namespace BottomHalf

variable {ρ δ : Type}

/-- The queue as a part of the whole. -/
def queuePart : Part (BottomHalf ρ δ) (InterruptQueue δ) where
  get half := half.queue
  set queue half := { half with queue }

/-- The operations that wait. -/
def waiting (half : BottomHalf ρ δ) : List δ := half.queue.queue.items

/-- Records what happens. -/
def note (happening : Happening δ) : Exec (BottomHalf ρ δ) Unit :=
  modify fun half => { half with record := half.record ++ [happening] }

/-- Panics with a message, if there is one. -/
def panicWith : Option String → Exec (BottomHalf ρ δ) Unit
  | none => pure ()
  | some message => Exec.panic message

/-- Runs the notifier, which changes the surroundings and may panic. -/
def notify (notifier : ρ → Option String × ρ) : Exec (BottomHalf ρ δ) Unit := do
  note .notified
  let half ← get
  set { half with rest := (notifier half.rest).2 }
  panicWith (notifier half.rest).1

/-- Pushes an operation. -/
def push (notifier : ρ → Option String × ρ) (operation : δ) (footprint : Footprint) :
    Exec (BottomHalf ρ δ) Unit := do
  note (.tried operation footprint)
  InterruptQueue.push queuePart (notify notifier) operation footprint

/-- Pushes an operation, or says that there is no room. -/
def tryPush (notifier : ρ → Option String × ρ) (operation : δ) (footprint : Footprint) :
    Exec (BottomHalf ρ δ) (Except CapacityError Unit) := do
  note (.tried operation footprint)
  InterruptQueue.tryPush queuePart (notify notifier) operation footprint

/-- Goes on after a run whether it panicked or not. -/
def catching (body : Exec (BottomHalf ρ δ) Unit)
    (next : Option String → Exec (BottomHalf ρ δ) Unit) : Exec (BottomHalf ρ δ) Unit := do
  match ← ExceptT.lift (ExceptT.run body) with
  | .ok () => next none
  | .error (.panic message) => next (some message)
  | .error .exhausted => throw .exhausted

end BottomHalf

/-- Does what an operation does. -/
def Behaviour.perform {ρ δ : Type} (notifier : ρ → Option String × ρ) :
    Behaviour ρ δ → Exec (BottomHalf ρ δ) Unit
  | .done => pure ()
  | .panic message => Exec.panic message
  | .look next => do
      let half ← get
      (next half.queue.queue.size half.rest).perform notifier
  | .leave rest next => do
      modify fun half => { half with rest }
      next.perform notifier
  | .push operation footprint next => do
      BottomHalf.push notifier operation footprint
      next.perform notifier
  | .tryPush operation footprint next => do
      let result ← BottomHalf.tryPush notifier operation footprint
      (next result).perform notifier
  | .guarded body next =>
      BottomHalf.catching (body.perform notifier) fun caught => (next caught).perform notifier

namespace BottomHalf

variable {ρ δ : Type}

/-- Runs an operation that has been taken from the queue. -/
def serve (notifier : ρ → Option String × ρ) (behave : δ → Behaviour ρ δ) (operation : δ) :
    Exec (BottomHalf ρ δ) Unit := do
  note (.ran operation)
  (behave operation).perform notifier

/-- Runs what waits. -/
def drain (notifier : ρ → Option String × ρ) (behave : δ → Behaviour ρ δ) (budget : Nat) :
    Exec (BottomHalf ρ δ) Nat :=
  InterruptQueue.drain queuePart (serve notifier behave) budget

end BottomHalf

/-! ## Orderly records -/

section

variable {δ : Type}

/-- The operations that ran. -/
def ranIn : List (Happening δ) → List δ
  | [] => []
  | .ran operation :: record => operation :: ranIn record
  | .tried _ _ :: record | .notified :: record => ranIn record

/-- The operations after whose pushes the notifier ran. -/
def acceptedIn : List (Happening δ) → List δ
  | [] => []
  | .tried operation _ :: .notified :: record => operation :: acceptedIn record
  | _ :: record => acceptedIn record

/-- A record is that of a list from which the oldest operation is taken and to which operations are
appended; one is refused just if it finds the list full. -/
inductive Orderly (capacity : Capacity) (housing : Housing) :
    List δ → List (Happening δ) → List δ → Prop where
  /-- Nothing happens. -/
  | quiet (waiting : List δ) : Orderly capacity housing waiting [] waiting
  /-- The oldest operation runs. -/
  | ran (operation : δ) {waiting left : List δ} {record : List (Happening δ)}
      (rest : Orderly capacity housing waiting record left) :
      Orderly capacity housing (operation :: waiting) (.ran operation :: record) left
  /-- An operation is accepted and the notifier runs. -/
  | accepted (operation : δ) {footprint : Footprint} {waiting left : List δ}
      {record : List (Happening δ)} (fits : housing.misfit? footprint = none)
      (room : capacity.admits waiting.length = true)
      (rest : Orderly capacity housing (waiting ++ [operation]) record left) :
      Orderly capacity housing waiting (.tried operation footprint :: .notified :: record) left
  /-- An operation is refused. -/
  | refused (operation : δ) {footprint : Footprint} {waiting left : List δ}
      {record : List (Happening δ)} (fits : housing.misfit? footprint = none)
      (full : capacity = .bounded waiting.length)
      (rest : Orderly capacity housing waiting record left) :
      Orderly capacity housing waiting (.tried operation footprint :: record) left
  /-- An operation does not fit into a slot. -/
  | unfit (operation : δ) {footprint : Footprint} {waiting left : List δ}
      {record : List (Happening δ)} (misfits : housing.misfit? footprint ≠ none)
      (rest : Orderly capacity housing waiting record left) :
      Orderly capacity housing waiting (.tried operation footprint :: record) left

variable {capacity : Capacity} {housing : Housing} {waiting middle left : List δ}
  {record first second : List (Happening δ)}

theorem Orderly.trans (start : Orderly capacity housing waiting first middle)
    (rest : Orderly capacity housing middle second left) :
    Orderly capacity housing waiting (first ++ second) left := by
  induction start with
  | quiet => exact rest
  | ran operation _ induction => exact .ran operation (induction rest)
  | accepted operation fits room _ induction => exact .accepted operation fits room (induction rest)
  | refused operation fits full _ induction => exact .refused operation fits full (induction rest)
  | unfit operation misfits _ induction => exact .unfit operation misfits (induction rest)

theorem ranIn_append (first second : List (Happening δ)) :
    ranIn (first ++ second) = ranIn first ++ ranIn second := by
  induction first with
  | nil => rfl
  | cons happening record induction => cases happening <;> simp [ranIn, induction]

/-- The notifier never runs by itself, so an attempt that it does not follow was no acceptance. -/
theorem Orderly.acceptedIn_tried (orderly : Orderly capacity housing waiting record left)
    (operation : δ) (footprint : Footprint) :
    acceptedIn (.tried operation footprint :: record) = acceptedIn record := by
  cases orderly <;> rfl

/-- What waited or was accepted has run, in this order, or still waits. -/
theorem Orderly.history (orderly : Orderly capacity housing waiting record left) :
    waiting ++ acceptedIn record = ranIn record ++ left := by
  induction orderly with
  | quiet => simp [acceptedIn, ranIn]
  | ran operation _ induction => simpa [acceptedIn, ranIn] using induction
  | accepted operation _ _ _ induction => simpa [acceptedIn, ranIn] using induction
  | refused _ _ _ rest induction | unfit _ _ rest induction =>
      rw [rest.acceptedIn_tried]
      exact induction

theorem Orderly.holds (orderly : Orderly capacity housing waiting record left)
    (holds : capacity.Holds waiting.length) : capacity.Holds left.length := by
  induction orderly with
  | quiet => exact holds
  | ran operation _ induction =>
      exact induction fun limit bounded => Nat.le_of_succ_le (holds limit bounded)
  | accepted operation _ room _ induction =>
      apply induction
      rintro limit rfl
      rw [Capacity.admits_bounded, decide_eq_true_iff] at room
      rw [List.length_append, List.length_singleton]
      exact room
  | refused _ _ _ _ induction | unfit _ _ _ induction => exact induction holds

end

/-! ## What a run does to the queue -/

namespace BottomHalf

variable {ρ δ : Type} {half middle after : BottomHalf ρ δ}
  {happened more : List (Happening δ)}

/-- What happened between two states, and that it was in order. -/
structure Leads (half : BottomHalf ρ δ) (happened : List (Happening δ))
    (after : BottomHalf ρ δ) : Prop where
  /-- It was recorded. -/
  record : after.record = half.record ++ happened
  /-- Operations are kept as before. -/
  housing : after.queue.housing = half.queue.housing
  /-- There is as much room as before. -/
  capacity : after.queue.queue.capacity = half.queue.queue.capacity
  /-- The queue went through what was recorded. -/
  orderly : Orderly half.queue.queue.capacity half.queue.housing half.waiting happened
    after.waiting

/-- The queue holds no more than it may. -/
def Within (half : BottomHalf ρ δ) : Prop := half.queue.queue.capacity.Holds half.waiting.length

theorem Leads.refl (half : BottomHalf ρ δ) : half.Leads [] half where
  record := (List.append_nil _).symm
  housing := rfl
  capacity := rfl
  orderly := .quiet _

theorem Leads.trans (first : half.Leads happened middle) (second : middle.Leads more after) :
    half.Leads (happened ++ more) after where
  record := by rw [second.record, first.record, List.append_assoc]
  housing := second.housing.trans first.housing
  capacity := second.capacity.trans first.capacity
  orderly := first.orderly.trans (by
    rw [← first.capacity, ← first.housing]
    exact second.orderly)

theorem Leads.within (leads : half.Leads happened after) (within : half.Within) :
    after.Within := by
  rw [Within, leads.capacity]
  exact leads.orderly.holds within

/-! ### Single pushes -/

section

variable {notifier : ρ → Option String × ρ} (operation : δ) {footprint : Footprint}

/-- The state after more has been recorded. -/
def noting (half : BottomHalf ρ δ) (happened : List (Happening δ)) : BottomHalf ρ δ :=
  { half with record := half.record ++ happened }

/-- The state after an operation has been accepted and the notifier has run. -/
def accepting (notifier : ρ → Option String × ρ) (operation : δ) (footprint : Footprint)
    (half : BottomHalf ρ δ) : BottomHalf ρ δ where
  queue :=
    { half.queue with queue := { half.queue.queue with items := half.waiting ++ [operation] } }
  rest := (notifier half.rest).2
  record := half.record ++ [.tried operation footprint] ++ [.notified]

/-- An answer, unless there is a panic. -/
def endWith {α : Type} (panic : Option String) (answer : α) : Except Halt α :=
  match panic with
  | none => .ok answer
  | some message => .error (.panic message)

theorem endWith_ne_exhausted {α : Type} {panic : Option String} {answer : α} :
    endWith panic answer ≠ .error .exhausted := by
  cases panic <;> simp [endWith]

theorem runFrom_notify {α : Type} (answer : α) (half : BottomHalf ρ δ) :
    ((do notify notifier; return answer) : Exec (BottomHalf ρ δ) α).runFrom half =
      (endWith (notifier half.rest).1 answer,
        { half.noting [.notified] with rest := (notifier half.rest).2 }) := by
  have unfolded : ((do notify notifier; return answer) : Exec (BottomHalf ρ δ) α).runFrom half =
      ((do panicWith (notifier half.rest).1; return answer) : Exec (BottomHalf ρ δ) α).runFrom
        { half.noting [.notified] with rest := (notifier half.rest).2 } := rfl
  rw [unfolded]
  cases (notifier half.rest).1 <;> rfl

/-- An attempt is recorded before it is made. -/
theorem runFrom_tryPush (notifier : ρ → Option String × ρ) (operation : δ) (footprint : Footprint)
    (half : BottomHalf ρ δ) :
    (tryPush notifier operation footprint).runFrom half =
      (InterruptQueue.tryPush queuePart (notify notifier) operation footprint).runFrom
        (half.noting [.tried operation footprint]) := rfl

theorem runFrom_tryPush_of_misfit {misfit : Misfit}
    (misfits : half.queue.housing.misfit? footprint = some misfit) :
    (tryPush notifier operation footprint).runFrom half =
      (.error (.panic misfit.message), half.noting [.tried operation footprint]) := by
  have misfits_then : (queuePart.get (half.noting [.tried operation footprint])).housing.misfit?
      footprint = some misfit := misfits
  rw [runFrom_tryPush]
  exact InterruptQueue.runFrom_tryPush_of_misfit operation misfits_then

theorem runFrom_tryPush_of_full (fits : half.queue.housing.misfit? footprint = none)
    (full : half.queue.queue.capacity.admits half.waiting.length = false) :
    (tryPush notifier operation footprint).runFrom half =
      (.ok (.error (InterruptQueue.fullError half.queue)),
        half.noting [.tried operation footprint]) := by
  have same_queue : queuePart.get (half.noting [.tried operation footprint]) = half.queue := rfl
  have handed_back := FunctionQueue.offer?_of_full operation full
  rw [← same_queue] at fits handed_back
  rw [runFrom_tryPush, InterruptQueue.runFrom_tryPush operation fits, handed_back, same_queue]

theorem runFrom_tryPush_of_room (fits : half.queue.housing.misfit? footprint = none)
    (room : half.queue.queue.capacity.admits half.waiting.length = true) :
    (tryPush notifier operation footprint).runFrom half =
      (endWith (notifier half.rest).1 (.ok ()), half.accepting notifier operation footprint) := by
  have same_queue : queuePart.get (half.noting [.tried operation footprint]) = half.queue := rfl
  have appended := FunctionQueue.offer?_of_room operation room
  rw [← same_queue] at fits
  rw [runFrom_tryPush, InterruptQueue.runFrom_tryPush operation fits, same_queue, appended]
  simp only [runFrom_notify]
  rfl

/-- A push is an attempt that panics if it is refused. -/
theorem push_eq (notifier : ρ → Option String × ρ) (operation : δ) (footprint : Footprint) :
    push notifier operation footprint =
      tryPush notifier operation footprint >>= fun
        | .ok () => pure ()
        | .error full => Exec.panic s!"interrupt queue: {full.message}" := by
  rw [tryPush, bind_assoc]
  rfl

theorem leads_accepting (fits : half.queue.housing.misfit? footprint = none)
    (room : half.queue.queue.capacity.admits half.waiting.length = true) :
    half.Leads [.tried operation footprint, .notified]
      (half.accepting notifier operation footprint) :=
  ⟨List.append_assoc _ _ _, rfl, rfl, .accepted operation fits room (.quiet _)⟩

end

/-! ### Runs that push -/

/-- What runs leads to more, but takes nothing from the queue, and comes to an end. -/
def PushesOnly {α : Type} (run : Exec (BottomHalf ρ δ) α) : Prop :=
  ∀ half : BottomHalf ρ δ, half.Within → ∃ happened,
    half.Leads happened (run.runFrom half).2 ∧ ranIn happened = [] ∧
      (run.runFrom half).1 ≠ .error .exhausted

namespace PushesOnly

variable {α β : Type} {notifier : ρ → Option String × ρ}

theorem of_untouched {run : Exec (BottomHalf ρ δ) α}
    (queue : ∀ half, (run.runFrom half).2.queue = half.queue)
    (record : ∀ half, (run.runFrom half).2.record = half.record)
    (ends : ∀ half, (run.runFrom half).1 ≠ .error .exhausted) : PushesOnly run := by
  intro half _
  refine ⟨[], ⟨?_, ?_, ?_, ?_⟩, rfl, ends half⟩
  · rw [record, List.append_nil]
  · rw [queue]
  · rw [queue]
  · rw [waiting, waiting, queue]
    exact .quiet _

theorem pure (value : α) : PushesOnly (Pure.pure value : Exec (BottomHalf ρ δ) α) :=
  .of_untouched (fun _ => rfl) (fun _ => rfl) (by simp)

theorem panic (message : String) : PushesOnly (Exec.panic message : Exec (BottomHalf ρ δ) α) :=
  .of_untouched (fun _ => rfl) (fun _ => rfl) (by simp)

theorem bind {first : Exec (BottomHalf ρ δ) α} {rest : α → Exec (BottomHalf ρ δ) β}
    (starts : PushesOnly first) (goes_on : ∀ value, PushesOnly (rest value)) :
    PushesOnly (first >>= rest) := by
  intro half within
  obtain ⟨happened, leads, none_ran, ends⟩ := starts half within
  rw [Exec.runFrom_bind]
  rcases result : first.runFrom half with ⟨halt | value, middle⟩
  · rw [result] at leads ends
    exact ⟨happened, leads, none_ran, by simpa using ends⟩
  · rw [result] at leads
    obtain ⟨more, leads_on, none_more, ends_too⟩ := goes_on value middle (leads.within within)
    refine ⟨happened ++ more, leads.trans leads_on, ?_, ends_too⟩
    rw [ranIn_append, none_ran, none_more, List.append_nil]

theorem catching {body : Exec (BottomHalf ρ δ) Unit}
    {next : Option String → Exec (BottomHalf ρ δ) Unit} (starts : PushesOnly body)
    (goes_on : ∀ caught, PushesOnly (next caught)) :
    PushesOnly (BottomHalf.catching body next) := by
  intro half within
  obtain ⟨happened, leads, none_ran, ends⟩ := starts half within
  have caught : (BottomHalf.catching body next).runFrom half =
      match body.runFrom half with
      | (.ok (), middle) => (next none).runFrom middle
      | (.error (.panic message), middle) => (next (some message)).runFrom middle
      | (.error .exhausted, middle) => (.error .exhausted, middle) := by
    have unfolded : (BottomHalf.catching body next).runFrom half =
        (match (body.runFrom half).1 with
          | .ok () => next none
          | .error (.panic message) => next (some message)
          | .error .exhausted => throw .exhausted : Exec (BottomHalf ρ δ) Unit).runFrom
            (body.runFrom half).2 := rfl
    rw [unfolded]
    rcases body.runFrom half with ⟨(_ | _) | _, _⟩ <;> rfl
  have go_on : ∀ message, ∃ more, half.Leads more
      ((next message).runFrom (body.runFrom half).2).2 ∧ ranIn more = [] ∧
        ((next message).runFrom (body.runFrom half).2).1 ≠ .error .exhausted := by
    intro message
    obtain ⟨more, leads_on, none_more, ends_too⟩ := goes_on message _ (leads.within within)
    refine ⟨happened ++ more, leads.trans leads_on, ?_, ends_too⟩
    rw [ranIn_append, none_ran, none_more, List.append_nil]
  rw [caught]
  rcases result : body.runFrom half with ⟨(message | _) | _, middle⟩
  all_goals rw [result] at go_on ends
  · exact go_on (some message)
  · exact absurd rfl ends
  · exact go_on none

/-- An attempt to push is noticed just if it is accepted. -/
theorem tryPush (operation : δ) (footprint : Footprint) :
    PushesOnly (BottomHalf.tryPush notifier operation footprint) := by
  intro half within
  cases misfit : half.queue.housing.misfit? footprint with
  | some misfits =>
      rw [runFrom_tryPush_of_misfit operation misfit]
      exact ⟨[.tried operation footprint], ⟨rfl, rfl, rfl, .unfit operation (by simp [misfit])
        (.quiet _)⟩, rfl, by simp⟩
  | none =>
      cases room : half.queue.queue.capacity.admits half.waiting.length with
      | false =>
          rw [runFrom_tryPush_of_full operation misfit room]
          exact ⟨[.tried operation footprint], ⟨rfl, rfl, rfl, .refused operation misfit
            (within.eq_bounded room) (.quiet _)⟩, rfl, by simp⟩
      | true =>
          rw [runFrom_tryPush_of_room operation misfit room]
          exact ⟨[.tried operation footprint, .notified], leads_accepting operation misfit room,
            rfl, endWith_ne_exhausted⟩

/-- A push is an attempt that panics if it is refused. -/
theorem push (operation : δ) (footprint : Footprint) :
    PushesOnly (BottomHalf.push notifier operation footprint) := by
  rw [push_eq]
  apply bind (tryPush operation footprint)
  rintro (full | ⟨⟩)
  · exact panic _
  · exact pure _

theorem perform (notifier : ρ → Option String × ρ) (behaviour : Behaviour ρ δ) :
    PushesOnly (behaviour.perform notifier) := by
  induction behaviour with
  | done => exact pure ()
  | panic message => exact panic message
  | look next induction =>
      intro half within
      exact induction half.queue.queue.size half.rest half within
  | leave rest next induction =>
      refine bind (of_untouched (fun _ => rfl) (fun _ => rfl) ?_) fun _ => induction
      intro half exhausted
      cases exhausted
  | push operation footprint next induction =>
      exact bind (push operation footprint) fun _ => induction
  | tryPush operation footprint next induction =>
      exact bind (tryPush operation footprint) induction
  | guarded body next starts induction => exact catching starts induction

end PushesOnly

/-! ## Whole drains -/

variable {notifier : ρ → Option String × ρ} {behave : δ → Behaviour ρ δ}

/-- How a drain ends, what happened in it and what it leaves. -/
inductive Drained (notifier : ρ → Option String × ρ) (behave : δ → Behaviour ρ δ) (budget : Nat)
    (half : BottomHalf ρ δ) : Except Halt Nat → List (Happening δ) → BottomHalf ρ δ → Prop where
  /-- Nothing waits any more, and the answer says how many operations ran. -/
  | completed {happened : List (Happening δ)} {after : BottomHalf ρ δ}
      (leads : half.Leads happened after) (idle : after.waiting = []) :
      Drained notifier behave budget half (.ok (ranIn happened).length) happened after
  /-- An operation panicked, and no other was taken after it. -/
  | interrupted {happened pushed : List (Happening δ)} {operation : δ} {message : String}
      {start after : BottomHalf ρ δ} (taken : half.Leads (happened ++ [.ran operation]) start)
      (panics : ((behave operation).perform notifier).runFrom start =
        (.error (.panic message), after))
      (leads : start.Leads pushed after) (none_ran : ranIn pushed = [])
      (behind : after.waiting = start.waiting ++ acceptedIn pushed) :
      Drained notifier behave budget half (.error (.panic message))
        (happened ++ [.ran operation] ++ pushed) after
  /-- The budget is used up. -/
  | exhausted {happened : List (Happening δ)} {after : BottomHalf ρ δ}
      (leads : half.Leads happened after) (spent : (ranIn happened).length = budget) :
      Drained notifier behave budget half (.error .exhausted) happened after

theorem Drained.leads {budget : Nat} {outcome : Except Halt Nat}
    (drained : Drained notifier behave budget half outcome happened after) :
    half.Leads happened after := by
  cases drained with
  | completed leads | exhausted leads => exact leads
  | interrupted taken panics leads => exact taken.trans leads

/-- A drain that begins with one operation that comes through. -/
theorem Drained.cons {budget : Nat} {operation : δ} {outcome : Except Halt Nat}
    (taken : half.Leads (.ran operation :: happened) middle) (none_ran : ranIn happened = [])
    (rest : Drained notifier behave budget middle outcome more after) :
    Drained notifier behave (budget + 1) half (outcome.map (· + 1))
      (.ran operation :: happened ++ more) after := by
  have counted : ranIn (.ran operation :: happened ++ more) = operation :: ranIn more := by
    rw [ranIn_append, ranIn, none_ran]
    rfl
  cases rest with
  | completed leads idle =>
      have whole : Drained notifier behave (budget + 1) half
          (.ok (ranIn (.ran operation :: happened ++ more)).length)
          (.ran operation :: happened ++ more) after := completed (taken.trans leads) idle
      rwa [counted] at whole
  | @interrupted between pushed interrupting message start last again panics leads none_more
      behind =>
      have whole := taken.trans again
      rw [← List.append_assoc] at whole
      rw [Except.map, ← List.append_assoc, ← List.append_assoc]
      exact interrupted whole panics leads none_more behind
  | exhausted leads spent =>
      refine exhausted (taken.trans leads) ?_
      rw [counted, List.length_cons, spent]

/-- Every drain ends in one of the three ways. -/
theorem exists_drained (notifier : ρ → Option String × ρ) (behave : δ → Behaviour ρ δ)
    (budget : Nat) (half : BottomHalf ρ δ) (within : half.Within) :
    ∃ happened, Drained notifier behave budget half
      ((drain notifier behave budget).runFrom half).1 happened
      ((drain notifier behave budget).runFrom half).2 := by
  induction budget generalizing half with
  | zero => exact ⟨[], .exhausted (.refl half) rfl⟩
  | succ budget induction =>
      rcases items : half.waiting with _ | ⟨operation, rest⟩
      · rw [drain, InterruptQueue.runFrom_drain_of_empty _ _ items]
        exact ⟨[], .completed (.refl half) items⟩
      · let taken : BottomHalf ρ δ :=
          { half with
            queue := { half.queue with queue := { half.queue.queue with items := rest } }
            record := half.record ++ [.ran operation] }
        have takes : half.Leads [.ran operation] taken := by
          refine ⟨rfl, rfl, rfl, ?_⟩
          rw [items]
          exact .ran operation (.quiet rest)
        have unfolded : (drain notifier behave (budget + 1)).runFrom half =
            ((do
              (behave operation).perform notifier
              return (← drain notifier behave budget) + 1) : Exec (BottomHalf ρ δ) Nat).runFrom
                taken := by
          rw [drain, InterruptQueue.runFrom_drain_of_cons _ _ items]
          rfl
        obtain ⟨happened, leads, none_ran, ends⟩ :=
          PushesOnly.perform notifier (behave operation) taken (takes.within within)
        rw [unfolded, Exec.runFrom_bind]
        rcases result : ((behave operation).perform notifier).runFrom taken with
          ⟨(message | _) | _, middle⟩
        all_goals rw [result] at leads ends
        · have behind := leads.orderly.history
          rw [none_ran, List.nil_append] at behind
          rw [← List.nil_append [Happening.ran operation]] at takes
          exact ⟨_, .interrupted takes result leads none_ran behind.symm⟩
        · exact absurd rfl ends
        · have whole := takes.trans leads
          obtain ⟨more, drained⟩ := induction middle (whole.within within)
          refine ⟨.ran operation :: happened ++ more, ?_⟩
          have counted := Drained.cons whole none_ran drained
          simp only [Exec.runFrom_bind]
          rcases rest_result : (drain notifier behave budget).runFrom middle with ⟨_ | _, _⟩
          all_goals
            rw [rest_result] at counted
            exact counted

/-- A drain whose budget exceeds what waits and what is accepted on the way is not cut short. -/
theorem Drained.not_exhausted {budget : Nat} {outcome : Except Halt Nat}
    (drained : Drained notifier behave budget half outcome happened after)
    (enough : half.waiting.length + (acceptedIn happened).length < budget) :
    outcome ≠ .error .exhausted := by
  rintro rfl
  cases drained with
  | exhausted leads spent =>
      have history := congrArg List.length leads.orderly.history
      rw [List.length_append, List.length_append, spent] at history
      omega

/-! ## Drains and pushes from outside -/

/-- What is done to an interrupt queue: somebody acts from outside, or what waits is run. -/
inductive Action (ρ δ : Type) where
  /-- Somebody acts, as operations do. -/
  | outside (behaviour : Behaviour ρ δ)
  /-- What waits is run. -/
  | drain (budget : Nat)

/-- The state after an action, whether that panicked or not. -/
def act (notifier : ρ → Option String × ρ) (behave : δ → Behaviour ρ δ) (half : BottomHalf ρ δ) :
    Action ρ δ → BottomHalf ρ δ
  | .outside behaviour => ((behaviour.perform notifier).runFrom half).2
  | .drain budget => ((drain notifier behave budget).runFrom half).2

theorem exists_leads_act (notifier : ρ → Option String × ρ) (behave : δ → Behaviour ρ δ)
    (within : half.Within) (action : Action ρ δ) :
    ∃ happened, half.Leads happened (half.act notifier behave action) := by
  cases action with
  | outside behaviour =>
      obtain ⟨happened, leads, _⟩ := PushesOnly.perform notifier behaviour half within
      exact ⟨happened, leads⟩
  | drain budget =>
      obtain ⟨happened, drained⟩ := exists_drained notifier behave budget half within
      exact ⟨happened, drained.leads⟩

theorem exists_leads_foldl (notifier : ρ → Option String × ρ) (behave : δ → Behaviour ρ δ)
    (actions : List (Action ρ δ)) (half : BottomHalf ρ δ) (within : half.Within) :
    ∃ happened, half.Leads happened (actions.foldl (act notifier behave) half) := by
  induction actions generalizing half with
  | nil => exact ⟨[], .refl half⟩
  | cons action actions induction =>
      obtain ⟨happened, leads⟩ := exists_leads_act notifier behave within action
      obtain ⟨more, leads_on⟩ := induction _ (leads.within within)
      exact ⟨happened ++ more, leads.trans leads_on⟩

/-- A push at any time is refused just if the queue is full, which changes nothing; an accepted one
is appended and the notifier runs once.  Over any number of drains, with operations that push, are
refused and panic, and with pushes between them, operations run in the order in which they were
accepted, and what has not run still waits.  A drain that does not run operations forever leaves
nothing waiting and answers how many ran, or stops at one that panicked, with those behind it still
waiting. -/
theorem drains_in_order_of_acceptance (notifier : ρ → Option String × ρ)
    (behave : δ → Behaviour ρ δ) (half : BottomHalf ρ δ) (within : half.Within) :
    (∀ operation footprint, half.queue.housing.misfit? footprint = none →
      (half.queue.queue.capacity = .bounded half.waiting.length ∧
        (tryPush notifier operation footprint).runFrom half =
          (.ok (.error (InterruptQueue.fullError half.queue)),
            half.noting [.tried operation footprint]) ∧
        (push notifier operation footprint).runFrom half =
          (.error (.panic
              s!"interrupt queue: {(InterruptQueue.fullError half.queue).message}"),
            half.noting [.tried operation footprint])) ∨
      half.queue.queue.capacity ≠ .bounded half.waiting.length ∧
        (tryPush notifier operation footprint).runFrom half =
          (endWith (notifier half.rest).1 (.ok ()),
            half.accepting notifier operation footprint) ∧
        (push notifier operation footprint).runFrom half =
          (endWith (notifier half.rest).1 (), half.accepting notifier operation footprint)) ∧
    (∀ actions : List (Action ρ δ), ∃ happened,
      half.Leads happened (actions.foldl (act notifier behave) half) ∧
      half.waiting ++ acceptedIn happened =
        ranIn happened ++ (actions.foldl (act notifier behave) half).waiting) ∧
    (∀ budget, ∃ happened, Drained notifier behave budget half
      ((drain notifier behave budget).runFrom half).1 happened
      ((drain notifier behave budget).runFrom half).2) ∧
    (∀ bound, (∀ budget happened,
        half.Leads happened ((drain notifier behave budget).runFrom half).2 →
        (acceptedIn happened).length ≤ bound) →
      ∀ budget, half.waiting.length + bound < budget →
        ((drain notifier behave budget).runFrom half).1 ≠ .error .exhausted) := by
  refine ⟨?_, fun actions => ?_, fun budget => exists_drained notifier behave budget half within,
    ?_⟩
  · intro operation footprint fits
    rw [push_eq, Exec.runFrom_bind]
    cases room : half.queue.queue.capacity.admits half.waiting.length with
    | false =>
        left
        rw [runFrom_tryPush_of_full operation fits room]
        exact ⟨within.eq_bounded room, rfl, rfl⟩
    | true =>
        right
        rw [runFrom_tryPush_of_room operation fits room]
        refine ⟨?_, rfl, ?_⟩
        · intro full
          simp [full] at room
        · cases (notifier half.rest).1 <;> rfl
  · obtain ⟨happened, leads⟩ := exists_leads_foldl notifier behave actions half within
    exact ⟨happened, leads, leads.orderly.history⟩
  · intro bound bounded budget enough
    obtain ⟨happened, drained⟩ := exists_drained notifier behave budget half within
    have accepted := bounded budget happened drained.leads
    exact drained.not_exhausted (by omega)

/-- A full queue of two operations, and a notifier that counts. -/
def crowdedHalf : BottomHalf Nat Nat where
  queue := { housing := .boxed, queue := { capacity := .bounded 2, items := [0, 1] } }
  rest := 0

/-- The first operation pushes two, which is one too many, and the second panics after a push. -/
def crowding : Nat → Behaviour Nat Nat
  | 0 => .tryPush 2 { bytes := 8 } fun _ => .tryPush 3 { bytes := 8 } fun _ => .done
  | 1 => .push 4 { bytes := 8 } (.panic "out of order")
  | _ => .done

/-- The operation that is refused never runs, and the second drain goes on where the first one has
panicked. -/
theorem crowded_drains_in_order :
    crowdedHalf.Within ∧
    ∃ happened after,
      after = [Action.drain 9, .drain 9].foldl (act (fun count => (none, count + 1)) crowding)
        crowdedHalf ∧
      crowdedHalf.Leads happened after ∧ ranIn happened = [0, 1, 2, 4] ∧
      acceptedIn happened = [2, 4] ∧ after.waiting = [] ∧ after.rest = 2 ∧
      ((drain (fun count => (none, count + 1)) crowding 9).runFrom crowdedHalf).1 =
        .error (.panic "out of order") := by
  have within : crowdedHalf.Within := by
    rintro limit ⟨⟩
    decide
  obtain ⟨_, over_actions, _⟩ :=
    drains_in_order_of_acceptance (fun count => (none, count + 1)) crowding crowdedHalf within
  obtain ⟨happened, leads, _⟩ := over_actions [.drain 9, .drain 9]
  have recorded : happened = [.ran 0, .tried 2 { bytes := 8 }, .notified, .tried 3 { bytes := 8 },
      .ran 1, .tried 4 { bytes := 8 }, .notified, .ran 2, .ran 4] := leads.record.symm
  refine ⟨within, happened, _, rfl, leads, ?_, ?_, rfl, rfl, rfl⟩
  · rw [recorded]
    rfl
  · rw [recorded]
    rfl

end BottomHalf

end Reactor

import Reactor.Dispatch.WorkQueue
import Mathlib.Data.List.Induction
import Mathlib.Data.List.Nodup

/-!
# What becomes of work

Producers, workers and whoever closes a work queue take turns in any order, one section of the
queue at a time.  A ledger notes what was accepted, taken and discarded.  Nothing is lost, repeated
or overtaken: the items taken, those discarded and those that wait are the accepted items in the
order in which they were accepted.
-/

namespace Reactor

namespace WorkQueue

variable {α : Type} {work next : WorkQueue α} {item : α}

/-- A push is refused by a closed queue, accepted if there is room and refused otherwise. -/
theorem push_eq (work : WorkQueue α) (item : α) :
    work.push item =
      if work.closed then .error .shutDown
      else if work.queue.capacity.admits work.size then
        .ok { work with queue := { work.queue with items := work.queue.items ++ [item] } }
      else .error (.queueFull work.queue.fullError) := by
  rw [push, Fifo.push?, size]
  cases work.closed with
  | true => rfl
  | false => cases work.queue.capacity.admits work.queue.size <;> rfl

theorem push_eq_ok_iff : work.push item = .ok next ↔
    work.closed = false ∧ work.queue.capacity.admits work.size = true ∧
      next = { work with queue := { work.queue with items := work.queue.items ++ [item] } } := by
  rw [push_eq]
  cases work.closed <;> cases work.queue.capacity.admits work.size <;> simp [eq_comm]

theorem next?_eq_some_iff : work.next? = some (item, next) ↔
    work.closed = false ∧ ∃ rest, work.queue.items = item :: rest ∧
      next = { work with queue := { work.queue with items := rest } } := by
  rw [next?, Fifo.pop?]
  cases work.closed <;> cases work.queue.items <;> simp [eq_comm]

theorem discardOne?_eq_some_iff : work.discardOne? = some (item, next) ↔
    ∃ rest, work.queue.items = item :: rest ∧
      next = { work with queue := { work.queue with items := rest } } := by
  rw [discardOne?, Fifo.pop?]
  cases work.queue.items <;> simp [eq_comm]

end WorkQueue

/-- A work queue and what has become of its items. -/
structure WorkLedger (α : Type) where
  work : WorkQueue α
  accepted : List α := []
  taken : List α := []
  discarded : List α := []

/-- A turn at a work queue. -/
inductive WorkMove (α : Type) where
  | push (item : α)
  /-- A worker takes an item, if it is given one. -/
  | next
  | close
  /-- One item is discarded.  Nobody does so before the queue has been closed. -/
  | discard

/-- Whether a turn discards an item. -/
def WorkMove.isDiscard {α : Type} : WorkMove α → Bool
  | .discard => true
  | _ => false

namespace WorkLedger

variable {α : Type} {ledger : WorkLedger α} {capacity : Capacity} {item : α}

/-- The ledger of a new queue. -/
def opened (capacity : Capacity) : WorkLedger α := { work := .empty capacity }

/-- The ledger after a turn. -/
def perform (ledger : WorkLedger α) : WorkMove α → WorkLedger α
  | .push item =>
      match ledger.work.push item with
      | .ok work => { ledger with work, accepted := ledger.accepted ++ [item] }
      | .error _ => ledger
  | .next =>
      match ledger.work.next? with
      | some (item, work) => { ledger with work, taken := ledger.taken ++ [item] }
      | none => ledger
  | .close => { ledger with work := ledger.work.close.2 }
  | .discard =>
      if ledger.work.closed then
        match ledger.work.discardOne? with
        | some (item, work) => { ledger with work, discarded := ledger.discarded ++ [item] }
        | none => ledger
      else ledger

/-- The ledger after some turns. -/
def after (ledger : WorkLedger α) (moves : List (WorkMove α)) : WorkLedger α :=
  moves.foldl perform ledger

theorem after_append (first second : List (WorkMove α)) :
    ledger.after (first ++ second) = (ledger.after first).after second :=
  List.foldl_append

theorem after_concat (moves : List (WorkMove α)) (move : WorkMove α) :
    ledger.after (moves ++ [move]) = (ledger.after moves).perform move := by
  rw [after_append]
  rfl

/-! ## What a turn does -/

/-- The waiting items, oldest first. -/
def waiting (ledger : WorkLedger α) : List α := ledger.work.queue.items

/-- The ledger with other items waiting. -/
def withWaiting (ledger : WorkLedger α) (items : List α) : WorkLedger α :=
  { ledger with
    work := { ledger.work with queue := { ledger.work.queue with items } } }

/-- A turn that has an effect. -/
inductive Turn (ledger : WorkLedger α) : WorkMove α → WorkLedger α → Prop
  | pushed (item : α) (isOpen : ledger.work.closed = false)
      (room : ledger.work.queue.capacity.admits ledger.work.size = true) :
      Turn ledger (.push item)
        { ledger.withWaiting (ledger.waiting ++ [item]) with accepted := ledger.accepted ++ [item] }
  | taken {item : α} {rest : List α} (isOpen : ledger.work.closed = false)
      (in_front : ledger.waiting = item :: rest) :
      Turn ledger .next { ledger.withWaiting rest with taken := ledger.taken ++ [item] }
  | closed : Turn ledger .close { ledger with work := { ledger.work with closed := true } }
  | discarded {item : α} {rest : List α} (shut : ledger.work.closed = true)
      (in_front : ledger.waiting = item :: rest) :
      Turn ledger .discard { ledger.withWaiting rest with discarded := ledger.discarded ++ [item] }

theorem perform_cases (ledger : WorkLedger α) (move : WorkMove α) :
    ledger.perform move = ledger ∨ ledger.Turn move (ledger.perform move) := by
  cases move with
  | push item =>
      rw [perform, WorkQueue.push_eq]
      cases shut : ledger.work.closed with
      | true => exact Or.inl rfl
      | false =>
          cases room : ledger.work.queue.capacity.admits ledger.work.size with
          | false => exact Or.inl rfl
          | true =>
              have turn := Turn.pushed item shut room
              simp only [withWaiting, shut] at turn
              exact Or.inr turn
  | next =>
      rw [perform]
      split
      · next item next given =>
        obtain ⟨isOpen, rest, in_front, rfl⟩ := WorkQueue.next?_eq_some_iff.mp given
        exact Or.inr (.taken isOpen in_front)
      · exact Or.inl rfl
  | close => exact Or.inr .closed
  | discard =>
      rw [perform]
      split
      · next shut =>
        split
        · next item next given =>
          obtain ⟨rest, in_front, rfl⟩ := WorkQueue.discardOne?_eq_some_iff.mp given
          exact Or.inr (.discarded shut in_front)
        · exact Or.inl rfl
      · exact Or.inl rfl

/-! ## What every turn keeps -/

/-- The books are in order. -/
structure Balanced (capacity : Capacity) (ledger : WorkLedger α) : Prop where
  accepted_eq : ledger.accepted = ledger.taken ++ ledger.discarded ++ ledger.waiting
  capacity_eq : ledger.work.queue.capacity = capacity
  /-- Every waiting item was admitted. -/
  within : ∀ size < ledger.work.size, capacity.admits size = true
  /-- As long as workers are given items, none has been discarded. -/
  undiscarded : ledger.work.closed = false → ledger.discarded = []

theorem balanced_opened (capacity : Capacity) :
    (opened capacity : WorkLedger α).Balanced capacity where
  accepted_eq := rfl
  capacity_eq := rfl
  within := fun _ small => absurd small (Nat.not_lt_zero _)
  undiscarded := fun _ => rfl

theorem Balanced.perform (balanced : ledger.Balanced capacity) (move : WorkMove α) :
    (ledger.perform move).Balanced capacity := by
  obtain ⟨accepted_eq, capacity_eq, within, undiscarded⟩ := balanced
  rcases ledger.perform_cases move with same | turn
  · rw [same]
    exact ⟨accepted_eq, capacity_eq, within, undiscarded⟩
  generalize ledger.perform move = next at turn
  cases turn with
  | pushed item isOpen room =>
      refine ⟨?_, capacity_eq, ?_, undiscarded⟩
      · simp [accepted_eq, waiting, withWaiting]
      · intro size small
        rw [capacity_eq] at room
        simp only [withWaiting, WorkQueue.size, Fifo.size, List.length_append,
          List.length_singleton, waiting] at small
        rcases Nat.lt_succ_iff_lt_or_eq.mp small with less | rfl
        · exact within size less
        · exact room
  | @taken item rest isOpen in_front =>
      refine ⟨?_, capacity_eq, ?_, undiscarded⟩
      · rw [undiscarded isOpen, in_front] at accepted_eq
        simp [accepted_eq, undiscarded isOpen, withWaiting, waiting]
      · intro size small
        apply within size
        rw [waiting] at in_front
        simp only [withWaiting, WorkQueue.size, Fifo.size, in_front, List.length_cons] at small ⊢
        omega
  | closed => exact ⟨accepted_eq, capacity_eq, within, fun isOpen => absurd isOpen (by simp)⟩
  | @discarded item rest shut in_front =>
      refine ⟨?_, capacity_eq, ?_, fun isOpen => absurd (shut.symm.trans isOpen) (by simp)⟩
      · rw [in_front] at accepted_eq
        simp [accepted_eq, withWaiting, waiting]
      · intro size small
        apply within size
        rw [waiting] at in_front
        simp only [withWaiting, WorkQueue.size, Fifo.size, in_front, List.length_cons] at small ⊢
        omega

theorem Balanced.after (balanced : ledger.Balanced capacity) (moves : List (WorkMove α)) :
    (ledger.after moves).Balanced capacity := by
  induction moves using List.reverseRecOn with
  | nil => exact balanced
  | append_singleton moves move induction =>
      rw [after_concat]
      exact induction.perform move

/-! ## After the queue has been closed -/

/-- A closed queue stays closed, and from then on items are discarded and nothing else happens. -/
structure Winding (ledger next : WorkLedger α) : Prop where
  closed : next.work.closed = true
  accepted_eq : next.accepted = ledger.accepted
  taken_eq : next.taken = ledger.taken

theorem winding_after (shut : ledger.work.closed = true) (moves : List (WorkMove α)) :
    Winding ledger (ledger.after moves) := by
  induction moves using List.reverseRecOn with
  | nil => exact ⟨shut, rfl, rfl⟩
  | append_singleton moves move induction =>
      rw [after_concat]
      obtain ⟨closed, accepted_eq, taken_eq⟩ := induction
      rcases (ledger.after moves).perform_cases move with same | turn
      · rw [same]
        exact ⟨closed, accepted_eq, taken_eq⟩
      generalize (ledger.after moves).perform move = next at turn
      cases turn with
      | pushed item isOpen | taken isOpen => exact absurd (closed.symm.trans isOpen) (by simp)
      | closed => exact ⟨rfl, accepted_eq, taken_eq⟩
      | discarded => exact ⟨closed, accepted_eq, taken_eq⟩

/-- A queue is closed by the first turn that closes it. -/
theorem closed_after_iff (isOpen : ledger.work.closed = false) (moves : List (WorkMove α)) :
    (ledger.after moves).work.closed = true ↔ WorkMove.close ∈ moves := by
  induction moves using List.reverseRecOn with
  | nil => simp [after, isOpen]
  | append_singleton moves move induction =>
      rw [after_concat, List.mem_append, ← induction, List.mem_singleton]
      rcases (ledger.after moves).perform_cases move with same | turn
      · rw [same]
        constructor
        · exact Or.inl
        · rintro (shut | rfl)
          · exact shut
          · exact congrArg (fun next => next.work.closed) same.symm
      · generalize (ledger.after moves).perform move = next at turn
        cases turn <;> simp [withWaiting]

/-- Just one of the turns that close a queue finds it open. -/
theorem existsUnique_close (isOpen : ledger.work.closed = false) {moves : List (WorkMove α)}
    (closes : WorkMove.close ∈ moves) :
    ∃! before, (∃ later, moves = before ++ .close :: later) ∧
      (ledger.after before).work.close.1 = true := by
  have open_iff (before : List (WorkMove α)) :
      (ledger.after before).work.close.1 = true ↔ WorkMove.close ∉ before := by
    rw [← closed_after_iff isOpen, WorkQueue.close, Bool.not_eq_true', Bool.not_eq_true]
  obtain ⟨before, later, rfl, first⟩ := List.eq_append_cons_of_mem closes
  refine ⟨before, ⟨⟨later, rfl⟩, (open_iff before).mpr first⟩, ?_⟩
  rintro other ⟨⟨rest, split⟩, found_open⟩
  have none_before := (open_iff other).mp found_open
  rcases List.append_eq_append_iff.mp split with ⟨between, rfl, same⟩ | ⟨between, rfl, same⟩
  · cases between with
    | nil => exact List.append_nil before
    | cons move between =>
        cases same
        exact absurd (List.mem_append_right before List.mem_cons_self) none_before
  · cases between with
    | nil => exact (List.append_nil other).symm
    | cons move between =>
        cases same
        exact absurd (List.mem_append_right other List.mem_cons_self) first

/-- Items are discarded one after the other until none is left. -/
theorem length_waiting_after_le (shut : ledger.work.closed = true) (moves : List (WorkMove α)) :
    (ledger.after moves).waiting.length ≤
      ledger.waiting.length - moves.countP WorkMove.isDiscard := by
  induction moves using List.reverseRecOn with
  | nil => simp [after]
  | append_singleton moves move induction =>
      have closed := (winding_after shut moves).closed
      rw [after_concat, List.countP_append]
      rcases (ledger.after moves).perform_cases move with same | turn
      · cases move with
        | discard =>
            have none_left : (ledger.after moves).waiting = [] := by
              by_contra some_left
              obtain ⟨item, rest, in_front⟩ := List.exists_cons_of_ne_nil some_left
              have given : (ledger.after moves).work.discardOne? = some _ :=
                WorkQueue.discardOne?_eq_some_iff.mpr ⟨rest, in_front, rfl⟩
              have longer := congrArg (fun next => next.discarded.length) same
              simp [perform, closed, given] at longer
            rw [same, none_left]
            exact Nat.zero_le _
        | push | next | close =>
            rw [same]
            simpa [WorkMove.isDiscard] using induction
      · generalize (ledger.after moves).perform move = next at turn
        cases turn with
        | pushed item isOpen | taken isOpen => exact absurd (closed.symm.trans isOpen) (by simp)
        | closed => simpa [waiting, WorkMove.isDiscard] using induction
        | @discarded item rest _ in_front =>
            rw [in_front, List.length_cons] at induction
            simp only [waiting, withWaiting, List.countP_singleton, WorkMove.isDiscard, if_true]
              at induction ⊢
            omega

/-- Discarding all that waits comes to as many turns as there are items. -/
theorem after_discards (shut : ledger.work.closed = true) :
    ledger.after (List.replicate ledger.work.size .discard) =
      { ledger with
        work := ledger.work.discard.2
        discarded := ledger.discarded ++ ledger.work.discard.1 } := by
  obtain ⟨⟨⟨room, items⟩, closed⟩, accepted, taken, discarded⟩ := ledger
  simp only at shut
  subst shut
  simp only [WorkQueue.size, Fifo.size, WorkQueue.discard, Fifo.clear]
  induction items generalizing discarded with
  | nil => simp [after]
  | cons item rest induction =>
      have first : ({ work := ⟨⟨room, item :: rest⟩, true⟩, accepted, taken, discarded } :
          WorkLedger α).perform .discard =
            { work := ⟨⟨room, rest⟩, true⟩, accepted, taken
              discarded := discarded ++ [item] } := rfl
      rw [List.length_cons, List.replicate_succ, after, List.foldl_cons, first]
      have rest_discarded := induction (discarded ++ [item])
      rw [after] at rest_discarded
      rw [rest_discarded]
      simp

/-! ## Who is refused -/

theorem push_eq_shutDown_iff : ledger.work.push item = .error .shutDown ↔
    ledger.work.closed = true := by
  rw [WorkQueue.push_eq]
  cases ledger.work.closed with
  | true => simp
  | false =>
      simp only [Bool.false_eq_true, if_false, iff_false]
      split <;> simp

/-- An open queue refuses an item just if as many wait as it has room for. -/
theorem Balanced.push_eq_queueFull_iff (balanced : ledger.Balanced capacity)
    {error : CapacityError} : ledger.work.push item = .error (.queueFull error) ↔
      ledger.work.closed = false ∧
        ∃ limit, capacity = .bounded limit ∧ ledger.work.size = limit ∧
          error = { what := "queue", capacity := limit } := by
  obtain ⟨_, capacity_eq, within, _⟩ := balanced
  rw [WorkQueue.push_eq, Fifo.fullError, capacity_eq]
  cases ledger.work.closed with
  | true => simp
  | false =>
      cases capacity with
      | unbounded => simp
      | bounded limit =>
          have bound : ledger.work.size ≤ limit := by
            by_contra more
            have admitted := within limit (by omega)
            simp at admitted
          by_cases full : ledger.work.size = limit
          · simp [full, Capacity.limit?, eq_comm]
          · have less : ledger.work.size < limit := by omega
            simp only [Capacity.admits_bounded, less, decide_true, if_true, Bool.false_eq_true,
              if_false, reduceCtorEq, false_iff, not_and, not_exists, Capacity.bounded.injEq]
            rintro _ other rfl same
            exact absurd same full

end WorkLedger

end Reactor

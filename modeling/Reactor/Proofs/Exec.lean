import Reactor.Exec

/-!
# What a run leaves behind

A run leaves an outcome and a state.  Those of a run that is made of several parts are read off the
parts, one after the other; a part that halts ends the whole run where it stands.
-/

namespace Reactor

variable {σ α β : Type}

namespace Exec

@[simp]
theorem runFrom_pure (value : α) (state : σ) :
    (pure value : Exec σ α).runFrom state = (.ok value, state) := rfl

@[simp]
theorem runFrom_panic (message : String) (state : σ) :
    (panic message : Exec σ α).runFrom state = (.error (.panic message), state) := rfl

theorem runFrom_bind (first : Exec σ α) (rest : α → Exec σ β) (state : σ) :
    (first >>= rest).runFrom state =
      match first.runFrom state with
      | (.ok value, after) => (rest value).runFrom after
      | (.error halt, after) => (.error halt, after) := by
  have unfolded : (first >>= rest).runFrom state =
      StateT.run (ExceptT.bindCont rest (StateT.run (ExceptT.run first) state).1)
        (StateT.run (ExceptT.run first) state).2 := rfl
  rw [unfolded, runFrom]
  rcases StateT.run (ExceptT.run first) state with ⟨_ | _, _⟩ <;> rfl

/-- A run that comes to an answer has come through its first part. -/
theorem of_runFrom_bind_ok {first : Exec σ α} {rest : α → Exec σ β} {state last : σ} {answer : β}
    (done : (first >>= rest).runFrom state = (.ok answer, last)) :
    ∃ value middle, first.runFrom state = (.ok value, middle) ∧
      (rest value).runFrom middle = (.ok answer, last) := by
  rw [runFrom_bind] at done
  split at done
  · next value middle came => exact ⟨value, middle, came, done⟩
  · cases done

/-- A clean-up that comes through leaves the outcome as it is. -/
theorem runFrom_ensuring_of_ok {body : Exec σ α} {cleanup : Exec σ Unit} {state last : σ}
    (cleaned : cleanup.runFrom (body.runFrom state).2 = (.ok (), last)) :
    (ensuring body cleanup).runFrom state = ((body.runFrom state).1, last) := by
  have lifted : runFrom (ExceptT.lift (ExceptT.run body)) state =
      (.ok (body.runFrom state).1, (body.runFrom state).2) := rfl
  rw [ensuring, runFrom_bind, lifted]
  simp only [runFrom_bind, cleaned]
  cases (body.runFrom state).1 <;> rfl

/-- A clean-up that halts decides the outcome. -/
theorem runFrom_ensuring_of_error {body : Exec σ α} {cleanup : Exec σ Unit} {state last : σ}
    {halt : Halt} (halted : cleanup.runFrom (body.runFrom state).2 = (.error halt, last)) :
    (ensuring body cleanup).runFrom state = (.error halt, last) := by
  have lifted : runFrom (ExceptT.lift (ExceptT.run body)) state =
      (.ok (body.runFrom state).1, (body.runFrom state).2) := rfl
  rw [ensuring, runFrom_bind, lifted]
  simp only [runFrom_bind, halted]

@[simp]
theorem runFrom_forM_nil (each : α → Exec σ PUnit) (state : σ) :
    (([] : List α).forM each).runFrom state = (.ok ⟨⟩, state) := rfl

theorem runFrom_forM_cons (each : α → Exec σ PUnit) (head : α) (tail : List α) (state : σ) :
    ((head :: tail).forM each).runFrom state =
      match (each head).runFrom state with
      | (.ok _, after) => (tail.forM each).runFrom after
      | (.error halt, after) => (.error halt, after) := by
  have unfolded : (head :: tail).forM each = each head >>= fun _ => tail.forM each := rfl
  rw [unfolded, runFrom_bind]
  rcases (each head).runFrom state with ⟨_ | _, _⟩ <;> rfl

/-- A loop whose rounds all come through leaves what its last round leaves. -/
theorem runFrom_forM_of_rounds (each : α → Exec σ PUnit) (list : List α) (states : Nat → σ)
    (rounds : ∀ place (inside : place < list.length),
      (each list[place]).runFrom (states place) = (.ok ⟨⟩, states (place + 1))) :
    (list.forM each).runFrom (states 0) = (.ok ⟨⟩, states list.length) := by
  induction list generalizing states with
  | nil => rfl
  | cons head tail induction =>
      have first : (each head).runFrom (states 0) = (.ok ⟨⟩, states 1) := rounds 0 (by simp)
      rw [runFrom_forM_cons, first]
      apply induction fun place => states (place + 1)
      intro place inside
      exact rounds (place + 1) (Nat.succ_lt_succ inside)

end Exec

namespace Part

@[simp]
theorem runFrom_read (part : Part σ α) (state : σ) :
    part.read.runFrom state = (.ok (part.get state), state) := rfl

@[simp]
theorem runFrom_write (part : Part σ α) (value : α) (state : σ) :
    (part.write value).runFrom state = (.ok (), part.set value state) := rfl

/-- A part that can be replaced like a field. -/
structure Lawful (part : Part σ α) : Prop where
  /-- What was put in is found again. -/
  get_set : ∀ value whole, part.get (part.set value whole) = value
  /-- The last replacement counts. -/
  set_set : ∀ first second whole, part.set second (part.set first whole) = part.set second whole
  /-- Putting back what is there changes nothing. -/
  set_get : ∀ whole, part.set (part.get whole) whole = whole

end Part

end Reactor

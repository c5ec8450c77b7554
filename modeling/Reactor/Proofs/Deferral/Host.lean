import Reactor.Dispatcher
import Reactor.Proofs.InterruptQueue.Drain

/-!
# Callbacks that can wait

A component hands callbacks over, and the callbacks act on a state of their own, out of the reach of
the component.  Whether they run at once or wait until the operation is over makes no difference, if
they run in the same order: at every moment the state of one run is that of the other once the
callbacks that wait there have been caught up on.
-/

namespace Reactor

/-! ## Single rounds of a pump -/

namespace Dispatcher

variable {σ δ : Type} {backlog : Part σ (Fifo δ)} {state : σ}

theorem runFrom_pump_of_empty (run : δ → Exec σ Unit) (budget : Nat)
    (idle : (backlog.get state).items = []) :
    (pump backlog run .oldestFirst (budget + 1) none).runFrom state = (.ok 0, state) := by
  have none_left : next? .oldestFirst (backlog.get state) = none := Fifo.pop?_eq_none_iff.mpr idle
  rw [pump, Exec.runFrom_bind, Part.runFrom_read]
  · simp only [none_left, Exec.runFrom_pure]
  · rintro ⟨⟩

/-- A pump takes the oldest delivery before it runs it. -/
theorem runFrom_pump_of_cons (run : δ → Exec σ Unit) (budget : Nat) {delivery : δ} {rest : List δ}
    (waits : (backlog.get state).items = delivery :: rest) :
    (pump backlog run .oldestFirst (budget + 1) none).runFrom state =
      ((do run delivery; return (← pump backlog run .oldestFirst budget none) + 1) :
        Exec σ Nat).runFrom (backlog.set { backlog.get state with items := rest } state) := by
  have taken : next? .oldestFirst (backlog.get state) =
      some (delivery, { backlog.get state with items := rest }) := by
    simp only [next?, Fifo.pop?, waits]
  rw [pump, Exec.runFrom_bind, Part.runFrom_read]
  · simp only [taken]
    rw [Exec.runFrom_bind, Part.runFrom_write]
    rfl
  · rintro ⟨⟩

end Dispatcher

/-- A component `ς` with the state `ω` of its callbacks, the runs `ρ` of callbacks and the reports
`ν` so far, and the deliveries `δ` that wait. -/
structure Host (ς ω ρ ν δ : Type) where
  /-- The component. -/
  component : ς
  /-- All that callbacks act on. -/
  rest : ω
  /-- The runs of callbacks, in order. -/
  runs : List ρ := []
  /-- The reports of the component, in order. -/
  notes : List ν := []
  /-- What waits to be delivered, oldest first. -/
  waiting : List δ := []

/-! ## The parts of a host -/

namespace Host

variable {ς ω ρ ν δ α β : Type}

/-- The component as a part of its host. -/
def componentPart : Part (Host ς ω ρ ν δ) ς where
  get host := host.component
  set component host := { host with component }

/-- A list without limit in which deliveries wait. -/
def backlogPart : Part (Host ς ω ρ ν δ) (Fifo δ) where
  get host := { capacity := .unbounded, items := host.waiting }
  set list host := { host with waiting := list.items }

/-- An interrupt queue without limit in which deliveries wait. -/
def interruptsPart : Part (Host ς ω ρ ν δ) (InterruptQueue δ) where
  get host := { housing := .boxed, queue := { capacity := .unbounded, items := host.waiting } }
  set queue host := { host with waiting := queue.queue.items }

/-- The dispatcher of a route. -/
def dispatcher (route : Route) : Dispatcher (Host ς ω ρ ν δ) δ :=
  { route, backlog := backlogPart, interrupts := interruptsPart }

/-- Takes a report. -/
def report (note : ν) : Exec (Host ς ω ρ ν δ) Unit :=
  modify fun host => { host with notes := host.notes ++ [note] }

/-- The host after a callback has run. -/
def played (effect : ρ → ω → ω) (run : ρ) (host : Host ς ω ρ ν δ) : Host ς ω ρ ν δ :=
  { host with rest := effect run host.rest, runs := host.runs ++ [run] }

/-- Runs a callback. -/
def play (effect : ρ → ω → ω) (run : ρ) : Exec (Host ς ω ρ ν δ) Unit := modify (played effect run)

/-- Runs all that waits, in order. -/
def flush (route : Route) (deliver : δ → Exec (Host ς ω ρ ν δ) Unit) :
    Exec (Host ς ω ρ ν δ) Unit := do
  let host ← get
  let _ ← (dispatcher route).work deliver .oldestFirst (host.waiting.length + 1) none

/-! ## Catching up -/

variable {effect : ρ → ω → ω} {shown : δ → ρ} {host : Host ς ω ρ ν δ}

/-- The host once all callbacks that wait have run. -/
def caughtUp (effect : ρ → ω → ω) (shown : δ → ρ) (host : Host ς ω ρ ν δ) : Host ς ω ρ ν δ :=
  { host with
    rest := host.waiting.foldl (fun rest delivery => effect (shown delivery) rest) host.rest
    runs := host.runs ++ host.waiting.map shown
    waiting := [] }

theorem caughtUp_of_idle (idle : host.waiting = []) : host.caughtUp effect shown = host := by
  cases host
  cases idle
  simp [caughtUp]

/-- The newest of those that wait runs last. -/
theorem caughtUp_concat (delivery : δ) :
    { host with waiting := host.waiting ++ [delivery] }.caughtUp effect shown =
      (host.caughtUp effect shown).played effect (shown delivery) := by
  simp [caughtUp, played]

/-- The oldest of those that wait runs first. -/
theorem caughtUp_cons {delivery : δ} {later : List δ} (waits : host.waiting = delivery :: later) :
    host.caughtUp effect shown =
      ({ host with waiting := later }.played effect (shown delivery)).caughtUp effect shown := by
  simp [caughtUp, played, waits]

/-- A delivery runs its callback, as long as the component stays as it is. -/
def Delivers (effect : ρ → ω → ω) (shown : δ → ρ) (deliver : δ → Exec (Host ς ω ρ ν δ) Unit)
    (component : ς) (delivery : δ) : Prop :=
  ∀ host : Host ς ω ρ ν δ, host.component = component →
    (deliver delivery).runFrom host = (.ok (), host.played effect (shown delivery))

section

variable {deliver : δ → Exec (Host ς ω ρ ν δ) Unit}

/-- One round of a loop that delivers what waits. -/
theorem runFrom_round {delivery : δ} {later : List δ}
    (delivers : Delivers effect shown deliver host.component delivery)
    (loop : Exec (Host ς ω ρ ν δ) Nat)
    (rest : loop.runFrom ({ host with waiting := later }.played effect (shown delivery)) =
      (.ok later.length,
        ({ host with waiting := later }.played effect (shown delivery)).caughtUp effect shown))
    (waits : host.waiting = delivery :: later) :
    ((do deliver delivery; return (← loop) + 1) : Exec (Host ς ω ρ ν δ) Nat).runFrom
        { host with waiting := later } =
      (.ok host.waiting.length, host.caughtUp effect shown) := by
  rw [Exec.runFrom_bind, delivers { host with waiting := later } rfl]
  simp only [Exec.runFrom_bind, rest, Exec.runFrom_pure]
  rw [caughtUp_cons waits, waits, List.length_cons]

theorem runFrom_pump (budget : Nat) (enough : host.waiting.length < budget)
    (delivers : ∀ delivery ∈ host.waiting, Delivers effect shown deliver host.component delivery) :
    (Dispatcher.pump backlogPart deliver .oldestFirst budget none).runFrom host =
      (.ok host.waiting.length, host.caughtUp effect shown) := by
  induction budget generalizing host with
  | zero => cases enough
  | succ budget induction =>
      rcases waits : host.waiting with _ | ⟨delivery, later⟩
      · have none_waits : (backlogPart.get host).items = [] := waits
        rw [Dispatcher.runFrom_pump_of_empty _ _ none_waits, caughtUp_of_idle waits]
        rfl
      · have oldest : (backlogPart.get host).items = delivery :: later := waits
        rw [waits, List.length_cons] at enough
        rw [Dispatcher.runFrom_pump_of_cons _ _ oldest, ← waits]
        apply runFrom_round (delivers delivery (by rw [waits]; exact List.mem_cons_self)) _ _ waits
        apply induction (by exact Nat.lt_of_succ_lt_succ enough)
        intro other later_waits
        exact delivers other (by rw [waits]; exact List.mem_cons_of_mem _ later_waits)

theorem runFrom_drain (budget : Nat) (enough : host.waiting.length < budget)
    (delivers : ∀ delivery ∈ host.waiting, Delivers effect shown deliver host.component delivery) :
    (InterruptQueue.drain interruptsPart deliver budget).runFrom host =
      (.ok host.waiting.length, host.caughtUp effect shown) := by
  induction budget generalizing host with
  | zero => cases enough
  | succ budget induction =>
      rcases waits : host.waiting with _ | ⟨delivery, later⟩
      · have none_waits : (interruptsPart.get host).queue.items = [] := waits
        rw [InterruptQueue.runFrom_drain_of_empty _ _ none_waits, caughtUp_of_idle waits]
        rfl
      · have oldest : (interruptsPart.get host).queue.items = delivery :: later := waits
        rw [waits, List.length_cons] at enough
        rw [InterruptQueue.runFrom_drain_of_cons _ _ oldest, ← waits]
        apply runFrom_round (delivers delivery (by rw [waits]; exact List.mem_cons_self)) _ _ waits
        apply induction (by exact Nat.lt_of_succ_lt_succ enough)
        intro other later_waits
        exact delivers other (by rw [waits]; exact List.mem_cons_of_mem _ later_waits)

/-- Running all that waits catches up, if the component lets all of it run. -/
theorem runFrom_flush (route : Route)
    (delivers : ∀ delivery ∈ host.waiting, Delivers effect shown deliver host.component delivery) :
    (flush route deliver).runFrom host = (.ok (), host.caughtUp effect shown) := by
  have worked :
      ((dispatcher route).work deliver .oldestFirst (host.waiting.length + 1) none).runFrom host =
        (.ok host.waiting.length, host.caughtUp effect shown) := by
    cases route with
    | inline | deferred => exact runFrom_pump _ (Nat.lt_succ_self _) delivers
    | interrupt => exact runFrom_drain _ (Nat.lt_succ_self _) delivers
  have unfolded : (flush route deliver).runFrom host =
      ((do
        let _ ← (dispatcher route).work deliver .oldestFirst (host.waiting.length + 1) none
        return ()) : Exec (Host ς ω ρ ν δ) Unit).runFrom host := rfl
  rw [unfolded, Exec.runFrom_bind, worked]
  rfl

end

/-! ## Runs that agree up to what waits -/

/-- From where a host stands, a run whose callbacks wait does the same as one whose callbacks run at
once from where that host has caught up. -/
def Mirrors (effect : ρ → ω → ω) (shown : δ → ρ) (host : Host ς ω ρ ν δ)
    (deferred inline : Exec (Host ς ω ρ ν δ) α) : Prop :=
  inline.runFrom (host.caughtUp effect shown) =
    ((deferred.runFrom host).1, (deferred.runFrom host).2.caughtUp effect shown)

/-- What comes first agrees, and so does what comes after it. -/
theorem Mirrors.bind {deferred inline : Exec (Host ς ω ρ ν δ) α}
    {deferred_rest inline_rest : α → Exec (Host ς ω ρ ν δ) β}
    (first : Mirrors effect shown host deferred inline)
    (rest : ∀ value after, deferred.runFrom host = (.ok value, after) →
      Mirrors effect shown after (deferred_rest value) (inline_rest value)) :
    Mirrors effect shown host (deferred >>= deferred_rest) (inline >>= inline_rest) := by
  rw [Mirrors] at first
  rw [Mirrors, Exec.runFrom_bind, Exec.runFrom_bind, first]
  rcases result : deferred.runFrom host with ⟨halt | value, after⟩
  · rfl
  · exact rest value after result

theorem Mirrors.pure (value : α) :
    Mirrors effect shown host (Pure.pure value) (Pure.pure value) := rfl

theorem Mirrors.panic (message : String) :
    Mirrors effect shown host (Exec.panic message : Exec _ α) (Exec.panic message) := rfl

theorem Mirrors.read (part : Part ς α) :
    Mirrors effect shown host (componentPart.andThen part).read (componentPart.andThen part).read :=
  rfl

theorem Mirrors.write (part : Part ς α) (value : α) :
    Mirrors effect shown host ((componentPart.andThen part).write value)
      ((componentPart.andThen part).write value) := rfl

theorem Mirrors.report (note : ν) :
    Mirrors effect shown host (Host.report note) (Host.report note) := rfl

theorem Mirrors.forM_report (notes : List ν) :
    Mirrors effect shown host (notes.forM Host.report) (notes.forM Host.report) := by
  induction notes generalizing host with
  | nil => rfl
  | cons note notes induction => exact (Mirrors.report note).bind fun _ _ _ => induction

theorem runFrom_forM_report (notes : List ν) :
    (notes.forM Host.report).runFrom host =
      (.ok ⟨⟩, { host with notes := host.notes ++ notes }) := by
  induction notes generalizing host with
  | nil => simp
  | cons note notes induction =>
      have reported : (Host.report note).runFrom host =
          (.ok (), { host with notes := host.notes ++ [note] }) := rfl
      rw [Exec.runFrom_forM_cons, reported]
      simp only [induction, List.append_assoc, List.singleton_append]

/-! ## Runs that hand nothing over -/

/-- A run leaves what waits alone. -/
def KeepsWaiting (run : Exec (Host ς ω ρ ν δ) α) : Prop :=
  ∀ host : Host ς ω ρ ν δ, (run.runFrom host).2.waiting = host.waiting

theorem KeepsWaiting.bind {first : Exec (Host ς ω ρ ν δ) α}
    {rest : α → Exec (Host ς ω ρ ν δ) β} (starts : KeepsWaiting first)
    (goes_on : ∀ value, KeepsWaiting (rest value)) : KeepsWaiting (first >>= rest) := by
  intro host
  have started := starts host
  rw [Exec.runFrom_bind]
  rcases result : first.runFrom host with ⟨halt | value, after⟩
  all_goals rw [result] at started
  · exact started
  · exact (goes_on value after).trans started

theorem KeepsWaiting.pure (value : α) :
    KeepsWaiting (Pure.pure value : Exec (Host ς ω ρ ν δ) α) := fun _ => rfl

theorem KeepsWaiting.panic (message : String) :
    KeepsWaiting (Exec.panic message : Exec (Host ς ω ρ ν δ) α) := fun _ => rfl

theorem KeepsWaiting.report (note : ν) :
    KeepsWaiting (Host.report note : Exec (Host ς ω ρ ν δ) Unit) := fun _ => rfl

theorem KeepsWaiting.read (part : Part ς α) :
    KeepsWaiting (componentPart.andThen part : Part (Host ς ω ρ ν δ) α).read := fun _ => rfl

theorem KeepsWaiting.write (part : Part ς α) (value : α) :
    KeepsWaiting ((componentPart.andThen part : Part (Host ς ω ρ ν δ) α).write value) :=
  fun _ => rfl

/-- As long as nothing waits, there is nothing to catch up on. -/
theorem Mirrors.of_keepsWaiting {run : Exec (Host ς ω ρ ν δ) α} (keeps : KeepsWaiting run)
    (idle : host.waiting = []) : Mirrors effect shown host run run := by
  rw [Mirrors, caughtUp_of_idle idle, caughtUp_of_idle ((keeps host).trans idle)]

/-! ## Handing over -/

section

variable {deliver : δ → Exec (Host ς ω ρ ν δ) Unit} {route : Route}

/-- A delivery that is handed over to wait comes after all that wait already. -/
theorem runFrom_dispatch (waits : route ≠ .inline) (delivery : δ) :
    ((dispatcher route).dispatch deliver delivery).runFrom host =
      (.ok (), { host with waiting := host.waiting ++ [delivery] }) := by
  cases route with
  | inline => exact absurd rfl waits
  | deferred | interrupt => rfl

theorem Mirrors.dispatch (waits : route ≠ .inline) {delivery : δ}
    (delivers : Delivers effect shown deliver host.component delivery) :
    Mirrors effect shown host ((dispatcher route).dispatch deliver delivery)
      ((dispatcher .inline).dispatch deliver delivery) := by
  rw [Mirrors, runFrom_dispatch waits, caughtUp_concat]
  exact delivers (host.caughtUp effect shown) rfl

theorem runFrom_forM_dispatch (waits : route ≠ .inline) (deliveries : List δ) :
    (deliveries.forM ((dispatcher route).dispatch deliver)).runFrom host =
      (.ok ⟨⟩, { host with waiting := host.waiting ++ deliveries }) := by
  induction deliveries generalizing host with
  | nil => simp
  | cons delivery deliveries induction =>
      rw [Exec.runFrom_forM_cons, runFrom_dispatch waits]
      simp only [induction, List.append_assoc, List.singleton_append]

theorem Mirrors.forM_dispatch (waits : route ≠ .inline) {deliveries : List δ}
    (delivers : ∀ delivery ∈ deliveries,
      Delivers effect shown deliver host.component delivery) :
    Mirrors effect shown host (deliveries.forM ((dispatcher route).dispatch deliver))
      (deliveries.forM ((dispatcher .inline).dispatch deliver)) := by
  induction deliveries generalizing host with
  | nil => rfl
  | cons delivery deliveries induction =>
      apply (Mirrors.dispatch waits (delivers delivery List.mem_cons_self)).bind
      intro _ after handed_over
      rw [runFrom_dispatch waits] at handed_over
      cases handed_over
      exact induction fun later member => delivers later (List.mem_cons_of_mem _ member)

end

/-! ## Sessions -/

/-- Performs operations one after the other, whether they panic or not, and lists how they end. -/
def session {γ : Type} (perform : γ → Exec (Host ς ω ρ ν δ) α) :
    List γ → Host ς ω ρ ν δ → List (Except Halt α) × Host ς ω ρ ν δ
  | [], host => ([], host)
  | call :: calls, host =>
      let (outcome, after) := (perform call).runFrom host
      let (outcomes, last) := session perform calls after
      (outcome :: outcomes, last)

/-- Operations that do the same wherever a session can be do the same in a session. -/
theorem session_congr {γ : Type} {first second : γ → Exec (Host ς ω ρ ν δ) α}
    (kept : Host ς ω ρ ν δ → Prop)
    (step : ∀ host call, kept host → (first call).runFrom host = (second call).runFrom host ∧
      kept ((second call).runFrom host).2)
    (calls : List γ) (start : kept host) :
    session first calls host = session second calls host := by
  induction calls generalizing host with
  | nil => rfl
  | cons call calls induction =>
      obtain ⟨same, kept_after⟩ := step host call start
      simp only [session, same, induction kept_after]

/-- An operation after which all that waits is run. -/
def thenFlush (route : Route) (deliver : δ → Exec (Host ς ω ρ ν δ) Unit)
    (operation : Exec (Host ς ω ρ ν δ) α) : Exec (Host ς ω ρ ν δ) α :=
  Exec.ensuring operation (flush route deliver)

/-- If nothing waits before an operation, and all that waits after it can run then, it makes no
difference whether the callbacks wait. -/
theorem Mirrors.runFrom_thenFlush {deferred inline : Exec (Host ς ω ρ ν δ) α}
    {deliver : δ → Exec (Host ς ω ρ ν δ) Unit} (route : Route) (idle : host.waiting = [])
    (mirrors : Mirrors effect shown host deferred inline)
    (delivers : ∀ delivery ∈ (deferred.runFrom host).2.waiting,
      Delivers effect shown deliver (deferred.runFrom host).2.component delivery) :
    (thenFlush route deliver deferred).runFrom host = inline.runFrom host ∧
      (inline.runFrom host).2 = (deferred.runFrom host).2.caughtUp effect shown := by
  rw [Mirrors, caughtUp_of_idle idle] at mirrors
  refine ⟨?_, congrArg Prod.snd mirrors⟩
  rw [thenFlush, Exec.runFrom_ensuring_of_ok (runFrom_flush route delivers), mirrors]

end Host

end Reactor

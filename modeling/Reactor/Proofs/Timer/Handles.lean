import Reactor.Hardware.Simulated
import Reactor.Proofs.Exec
import Reactor.Proofs.Timer.Custody
import Reactor.Timer.Service

/-!
# Programs that use timers through handles

A program holds its handles somewhere in its state, and its callbacks are programs again.  Whatever
such a program does, also inside callbacks, shows as steps of the manager and its handles.  A
program that returns has completed every release that it has begun; one that halts may have left
some releases cut short.
-/

namespace Reactor

variable {σ H κ α β : Type}

/-- The part of a state that is a handle, as `view` shows it. -/
structure Part.IsHandle (handle : Part σ (Option TimerId)) (view : σ → Custody H κ) (place : Nat) :
    Prop where
  /-- The handle is read where it is shown. -/
  get : ∀ world, handle.get world = ((view world).handles[place]?).join
  /-- Only the handle is replaced. -/
  set : ∀ timer world, view (handle.set timer world) =
    { view world with handles := (view world).handles.set place timer }

/-- What a service touches, apart from callbacks, is not shown by `view`, except for its manager. -/
structure TimerService.ShownBy (service : TimerService σ H κ) (view : σ → Custody H κ) : Prop where
  /-- The manager is shown. -/
  manager_get : ∀ world, service.manager.get world = (view world).manager
  /-- Only the manager is replaced. -/
  manager_set : ∀ manager world, view (service.manager.set manager world) =
    { view world with manager }
  /-- A report is taken and not shown. -/
  report : ∀ note world, ∃ after,
    (service.report note).runFrom world = (.ok (), after) ∧ view after = view world
  /-- The waiting list of the dispatcher is not shown. -/
  backlog : ∀ list world, view (service.dispatcher.backlog.set list world) = view world
  /-- The interrupt queue of the dispatcher is not shown. -/
  interrupts : ∀ queue world, view (service.dispatcher.interrupts.set queue world) = view world

variable [HardwareTimer H] {view : σ → Custody H κ} {sure : Prop}

/-- From `world` on, a run takes the handles on from `start` in steps.  Releases are cut short only
if it halts, and not even then if it is `sure`. -/
def Exec.Continues (run : Exec σ α) (view : σ → Custody H κ) (sure : Prop) (start : Custody H κ)
    (world : σ) : Prop :=
  ∃ cut, (∀ releasing, (start.amid releasing).Runs
      ((view (run.runFrom world).2).amid (cut ++ releasing))) ∧
    ((sure ∨ ∃ answer, (run.runFrom world).1 = .ok answer) → cut = [])

/-- Every run takes the handles on in steps. -/
def Exec.KeepsCustody (run : Exec σ α) (view : σ → Custody H κ) (sure : Prop) : Prop :=
  ∀ world, run.Continues view sure (view world) world

namespace Exec

theorem Continues.bind {first : Exec σ α} {rest : α → Exec σ β} {start : Custody H κ} {world : σ}
    (continues : first.Continues view sure start world)
    (later : ∀ value middle, first.runFrom world = (.ok value, middle) →
      (rest value).Continues view sure (view middle) middle) :
    (first >>= rest).Continues view sure start world := by
  obtain ⟨cut, runs, whole⟩ := continues
  rw [Continues, Exec.runFrom_bind]
  rcases ran : first.runFrom world with ⟨halt | value, middle⟩
  all_goals rw [ran] at runs whole
  · refine ⟨cut, runs, fun outcome => ?_⟩
    rcases outcome with surely | ⟨_, ⟨⟩⟩
    exact whole (Or.inl surely)
  · obtain rfl := whole (Or.inr ⟨_, rfl⟩)
    obtain ⟨further, more, complete⟩ := later value middle ran
    exact ⟨further, fun releasing => (runs releasing).trans (more releasing), complete⟩

/-- A clean-up goes on from where the body has come to an end or has halted. -/
theorem Continues.ensuring {body : Exec σ α} {cleanup : Exec σ Unit} {start : Custody H κ}
    {world : σ} (continues : body.Continues view sure start world)
    (cleans : cleanup.KeepsCustody view sure) :
    (Exec.ensuring body cleanup).Continues view sure start world := by
  obtain ⟨cut, runs, whole⟩ := continues
  obtain ⟨further, more, complete⟩ := cleans (body.runFrom world).2
  refine ⟨further ++ cut, ?_⟩
  rcases cleaned : cleanup.runFrom (body.runFrom world).2 with ⟨halt | _, last⟩
  all_goals rw [cleaned] at more complete
  · rw [Exec.runFrom_ensuring_of_error cleaned]
    refine ⟨fun releasing => ?_, fun outcome => ?_⟩
    · rw [List.append_assoc]
      exact (runs releasing).trans (more _)
    · rcases outcome with surely | ⟨_, ⟨⟩⟩
      rw [whole (Or.inl surely), complete (Or.inl surely), List.append_nil]
  · rw [Exec.runFrom_ensuring_of_ok cleaned]
    refine ⟨fun releasing => ?_, fun outcome => ?_⟩
    · rw [List.append_assoc]
      exact (runs releasing).trans (more _)
    · rw [whole outcome, complete (Or.inr ⟨_, rfl⟩), List.append_nil]

/-- A run that shows as one step. -/
theorem Continues.of_step {run : Exec σ α} {start : Custody H κ} {world : σ}
    (step : ∀ releasing,
      (start.amid releasing).Step ((view (run.runFrom world).2).amid releasing)) :
    run.Continues view sure start world :=
  ⟨[], fun releasing => .single (step releasing), fun _ => rfl⟩

namespace KeepsCustody

theorem of_unseen {run : Exec σ α} (unseen : ∀ world, view (run.runFrom world).2 = view world) :
    run.KeepsCustody view sure := by
  refine fun world => ⟨[], fun releasing => ?_, fun _ => rfl⟩
  rw [unseen]
  exact .refl

theorem pure (value : α) : (Pure.pure value : Exec σ α).KeepsCustody view sure :=
  of_unseen fun _ => rfl

theorem throw (halt : Halt) : (MonadExcept.throw halt : Exec σ α).KeepsCustody view sure :=
  of_unseen fun _ => rfl

theorem panic (message : String) : (Exec.panic message : Exec σ α).KeepsCustody view sure :=
  throw _

theorem read {γ : Type} (part : Part σ γ) : part.read.KeepsCustody view sure :=
  of_unseen fun _ => rfl

theorem bind {first : Exec σ α} {rest : α → Exec σ β} (keeps : first.KeepsCustody view sure)
    (later : ∀ value, (rest value).KeepsCustody view sure) :
    (first >>= rest).KeepsCustody view sure :=
  fun world => (keeps world).bind fun value middle _ => later value middle

theorem forM {each : α → Exec σ PUnit} (keeps : ∀ one, (each one).KeepsCustody view sure)
    (list : List α) : (list.forM each).KeepsCustody view sure := by
  induction list with
  | nil => exact pure PUnit.unit
  | cons head tail induction => exact (keeps head).bind fun _ => induction

end KeepsCustody

end Exec

/-! ## Parts of the state -/

namespace Part.IsHandle

open Exec

variable {handle : Part σ (Option TimerId)} {place : Nat} (is_handle : handle.IsHandle view place)

include is_handle

omit [HardwareTimer H] in
theorem holds {world : σ} {id : TimerId} (held : handle.get world = some id) :
    (view world).handles[place]? = some (some id) := by
  rw [is_handle.get] at held
  exact Option.join_eq_some_iff.mp held

/-- What may be done with a timer that a handle holds may be done with the timer of a handle. -/
theorem keepsCustody_read {operation : Option TimerId → Exec σ α}
    (continues : ∀ timer world, (∀ id, timer = some id → some id ∈ (view world).handles) →
      (operation timer).Continues view sure (view world) world) :
    (handle.read >>= operation).KeepsCustody view sure := by
  intro world
  refine (KeepsCustody.read handle world).bind ?_
  rintro timer middle ran
  cases ran
  exact continues _ _ fun id held => List.mem_of_getElem? (is_handle.holds held)

end Part.IsHandle

/-- Replacing the part shows as a change of the hardware. -/
def Part.Stirs {γ : Type} (part : Part σ γ) (view : σ → Custody H κ) : Prop :=
  ∀ value world, ∃ hardware, view (part.set value world) =
    { view world with manager := { (view world).manager with hardware } }

namespace Part.Stirs

open Exec

variable {γ : Type} {part : Part σ γ} (stirs : part.Stirs view)

include stirs

theorem keepsCustody_write (value : γ) : (part.write value).KeepsCustody view sure := by
  refine fun world => .of_step fun releasing => ?_
  obtain ⟨hardware, stirred⟩ := stirs value world
  rw [Part.runFrom_write, stirred]
  exact .stir ((view world).amid releasing) hardware

theorem keepsCustody_update (change : γ → γ) : (part.update change).KeepsCustody view sure :=
  fun world => stirs.keepsCustody_write (change (part.get world)) world

omit stirs in
/-- A clock that moves, with whatever its expiries cause. -/
theorem keepsCustody_advance {timer : Part σ SimulatedTimer} (stirs : timer.Stirs view)
    {expired : Exec σ Unit} (keeps : expired.KeepsCustody view sure) (budget : Nat)
    (ticks : Ticks) :
    (SimulatedTimer.advance timer expired budget ticks).KeepsCustody view sure := by
  induction budget generalizing ticks with
  | zero => exact .throw _
  | succ budget induction =>
      rw [SimulatedTimer.advance]
      refine (KeepsCustody.read _).bind fun held => ?_
      split
      · exact stirs.keepsCustody_write _
      · exact (stirs.keepsCustody_write _).bind fun _ => keeps.bind fun _ => induction _

end Part.Stirs

/-! ## Dispatchers -/

namespace Dispatcher

open Exec

variable {δ : Type} {dispatcher : Dispatcher σ δ} {run : δ → Exec σ Unit}

theorem keepsCustody_pump {backlog : Part σ (Fifo δ)}
    (unseen : ∀ list world, view (backlog.set list world) = view world)
    (keeps : ∀ delivery, (run delivery).KeepsCustody view sure) (order : PumpOrder) (budget : Nat)
    (limit : Option Nat) : (pump backlog run order budget limit).KeepsCustody view sure := by
  induction budget generalizing limit with
  | zero => exact .throw _
  | succ budget induction =>
      by_cases spent : limit = some 0
      · subst spent
        exact .pure _
      · have taken : ∀ rest, (backlog.write rest).KeepsCustody view sure :=
          fun rest => .of_unseen fun world => unseen rest world
        rw [pump]
        · refine (KeepsCustody.read _).bind fun list => ?_
          split
          · exact .pure _
          · exact (taken _).bind fun _ => (keeps _).bind fun _ =>
              (induction _).bind fun _ => .pure _
        · exact spent

theorem keepsCustody_drain {queue : Part σ (InterruptQueue δ)}
    (unseen : ∀ held world, view (queue.set held world) = view world)
    (keeps : ∀ delivery, (run delivery).KeepsCustody view sure) (budget : Nat) :
    (InterruptQueue.drain queue run budget).KeepsCustody view sure := by
  induction budget with
  | zero => exact .throw _
  | succ budget induction =>
      rw [InterruptQueue.drain]
      refine (KeepsCustody.read _).bind fun held => ?_
      split
      · exact .pure _
      · have taken : ∀ rest, (queue.write rest).KeepsCustody view sure :=
          fun rest => .of_unseen fun world => unseen rest world
        exact (taken _).bind fun _ => (keeps _).bind fun _ => induction.bind fun _ => .pure _

theorem keepsCustody_push {queue : Part σ (InterruptQueue δ)}
    (unseen : ∀ held world, view (queue.set held world) = view world) (operation : δ)
    (footprint : Footprint) :
    (InterruptQueue.push queue (pure ()) operation footprint).KeepsCustody view sure := by
  have tries : (InterruptQueue.tryPush queue (pure ()) operation footprint).KeepsCustody view
      sure := by
    refine (KeepsCustody.read _).bind fun held => ?_
    split
    · exact .panic _
    · split
      · exact .pure _
      · have grows : ∀ grown, (queue.write grown).KeepsCustody view sure :=
          fun grown => .of_unseen fun world => unseen grown world
        exact (grows _).bind fun _ => (KeepsCustody.pure ()).bind fun _ => .pure _
  refine tries.bind fun outcome => ?_
  cases outcome with
  | ok => exact .pure _
  | error => exact .panic _

end Dispatcher

/-! ## Operations on a manager -/

namespace TimerService

open Exec TimerManager

variable {service : TimerService σ H κ}

section

variable (shown : service.ShownBy view)

include shown

theorem ShownBy.keepsCustody_report (note : TimerNote) :
    (service.report note).KeepsCustody view sure := by
  refine .of_unseen fun world => ?_
  obtain ⟨after, reported, same⟩ := shown.report note world
  rw [reported, same]

omit [HardwareTimer H] in
theorem ShownBy.runFrom_reports (notes : List TimerNote) (world : σ) : ∃ after,
    (notes.forM service.report).runFrom world = (.ok ⟨⟩, after) ∧ view after = view world := by
  induction notes generalizing world with
  | nil => exact ⟨world, rfl, rfl⟩
  | cons note notes induction =>
      obtain ⟨middle, reported, same⟩ := shown.report note world
      obtain ⟨after, rest, same_rest⟩ := induction middle
      exact ⟨after, by simp only [runFrom_forM_cons, reported, rest], same_rest.trans same⟩

omit [HardwareTimer H] in
/-- What follows a section comes to its answer, if everything that fired can be handed over. -/
theorem ShownBy.runFrom_conclude_of_handed (done : TimerSection H κ α)
    (handed : ∀ expiry ∈ done.fired, ∀ moment, ∃ later,
      (service.handOver expiry).runFrom moment = (.ok (), later)) (world : σ) :
    ∃ last, (service.conclude done).runFrom world = (.ok done.answer, last) := by
  have hands_over : ∀ fired : List (Expiry κ), fired ⊆ done.fired → ∀ world, ∃ last,
      (fired.forM service.handOver).runFrom world = (.ok ⟨⟩, last) := by
    intro fired
    induction fired with
    | nil => exact fun _ world => ⟨world, rfl⟩
    | cons expiry fired induction =>
        intro within world
        obtain ⟨middle, first⟩ := handed expiry (within List.mem_cons_self) world
        obtain ⟨last, rest⟩ := induction (fun _ member => within (List.mem_cons_of_mem _ member))
          middle
        exact ⟨last, by simp only [runFrom_forM_cons, first, rest]⟩
  obtain ⟨noted, reported, _⟩ := shown.runFrom_reports done.notes world
  obtain ⟨last, ran⟩ := hands_over done.fired (List.Subset.refl _) noted
  exact ⟨last, by simp only [conclude, runFrom_bind, reported, ran, runFrom_pure]⟩

omit [HardwareTimer H] in
/-- A section that fires nothing comes to its answer. -/
theorem ShownBy.runFrom_commit_of_quiet (act : TimerManager H κ → TimerSection H κ α)
    (quiet : ∀ manager, (act manager).fired = []) (world : σ) : ∃ after,
    (service.commit act).runFrom world = (.ok (act (view world).manager).answer, after) ∧
      view after = { view world with manager := (act (view world).manager).manager } := by
  obtain ⟨after, reported, same⟩ := shown.runFrom_reports (act (view world).manager).notes
    (service.manager.set (act (view world).manager).manager world)
  refine ⟨after, ?_, same.trans (shown.manager_set _ _)⟩
  rw [runFrom_commit, shown.manager_get, conclude, quiet, Exec.runFrom_bind, reported]
  rfl

theorem ShownBy.keepsCustody_deliver
    (calls : ∀ callback, (service.call callback).KeepsCustody view sure) (expiry : Expiry κ) :
    (service.deliver expiry).KeepsCustody view sure := by
  intro world
  rw [Continues, runFrom_deliver]
  split
  · exact calls expiry.callback world
  · exact shown.keepsCustody_report _ world

theorem ShownBy.keepsCustody_handOver (inline : service.dispatcher.route = .inline)
    (calls : ∀ callback, (service.call callback).KeepsCustody view sure) (expiry : Expiry κ) :
    (service.handOver expiry).KeepsCustody view sure := by
  rw [handOver, Dispatcher.dispatch, inline]
  exact shown.keepsCustody_deliver calls expiry

/-- A dispatcher that only takes callbacks in does nothing to the handles, even if it panics. -/
theorem ShownBy.keepsCustody_handOver_of_queueing (queueing : service.dispatcher.route ≠ .inline)
    (expiry : Expiry κ) : (service.handOver expiry).KeepsCustody view sure := by
  rw [handOver, Dispatcher.dispatch]
  split
  · next inline => exact absurd inline queueing
  · exact .of_unseen fun world => shown.backlog _ world
  · exact Dispatcher.keepsCustody_push shown.interrupts _ _

theorem ShownBy.keepsCustody_work
    (calls : ∀ callback, (service.call callback).KeepsCustody view sure) (order : PumpOrder)
    (budget : Nat) (limit : Option Nat) :
    (service.dispatcher.work service.deliver order budget limit).KeepsCustody view sure := by
  have delivers := shown.keepsCustody_deliver calls
  rw [Dispatcher.work]
  split
  · exact Dispatcher.keepsCustody_drain shown.interrupts delivers _
  · exact Dispatcher.keepsCustody_pump shown.backlog delivers _ _ _

/-! ### New handles -/

omit [HardwareTimer H] in
/-- An allocation comes to its answer, whatever that is. -/
theorem ShownBy.runFrom_tryAllocate (world : σ) : ∃ after,
    service.tryAllocate.runFrom world = (.ok (view world).manager.allocate.answer, after) ∧
      view after = { view world with manager := (view world).manager.allocate.manager } := by
  have quiet : ∀ manager : TimerManager H κ, manager.allocate.fired = [] := by
    intro manager
    rw [TimerManager.allocate]
    repeat' split
    all_goals rfl
  exact shown.runFrom_commit_of_quiet _ quiet world

/-- What becomes of a new timer is up to the caller, who makes a handle of it. -/
theorem ShownBy.keepsCustody_tryAllocate {settle : Except TimerError TimerId → Exec σ α}
    (keep : ∀ id world, (settle (.ok id)).Continues view sure
      { view world with handles := (view world).handles ++ [some id] } world)
    (refuse : ∀ error, (settle (.error error)).KeepsCustody view sure) :
    (service.tryAllocate >>= settle).KeepsCustody view sure := by
  intro world
  obtain ⟨middle, ran, same⟩ := shown.runFrom_tryAllocate world
  rw [Continues, runFrom_bind, ran]
  cases answered : (view world).manager.allocate.answer with
  | ok id =>
      obtain ⟨cut, runs, whole⟩ := keep id middle
      rw [same] at runs
      exact ⟨cut, fun releasing => .head (.allocate answered) (runs releasing), whole⟩
  | error error =>
      have unchanged : view middle = view world := by rw [same, allocate_of_error answered]
      have rest := refuse error middle
      rwa [unchanged] at rest

theorem ShownBy.keepsCustody_allocate {keep : TimerId → Exec σ α}
    (keeps : ∀ id world, (keep id).Continues view sure
      { view world with handles := (view world).handles ++ [some id] } world) :
    (service.allocate >>= keep).KeepsCustody view sure := by
  rw [allocate, bind_assoc]
  apply shown.keepsCustody_tryAllocate
  · intro id world
    rw [pure_bind]
    exact keeps id world
  · exact fun error => .of_unseen fun _ => rfl

/-! ### The two sections of a release -/

/-- A release halts while what its cancellation fired is handed over, or it frees its timer after
all that came of that. -/
theorem ShownBy.release_cases (id : TimerId) (world : σ) : ∃ begun,
    view begun = { view world with manager := ((view world).manager.cancel id).manager } ∧
    ((∃ halt after,
      (service.conclude ((view world).manager.cancel id)).runFrom begun = (.error halt, after) ∧
        (service.release id).runFrom world = (.error halt, after)) ∨
    ∃ told middle after,
      (service.conclude ((view world).manager.cancel id)).runFrom begun = (.ok told, middle) ∧
        (service.release id).runFrom world = (.ok (), after) ∧
        view after = { view middle with manager := ((view middle).manager.free id).manager }) := by
  obtain ⟨begun, same_begun⟩ : ∃ begun, begun = service.manager.set
      ((view world).manager.cancel id).manager world := ⟨_, rfl⟩
  refine ⟨begun, by rw [same_begun, shown.manager_set], ?_⟩
  have cancelled : (service.commit (·.cancel id)).runFrom world =
      (service.conclude ((view world).manager.cancel id)).runFrom begun := by
    rw [runFrom_commit, shown.manager_get, same_begun]
  rcases ran : (service.conclude ((view world).manager.cancel id)).runFrom begun with
    ⟨halt | told, middle⟩
  all_goals rw [ran] at cancelled
  · exact Or.inl ⟨halt, middle, rfl, by rw [release, runFrom_bind, cancelled]⟩
  · -- Whatever the cancellation answers, at most a report comes before the timer is freed.
    have reported : ∃ noted, view noted = view middle ∧
        (service.release id).runFrom world = (service.commit (·.free id)).runFrom noted := by
      rw [release, runFrom_bind, cancelled]
      cases told with
      | ok pending => exact ⟨middle, rfl, rfl⟩
      | error error =>
          obtain ⟨noted, reported, same⟩ := shown.report (.releaseFailed id error) middle
          cases error with
          | invalidHandle => exact ⟨middle, rfl, rfl⟩
          | _ => exact ⟨noted, same, by simp only [runFrom_bind, reported]⟩
    obtain ⟨noted, same_noted, rest⟩ := reported
    obtain ⟨after, freed, same⟩ := shown.runFrom_commit_of_quiet
      (TimerManager.free · id) (fun _ => rfl) noted
    rw [same_noted] at same
    exact Or.inr ⟨told, middle, after, rfl, rest.trans freed, same⟩

/-- A reset that returns has freed its timer after all that came in between; one that halts is cut
short. -/
theorem ShownBy.reset_cases {handle : Part σ (Option TimerId)} {place : Nat}
    (is_handle : handle.IsHandle view place) {world : σ} {id : TimerId}
    (held : handle.get world = some id) :
    ∃ begun,
      view begun =
        { view world with
          manager := ((view world).manager.cancel id).manager
          handles := (view world).handles.set place none } ∧
      ((∃ halt after,
        (service.conclude ((view world).manager.cancel id)).runFrom begun = (.error halt, after) ∧
          (service.reset handle).runFrom world = (.error halt, after)) ∨
      ∃ told middle after,
        (service.conclude ((view world).manager.cancel id)).runFrom begun = (.ok told, middle) ∧
          (service.reset handle).runFrom world = (.ok true, after) ∧
          view after =
            { view middle with manager := ((view middle).manager.free id).manager }) := by
  have unfolded : (service.reset handle).runFrom world =
      (do service.release id; return true).runFrom (handle.set none world) := by
    rw [reset, runFrom_bind, Part.runFrom_read]
    simp only [held]
    rw [runFrom_bind, Part.runFrom_write]
  obtain ⟨begun, same_begun, outcome⟩ := shown.release_cases id (handle.set none world)
  rw [is_handle.set] at same_begun outcome
  refine ⟨begun, same_begun, ?_⟩
  rw [unfolded, runFrom_bind]
  rcases outcome with ⟨halt, after, concluded, ran⟩ | ⟨told, middle, after, concluded, ran, same⟩
  · rw [ran]
    exact Or.inl ⟨halt, after, concluded, rfl⟩
  · rw [ran]
    exact Or.inr ⟨told, middle, after, concluded, rfl, same⟩

end

/-! ### Sections -/

section

variable (shown : service.ShownBy view)
  (deliveries : ∀ expiry, (service.handOver expiry).KeepsCustody view sure)

include shown deliveries

/-- What follows a section takes the handles on. -/
theorem ShownBy.keepsCustody_conclude (done : TimerSection H κ α) :
    (service.conclude done).KeepsCustody view sure :=
  (KeepsCustody.forM (fun note => shown.keepsCustody_report note) _).bind fun _ =>
    (KeepsCustody.forM deliveries _).bind fun _ => .pure _

/-- A section that is a step, and what follows it. -/
theorem ShownBy.continues_commit {act : TimerManager H κ → TimerSection H κ α} {world : σ}
    {start : Custody H κ}
    (step : ∀ releasing, (start.amid releasing).Step
      ({ view world with manager := (act (view world).manager).manager }.amid releasing)) :
    (service.commit act).Continues view sure start world := by
  obtain ⟨cut, runs, whole⟩ := shown.keepsCustody_conclude deliveries
    (act (view world).manager) (service.manager.set (act (view world).manager).manager world)
  rw [shown.manager_set] at runs
  rw [Continues, runFrom_commit, shown.manager_get]
  exact ⟨cut, fun releasing => .head (step releasing) (runs releasing), whole⟩

theorem ShownBy.keepsCustody_expire : service.expire.KeepsCustody view sure :=
  fun world => shown.continues_commit deliveries fun releasing =>
    .expire ((view world).amid releasing)

/-- Whoever has read a timer from a handle may schedule it. -/
theorem ShownBy.continues_schedule {timer : Option TimerId} {world : σ}
    (holds : ∀ id, timer = some id → some id ∈ (view world).handles) (mode : TimerMode)
    (delay : Duration) (footprint : Footprint) (callback : κ) :
    (service.schedule timer mode delay footprint callback).Continues view sure (view world)
      world := by
  cases timer with
  | none => exact KeepsCustody.pure _ world
  | some id =>
      cases accepted : (service.manager.get world).accept mode delay footprint with
      | error refusal =>
          refine (KeepsCustody.read service.manager world).bind ?_
          rintro manager middle ran
          cases ran
          simp only [accepted]
          cases refusal with
          | panic message => exact KeepsCustody.panic _ world
          | error error => exact KeepsCustody.pure _ world
      | ok ticks =>
          rw [Continues, runFrom_schedule_of_accepted id callback accepted]
          rw [shown.manager_get] at accepted
          exact shown.continues_commit deliveries fun releasing =>
            Custody.Step.schedule callback (holds id rfl) accepted

/-- Whoever has read a timer from a handle may cancel it. -/
theorem ShownBy.continues_tryCancel {timer : Option TimerId} {world : σ}
    (holds : ∀ id, timer = some id → some id ∈ (view world).handles) :
    (service.tryCancel timer).Continues view sure (view world) world := by
  cases timer with
  | none => exact KeepsCustody.pure _ world
  | some id =>
      exact shown.continues_commit deliveries fun releasing => Custody.Step.cancel (holds id rfl)

theorem ShownBy.continues_cancel {timer : Option TimerId} {world : σ}
    (holds : ∀ id, timer = some id → some id ∈ (view world).handles) :
    (service.cancel timer).Continues view sure (view world) world := by
  refine (shown.continues_tryCancel deliveries holds).bind fun outcome middle _ => ?_
  split
  · exact KeepsCustody.pure _ middle
  · exact KeepsCustody.pure _ middle
  · exact (shown.keepsCustody_report _).bind (fun _ => .pure _) middle

/-! ### Resets -/

variable {handle : Part σ (Option TimerId)} {place : Nat} (is_handle : handle.IsHandle view place)

include is_handle

/-- Up to the freeing of its timer a reset takes the handles on to where that timer is being
released. -/
theorem ShownBy.runs_of_begun {world begun middle : σ} {id : TimerId} {outcome}
    (held : handle.get world = some id)
    (same_begun : view begun =
      { view world with
        manager := ((view world).manager.cancel id).manager
        handles := (view world).handles.set place none })
    (concluded : (service.conclude ((view world).manager.cancel id)).runFrom begun =
      (outcome, middle)) :
    ∃ cut, (∀ releasing, ((view world).amid releasing).Runs
        ((view middle).amid (cut ++ id :: releasing))) ∧
      ((sure ∨ ∃ answer, outcome = .ok answer) → cut = []) := by
  obtain ⟨cut, runs, whole⟩ :=
    shown.keepsCustody_conclude deliveries ((view world).manager.cancel id) begun
  rw [concluded] at runs whole
  refine ⟨cut, fun releasing => .head ?_ (runs (id :: releasing)), whole⟩
  rw [same_begun]
  exact .release (is_handle.holds held)

theorem ShownBy.keepsCustody_reset : (service.reset handle).KeepsCustody view False := by
  intro world
  cases held : handle.get world with
  | none =>
      refine (KeepsCustody.read handle world).bind ?_
      rintro timer middle ran
      cases ran
      rw [held]
      exact KeepsCustody.pure false world
  | some id =>
      obtain ⟨begun, same_begun, ⟨halt, after, concluded, ran⟩ |
        ⟨told, middle, after, concluded, ran, same⟩⟩ := shown.reset_cases is_handle held
      all_goals
        obtain ⟨cut, runs, whole⟩ :=
          shown.runs_of_begun deliveries is_handle held same_begun concluded
      · refine ⟨cut ++ [id], fun releasing => ?_, ?_⟩
        · rw [ran, List.append_assoc]
          exact runs releasing
        · rw [ran]
          rintro (never | ⟨_, ⟨⟩⟩)
          exact never.elim
      · obtain rfl := whole (Or.inr ⟨_, rfl⟩)
        refine ⟨[], fun releasing => (runs releasing).tail ?_, fun _ => rfl⟩
        have frees : ((view middle).amid (id :: releasing)).Step _ :=
          .free (List.mem_cons_self : id ∈ id :: releasing)
        rw [ran, same]
        simpa [Custody.amid] using frees

/-- What comes of the reset of a handle that has a timer. -/
structure Resets (service : TimerService σ H κ) (view : σ → Custody H κ)
    (handle : Part σ (Option TimerId)) (place : Nat) (id : TimerId) (world : σ)
    (outcome : Except Halt Bool) (after : σ) : Prop where
  /-- The handle has no timer any more. -/
  emptied : (view after).handles[place]? = some none
  /-- It returns if what the cancellation fires can be handed over. -/
  returns : (∀ expiry ∈ ((view world).manager.cancel id).fired, ∀ moment, ∃ later,
    (service.handOver expiry).runFrom moment = (.ok (), later)) → outcome = .ok true
  /-- From then on a reset does nothing, whoever gets the index. -/
  again : ∀ later releasing rest, ((view after).amid releasing).Runs ((view later).amid rest) →
    (service.reset handle).runFrom later = (.ok false, later)
  /-- A reset that returns has cancelled the timer, handed over what that fired, and then freed the
  timer, which no other has noticed. -/
  freed : ∀ answer, outcome = .ok answer → answer = true ∧ ∃ begun told middle,
    view begun =
      { view world with
        manager := ((view world).manager.cancel id).manager
        handles := (view world).handles.set place none } ∧
    (service.conclude ((view world).manager.cancel id)).runFrom begun = (.ok told, middle) ∧
    view after = { view middle with manager := ((view middle).manager.free id).manager } ∧
    (view middle).manager.Unnoticed id (view after).manager ∧
    (view after).manager.timer? id = none ∧ id ∉ (view after).manager.queue.ids

omit shown deliveries in
theorem runFrom_reset_of_empty {later : σ}
    (empty : (view later).handles[place]? = some none) :
    (service.reset handle).runFrom later = (.ok false, later) := by
  have read : handle.get later = none := by rw [is_handle.get, empty, Option.join_some]
  rw [reset, runFrom_bind, Part.runFrom_read]
  simp only [read, runFrom_pure]

theorem ShownBy.resets {hardware : H} {storage : TimerStorage} {world after : σ}
    {releasing : List TimerId} {id : TimerId} {outcome : Except Halt Bool}
    (reached : (Custody.fresh hardware storage).Runs ((view world).amid releasing))
    (held : handle.get world = some id)
    (ran : (service.reset handle).runFrom world = (outcome, after)) :
    service.Resets view handle place id world outcome after := by
  obtain ⟨begun, same_begun, ended⟩ := shown.reset_cases is_handle held
  have vacant : (view begun).handles[place]? = some none := by
    obtain ⟨inside, _⟩ := List.getElem?_eq_some_iff.mp (is_handle.holds held)
    rw [same_begun]
    exact List.getElem?_set_self inside
  obtain ⟨cut, concludes, _⟩ :=
    shown.keepsCustody_conclude deliveries ((view world).manager.cancel id) begun
  have emptied : (view after).handles[place]? = some none := by
    rcases ended with ⟨halt, last, concluded, same_run⟩ |
      ⟨told, middle, last, concluded, same_run, same⟩
    all_goals
      rw [ran] at same_run
      cases same_run
      rw [concluded] at concludes
    · exact (concludes []).stays_empty vacant
    · rw [same]
      exact (concludes []).stays_empty vacant
  refine ⟨emptied, fun handed => ?_, fun later releasing rest runs => ?_, ?_⟩
  · obtain ⟨last, concluded⟩ := shown.runFrom_conclude_of_handed _ handed begun
    obtain ⟨_, _, halted, _⟩ | ⟨told, middle, last, _, same_run, _⟩ := ended
    · rw [concluded] at halted
      cases halted
    · rw [ran] at same_run
      exact congrArg Prod.fst same_run
  · exact runFrom_reset_of_empty is_handle (runs.stays_empty emptied)
  · rintro answer rfl
    obtain ⟨_, _, _, same_run⟩ | ⟨told, middle, last, concluded, same_run, same⟩ := ended
    all_goals
      rw [ran] at same_run
      cases same_run
    obtain ⟨cut, runs, whole⟩ :=
      shown.runs_of_begun deliveries is_handle held same_begun concluded
    obtain rfl := whole (Or.inr ⟨_, rfl⟩)
    obtain ⟨_, unqueued, unnoticed, absent, _⟩ :=
      Custody.Runs.frees (reached.trans (runs releasing)) List.mem_cons_self
    refine ⟨rfl, begun, told, middle, same_begun, concluded, same, ?_⟩
    rw [same]
    exact ⟨unnoticed, absent, fun queued => unqueued ((unnoticed.queued_iff id).mp queued).2⟩

end

/-! ### All uses -/

/-- Whatever is done through handles takes the handles on in steps. -/
structure KeepsHandles (service : TimerService σ H κ) (view : σ → Custody H κ) (sure : Prop) :
    Prop where
  /-- A new timer becomes a handle; where there is no room, nothing happens before the panic. -/
  allocate : ∀ {α : Type} {surely : Prop} {keep : TimerId → Exec σ α},
    (∀ id world, (keep id).Continues view surely
      { view world with handles := (view world).handles ++ [some id] } world) →
    (service.allocate >>= keep).KeepsCustody view surely
  /-- A new timer becomes a handle, if there is room for one. -/
  tryAllocate : ∀ {α : Type} {surely : Prop} {settle : Except TimerError TimerId → Exec σ α},
    (∀ id world, (settle (.ok id)).Continues view surely
      { view world with handles := (view world).handles ++ [some id] } world) →
    (∀ error, (settle (.error error)).KeepsCustody view surely) →
    (service.tryAllocate >>= settle).KeepsCustody view surely
  /-- The timer of a handle is scheduled. -/
  schedule : ∀ {handle : Part σ (Option TimerId)} {place : Nat}, handle.IsHandle view place →
    ∀ mode delay footprint callback, (handle.read >>= fun timer =>
      service.schedule timer mode delay footprint callback).KeepsCustody view sure
  /-- Nothing happens if scheduling is refused, even if that panics. -/
  refused : ∀ id mode delay footprint callback world refusal,
    (view world).manager.accept mode delay footprint = .error refusal →
    ((service.schedule (some id) mode delay footprint callback).runFrom world).2 = world
  /-- The timer of a handle is cancelled. -/
  tryCancel : ∀ {handle : Part σ (Option TimerId)} {place : Nat}, handle.IsHandle view place →
    (handle.read >>= service.tryCancel).KeepsCustody view sure
  /-- The timer of a handle is cancelled, and a failure is reported. -/
  cancel : ∀ {handle : Part σ (Option TimerId)} {place : Nat}, handle.IsHandle view place →
    (handle.read >>= service.cancel).KeepsCustody view sure
  /-- An expiry of the hardware is worked off. -/
  expire : service.expire.KeepsCustody view sure
  /-- A handle is reset; only that can be cut short. -/
  reset : ∀ {handle : Part σ (Option TimerId)} {place : Nat}, handle.IsHandle view place →
    (service.reset handle).KeepsCustody view False

theorem ShownBy.keepsHandles (shown : service.ShownBy view)
    (deliveries : ∀ expiry, (service.handOver expiry).KeepsCustody view sure) :
    service.KeepsHandles view sure where
  allocate keeps := shown.keepsCustody_allocate keeps
  tryAllocate keeps refuse := shown.keepsCustody_tryAllocate keeps refuse
  schedule is_handle mode delay footprint callback := is_handle.keepsCustody_read
    fun _ _ holds => shown.continues_schedule deliveries holds mode delay footprint callback
  refused id mode delay footprint callback world refusal refused := by
    rw [← shown.manager_get] at refused
    rw [TimerService.schedule, runFrom_bind, Part.runFrom_read]
    simp only [refused]
    cases refusal <;> rfl
  tryCancel is_handle := is_handle.keepsCustody_read
    fun _ _ holds => shown.continues_tryCancel deliveries holds
  cancel is_handle := is_handle.keepsCustody_read
    fun _ _ holds => shown.continues_cancel deliveries holds
  expire := shown.keepsCustody_expire deliveries
  reset is_handle := shown.keepsCustody_reset deliveries is_handle

end TimerService

end Reactor

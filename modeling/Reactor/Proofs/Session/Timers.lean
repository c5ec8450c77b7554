import Reactor.Proofs.Timer.Handles
import Reactor.Session.Timers

/-!
# Handles in a session

The callbacks of a session carry steps of their own, which carry callbacks again.  By induction on
how deep they nest, every step of a session takes the handles on in steps of the manager, unless it
tears the manager down.  So between two steps each occupied slot belongs to just one handle, until a
panic cuts a release short.
-/

namespace Reactor.Session.Timers

open Exec TimerManager

variable {τ : Type}

/-- The manager of a session and its handles; no handle is ever given up without being released. -/
def custody (world : World τ) : Custody UnreliableTimer (Call τ) where
  manager := world.component.manager
  handles := world.component.cells.toList.map Cell.timer

/-! ## Parts of the session -/

/-- A change that leaves the timer of every cell alone does not show. -/
theorem runFrom_updateCell (index : Nat) {f : Cell → Cell}
    (same : ∀ cell, (f cell).timer = cell.timer) (world : World τ) : ∃ after,
    (updateCell index f).runFrom world = (.ok (), after) ∧ custody after = custody world := by
  have handles : (world.component.cells.modify index f).toList.map Cell.timer =
      world.component.cells.toList.map Cell.timer := by
    apply List.ext_getElem?
    intro place
    simp only [List.getElem?_map, Array.getElem?_toList, Array.getElem?_modify]
    split
    · rw [Option.map_map]
      congr 1
      funext cell
      exact same cell
    · rfl
  refine ⟨_, rfl, ?_⟩
  simp only [custody, cellsPart, Part.andThen, Stage.componentPart, handles]

theorem keepsCustody_updateCell (index : Nat) {f : Cell → Cell}
    (same : ∀ cell, (f cell).timer = cell.timer) :
    (updateCell index f : Exec (World τ) Unit).KeepsCustody custody False := by
  refine .of_unseen fun world => ?_
  obtain ⟨after, updated, unseen⟩ := runFrom_updateCell index same world
  rw [updated, unseen]

theorem isHandle_timerPart (index : Nat) :
    (timerPart index : Part (World τ) (Option TimerId)).IsHandle custody index where
  get world := by
    simp only [timerPart, custody, cellsPart, Part.andThen, Stage.componentPart,
      Array.getD_eq_getD_getElem?, List.getElem?_map, Array.getElem?_toList]
    cases world.component.cells[index]? <;> rfl
  set timer world := by
    have handles : (world.component.cells.modify index fun cell => { cell with timer }).toList.map
        Cell.timer = (world.component.cells.toList.map Cell.timer).set index timer := by
      apply List.ext_getElem?
      intro place
      simp only [List.getElem?_map, Array.getElem?_toList, Array.getElem?_modify,
        List.getElem?_set, List.length_map, Array.length_toList]
      split
      · next same =>
          subst same
          split
          · next inside => rw [Array.getElem?_eq_getElem inside]; rfl
          · next outside => rw [Array.getElem?_eq_none (Nat.le_of_not_lt outside)]; rfl
      · rfl
    simp only [timerPart, custody, cellsPart, Part.andThen, Stage.componentPart, handles]

theorem stirs_hardwarePart : (hardwarePart : Part (World τ) UnreliableTimer).Stirs custody :=
  fun hardware _ => ⟨hardware, rfl⟩

theorem stirs_clockPart : (clockPart : Part (World τ) SimulatedTimer).Stirs custody :=
  fun _ _ => ⟨_, rfl⟩

section

variable (routing : Routing) (nested : TimerStep τ → Exec (World τ) Reply)

theorem shownBy_service : (service routing nested).ShownBy custody where
  manager_get _ := rfl
  manager_set _ _ := rfl
  report _ _ := ⟨_, rfl, rfl⟩
  backlog _ _ := rfl
  interrupts _ _ := rfl

variable {routing nested} (nested_keep : ∀ step, (nested step).KeepsCustody custody False)

include nested_keep

theorem keepsCustody_call (hook : Call τ) :
    ((service routing nested).call hook).KeepsCustody custody False := by
  have plays : (Stage.play nested hook (.fired hook.tag)).KeepsCustody custody False := by
    refine (KeepsCustody.of_unseen fun _ => rfl).bind fun _ => ?_
    refine (KeepsCustody.of_unseen fun _ => rfl).bind fun stage => ?_
    dsimp only
    split
    · refine (KeepsCustody.of_unseen fun _ => rfl).bind fun _ => .forM (fun step => ?_) _
      exact (nested_keep step).bind fun _ => .of_unseen fun _ => rfl
    · exact .pure _
  exact plays

theorem keepsCustody_handOver (expiry : Expiry (Call τ)) :
    ((service routing nested).handOver expiry).KeepsCustody custody False := by
  have shown := shownBy_service routing nested
  by_cases inline : (service routing nested).dispatcher.route = .inline
  · exact shown.keepsCustody_handOver inline (keepsCustody_call nested_keep) expiry
  · exact shown.keepsCustody_handOver_of_queueing inline expiry

/-! ## Operations on handles -/

theorem keepsCustody_releaseCell (index : Nat) :
    (releaseCell (service routing nested) index).KeepsCustody custody False :=
  (shownBy_service routing nested).keepsCustody_reset (keepsCustody_handOver nested_keep)
    (isHandle_timerPart index)

theorem keepsCustody_abandon (index : Nat) :
    (abandon (service routing nested) index).KeepsCustody custody False := by
  rw [abandon]
  refine KeepsCustody.bind ?_ fun _ => (KeepsCustody.of_unseen fun _ => rfl).bind fun cell => ?_
  · exact keepsCustody_updateCell index fun _ => rfl
  split
  · exact (keepsCustody_releaseCell nested_keep index).bind fun _ => .pure _
  · exact .pure _

theorem keepsCustody_leave (index : Nat) {f : Cell → Cell}
    (same : ∀ cell, (f cell).timer = cell.timer) :
    (leave (service routing nested) index f).KeepsCustody custody False := by
  rw [leave]
  refine (keepsCustody_updateCell index same).bind fun _ => ?_
  refine (KeepsCustody.of_unseen fun _ => rfl).bind fun cell => ?_
  split
  · exact (keepsCustody_releaseCell nested_keep index).bind fun _ => .pure _
  · exact .pure _

/-- A reader of a handle may do what may be done with the timer of a handle. -/
theorem keepsCustody_reading (name : String) {operation : Option TimerId → Exec (World τ) Reply}
    (continues : ∀ timer world, (∀ id, timer = some id → some id ∈ (custody world).handles) →
      (operation timer).Continues custody False (custody world) world) :
    (reading (service routing nested) name operation).KeepsCustody custody False := by
  rw [reading]
  refine (KeepsCustody.read _).bind fun names => ?_
  split
  · exact .pure _
  · next index _ =>
      intro world
      refine (KeepsCustody.of_unseen (fun _ => rfl) world).bind fun cell middle ran => ?_
      obtain ⟨read, rfl⟩ : (timerPart index).get world = cell.timer ∧ middle = world := by
        cases ran
        exact ⟨rfl, rfl⟩
      split
      · exact KeepsCustody.pure _ middle
      · refine Continues.bind (keepsCustody_updateCell index ?_ middle) fun _ entered ran => ?_
        · exact fun _ => rfl
        · have unseen : custody entered = custody middle := by
            obtain ⟨after, updated, unseen⟩ := @runFrom_updateCell τ index
              (fun cell => { cell with readers := cell.readers + 1 }) (fun _ => rfl) middle
            rw [updated] at ran
            cases ran
            exact unseen
          refine (continues _ _ fun id held => ?_).ensuring ?_
          · rw [unseen]
            exact List.mem_of_getElem? ((isHandle_timerPart index).holds (read.trans held))
          · exact keepsCustody_leave nested_keep index fun _ => rfl

theorem keepsCustody_resetNamed (name : String) :
    (resetNamed (service routing nested) name).KeepsCustody custody False := by
  rw [resetNamed]
  refine (KeepsCustody.read _).bind fun names => ?_
  split
  · exact .pure _
  · next index _ =>
      refine (KeepsCustody.of_unseen fun _ => rfl).bind fun cell => ?_
      split
      · exact .pure _
      · refine KeepsCustody.bind ?_ fun _ => KeepsCustody.bind ?_ fun _ => .pure _
        · exact keepsCustody_updateCell index fun _ => rfl
        · exact fun world => (keepsCustody_releaseCell nested_keep index world).ensuring
            (keepsCustody_leave nested_keep index fun _ => rfl)

theorem keepsCustody_dropNamed (name : String) :
    (dropNamed (service routing nested) name).KeepsCustody custody False := by
  rw [dropNamed]
  refine (KeepsCustody.read _).bind fun names => ?_
  split
  · exact .pure _
  · next index _ =>
      refine (KeepsCustody.of_unseen fun _ => rfl).bind fun cell => ?_
      split
      · exact .pure _
      · exact (KeepsCustody.of_unseen fun _ => rfl).bind fun _ =>
          (keepsCustody_abandon nested_keep index).bind fun _ => .pure _

/-- A new cell is a handle for the new timer, and then the handle that had the name is given up. -/
theorem continues_bindName (name : String) (id : TimerId) (world : World τ) :
    (bindName (service routing nested) name id).Continues custody False
      { custody world with handles := (custody world).handles ++ [some id] } world := by
  let bound : World τ := namesPart.set ((name, world.component.cells.size) ::
      world.component.names.filter fun entry => entry.1 ≠ name)
    (cellsPart.set (world.component.cells.push { timer := some id }) world)
  have pushed : custody bound =
      { custody world with handles := (custody world).handles ++ [some id] } := by
    simp [bound, custody, namesPart, cellsPart, Part.andThen, Stage.componentPart]
  rw [← pushed]
  cases looked : world.component.names.lookup name with
  | none =>
      have same : (bindName (service routing nested) name id).runFrom world =
          (Pure.pure (.text id.text) : Exec (World τ) Reply).runFrom bound := by
        simp only [bindName, runFrom_bind, Part.runFrom_read, Part.runFrom_write]
        rw [show (namesPart.get world).lookup name = none from looked]
        rfl
      rw [Continues, same]
      exact KeepsCustody.pure _ bound
  | some old =>
      have same : (bindName (service routing nested) name id).runFrom world =
          (abandon (service routing nested) old >>= fun _ => Pure.pure (.text id.text)).runFrom
            bound := by
        simp only [bindName, runFrom_bind, Part.runFrom_read, Part.runFrom_write]
        rw [show (namesPart.get world).lookup name = some old from looked]
        exact runFrom_bind _ _ _
      rw [Continues, same]
      exact (keepsCustody_abandon nested_keep old).bind (fun _ => .pure _) bound

omit nested_keep in
theorem keepsCustody_withManager {operation : Exec (World τ) Reply}
    (keeps : operation.KeepsCustody custody False) :
    (withManager operation).KeepsCustody custody False := by
  rw [withManager]
  refine (KeepsCustody.read _).bind fun alive => ?_
  split
  · exact keeps
  · exact .pure _

theorem keepsCustody_scheduleNamed (name : String) (mode : TimerMode) (delay : Duration)
    (script : Script τ (TimerStep τ)) :
    (scheduleNamed (service routing nested) name mode delay script).KeepsCustody custody
      False := by
  refine keepsCustody_reading nested_keep name fun timer world holds => ?_
  refine Continues.bind (KeepsCustody.of_unseen (fun _ => rfl) world) fun hook middle ran => ?_
  have unseen : custody middle = custody world := by
    cases ran
    rfl
  rw [← unseen] at holds
  exact ((shownBy_service routing nested).continues_schedule (keepsCustody_handOver nested_keep)
    holds mode delay _ hook).bind fun _ middle _ => KeepsCustody.pure _ middle

end

/-! ## Steps of the session -/

/-- Something done to the clock, with whatever its expiries cause. -/
theorem keepsCustody_clockAct {expired : Exec (World τ) Unit}
    (keeps : expired.KeepsCustody custody False) (act : ClockAct) :
    (act.perform clockPart expired).KeepsCustody custody False := by
  have applies : ∀ operation, (ClockAct.perform.apply (clockPart : Part (World τ) SimulatedTimer)
      operation).KeepsCustody custody False := fun operation =>
    (KeepsCustody.read _).bind fun _ =>
      (stirs_clockPart.keepsCustody_write _).bind fun _ => .pure _
  cases act with
  | start => exact applies SimulatedTimer.start
  | stop => exact applies SimulatedTimer.stop
  | restart period => exact applies (·.restart period)
  | advance ticks =>
      rw [ClockAct.perform]
      exact KeepsCustody.bind (stirs_clockPart.keepsCustody_advance keeps ample ticks)
        fun _ => .pure _

/-- Every step takes the handles on, unless it tears the manager down. -/
theorem keepsCustody_perform (setup : Setup) (depth : Nat) (outermost : Bool)
    (step : TimerStep τ) (lives : outermost = true → step ≠ .dropManager) :
    (perform setup depth outermost step).KeepsCustody custody False := by
  induction depth generalizing outermost step with
  | zero => exact .throw _
  | succ depth induction =>
      have nested_keep : ∀ step : TimerStep τ,
          (perform setup depth false step).KeepsCustody custody False :=
        fun step => induction false step nofun
      have shown := shownBy_service setup.routing (perform (τ := τ) setup depth false)
      have deliveries : ∀ expiry, ((service setup.routing (perform setup depth false)).handOver
          expiry).KeepsCustody custody False := keepsCustody_handOver nested_keep
      have expires := shown.keepsCustody_expire deliveries
      cases step with
      | allocate name =>
          exact keepsCustody_withManager (shown.keepsCustody_allocate
            (continues_bindName nested_keep name))
      | tryAllocate name =>
          exact keepsCustody_withManager (shown.keepsCustody_tryAllocate
            (continues_bindName nested_keep name) fun _ => .pure _)
      | schedule name mode delay script =>
          exact keepsCustody_withManager
            (keepsCustody_scheduleNamed nested_keep name mode delay script)
      | cancel name =>
          exact keepsCustody_withManager (keepsCustody_reading nested_keep name
            fun timer world holds => (shown.continues_cancel deliveries holds).bind
              fun _ middle _ => KeepsCustody.pure _ middle)
      | tryCancel name =>
          exact keepsCustody_withManager (keepsCustody_reading nested_keep name
            fun timer world holds => (shown.continues_tryCancel deliveries holds).bind
              fun _ middle _ => KeepsCustody.pure _ middle)
      | reset name => exact keepsCustody_withManager (keepsCustody_resetNamed nested_keep name)
      | drop name => exact keepsCustody_withManager (keepsCustody_dropNamed nested_keep name)
      | isPending name =>
          exact keepsCustody_withManager (keepsCustody_reading nested_keep name
            fun timer world _ => KeepsCustody.of_unseen (fun _ => rfl) world)
      | isValid name | id name =>
          exact keepsCustody_withManager (keepsCustody_reading nested_keep name
            fun timer world _ => KeepsCustody.pure _ world)
      | clock act =>
          refine keepsCustody_clockAct ((KeepsCustody.read _).bind fun alive => ?_) act
          split
          · exact expires
          · exact .pure _
      | fail target outage =>
          have breaks : (breakHardware target outage :
              Exec (World τ) Unit).KeepsCustody custody False :=
            stirs_hardwarePart.keepsCustody_update _
          rw [perform]
          dsimp only
          split
          · exact breaks.bind fun _ => .pure _
          · exact .pure _
      | expire => exact keepsCustody_withManager (expires.bind fun _ => .pure _)
      | resolution =>
          exact keepsCustody_withManager ((KeepsCustody.read _).bind fun _ => .pure _)
      | pump pump =>
          have calls : ∀ callback, ((service setup.routing (perform setup depth false)).call
              callback).KeepsCustody custody False := keepsCustody_call nested_keep
          rw [perform]
          refine (KeepsCustody.read _).bind fun alive => ?_
          split
          · rw [Pump.perform]
            exact KeepsCustody.bind (shown.keepsCustody_work calls _ _ _) fun _ => .pure _
          · exact KeepsCustody.bind (Dispatcher.keepsCustody_pump shown.backlog
              (shown.keepsCustody_deliver calls) _ _ _) fun _ => .pure _
      | dropManager =>
          rw [perform]
          refine keepsCustody_withManager ?_
          cases outermost with
          | false => exact .pure _
          | true => exact absurd rfl (lives rfl)
      | panic message => exact .panic message

/-! ## Runs of the session -/

/-- Whether a step did not come to its end. -/
def halted : Reply → Bool
  | .failed (.panic _) | .failed .exhausted => true
  | _ => false

/-- Every step comes to its end, or panics before it has changed anything. -/
def Uncut (setup : Setup) : World τ → List (TimerStep τ) → Prop
  | _, [] => True
  | world, step :: steps =>
      let shown := Stage.take (perform setup ample true) world step
      (halted shown.1 = true → custody shown.2 = custody world) ∧ Uncut setup shown.2 steps

theorem uncut_of_ended (setup : Setup) {steps : List (TimerStep τ)} {world : World τ}
    (ended : ∀ shown ∈ scan (Stage.take (perform setup ample true)) world steps,
      halted shown.1 = false) : Uncut setup world steps := by
  induction steps generalizing world with
  | nil => trivial
  | cons step steps induction =>
      refine ⟨fun halts => ?_, induction fun shown later => ended shown (.tail _ later)⟩
      rw [ended _ List.mem_cons_self] at halts
      cases halts

/-- A step of the session takes the handles on, and cuts a release short only if it halts and has
changed something. -/
theorem continues_take (setup : Setup) {step : TimerStep τ} (lives : step ≠ .dropManager)
    (world : World τ) : ∃ cut,
    (∀ releasing, ((custody world).amid releasing).Runs
      ((custody (Stage.take (perform setup ample true) world step).2).amid (cut ++ releasing))) ∧
    ((halted (Stage.take (perform setup ample true) world step).1 = true →
      custody (Stage.take (perform setup ample true) world step).2 = custody world) →
        cut = []) := by
  by_cases unchanged :
      custody (Stage.take (perform setup ample true) world step).2 = custody world
  · refine ⟨[], fun releasing => ?_, fun _ => rfl⟩
    rw [unchanged]
    exact .refl
  obtain ⟨cut, runs, whole⟩ := keepsCustody_perform setup ample true step (fun _ => lives)
    { world with marks := #[], log := #[] }
  rw [Stage.take] at unchanged ⊢
  rcases ran : (perform setup ample true step).runFrom { world with marks := #[], log := #[] } with
    ⟨halt | reply, after⟩
  all_goals rw [ran] at runs whole unchanged
  · refine ⟨cut, ?_⟩
    cases halt with
    | panic message => exact ⟨runs, fun uncut => absurd (uncut rfl) unchanged⟩
    | exhausted => exact ⟨runs, fun uncut => absurd (uncut rfl) unchanged⟩
  · exact ⟨cut, runs, fun _ => whole (Or.inr ⟨_, rfl⟩)⟩

theorem continues_scan (setup : Setup) {steps : List (TimerStep τ)}
    (lives : .dropManager ∉ steps) {start : Custody UnreliableTimer (Call τ)} {world : World τ}
    {releasing : List TimerId} (reached : start.Runs ((custody world).amid releasing)) :
    ∀ shown ∈ scan (Stage.take (perform setup ample true)) world steps, ∃ cut,
      start.Runs ((custody shown.2).amid (cut ++ releasing)) ∧
      (Uncut setup world steps → cut = []) := by
  induction steps generalizing world releasing with
  | nil => exact fun shown member => absurd member List.not_mem_nil
  | cons step steps induction =>
      obtain ⟨first_lives, lives⟩ := not_or.mp fun either => lives (List.mem_cons.mpr either)
      obtain ⟨cut, runs, whole⟩ := continues_take setup (Ne.symm first_lives) world
      have reached := reached.trans (runs releasing)
      intro shown member
      rcases List.mem_cons.mp member with rfl | later
      · exact ⟨cut, reached, fun uncut => whole uncut.1⟩
      · obtain ⟨further, runs, complete⟩ := induction lives reached shown later
        refine ⟨further ++ cut, by rwa [List.append_assoc], fun uncut => ?_⟩
        rw [whole uncut.1, complete uncut.2]
        rfl

end Reactor.Session.Timers

namespace Reactor.Custody

open TimerManager Session

/-- At every moment each occupied slot belongs to just one handle, or its handle was given up, or
its release is under way, or was cut short by a panic.  A new timer is idle and takes the lowest
free index, and only a full table refuses one.  A release cancels its timer, hands over what that
fires and frees the timer, whatever the hardware answers, and no other timer is freed by either
section.  Programs and sessions that use handles do nothing else, and a release that returns is
complete. -/
theorem slots_belong_to_handles {H κ : Type} [HardwareTimer H] (hardware : H)
    (storage : TimerStorage) :
    (∀ custody : Custody H κ, (fresh hardware storage).Runs custody →
      custody.OneToOne ∧
      (∀ id, custody.manager.allocate.answer = .ok id →
        custody.manager.Gains id custody.manager.allocate.manager) ∧
      (∀ error, (custody.manager.allocate.answer = .error error ↔
          ∃ limit, storage.timers = .bounded limit ∧ custody.manager.allocatedCount = limit ∧
            error = .listFull limit) ∧
        (custody.manager.allocate.answer = .error error →
          custody.manager.allocate = { manager := custody.manager, answer := .error error })) ∧
      (∀ id ∈ custody.owned, id ∉ (custody.manager.cancel id).manager.queue.ids ∧
        ∀ other, ((custody.manager.cancel id).manager.timer? other).isSome =
          (custody.manager.timer? other).isSome) ∧
      ∀ id ∈ custody.releasing, (custody.manager.timer? id).isSome = true ∧
        id ∉ custody.manager.queue.ids ∧
        custody.manager.Unnoticed id (custody.manager.free id).manager ∧
        (custody.manager.free id).manager.timer? id = none ∧
        (custody.manager.free id).fired = []) ∧
    (∀ {σ : Type} (service : TimerService σ H κ) (view : σ → Custody H κ),
      service.ShownBy view →
      (∀ world, ∃ after,
        service.tryAllocate.runFrom world = (.ok (view world).manager.allocate.answer, after) ∧
        view after = { view world with manager := (view world).manager.allocate.manager }) ∧
      ∀ sure : Prop,
        ((∀ callback, (service.call callback).KeepsCustody view sure) →
          (service.dispatcher.route = .inline →
            ∀ expiry, (service.handOver expiry).KeepsCustody view sure) ∧
          ∀ order budget limit,
            (service.dispatcher.work service.deliver order budget limit).KeepsCustody view sure) ∧
        (service.dispatcher.route ≠ .inline →
          ∀ expiry, (service.handOver expiry).KeepsCustody view sure) ∧
        ((∀ expiry, (service.handOver expiry).KeepsCustody view sure) →
          service.KeepsHandles view sure ∧
          ∀ (handle : Part σ (Option TimerId)) (place : Nat), handle.IsHandle view place →
            ∀ (world after : σ) (releasing : List TimerId) (id : TimerId) (outcome),
              (fresh hardware storage).Runs ((view world).amid releasing) →
              handle.get world = some id →
              (service.reset handle).runFrom world = (outcome, after) →
              service.Resets view handle place id world outcome after)) ∧
    ∀ {τ : Type} (setup : Timers.Setup) (steps : List (TimerStep τ)), .dropManager ∉ steps →
      ∀ shown ∈ Timers.run setup steps,
        (∃ cut, ((Timers.custody shown.2).amid cut).OneToOne) ∧
        (Timers.Uncut setup (Timers.start setup) steps →
          (Timers.custody shown.2).OneToOne) := by
  refine ⟨fun custody reached => ?_, fun service view shown => ?_,
    fun {τ} setup steps lives shown member => ?_⟩
  · refine ⟨Runs.oneToOne reached, fun id => gains_allocate, fun error => ⟨?_, ?_⟩,
      fun id => Runs.cancels reached, fun id => Runs.frees reached⟩
    · exact Runs.allocate_eq_error_iff reached error
    · exact allocate_eq_of_error
  · refine ⟨shown.runFrom_tryAllocate, fun sure => ⟨fun calls => ⟨?_, ?_⟩, ?_, ?_⟩⟩
    · exact fun inline => shown.keepsCustody_handOver inline calls
    · exact shown.keepsCustody_work calls
    · exact fun queueing => shown.keepsCustody_handOver_of_queueing queueing
    · intro deliveries
      refine ⟨shown.keepsHandles deliveries, ?_⟩
      intro handle place is_handle world after releasing id outcome reached held ran
      exact shown.resets deliveries is_handle reached held ran
  · have begins : (fresh { timer := { resolution := setup.resolution } } setup.storage).Runs
        ((Timers.custody (Timers.start setup : Timers.World τ)).amid []) := .refl
    obtain ⟨cut, reached, whole⟩ := Timers.continues_scan setup lives begins shown member
    refine ⟨⟨cut ++ [], Runs.oneToOne reached⟩, fun uncut => ?_⟩
    rw [whole uncut] at reached
    exact Runs.oneToOne reached

/-- A script that performs its steps once. -/
def onceOnly (tag : Nat) (steps : List (TimerStep Nat)) : Script Nat (TimerStep Nat) :=
  { tag, steps, times := 1, words := 1 }

/-- Room for two timers, whose callbacks run at once, on hardware that may fail. -/
def crowdedSetup : Timers.Setup where
  routing := { route := .inline }
  storage := .fixed 2 8
  resolution := .microsecond
  unreliable := true

/-- Two timers wait for the same time, and when that is up the hardware cannot be stopped.  A reset
of the timer in front then fires the other one, whose callback asks for a third timer. -/
def crowdedSteps : List (TimerStep Nat) :=
  [.allocate "a", .allocate "b", .schedule "a" .oneshot (.ofMicros 10) (onceOnly 0 []),
    .schedule "b" .oneshot (.ofMicros 10) (onceOnly 1 [.tryAllocate "c"]),
    .fail .stop ⟨1, .broken "stuck register"⟩, .clock (.advance (.clamp 10)), .reset "a",
    .tryAllocate "c", .reset "a", .reset "b"]

/-- The manager of the session, whose callbacks nest at most twice. -/
def crowdedManager : TimerService (Timers.World Nat) UnreliableTimer (Timers.Call Nat) :=
  Timers.service crowdedSetup.routing (Timers.perform crowdedSetup 2 false)

/-- The slot is taken until the reset is over, and then goes to the next handle, which a second
reset of the first one leaves alone. -/
theorem crowded_slots_belong_to_handles :
    (∀ shown ∈ Timers.run crowdedSetup crowdedSteps, (Timers.custody shown.2).OneToOne) ∧
    ((Timers.run crowdedSetup crowdedSteps).map fun shown =>
        ((Timers.custody shown.2).owned.map TimerId.index,
          (Timers.custody shown.2).manager.allocatedCount)) =
      [([0], 1), ([0, 1], 2), ([0, 1], 2), ([0, 1], 2), ([0, 1], 2), ([0, 1], 2), ([1], 1),
        ([1, 0], 2), ([1, 0], 2), ([0], 1)] ∧
    (∃ custody : Custody UnreliableTimer (Timers.Call Nat),
      (fresh { timer := { resolution := .microsecond } } (.fixed 2 8)).Runs custody ∧
      custody.releasing = [⟨0⟩] ∧ custody.owned = [⟨1⟩] ∧
      custody.manager.allocate.answer = .error (.listFull 2) ∧ custody.OneToOne ∧
      (custody.manager.free ⟨0⟩).manager.timer? ⟨0⟩ = none) ∧
    ∃ world after, (Timers.timerPart 0).get world = some ⟨0⟩ ∧
      (crowdedManager.reset (Timers.timerPart 0)).runFrom world = (.ok true, after) ∧
      (Timers.custody after).manager.timer? ⟨0⟩ = none ∧
      (crowdedManager.reset (Timers.timerPart 0)).runFrom after = (.ok false, after) := by
  obtain ⟨at_any_time, programs, sessions⟩ := slots_belong_to_handles (κ := Timers.Call Nat)
    ({ timer := { resolution := .microsecond } } : UnreliableTimer) (.fixed 2 8)
  have lives : .dropManager ∉ crowdedSteps := by simp [crowdedSteps]
  have uncut : Timers.Uncut crowdedSetup (Timers.start crowdedSetup) crowdedSteps := by
    have all_ended : (Timers.run crowdedSetup crowdedSteps).all
        (fun shown => !Timers.halted shown.1) = true := by decide +kernel
    exact Timers.uncut_of_ended crowdedSetup (by simpa [Timers.run, Stage.run] using all_ended)
  refine ⟨fun shown member => (sessions crowdedSetup crowdedSteps lives shown member).2 uncut,
    by decide +kernel, ?_, ?_⟩
  · obtain ⟨custody, reached, releasing, owned, refused⟩ :
        ∃ custody : Custody UnreliableTimer (Timers.Call Nat),
          (fresh { timer := { resolution := .microsecond } } (.fixed 2 8)).Runs custody ∧
          custody.releasing = [⟨0⟩] ∧ custody.owned = [⟨1⟩] ∧
          custody.manager.allocate.answer = .error (.listFull 2) := by
      refine ⟨_, .head (@Step.allocate _ _ _ _ ⟨0⟩ ?_) (.head (@Step.allocate _ _ _ _ ⟨1⟩ ?_)
        (.single (@Step.release _ _ _ _ 0 ⟨0⟩ ?_))), ?_, ?_, ?_⟩
      all_goals decide +kernel
    obtain ⟨one_to_one, _, _, _, frees⟩ := at_any_time custody reached
    have freed := (frees ⟨0⟩ (by simp [releasing])).2.2.2.1
    exact ⟨custody, reached, releasing, owned, refused, one_to_one, freed⟩
  · obtain ⟨shown, sixth⟩ : ∃ shown, (Timers.run crowdedSetup crowdedSteps)[5]? = some shown :=
      Option.isSome_iff_exists.mp (by decide +kernel)
    have held : (Timers.timerPart 0).get shown.2 = some ⟨0⟩ := by
      have at_sixth : ((Timers.run crowdedSetup crowdedSteps)[5]?.bind
          fun shown => (Timers.timerPart 0).get shown.2) = some ⟨0⟩ := by decide +kernel
      rwa [sixth] at at_sixth
    obtain ⟨cut, reached, whole⟩ := Timers.continues_scan crowdedSetup lives
      (.refl : (fresh { timer := { resolution := .microsecond } } (.fixed 2 8)).Runs
        ((Timers.custody (Timers.start crowdedSetup)).amid [])) shown (List.mem_of_getElem? sixth)
    obtain rfl := whole uncut
    have nested_keep : ∀ step, (Timers.perform crowdedSetup 2 false step).KeepsCustody
        (Timers.custody (τ := Nat)) False :=
      fun step => Timers.keepsCustody_perform crowdedSetup 2 false step nofun
    obtain ⟨_, resets⟩ :=
      ((programs crowdedManager Timers.custody (Timers.shownBy_service _ _)).2 False).2.2
        (Timers.keepsCustody_handOver nested_keep)
    rcases ran : (crowdedManager.reset (Timers.timerPart 0)).runFrom shown.2 with ⟨outcome, after⟩
    have returned : outcome = .ok true := by
      have at_sixth : ((Timers.run crowdedSetup crowdedSteps)[5]?.map fun shown =>
          ((crowdedManager.reset (Timers.timerPart 0)).runFrom shown.2).1) = some (.ok true) := by
        decide +kernel
      rw [sixth, Option.map_some, ran] at at_sixth
      exact Option.some.inj at_sixth
    subst returned
    have reset := resets (Timers.timerPart 0) 0 (Timers.isHandle_timerPart 0) shown.2 after []
      ⟨0⟩ _ reached held ran
    obtain ⟨_, _, _, _, _, _, _, _, absent, _⟩ := reset.freed true rfl
    exact ⟨shown.2, after, held, ran, absent, reset.again after [] [] .refl⟩

/-- Callbacks wait in an interrupt queue with room for two of them. -/
def fullQueueSetup : Timers.Setup where
  routing := { route := .interrupt, capacity := .bounded 2 }
  storage := .growing
  resolution := .microsecond
  unreliable := true

/-- Two callbacks fill the queue, and when the time of two further timers is up the hardware cannot
be stopped.  A reset of one of them then fires the other one. -/
def fullQueueSteps : List (TimerStep Nat) :=
  [.allocate "a", .allocate "b", .schedule "b" .oneshot .zero (onceOnly 0 []),
    .schedule "b" .oneshot .zero (onceOnly 1 []),
    .schedule "a" .oneshot (.ofMicros 10) (onceOnly 2 []),
    .schedule "b" .oneshot (.ofMicros 10) (onceOnly 3 []),
    .fail .stop ⟨1, .broken "stuck register"⟩, .clock (.advance (.clamp 10)), .reset "a"]

/-- A full queue panics in the midst of a release, and although no callback has run the slot stays
occupied without a handle. -/
theorem full_queue_cuts_release_short :
    ((Timers.run fullQueueSetup fullQueueSteps).all fun shown => shown.2.marks.isEmpty) = true ∧
    ((Timers.run fullQueueSetup fullQueueSteps).getLast?.map fun shown =>
        ((Timers.custody shown.2).owned, (Timers.custody shown.2).manager.allocatedCount)) =
      some ([⟨1⟩], 2) ∧
    ∃ shown, (Timers.run fullQueueSetup fullQueueSteps).getLast? = some shown ∧
      ¬(Timers.custody shown.2).OneToOne := by
  have counted : ((Timers.run fullQueueSetup fullQueueSteps).getLast?.map fun shown =>
      ((Timers.custody shown.2).owned, (Timers.custody shown.2).manager.allocatedCount)) =
        some ([⟨1⟩], 2) := by decide +kernel
  obtain ⟨shown, last, same⟩ := Option.map_eq_some_iff.mp counted
  refine ⟨by decide +kernel, counted, shown, last, fun one_to_one => ?_⟩
  have count := one_to_one.count
  obtain ⟨owned, allocated⟩ := Prod.mk.inj same
  rw [allocated, held, owned] at count
  cases count

end Reactor.Custody

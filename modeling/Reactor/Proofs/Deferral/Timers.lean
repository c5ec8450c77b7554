import Reactor.Proofs.Deferral.Events
import Reactor.Proofs.Timer.Cancellation

/-!
# Timers whose callbacks wait

A timer manager over a simulated hardware timer is used from outside.  One operation may go through
several sections: a release cancels and then frees, and the clock may expire many times while it
advances.  What one section has fired is still current after the later ones, since these retire no
other timer and keep every schedule, so its callback runs whether it waits for them or not.
-/

namespace Reactor

/-! ## What sections fire and what they keep -/

namespace TimerManager

variable {H κ α : Type} {manager next last : TimerManager H κ} {id : TimerId} {timer : Timer κ}

theorem isCurrent_eq (manager : TimerManager H κ) (id : TimerId) (serial : UInt32) :
    manager.isCurrent id serial =
      ((manager.timer? id).bind Timer.schedule).any fun schedule => schedule.serial == serial := by
  rw [isCurrent]
  cases manager.timer? id <;> rfl

/-- Every timer holds the schedule that it held before. -/
def SameSchedules (manager next : TimerManager H κ) : Prop :=
  ∀ id, (next.timer? id).bind Timer.schedule = (manager.timer? id).bind Timer.schedule

theorem SameSchedules.trans (first : manager.SameSchedules next)
    (second : next.SameSchedules last) : manager.SameSchedules last :=
  fun id => (second id).trans (first id)

theorem SameSchedules.isCurrent (same : manager.SameSchedules next) (id : TimerId)
    (serial : UInt32) : next.isCurrent id serial = manager.isCurrent id serial := by
  rw [isCurrent_eq, isCurrent_eq, same]

/-- What a section leaves can go on, and all that it fired is current. -/
structure Settles (done : TimerSection H κ α) : Prop where
  /-- The slots and the queue are coherent. -/
  coherent : done.manager.IsCoherent
  /-- What fired belongs to the schedules in force. -/
  current : ∀ expiry ∈ done.fired, done.manager.isCurrent expiry.id expiry.serial = true

variable [HardwareTimer H]

theorem sameSchedules_reconcile (coherent : manager.IsCoherent) :
    manager.SameSchedules manager.reconcile.1 := by
  intro id
  rcases reconcile_cases manager with ⟨_, result⟩ | ⟨hardware, _, _, _, result⟩ |
    ⟨hardware, _, _, result⟩
  · rw [result]
  · rw [result]
    rfl
  · rw [result, coherent.timer?_chargedTo]
    cases manager.timer? id with
    | none => rfl
    | some timer =>
        simp only [Option.map_some, Option.bind_some]
        split <;> rfl

/-- A timer that does not wait is not charged. -/
theorem timer?_reconcile_of_idle (coherent : manager.IsCoherent)
    (held : manager.timer? id = some timer) (idle : timer.pending = false) :
    manager.reconcile.1.timer? id = some timer := by
  rcases reconcile_cases manager with ⟨_, result⟩ | ⟨hardware, _, _, _, result⟩ |
    ⟨hardware, _, _, result⟩
  · rw [result, held]
  · rw [result]
    exact held
  · rw [result, coherent.timer?_chargedTo, held, Option.map_some, idle,
      if_neg Bool.false_ne_true]

/-- Firing what is due and arming the hardware keeps every schedule. -/
theorem sameSchedules_pass (coherent : manager.IsCoherent) :
    manager.SameSchedules manager.clearExpired.1.startNext.1 := by
  intro id
  rw [timer?_startNext, (clearExpired_cleared coherent).timers]
  cases manager.timer? id with
  | none => rfl
  | some timer => exact timer.schedule_settled

/-- What a pass fires was due before it and is current after it. -/
theorem isCurrent_of_fired (coherent : manager.IsCoherent) {expiry : Expiry κ}
    (fired : expiry ∈ manager.clearExpired.2) :
    manager.clearExpired.1.startNext.1.isCurrent expiry.id expiry.serial = true := by
  obtain ⟨timer, held, _, scheduled⟩ := (clearExpired_cleared coherent).due expiry fired
  rw [(sameSchedules_pass coherent).isCurrent, isCurrent_eq, held, Option.bind_some, scheduled,
    Option.any_some, beq_self_eq_true]

theorem settles_schedule {mode : TimerMode} {ticks : Ticks} (callback : κ)
    (coherent : manager.IsCoherent) (period_pos : mode = .periodic → 0 < ticks.count) :
    Settles (manager.schedule id mode ticks callback) := by
  cases held : manager.timer? id with
  | none =>
      rw [schedule_of_absent held]
      exact ⟨coherent, by simp⟩
  | some timer =>
      rcases schedule_cases mode ticks callback coherent held with
        ⟨_, _, _, kept, result⟩ | ⟨_, _, _, reconciled, kept, still_held, result⟩
      all_goals rw [result]
      · exact ⟨kept, by simp⟩
      · have queued :=
          (kept.enqueue callback still_held period_pos (armed_of_reconcile reconciled)).1
        exact ⟨(clearExpired_cleared queued).coherent.startNext,
          fun expiry fired => isCurrent_of_fired queued fired⟩

/-- A cancellation fires other timers only. -/
theorem settles_cancel (coherent : manager.IsCoherent) (id : TimerId) :
    Settles (manager.cancel id) ∧ ∀ expiry ∈ (manager.cancel id).fired, expiry.id ≠ id := by
  cases held : manager.timer? id with
  | none =>
      rw [cancel_of_absent held]
      exact ⟨⟨coherent, by simp⟩, by simp⟩
  | some timer =>
      have away := coherent.vacated held (atRest_some (rfl : timer.retired.pending = false))
      have kept := away.reconcile
      have retired : (manager.vacated id (some timer.retired)).timer? id = some timer.retired := by
        rw [timer?_vacated held, if_pos rfl]
      have idle := timer?_reconcile_of_idle away retired rfl
      rcases cancel_cases coherent held with ⟨_, result⟩ | ⟨_, _, result⟩ |
        ⟨_, _, _, _, stuck, result⟩ | ⟨_, _, _, _, reconciled, result⟩
      all_goals rw [result]
      · exact ⟨⟨away, by simp⟩, by simp⟩
      · exact ⟨⟨away, by simp⟩, by simp⟩
      · rw [stuck] at kept
        exact ⟨⟨kept, by simp⟩, by simp⟩
      · rw [reconciled] at kept idle
        have cleared := clearExpired_cleared kept
        refine ⟨⟨cleared.coherent.startNext,
          fun expiry fired => isCurrent_of_fired kept fired⟩, ?_⟩
        rintro expiry fired rfl
        obtain ⟨_, held_due, due, _⟩ := cleared.due expiry fired
        rw [idle] at held_due
        cases held_due
        cases due

/-- An expiry fires timers and keeps all schedules. -/
theorem settles_expire (coherent : manager.IsCoherent) :
    Settles manager.expire ∧ manager.SameSchedules manager.expire.manager := by
  have kept := coherent.reconcile
  have same := sameSchedules_reconcile coherent
  rcases result : manager.reconcile with ⟨after, fault | notes⟩
  all_goals rw [result] at kept same
  · rw [expire_of_error result]
    exact ⟨⟨kept, by simp⟩, same⟩
  · obtain ⟨_, _, expired⟩ := expire_of_ok result
    rw [expired]
    exact ⟨⟨(clearExpired_cleared kept).coherent.startNext,
      fun expiry fired => isCurrent_of_fired kept fired⟩, same.trans (sameSchedules_pass kept)⟩

omit [HardwareTimer H] in
theorem settles_allocate (coherent : manager.IsCoherent) : Settles manager.allocate := by
  have none_fired : manager.allocate.fired = [] := by
    rw [allocate]
    repeat' split
    all_goals rfl
  exact ⟨coherent.allocate, by simp [none_fired]⟩

omit [HardwareTimer H] in
/-- Freeing a timer keeps the schedules of all others. -/
theorem settles_free (coherent : manager.IsCoherent) (id : TimerId) :
    Settles (manager.free id) ∧ ∀ other, other ≠ id →
      (manager.free id).manager.timer? other = manager.timer? other := by
  cases held : manager.timer? id with
  | some timer =>
      rw [free_eq held]
      refine ⟨⟨coherent.vacated held atRest_none, by simp⟩, fun other apart => ?_⟩
      rw [timer?_vacated held, if_neg apart]
  | none =>
      rw [coherent.free_of_absent held]
      exact ⟨⟨coherent, by simp⟩, fun _ _ => rfl⟩

end TimerManager

/-! ## Using a manager -/

/-- A timer manager as it is used from outside. -/
structure TimerUse (κ : Type) where
  /-- The manager. -/
  manager : TimerManager SimulatedTimer κ
  /-- The handles that have been given out, in order, with their timers until they are released. -/
  handles : List (Option TimerId) := []

/-- A use of a timer manager or of its clock; handles are named by their places. -/
inductive TimerCall (κ : Type) where
  /-- Allocates a timer; panics if there is no room. -/
  | allocate
  /-- Allocates a timer, or says why there is no room. -/
  | tryAllocate
  /-- Schedules the timer of a handle. -/
  | schedule (place : Nat) (mode : TimerMode) (delay : Duration) (footprint : Footprint)
      (callback : κ)
  /-- Cancels the timer of a handle. -/
  | cancel (place : Nat)
  /-- Cancels the timer of a handle, or says why that failed. -/
  | tryCancel (place : Nat)
  /-- Releases a handle. -/
  | reset (place : Nat)
  /-- Works off an expiry that may not have happened. -/
  | expire
  /-- Moves the clock. -/
  | advance (ticks : Ticks)

/-- What a use of a timer manager answers. -/
inductive TimerAnswer where
  /-- There is no such handle. -/
  | missing
  /-- The timer of a new handle, or why there is none. -/
  | allocated (result : Except TimerError TimerId)
  /-- Whether a timer has been scheduled. -/
  | scheduled (result : Except TimerError Unit)
  /-- Whether a timer was pending. -/
  | cancelled (result : Except TimerError Bool)
  /-- Whether a handle had a timer. -/
  | released (had : Bool)
  /-- There is nothing to answer. -/
  | done
deriving DecidableEq

namespace TimerUse

open Host TimerManager

variable {κ ω α : Type}

/-- A timer manager in use, with the state `ω` of its callbacks. -/
abbrev World (κ ω : Type) := Host (TimerUse κ) ω κ TimerNote (Expiry κ)

/-- The manager as a part of the world. -/
def managerPart : Part (World κ ω) (TimerManager SimulatedTimer κ) :=
  componentPart.andThen { get := manager, set := fun manager use => { use with manager } }

/-- The handles as a part of the world. -/
def handlesPart : Part (World κ ω) (List (Option TimerId)) :=
  componentPart.andThen { get := handles, set := fun handles use => { use with handles } }

/-- The clock as a part of the world. -/
def clockPart : Part (World κ ω) SimulatedTimer :=
  componentPart.andThen
    { get := fun use => use.manager.hardware
      set := fun hardware use => { use with manager := { use.manager with hardware } } }

/-- The manager, which lives on, with its callbacks. -/
def service (effect : κ → ω → ω) (route : Route) :
    TimerService (World κ ω) SimulatedTimer κ where
  manager := managerPart
  alive := { get := fun _ => true, set := fun _ world => world }
  report := report
  dispatcher := dispatcher route
  call := play effect

/-- Keeps a new handle. -/
def keep (id : TimerId) : Exec (World κ ω) TimerAnswer := do
  let handles ← handlesPart.read
  handlesPart.write (handles ++ [some id])
  return .allocated (.ok id)

/-- Does something with a handle. -/
def onHandle (place : Nat) (operation : Option TimerId → Exec (World κ ω) TimerAnswer) :
    Exec (World κ ω) TimerAnswer := do
  match (← handlesPart.read)[place]? with
  | none => return .missing
  | some handle => operation handle

/-- Releases a handle. -/
def reset (service : TimerService (World κ ω) SimulatedTimer κ) (place : Nat) :
    Option TimerId → Exec (World κ ω) TimerAnswer
  | none => return .released false
  | some id => do
      handlesPart.write ((← handlesPart.read).set place none)
      service.release id
      return .released true

/-- Uses a manager; `budget` bounds how often its clock expires while it advances. -/
def perform (service : TimerService (World κ ω) SimulatedTimer κ) (budget : Nat) :
    TimerCall κ → Exec (World κ ω) TimerAnswer
  | .allocate => do keep (← service.allocate)
  | .tryAllocate => do
      match ← service.tryAllocate with
      | .error error => return .allocated (.error error)
      | .ok id => keep id
  | .schedule place mode delay footprint callback =>
      onHandle place fun handle =>
        return .scheduled (← service.schedule handle mode delay footprint callback)
  | .cancel place => onHandle place fun handle => return .cancelled (.ok (← service.cancel handle))
  | .tryCancel place => onHandle place fun handle => return .cancelled (← service.tryCancel handle)
  | .reset place => onHandle place (reset service place)
  | .expire => do
      service.expire
      return .done
  | .advance ticks => do
      SimulatedTimer.advance clockPart service.expire budget ticks
      return .done

variable {effect : κ → ω → ω} {route : Route} {world : World κ ω}

/-! ## What agrees -/

/-- The manager can go on, and all that waits is current. -/
structure Sound (world : World κ ω) : Prop where
  /-- The slots and the queue are coherent. -/
  coherent : world.component.manager.IsCoherent
  /-- What waits belongs to the schedules in force. -/
  current : ∀ expiry ∈ world.waiting,
    world.component.manager.isCurrent expiry.id expiry.serial = true

/-- It makes no difference to a run whether its callbacks wait, and all that waits after it can
run. -/
structure Agrees (effect : κ → ω → ω) (world : World κ ω) (deferred inline : Exec (World κ ω) α) :
    Prop where
  /-- The runs do the same up to what waits. -/
  mirrors : Mirrors effect Expiry.callback world deferred inline
  /-- What waits can run. -/
  sound : Sound (deferred.runFrom world).2

namespace Agrees

variable {β : Type}

theorem bind {deferred inline : Exec (World κ ω) α}
    {deferred_rest inline_rest : α → Exec (World κ ω) β}
    (first : Agrees effect world deferred inline)
    (rest : ∀ value after, deferred.runFrom world = (.ok value, after) → Sound after →
      Agrees effect after (deferred_rest value) (inline_rest value)) :
    Agrees effect world (deferred >>= deferred_rest) (inline >>= inline_rest) := by
  have sound := first.sound
  refine ⟨first.mirrors.bind fun value after came => ?_, ?_⟩
  · rw [came] at sound
    exact (rest value after came sound).mirrors
  · rw [Exec.runFrom_bind]
    rcases result : deferred.runFrom world with ⟨halt | value, after⟩
    all_goals rw [result] at sound
    · exact sound
    · exact (rest value after result sound).sound

theorem pure (sound : Sound world) (value : α) :
    Agrees effect world (Pure.pure value) (Pure.pure value) := ⟨.pure value, sound⟩

theorem panic (sound : Sound world) (message : String) :
    Agrees effect world (Exec.panic message : Exec _ α) (Exec.panic message) :=
  ⟨.panic message, sound⟩

theorem report (sound : Sound world) (note : TimerNote) :
    Agrees effect world (Host.report note) (Host.report note) :=
  ⟨.report note, sound.coherent, sound.current⟩

theorem readHandles (sound : Sound world) :
    Agrees effect world handlesPart.read handlesPart.read := ⟨.read _, sound⟩

theorem writeHandles (sound : Sound world) (handles : List (Option TimerId)) :
    Agrees effect world (handlesPart.write handles) (handlesPart.write handles) :=
  ⟨.write _ handles, sound.coherent, sound.current⟩

theorem readManager (sound : Sound world) :
    Agrees effect world managerPart.read managerPart.read := ⟨.read _, sound⟩

theorem onHandle (sound : Sound world) (place : Nat)
    {deferred inline : Option TimerId → Exec (World κ ω) TimerAnswer}
    (agrees : ∀ handle, Agrees effect world (deferred handle) (inline handle)) :
    Agrees effect world (TimerUse.onHandle place deferred) (TimerUse.onHandle place inline) := by
  refine (readHandles sound).bind fun handles after read sound => ?_
  cases read
  split
  · exact pure sound _
  · exact agrees _

theorem keep (sound : Sound world) (id : TimerId) :
    Agrees effect world (TimerUse.keep id) (TimerUse.keep id) :=
  (readHandles sound).bind fun _ _ _ sound =>
    (writeHandles sound _).bind fun _ _ _ sound => pure sound _

end Agrees

/-! ## Sections -/

/-- The world after a section whose callbacks wait. -/
def committed (world : World κ ω) (done : TimerSection SimulatedTimer κ α) : World κ ω :=
  { world with
    component := { world.component with manager := done.manager }
    notes := world.notes ++ done.notes
    waiting := world.waiting ++ done.fired }

theorem Sound.committed {done : TimerSection SimulatedTimer κ α} (settles : Settles done)
    (kept : ∀ expiry ∈ world.waiting, done.manager.isCurrent expiry.id expiry.serial = true) :
    Sound (committed world done) := by
  refine ⟨settles.coherent, fun expiry waits => ?_⟩
  rcases List.mem_append.mp waits with before | fired
  · exact kept expiry before
  · exact settles.current expiry fired

/-- What is current runs its callback, as long as the manager stays as it is. -/
theorem delivers_of_isCurrent {expiry : Expiry κ}
    (current : world.component.manager.isCurrent expiry.id expiry.serial = true) :
    Delivers effect Expiry.callback (service effect route : TimerService (World κ ω) _ κ).deliver
      world.component expiry := by
  intro other same
  have still : (other.component.manager).isCurrent expiry.id expiry.serial = true := by
    rw [same, current]
  rw [TimerService.runFrom_deliver]
  exact if_pos still

theorem runFrom_commit (waits : route ≠ .inline)
    (act : TimerManager SimulatedTimer κ → TimerSection SimulatedTimer κ α) :
    ((service effect route).commit act).runFrom world =
      (.ok (act world.component.manager).answer,
        committed world (act world.component.manager)) := by
  have unfolded : ((service effect route).commit act).runFrom world =
      ((do
        (act world.component.manager).notes.forM Host.report
        (act world.component.manager).fired.forM
          ((dispatcher route).dispatch (service effect route).deliver)
        return (act world.component.manager).answer) : Exec (World κ ω) α).runFrom
          { world with component :=
              { world.component with manager := (act world.component.manager).manager } } :=
    rfl
  rw [unfolded, Exec.runFrom_bind, runFrom_forM_report]
  simp only [Exec.runFrom_bind, runFrom_forM_dispatch waits]
  rfl

/-- A section agrees if all that it fires can run after it. -/
theorem Agrees.commit (waits : route ≠ .inline)
    {act : TimerManager SimulatedTimer κ → TimerSection SimulatedTimer κ α}
    (sound : Sound (committed world (act world.component.manager))) :
    Agrees effect world ((service effect route).commit act)
      ((service effect .inline).commit act) := by
  refine ⟨?_, by rw [runFrom_commit waits]; exact sound⟩
  rw [TimerService.commit, TimerService.commit]
  apply Mirrors.bind (.read _)
  rintro manager after ⟨⟩
  apply Mirrors.bind (.write _ _)
  rintro _ after ⟨⟩
  apply Mirrors.bind (.forM_report _)
  intro _ after reported
  rw [runFrom_forM_report] at reported
  cases reported
  refine Mirrors.bind (.forM_dispatch waits fun expiry fired => ?_) fun _ _ _ => .pure _
  exact delivers_of_isCurrent (sound.current expiry (List.mem_append_right _ fired))

/-! ## Operations -/

section

variable (waits : route ≠ .inline)

include waits

/-- A section before which nothing waits. -/
theorem agrees_commit_of_idle (idle : world.waiting = [])
    {act : TimerManager SimulatedTimer κ → TimerSection SimulatedTimer κ α}
    (settles : Settles (act world.component.manager)) :
    Agrees effect world ((service effect route).commit act)
      ((service effect .inline).commit act) :=
  .commit waits (.committed settles (by simp [idle]))

theorem agrees_tryAllocate (sound : Sound world) (idle : world.waiting = []) :
    Agrees effect world (service effect route).tryAllocate (service effect .inline).tryAllocate :=
  agrees_commit_of_idle waits idle (settles_allocate sound.coherent)

theorem agrees_allocate (sound : Sound world) (idle : world.waiting = []) :
    Agrees effect world (service effect route).allocate (service effect .inline).allocate := by
  apply (agrees_tryAllocate waits sound idle).bind
  rintro (error | id) after _ sound_after
  · exact .panic sound_after _
  · exact .pure sound_after id

theorem agrees_schedule (sound : Sound world) (idle : world.waiting = [])
    (handle : Option TimerId) (mode : TimerMode) (delay : Duration) (footprint : Footprint)
    (callback : κ) :
    Agrees effect world
      ((service effect route).schedule handle mode delay footprint callback)
      ((service effect .inline).schedule handle mode delay footprint callback) := by
  cases handle with
  | none => exact .pure sound _
  | some id =>
      rw [TimerService.schedule, TimerService.schedule]
      refine (Agrees.readManager sound).bind fun manager after read sound => ?_
      cases read
      split
      · exact .panic sound _
      · exact .pure sound _
      · next ticks accepted =>
          exact agrees_commit_of_idle waits idle (settles_schedule callback sound.coherent
            (TimerSystem.period_pos_of_accept accepted))

theorem agrees_tryCancel (sound : Sound world) (idle : world.waiting = [])
    (handle : Option TimerId) :
    Agrees effect world ((service effect route).tryCancel handle)
      ((service effect .inline).tryCancel handle) := by
  cases handle with
  | none => exact .pure sound _
  | some id => exact agrees_commit_of_idle waits idle (settles_cancel sound.coherent id).1

theorem agrees_cancel (sound : Sound world) (idle : world.waiting = [])
    (handle : Option TimerId) :
    Agrees effect world ((service effect route).cancel handle)
      ((service effect .inline).cancel handle) := by
  apply (agrees_tryCancel waits sound idle handle).bind
  rintro result after _ sound_after
  rcases result with error | pending
  · cases error with
    | invalidHandle => exact .pure sound_after false
    | _ => exact (Agrees.report sound_after _).bind fun _ _ _ sound_last => .pure sound_last false
  · exact .pure sound_after pending

/-- Freeing a timer makes no difference to the others that wait. -/
theorem agrees_free (sound : Sound world) (id : TimerId)
    (others : ∀ expiry ∈ world.waiting, expiry.id ≠ id) :
    Agrees effect world ((service effect route).commit (·.free id))
      ((service effect .inline).commit (·.free id)) := by
  obtain ⟨settles, same⟩ := settles_free sound.coherent id
  refine .commit waits (.committed settles fun expiry before => ?_)
  rw [isCurrent, same _ (others expiry before)]
  exact sound.current expiry before

/-- The cancellation fires other timers only, so the timer can be freed before their callbacks have
run. -/
theorem agrees_release (sound : Sound world) (idle : world.waiting = []) (id : TimerId) :
    Agrees effect world ((service effect route).release id)
      ((service effect .inline).release id) := by
  obtain ⟨settles, apart⟩ := settles_cancel sound.coherent id
  rw [TimerService.release, TimerService.release]
  refine (agrees_commit_of_idle waits idle settles).bind fun result after cancelled sound => ?_
  rw [runFrom_commit waits, Prod.mk.injEq] at cancelled
  have others : ∀ expiry ∈ after.waiting, expiry.id ≠ id := by
    rw [← cancelled.2, committed, idle, List.nil_append]
    exact apart
  have freed : Agrees effect after ((service effect route).commit (·.free id))
      ((service effect .inline).commit (·.free id)) := agrees_free waits sound id others
  rcases result with error | pending
  · cases error with
    | invalidHandle => exact freed
    | _ =>
        refine (Agrees.report sound _).bind fun _ last reported sound => ?_
        cases reported
        exact agrees_free waits sound id others
  · exact freed

theorem agrees_expire (sound : Sound world) :
    Agrees effect world (service effect route).expire (service effect .inline).expire := by
  obtain ⟨settles, same⟩ := settles_expire sound.coherent
  apply Agrees.commit waits (.committed settles fun expiry before => ?_)
  rw [same.isCurrent]
  exact sound.current expiry before

/-- However often the clock expires, nothing that waits becomes outdated. -/
theorem agrees_advance (sound : Sound world) (budget : Nat) (ticks : Ticks) :
    Agrees effect world
      (SimulatedTimer.advance clockPart (service effect route).expire budget ticks)
      (SimulatedTimer.advance clockPart (service effect .inline).expire budget ticks) := by
  induction budget generalizing world ticks with
  | zero => exact ⟨rfl, sound⟩
  | succ budget induction =>
      rw [SimulatedTimer.advance, SimulatedTimer.advance]
      refine .bind ⟨.read _, sound⟩ fun hardware after read sound => ?_
      cases read
      split
      · exact ⟨.write _ _, sound.coherent.congr rfl rfl, sound.current⟩
      · refine .bind ⟨.write _ _, sound.coherent.congr rfl rfl, sound.current⟩
          fun _ after _ sound => ?_
        exact (agrees_expire waits sound).bind fun _ _ _ sound => induction sound _

theorem agrees_reset (sound : Sound world) (idle : world.waiting = []) (place : Nat)
    (handle : Option TimerId) :
    Agrees effect world (reset (service effect route) place handle)
      (reset (service effect .inline) place handle) := by
  cases handle with
  | none => exact .pure sound _
  | some id =>
      refine (Agrees.readHandles sound).bind fun handles after read sound => ?_
      cases read
      refine (Agrees.writeHandles sound _).bind fun _ after written sound => ?_
      cases written
      exact (agrees_release waits sound idle id).bind fun _ _ _ sound => .pure sound _

theorem agrees_perform (sound : Sound world) (idle : world.waiting = []) (budget : Nat)
    (call : TimerCall κ) :
    Agrees effect world (perform (service effect route) budget call)
      (perform (service effect .inline) budget call) := by
  cases call with
  | allocate =>
      exact (agrees_allocate waits sound idle).bind fun id _ _ sound => Agrees.keep sound id
  | tryAllocate =>
      refine (agrees_tryAllocate waits sound idle).bind fun result after _ sound => ?_
      rcases result with error | id
      · exact .pure sound _
      · exact Agrees.keep sound id
  | schedule place mode delay footprint callback =>
      exact Agrees.onHandle sound place fun handle =>
        (agrees_schedule waits sound idle handle mode delay footprint callback).bind
          fun _ _ _ sound => .pure sound _
  | cancel place =>
      exact Agrees.onHandle sound place fun handle =>
        (agrees_cancel waits sound idle handle).bind fun _ _ _ sound => .pure sound _
  | tryCancel place =>
      exact Agrees.onHandle sound place fun handle =>
        (agrees_tryCancel waits sound idle handle).bind fun _ _ _ sound => .pure sound _
  | reset place =>
      exact Agrees.onHandle sound place fun handle => agrees_reset waits sound idle place handle
  | expire => exact (agrees_expire waits sound).bind fun _ _ _ sound => .pure sound _
  | advance ticks =>
      exact (agrees_advance waits sound budget ticks).bind fun _ _ _ sound => .pure sound _

/-! ## Whole sessions -/

/-- Whether callbacks of a timer manager run at once or wait until the end of each operation, a
session goes the same way. -/
theorem session_eq_inline (sound : Sound world) (idle : world.waiting = []) (budget : Nat)
    (calls : List (TimerCall κ)) :
    session (fun call => thenFlush route (service effect route).deliver
        (perform (service effect route) budget call)) calls world =
      session (perform (service effect .inline) budget) calls world := by
  refine session_congr (fun world => Sound world ∧ world.waiting = []) ?_ calls ⟨sound, idle⟩
  rintro world call ⟨sound, idle⟩
  obtain ⟨mirrors, coherent, current⟩ : Agrees effect world
      (perform (service effect route) budget call) (perform (service effect .inline) budget call) :=
    agrees_perform waits sound idle budget call
  obtain ⟨same, after⟩ := mirrors.runFrom_thenFlush route idle
    fun expiry before => delivers_of_isCurrent (current expiry before)
  refine ⟨same, ?_⟩
  rw [after]
  exact ⟨⟨coherent, fun expiry before => absurd before List.not_mem_nil⟩, rfl⟩

end

end TimerUse

/-- Callbacks that leave their component alone and do not panic may as well wait for the end of each
operation, in a list or in an interrupt queue.  Every operation of a session ends as it does if they
run at once; they run in the same order with the same events, and what is left of the event center
or the timer manager is the same. -/
theorem callbacks_may_wait (route : Route) (waits : route ≠ .inline) :
    (∀ {κ ω : Type} (effect : κ × Notice → ω → ω) (storage : SubscriberStorage) (rest : ω)
      (calls : List (EventCall κ)),
      Host.session (fun call => Host.thenFlush route (EventUse.center effect route).deliver
          (EventUse.perform (EventUse.center effect route) call)) calls
          { component := { registry := .new storage }, rest } =
        Host.session (EventUse.perform (EventUse.center effect .inline)) calls
          { component := { registry := .new storage }, rest }) ∧
    ∀ {κ ω : Type} (effect : κ → ω → ω) (resolution : Duration) (storage : TimerStorage) (rest : ω)
      (budget : Nat) (calls : List (TimerCall κ)),
      Host.session (fun call => Host.thenFlush route (TimerUse.service effect route).deliver
          (TimerUse.perform (TimerUse.service effect route) budget call)) calls
          { component := { manager := .new { resolution } storage }, rest } =
        Host.session (TimerUse.perform (TimerUse.service effect .inline) budget) calls
          { component := { manager := .new { resolution } storage }, rest } := by
  constructor
  · intro κ ω effect storage rest calls
    exact EventUse.session_eq_inline waits rfl calls
  · intro κ ω effect resolution storage rest budget calls
    have coherent : (TimerManager.new ({ resolution } : SimulatedTimer) storage :
        TimerManager SimulatedTimer κ).IsCoherent :=
      TimerManager.Coherent.empty storage.timers storage.scheduled
    exact TimerUse.session_eq_inline waits
      ⟨coherent, fun expiry before => absurd before List.not_mem_nil⟩ rfl budget calls

namespace TimerUse

/-- A periodic timer and a one-shot run for a while, and then the periodic one is released. -/
def sharedCalls : List (TimerCall Nat) :=
  [.allocate, .allocate, .schedule 0 .periodic (.ofMicros 10) { bytes := 8 } 1,
    .schedule 1 .oneshot (.ofMicros 25) { bytes := 8 } 2, .advance (.clamp 30), .reset 0,
    .advance (.clamp 30)]

/-- What callbacks do that keep a list. -/
def listing (callback : Nat) (listed : List Nat) : List Nat := listed ++ [callback]

/-- A session whose callbacks wait in an interrupt queue. -/
def sharedSession : List (Except Halt TimerAnswer) × World Nat (List Nat) :=
  Host.session (fun call => Host.thenFlush .interrupt (service listing .interrupt).deliver
      (perform (service listing .interrupt) 9 call)) sharedCalls
    { component := { manager := .new { resolution := .microsecond } .growing }, rest := [] }

/-- The callbacks of one advance of the clock run in the order in which their timers fired, although
they wait until the clock stands still. -/
theorem shared_callbacks_may_wait :
    Route.interrupt ≠ .inline ∧
    sharedSession = Host.session (perform (service listing .inline) 9) sharedCalls
      { component := { manager := .new { resolution := .microsecond } .growing }, rest := [] } ∧
    sharedSession.1.length = 7 ∧ sharedSession.2.runs = [1, 1, 2, 1] ∧
    sharedSession.2.rest = [1, 1, 2, 1] ∧
    sharedSession.2.component.handles = [none, some ⟨1⟩] := by
  have waits : Route.interrupt ≠ .inline := by decide
  have same := (callbacks_may_wait .interrupt waits).2 listing .microsecond .growing [] 9
    sharedCalls
  refine ⟨waits, same, ?_⟩
  rw [sharedSession, same]
  decide +kernel

end TimerUse

end Reactor

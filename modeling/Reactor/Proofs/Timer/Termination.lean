import Mathlib.Logic.Relation
import Reactor.Proofs.Deferral.Timers
import Reactor.Proofs.Hardware.Refusals
import Reactor.Proofs.Timer.Arming

/-!
# Expiries come to an end

Two loops work off expiries.  One fires the timer in front of the queue while it is due: a periodic
timer is put back with some time left, so no timer fires twice.  The other moves the clock from
expiry to expiry: the manager arms the hardware for some time, so every expiry uses up at least one
tick.  Neither loop needs a bound.
-/

namespace Reactor

/-! ## Firing what is due -/

namespace TimerManager

variable {H κ : Type} {manager before start : TimerManager H κ}

/-- `Rounds manager fired visited last` says that the timers `visited` fire one after the other, each
when it is in front and due, and what then is left of the manager and has been collected. -/
inductive Rounds : TimerManager H κ → Roster (Expiry κ) → List TimerId →
    TimerManager H κ × Roster (Expiry κ) → Prop where
  /-- No timer fires. -/
  | none (manager : TimerManager H κ) (fired : Roster (Expiry κ)) :
      Rounds manager fired [] (manager, fired)
  /-- The timer in front fires, and others after it. -/
  | fires {manager next : TimerManager H κ} {fired : Roster (Expiry κ)} {front : TimerId}
      {expiry : Option (Expiry κ)} {visited : List TimerId}
      {last : TimerManager H κ × Roster (Expiry κ)}
      (in_front : manager.queue.front? = some front)
      (fires : manager.fireFront? = some (next, expiry))
      (rest : Rounds next (collect fired expiry) visited last) :
      Rounds manager fired (front :: visited) last

/-- A bounded pass goes through some rounds. -/
theorem fireDue_rounds (inOrder : manager.InOrder) (budget : Nat) (fired : Roster (Expiry κ)) :
    ∃ visited, Rounds manager fired visited (fireDue budget manager fired) ∧
      Swept manager visited (fireDue budget manager fired).1 := by
  induction budget generalizing manager fired with
  | zero => exact ⟨[], .none manager fired, Swept.refl inOrder⟩
  | succ budget induction =>
      rw [fireDue]
      rcases fireFront?_cases inOrder with
        ⟨ends, _⟩ | ⟨front, timer, next, in_front, _, fires, one⟩
      · rw [ends]
        exact ⟨[], .none manager fired, Swept.refl inOrder⟩
      · rw [fires]
        obtain ⟨visited, rounds, rest⟩ :=
          induction one.inOrder (collect fired (timer.expiry? front))
        exact ⟨front :: visited, .fires in_front fires rounds, one.trans inOrder rest⟩

/-- Without any bound, a pass ends after it has visited each scheduled timer at most once, and what
it leaves is what a pass leaves that is bounded by their number. -/
theorem clearExpired_rounds (inOrder : manager.InOrder) :
    ∃ visited last fired, Rounds manager (.empty manager.firedCapacity) visited (last, fired) ∧
      last.fireFront? = none ∧ visited.Nodup ∧ visited ⊆ manager.queue.ids.toList ∧
      manager.clearExpired = (last, fired.entries.toList) := by
  obtain ⟨visited, rounds, swept⟩ :=
    fireDue_rounds inOrder manager.queue.size (.empty manager.firedCapacity)
  obtain ⟨_, _, none_due, _⟩ := clearExpired_swept inOrder
  refine ⟨visited, _, _, rounds, fireFront?_of_dueIds_eq_nil swept.inOrder none_due,
    swept.distinct, ?_, rfl⟩
  intro id fired
  exact Array.mem_toList_iff.mpr (mem_dueIds.mp (swept.due id fired)).1

variable [HardwareTimer H]

/-- Some section of `before` fires what is due when the manager is `start`. -/
inductive Clears (before : TimerManager H κ) : TimerManager H κ → Prop where
  /-- A timer has been put into the queue, or turned away. -/
  | schedule {id : TimerId} {mode : TimerMode} {delay : Duration} {footprint : Footprint}
      {ticks : Ticks} {callback : κ} {next : TimerManager H κ} {notes : List TimerNote}
      (allocated : (before.timer? id).isSome = true)
      (accepted : before.accept mode delay footprint = .ok ticks)
      (reconciled : before.reconcile = (next, .ok notes)) :
      Clears before (next.enqueue id mode ticks callback).1
  /-- The timer in front has been cancelled. -/
  | cancel {id : TimerId} {timer : Timer κ} {next : TimerManager H κ} {notes : List TimerNote}
      (held : before.timer? id = some timer) (pending : timer.pending = true)
      (in_front : before.queue.front? = some id)
      (reconciled : (dequeue { before with
        slots := before.slots.set id.index (some timer.disarm) } id).reconcile =
          (next, .ok notes)) :
      Clears before next
  /-- The hardware has expired. -/
  | expire {next : TimerManager H κ} {notes : List TimerNote}
      (reconciled : before.reconcile = (next, .ok notes)) : Clears before next

theorem Clears.coherent (clears : before.Clears start) (coherent : before.IsCoherent) :
    start.IsCoherent := by
  have kept := coherent.reconcile
  cases clears with
  | @schedule id mode delay footprint ticks callback next notes allocated accepted reconciled =>
      have still_allocated := coherent.timer?_isSome_reconcile id
      rw [reconciled] at kept still_allocated
      obtain ⟨now, held⟩ := Option.isSome_iff_exists.mp (still_allocated.trans allocated)
      exact (kept.enqueue callback held (TimerSystem.period_pos_of_accept accepted)
        (armed_of_reconcile reconciled)).1
  | @cancel id timer next notes held pending in_front reconciled =>
      have away := coherent.vacated held (atRest_some (rfl : timer.retired.pending = false))
      have kept := away.reconcile
      rw [dequeue_disarmed held] at reconciled
      rw [reconciled] at kept
      exact kept
  | expire reconciled =>
      rw [reconciled] at kept
      exact kept

end TimerManager

/-! ## Moving the clock -/

namespace TimerManager

variable {κ : Type} {before after : TimerManager SimulatedTimer κ}

/-- What can become of a manager that alone arms its hardware. -/
inductive Use (before : TimerManager SimulatedTimer κ) : TimerManager SimulatedTimer κ → Prop where
  /-- A section of the manager runs. -/
  | ofSection {after : TimerManager SimulatedTimer κ} (one : before.SectionOf after) :
      Use before after
  /-- The hardware is stopped, or ticks pass. -/
  | clock (act : SimulatedTimer.Act) (spared : act.arms = false) :
      Use before { before with hardware := before.hardware.perform act }

/-- The slots and the queue are coherent, and hardware that counts has not reached its period. -/
structure Running (manager : TimerManager SimulatedTimer κ) : Prop where
  /-- The slots and the queue are coherent. -/
  coherent : manager.IsCoherent
  /-- The next expiry is some ticks away. -/
  short : manager.hardware.Short

theorem running_new (resolution : Duration) (storage : TimerStorage) :
    (new { resolution } storage : TimerManager SimulatedTimer κ).Running where
  coherent := Coherent.empty _ _
  short := nofun

theorem Running.use (running : before.Running) (use : before.Use after) : after.Running := by
  cases use with
  | ofSection one =>
      obtain ⟨coherent, stopped, stops, arms⟩ := one.sound running.coherent
      -- Hardware that has been stopped keeps its count; hardware that has been armed starts at zero.
      have still : stopped.Short := by
        rcases stops with rfl | rfl
        · exact running.short
        · exact running.short.perform (nofun : SimulatedTimer.Act.stop ≠ .restart .zero)
      refine ⟨coherent, ?_⟩
      rcases arms with same | ⟨period, soonest, armed⟩
      · rw [same]
        exact still
      · rw [armed, SimulatedTimer.restart_eq soonest.1]
        exact fun _ => soonest.1
  | clock act spared =>
      refine ⟨running.coherent.congr rfl rfl, running.short.perform ?_⟩
      rintro rfl
      cases spared

theorem Running.uses (running : before.Running) (uses : Relation.ReflTransGen Use before after) :
    after.Running := by
  induction uses with
  | refl => exact running
  | tail _ use induction => exact induction.use use

end TimerManager

/-- A run that arms the hardware through the manager only. -/
def Exec.ArmsThrough {σ κ α : Type} (run : Exec σ α)
    (manager : Part σ (TimerManager SimulatedTimer κ)) : Prop :=
  ∀ world, Relation.ReflTransGen TimerManager.Use (manager.get world)
    (manager.get (run.runFrom world).2)

namespace Exec.ArmsThrough

variable {σ κ α β : Type} {manager : Part σ (TimerManager SimulatedTimer κ)}

theorem pure (value : α) : (Pure.pure value : Exec σ α).ArmsThrough manager :=
  fun _ => Relation.ReflTransGen.refl

theorem bind {first : Exec σ α} {rest : α → Exec σ β} (arms : first.ArmsThrough manager)
    (later : ∀ value, (rest value).ArmsThrough manager) :
    (first >>= rest).ArmsThrough manager := by
  intro world
  have uses := arms world
  rw [Exec.runFrom_bind]
  rcases ran : first.runFrom world with ⟨halt | value, middle⟩
  all_goals rw [ran] at uses
  · exact uses
  · exact uses.trans (later value middle)

theorem forM {each : α → Exec σ PUnit} (arms : ∀ one, (each one).ArmsThrough manager)
    (list : List α) : (list.forM each).ArmsThrough manager := by
  induction list with
  | nil => exact pure PUnit.unit
  | cons head tail induction => exact (arms head).bind fun _ => induction

end Exec.ArmsThrough

namespace TimerService

open TimerManager SimulatedTimer

/-- The hardware of the manager. -/
def clock {σ H κ : Type} (service : TimerService σ H κ) : Part σ H :=
  service.manager.andThen
    { get := TimerManager.hardware
      set := fun hardware manager => { manager with hardware } }

variable {σ κ α : Type} {service : TimerService σ SimulatedTimer κ}

/-- If nothing but the manager arms its hardware, an advance comes to its end after at most as many
expiries as there are ticks, and only a callback can keep it from coming to an answer. -/
theorem advances_of_armsThrough (lawful : service.manager.Lawful) {expired : Exec σ Unit}
    (arms : expired.ArmsThrough service.manager) {world : σ}
    (running : (service.manager.get world).Running) (ticks : Ticks) :
    ∃ moments ended, Advances service.clock expired world ticks moments ended ∧
      moments.length ≤ ticks.count ∧
      (ended.1 = .ok () ∨ ∃ moment ∈ moments, (expired.runFrom moment).1 = ended.1) := by
  cases passed : (service.clock.get world).pass ticks with
  | done moved => exact ⟨[], _, .done passed, Nat.zero_le _, Or.inl rfl⟩
  | expiry moved left =>
      -- Fewer ticks are left, and the hardware has expired unless the callback arms it.
      have fewer : left < ticks := running.short.lt_of_pass passed
      rw [Ticks.lt_iff] at fewer
      have expires : (service.manager.get world).Use
          { service.manager.get world with hardware := moved } := by
        have same : (service.manager.get world).hardware.pass ticks = .expiry moved left := passed
        have acted : (service.manager.get world).hardware.perform (.pass ticks) = moved := by
          rw [SimulatedTimer.perform, same]
        rw [← acted]
        exact .clock (.pass ticks) rfl
      have shown : service.manager.get (service.clock.set moved world) =
          { service.manager.get world with hardware := moved } := lawful.get_set _ _
      have uses := arms (service.clock.set moved world)
      rw [shown] at uses
      rcases ran : expired.runFrom (service.clock.set moved world) with ⟨halt | _, middle⟩
      · refine ⟨[service.clock.set moved world], (.error halt, middle), .halted passed ran, ?_,
          Or.inr ⟨_, List.mem_singleton_self _, by rw [ran]⟩⟩
        rw [List.length_singleton]
        omega
      · rw [ran] at uses
        obtain ⟨moments, ended, rest, few, outcome⟩ :=
          advances_of_armsThrough lawful arms ((running.use expires).uses uses) left
        refine ⟨_, ended, .expired passed ran rest, ?_, outcome.imp_right ?_⟩
        · rw [List.length_cons]
          omega
        · rintro ⟨moment, among, same⟩
          exact ⟨moment, List.mem_cons_of_mem _ among, same⟩
termination_by ticks.count

/-! ## What callbacks may do -/

section

variable (lawful : service.manager.Lawful)
  (reports : ∀ note, (service.report note).ArmsThrough service.manager)
  (deliveries : ∀ expiry, (service.handOver expiry).ArmsThrough service.manager)

include lawful reports deliveries

/-- A section arms the hardware through the manager, if its reports and its callbacks do. -/
theorem uses_commit {world : σ}
    {act : TimerManager SimulatedTimer κ → TimerSection SimulatedTimer κ α}
    (one : (service.manager.get world).SectionOf (act (service.manager.get world)).manager) :
    Relation.ReflTransGen Use (service.manager.get world)
      (service.manager.get ((service.commit act).runFrom world).2) := by
  have follows : (service.conclude (act (service.manager.get world))).ArmsThrough
      service.manager :=
    (Exec.ArmsThrough.forM reports _).bind fun _ =>
      (Exec.ArmsThrough.forM deliveries _).bind fun _ => .pure _
  have rest := follows (service.manager.set (act (service.manager.get world)).manager world)
  rw [lawful.get_set] at rest
  rw [runFrom_commit]
  exact Relation.ReflTransGen.head (.ofSection one) rest

theorem armsThrough_expire : service.expire.ArmsThrough service.manager :=
  fun _ => uses_commit lawful reports deliveries .expire

theorem armsThrough_allocate : service.allocate.ArmsThrough service.manager := by
  have tries : service.tryAllocate.ArmsThrough service.manager :=
    fun _ => uses_commit lawful reports deliveries .allocate
  refine tries.bind fun outcome => ?_
  cases outcome <;> exact fun _ => Relation.ReflTransGen.refl

theorem armsThrough_schedule (handle : Option TimerId) (mode : TimerMode) (delay : Duration)
    (footprint : Footprint) (callback : κ) :
    (service.schedule handle mode delay footprint callback).ArmsThrough service.manager := by
  cases handle with
  | none => exact .pure _
  | some id =>
      intro world
      cases accepted : (service.manager.get world).accept mode delay footprint with
      | ok ticks =>
          rw [runFrom_schedule_of_accepted id callback accepted]
          exact uses_commit lawful reports deliveries (.schedule id callback accepted)
      | error refusal =>
          rw [schedule, Exec.runFrom_bind, Part.runFrom_read]
          simp only [accepted]
          cases refusal <;> exact Relation.ReflTransGen.refl

theorem armsThrough_cancel (handle : Option TimerId) :
    (service.cancel handle).ArmsThrough service.manager := by
  have tries : (service.tryCancel handle).ArmsThrough service.manager := by
    cases handle with
    | none => exact .pure _
    | some id => exact fun _ => uses_commit lawful reports deliveries (.cancel id)
  refine tries.bind fun outcome => ?_
  rcases outcome with error | pending
  · cases error with
    | invalidHandle => exact .pure _
    | _ => exact (reports _).bind fun _ => .pure _
  · exact .pure _

theorem armsThrough_release (id : TimerId) :
    (service.release id).ArmsThrough service.manager := by
  have cancels : (service.commit (·.cancel id)).ArmsThrough service.manager :=
    fun _ => uses_commit lawful reports deliveries (.cancel id)
  have frees : (service.commit (·.free id)).ArmsThrough service.manager :=
    fun _ => uses_commit lawful reports deliveries (.free id)
  refine cancels.bind fun outcome => ?_
  rcases outcome with error | pending
  · cases error with
    | invalidHandle => exact frees
    | _ => exact (reports _).bind fun _ => frees
  · exact frees

end

/-- A callback that is handed over to be run at once arms the hardware through the manager, if it
does so when it is run. -/
theorem armsThrough_handOver (inline : service.dispatcher.route = .inline)
    (reports : ∀ note, (service.report note).ArmsThrough service.manager)
    (calls : ∀ callback, (service.call callback).ArmsThrough service.manager) (expiry : Expiry κ) :
    (service.handOver expiry).ArmsThrough service.manager := by
  intro world
  rw [handOver, Dispatcher.dispatch, inline]
  simp only [runFrom_deliver]
  split
  · exact calls expiry.callback world
  · exact reports _ world

end TimerService

namespace TimerSystem

open Hardware TimerManager

/-- Whatever the hardware does, the manager arms it for as long as the soonest of the waiting timers
has left, which is some time; the pass over what is due ends after it has visited each scheduled
timer at most once; and if the manager alone arms a simulated timer, moving its clock ends after at
most as many expiries as there are ticks, unless a callback does not end. -/
theorem expiry_processing_terminates {H κ : Type} [HardwareTimer H] (hardware : H)
    (storage : TimerStorage) (moves : List (OpenMove (H → H) κ))
    (system : TimerSystem (TracedTimer H) κ)
    (reached : system = openRun TracedTimer.stir { timer := hardware } storage moves) :
    (∀ move next, next = system.undergo TracedTimer.stir move →
      ∃ made, next.manager.hardware.calls = made ++ system.manager.hardware.calls ∧
        (∀ outcome, .start outcome ∉ made) ∧
        ∀ period outcome, .restart period outcome ∈ made → next.manager.Soonest period ∧
          (RejectsZeroOnly H → outcome ≠ .error .invalidPeriod)) ∧
    (RejectsZeroOnly SimulatedTimer ∧ RejectsZeroOnly WallClockTimer) ∧
    (∀ start, system.manager.Clears start →
      ∃ visited last fired, Rounds start (.empty start.firedCapacity) visited (last, fired) ∧
        last.fireFront? = none ∧ visited.Nodup ∧ visited ⊆ start.queue.ids.toList ∧
        start.clearExpired = (last, fired.entries.toList)) ∧
    ∀ {σ : Type} (service : TimerService σ SimulatedTimer κ), service.manager.Lawful →
      (∀ note, (service.report note).ArmsThrough service.manager) →
      (∀ expiry, (service.handOver expiry).ArmsThrough service.manager) →
      ∀ (resolution : Duration) (storage : TimerStorage) (world : σ),
        Relation.ReflTransGen Use (.new { resolution } storage) (service.manager.get world) →
        ∀ ticks : Ticks, ∃ moments ended,
          SimulatedTimer.Advances service.clock service.expire world ticks moments ended ∧
          moments.length ≤ ticks.count ∧
          (ended.1 = .ok () ∨
            ∃ moment ∈ moments, (service.expire.runFrom moment).1 = ended.1) ∧
          ∀ budget, ticks.count < budget →
            (SimulatedTimer.advance service.clock service.expire budget ticks).runFrom world =
              ended := by
  have wellFormed := (openRun_sound TracedTimer.stir { timer := hardware } storage moves).1
  rw [← reached] at wellFormed
  refine ⟨?_, ⟨SimulatedTimer.rejectsZeroOnly, WallClockTimer.rejectsZeroOnly⟩, ?_, ?_⟩
  · rintro move next rfl
    by_cases stirred : ∃ cause, move = .stir cause
    · obtain ⟨cause, rfl⟩ := stirred
      exact ⟨[], rfl, fun _ => List.not_mem_nil, fun _ _ made => nomatch made⟩
    · have drives : system.manager.Drives (system.undergo TracedTimer.stir move).manager :=
        wellFormed.drives_undergo fun cause same => stirred ⟨cause, same⟩
      obtain ⟨made, calls, none_started, armed⟩ := TracedTimer.exists_calls_of_drives drives
      refine ⟨made, calls, none_started, fun period outcome restarted => ?_⟩
      obtain ⟨soonest, timer, rfl⟩ := armed period outcome restarted
      exact ⟨soonest, fun rejects => rejects timer period soonest.1⟩
  · exact fun start clears =>
      clearExpired_rounds (clears.coherent wellFormed.coherent).inOrder
  · intro σ service lawful reports deliveries resolution storage world used ticks
    have running := (running_new resolution storage).uses used
    obtain ⟨moments, ended, advances, few, outcome⟩ := TimerService.advances_of_armsThrough lawful
      (TimerService.armsThrough_expire lawful reports deliveries) running ticks
    exact ⟨moments, ended, advances, few, outcome,
      fun budget enough => advances.runFrom_advance (Nat.lt_of_le_of_lt few enough)⟩

/-- A periodic timer, which is about to go off, and a one-shot. -/
def periodicMoves : List (OpenMove (SimulatedTimer → SimulatedTimer) Nat) :=
  [.use .allocate, .use .allocate,
    .use (.schedule ⟨0⟩ .periodic (.ofMicros 4) { bytes := 8 } 1),
    .use (.schedule ⟨1⟩ .oneshot (.ofMicros 6) { bytes := 8 } 2),
    .stir (·.perform (.pass (.clamp 4)))]

/-- The system after a run, over a timer that ticks in microseconds. -/
def tracedRun (moves : List (OpenMove (SimulatedTimer → SimulatedTimer) Nat)) :
    TimerSystem (TracedTimer SimulatedTimer) Nat :=
  openRun TracedTimer.stir { timer := { resolution := .microsecond } } .growing moves

end TimerSystem

namespace TimerUse

open Host TimerManager

section

variable {κ ω : Type}

theorem lawful_managerPart :
    (managerPart : Part (World κ ω) (TimerManager SimulatedTimer κ)).Lawful :=
  ⟨fun _ _ => rfl, fun _ _ _ => rfl, fun _ => rfl⟩

theorem armsThrough_report (note : TimerNote) :
    (report note : Exec (World κ ω) Unit).ArmsThrough managerPart :=
  fun _ => Relation.ReflTransGen.refl

theorem armsThrough_play (effect : κ → ω → ω) (callback : κ) :
    (play effect callback : Exec (World κ ω) Unit).ArmsThrough managerPart :=
  fun _ => Relation.ReflTransGen.refl

end

/-- Callbacks that only leave a mark. -/
def marking : TimerService (World Nat Unit) SimulatedTimer Nat :=
  service (fun _ rest => rest) .inline

/-- Callbacks that leave a mark and then use the manager: the first schedules a timer and cancels
another, and the second releases its own. -/
def busy : TimerService (World Nat Unit) SimulatedTimer Nat :=
  { marking with
    call := fun callback => do
      marking.call callback
      match callback with
      | 1 => do
          let _ ← marking.schedule (some ⟨1⟩) .oneshot (.ofMicros 3) { bytes := 8 } 2
          let _ ← marking.cancel (some ⟨2⟩)
      | 2 => marking.release ⟨1⟩
      | _ => return }

/-- Schedules a periodic timer and a one-shot. -/
def prepare : Exec (World Nat Unit) Unit := do
  let periodic ← busy.allocate
  let _ ← busy.allocate
  let last ← busy.allocate
  let _ ← busy.schedule (some periodic) .periodic (.ofMicros 4) { bytes := 8 } 1
  let _ ← busy.schedule (some last) .oneshot (.ofMicros 9) { bytes := 8 } 3

/-- A manager over a new timer. -/
def unused : World Nat Unit :=
  { component := { manager := .new { resolution := .microsecond } .growing }, rest := () }

theorem armsThrough_busy (callback : Nat) : (busy.call callback).ArmsThrough managerPart := by
  have deliveries : ∀ expiry, (marking.handOver expiry).ArmsThrough marking.manager :=
    TimerService.armsThrough_handOver rfl armsThrough_report (armsThrough_play _)
  refine (armsThrough_play _ callback).bind fun _ => ?_
  split
  · have schedules := TimerService.armsThrough_schedule lawful_managerPart armsThrough_report
      deliveries (some ⟨1⟩) .oneshot (.ofMicros 3) { bytes := 8 } 2
    have cancels := TimerService.armsThrough_cancel lawful_managerPart armsThrough_report
      deliveries (some ⟨2⟩)
    exact schedules.bind fun _ => cancels.bind fun _ => .pure _
  · exact TimerService.armsThrough_release lawful_managerPart armsThrough_report deliveries ⟨1⟩
  · exact .pure _

theorem armsThrough_handOver_busy (expiry : Expiry Nat) :
    (busy.handOver expiry).ArmsThrough busy.manager :=
  TimerService.armsThrough_handOver rfl armsThrough_report armsThrough_busy expiry

theorem armsThrough_prepare : prepare.ArmsThrough busy.manager := by
  have allocates : busy.allocate.ArmsThrough busy.manager :=
    TimerService.armsThrough_allocate lawful_managerPart armsThrough_report armsThrough_handOver_busy
  have schedules := TimerService.armsThrough_schedule lawful_managerPart armsThrough_report
    armsThrough_handOver_busy
  exact allocates.bind fun _ => allocates.bind fun _ => allocates.bind fun _ =>
    (schedules _ _ _ _ _).bind fun _ => (schedules _ _ _ _ _).bind fun _ => .pure _

end TimerUse

namespace TimerSystem

open TimerManager TimerUse

/-- The periodic timer is put back and not visited again, and the hardware is armed for the other
one.  A callback arms it anew while it advances: ten ticks then take three expiries. -/
theorem busy_callbacks_terminate :
    ∃ system next, system = tracedRun periodicMoves ∧
      next = system.undergo TracedTimer.stir (.use .expire) ∧ next.manager.Soonest (.clamp 2) ∧
      (∃ start visited last fired, system.manager.Clears start ∧
        Rounds start (.empty start.firedCapacity) visited (last, fired) ∧ visited.Nodup ∧
        fired.entries.toList.map Expiry.callback = [1]) ∧
      ∃ moments ended,
        SimulatedTimer.Advances busy.clock busy.expire (prepare.runFrom unused).2 (.clamp 10)
          moments ended ∧
        moments.length ≤ 10 ∧ ended.1 = .ok () ∧ ended.2.runs = [1, 2, 1] := by
  obtain ⟨calls, _, ends, moves⟩ :=
    expiry_processing_terminates _ _ periodicMoves (tracedRun periodicMoves) rfl
  refine ⟨_, _, rfl, rfl, ?_, ?_, ?_⟩
  · obtain ⟨made, same, _, soonest⟩ := calls (.use .expire) _ rfl
    have armed : ((tracedRun periodicMoves).undergo TracedTimer.stir
          (.use .expire)).manager.hardware.calls =
        [.restart (.clamp 2) (.ok ()), .stop (.ok ())] ++
          (tracedRun periodicMoves).manager.hardware.calls := by decide +kernel
    refine (soonest (.clamp 2) (.ok ()) ?_).1
    rw [← List.append_cancel_right (armed.symm.trans same)]
    exact List.mem_cons_self
  · have fires : (tracedRun periodicMoves).manager.reconcile.2.isOk = true ∧
        (tracedRun periodicMoves).manager.reconcile.1.clearExpired.2.map Expiry.callback = [1] := by
      decide +kernel
    rcases stops : (tracedRun periodicMoves).manager.reconcile with ⟨start, fault | notes⟩
    all_goals rw [stops] at fires
    · exact absurd fires.1 Bool.false_ne_true
    · obtain ⟨visited, last, fired, rounds, _, distinct, _, cleared⟩ := ends start (.expire stops)
      refine ⟨start, visited, last, fired, .expire stops, rounds, distinct, ?_⟩
      rw [← fires.2, cleared]
  · obtain ⟨moments, ended, advances, few, _, bounded⟩ := moves busy lawful_managerPart
      armsThrough_report armsThrough_handOver_busy .microsecond .growing _
      (armsThrough_prepare unused) (.clamp 10)
    have same := bounded 11 (by decide)
    refine ⟨moments, ended, advances, few, ?_, ?_⟩
    all_goals
      rw [← same]
      decide +kernel

end TimerSystem

end Reactor

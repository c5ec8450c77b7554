import Reactor.Proofs.Timer.Punctual

/-!
# Hardware that races the manager

The hardware is a party of its own here.  It counts while it is armed, and when it reaches its
period it stops counting and sends a notice, which reaches the manager at any later time.  In the
meantime the manager may have stopped, charged and armed the hardware again, so that a notice may
be stale when it arrives.  No tick is lost or counted twice.
-/

namespace Reactor

/-- What happens to a manager and to its hardware. -/
inductive RaceMove (κ : Type) where
  /-- Someone uses the manager. -/
  | use (move : TimerMove κ)
  /-- The hardware counts, at most up to its period. -/
  | tick (ticks : Ticks)
  /-- A notice of the hardware arrives. -/
  | notice

namespace TimerSystem

open TimerManager

variable {κ : Type}

/-- The system after a move of one of the parties. -/
def raceStep (system : TimerSystem SimulatedTimer κ) : RaceMove κ → TimerSystem SimulatedTimer κ
  | .use move => system.perform move
  | .tick ticks =>
      match system.manager.hardware.pass ticks with
      | .done hardware => system.counted hardware system.notices
      | .expiry hardware _ => system.counted hardware (system.notices + 1)
  | .notice =>
      if system.notices = 0 then system
      else TimerSystem.perform { system with notices := system.notices - 1 } .expire

/-- The system after a race with a new manager. -/
def raceRun (resolution : Duration) (storage : TimerStorage) (moves : List (RaceMove κ)) :
    TimerSystem SimulatedTimer κ :=
  moves.foldl raceStep (fresh { resolution } storage)

variable {system next : TimerSystem SimulatedTimer κ} {storage : TimerStorage}

/-! ## What a section charges, it also works off -/

/-- After every charge and before the next, the due timers fire. -/
def Settles (history : List (Entry κ)) : Prop :=
  ∀ before time elapsed after, history = before ++ ⟨time, .charged elapsed⟩ :: after →
    ∃ between rest, after = between ++ ⟨time, .passed⟩ :: rest ∧
      ∀ entry ∈ between, entry.time = time ∧ ∀ elapsed, entry.event ≠ .charged elapsed

theorem settles_section {events : List (TimerEvent κ)} (one_section : OneSection events)
    (time : Nat) : Settles (events.map (Entry.mk time)) := by
  intro before at_time elapsed after split_at
  have charge : (⟨at_time, .charged elapsed⟩ : Entry κ) ∈ events.map (Entry.mk time) := by
    rw [split_at]
    exact List.mem_append_right _ (List.mem_cons_self ..)
  obtain ⟨event, listed, same⟩ := List.mem_map.mp charge
  cases same
  have absent : ∀ others : List (TimerEvent κ), (∀ event ∈ others, ∀ elapsed,
      event ≠ .charged elapsed) → ⟨time, .charged elapsed⟩ ∉ others.map (Entry.mk time) := by
    intro others none_charged member
    obtain ⟨event, listed, same⟩ := List.mem_map.mp member
    cases same
    exact none_charged _ listed elapsed rfl
  cases one_section with
  | uncharged one none_charged quiet => exact absurd rfl (none_charged _ listed elapsed)
  | @charged first second counted fired one none_charged =>
      have none_fired : ∀ event ∈ second ++ fired.map TimerEvent.collected, ∀ elapsed,
          event ≠ .charged elapsed := by
        intro event member
        rcases List.mem_append.mp member with decision | collected
        · exact none_charged event (List.mem_append_right _ decision)
        · obtain ⟨expiry, _, rfl⟩ := List.mem_map.mp collected
          simp
      have none_after : ∀ event ∈ second ++ firing fired, ∀ elapsed,
          event ≠ .charged elapsed := by
        intro event member
        rw [firing, ← List.append_assoc] at member
        rcases List.mem_append.mp member with earlier | last
        · exact none_fired event earlier
        · rw [List.mem_singleton.mp last]
          simp
      rw [List.map_append, List.map_cons] at split_at
      obtain ⟨_, _, rest⟩ := (List.append_cons_inj_of_notMem
        (absent first fun event member => none_charged event (List.mem_append_left _ member))
        (absent _ none_after)).mp split_at
      refine ⟨(second ++ fired.map TimerEvent.collected).map (Entry.mk time), [], ?_, ?_⟩
      · rw [← rest]
        simp [firing]
      · intro entry member
        obtain ⟨event, listed, rfl⟩ := List.mem_map.mp member
        exact ⟨rfl, none_fired event listed⟩

theorem Settles.append {history more : List (Entry κ)} (settles : Settles history)
    (rest : Settles more) : Settles (history ++ more) := by
  intro before time elapsed after split_at
  rcases List.append_eq_append_iff.mp split_at with
    ⟨later, rfl, more_eq⟩ | ⟨later, history_eq, after_eq⟩
  · exact rest later time elapsed after more_eq
  · cases later with
    | nil => exact rest [] time elapsed after after_eq.symm
    | cons entry later =>
        rw [List.cons_append, List.cons.injEq] at after_eq
        obtain ⟨rfl, rfl⟩ := after_eq
        obtain ⟨between, passed, rfl, quiet⟩ := settles before time elapsed later history_eq
        exact ⟨between, passed ++ more, by simp, quiet⟩

/-! ## Stale notices -/

/-- The ticks that the hardware has counted, charged to every timer that waits. -/
theorem Punctual.timer?_reconcile (punctual : system.Punctual storage)
    {after : TimerManager SimulatedTimer κ} {notes : List TimerNote}
    (result : system.manager.reconcile = (after, .ok notes)) {id : TimerId} {timer : Timer κ}
    (held : system.manager.timer? id = some timer) :
    ∃ elapsed : Ticks, elapsed.count = system.manager.uncharged ∧
      after.timer? id = some (if timer.pending = true then timer.charged elapsed else timer) := by
  rcases reconcile_cases system.manager with ⟨idle, same⟩ | ⟨_, _, _, _, same⟩ |
    ⟨hardware, armed, stopped, same⟩
  all_goals
    rw [result] at same
    cases same
  · have waits_not : ¬timer.pending = true := by
      intro pending
      have armed := (punctual.wellFormed.period_le punctual.synced held pending).1
      rw [idle] at armed
      cases armed
    refine ⟨.zero, (uncharged_of_idle idle).symm, ?_⟩
    rw [if_neg waits_not]
    exact held
  · have counted : HardwareTimer.count hardware = system.manager.hardware.elapsed := by
      rw [← SimulatedTimer.count_stop, stopped]
    refine ⟨HardwareTimer.count hardware, ?_, ?_⟩
    · rw [uncharged_of_armed armed, counted]
    · rw [punctual.wellFormed.coherent.timer?_chargedTo, held, Option.map_some]

/-- While the hardware counts, charging leaves every timer that waits some ticks. -/
theorem Punctual.reconcile_stale (punctual : system.Punctual storage) (ticking : system.Ticking)
    {after : TimerManager SimulatedTimer κ} {notes : List TimerNote}
    (result : system.manager.reconcile = (after, .ok notes)) {id : TimerId} {timer : Timer κ}
    (held : system.manager.timer? id = some timer) :
    ∃ left : Ticks, after.timer? id = some { timer with remaining := left } ∧
      (timer.pending = false → left = timer.remaining) ∧
      (timer.pending = true →
        left.count + system.manager.uncharged = timer.remaining.count ∧ 0 < left.count) := by
  obtain ⟨elapsed, counted, held_after⟩ := punctual.timer?_reconcile result held
  by_cases pending : timer.pending = true
  · obtain ⟨armed, bound⟩ := punctual.wellFormed.period_le punctual.synced held pending
    have short : elapsed.count < timer.remaining.count := by
      rw [counted, uncharged_of_armed armed]
      rcases punctual.timely.running armed with ⟨_, short⟩ | ⟨expired, _⟩
      · omega
      · rw [ticking armed] at expired
        cases expired
    rw [if_pos pending] at held_after
    refine ⟨timer.remaining - elapsed, held_after, ?_, fun _ => ?_⟩
    · intro idle
      rw [pending] at idle
      cases idle
    · rw [Ticks.count_sub]
      omega
  · rw [if_neg pending] at held_after
    exact ⟨timer.remaining, held_after, fun _ => rfl, fun waits => absurd waits pending⟩

/-- A notice that arrives while the hardware counts fires nothing and takes no more than what has
been counted off any timer. -/
theorem Punctual.expire_stale (punctual : system.Punctual storage) (ticking : system.Ticking) :
    system.manager.expire.fired = [] ∧
    ∀ id timer, system.manager.timer? id = some timer →
      ∃ left : Ticks, system.manager.expire.manager.timer? id =
          some { timer with remaining := left } ∧
        (timer.pending = false → left = timer.remaining) ∧
        (timer.pending = true →
          left.count + system.manager.uncharged = timer.remaining.count ∧ 0 < left.count) := by
  have kept := punctual.wellFormed.coherent.reconcile
  have allocated := punctual.wellFormed.coherent.timer?_isSome_reconcile
  rcases result : system.manager.reconcile with ⟨after, fault | notes⟩
  · have failed : ¬SimulatedTimer.watch.Flawless after.hardware := not_flawless_of_reconcile result
    exact absurd trivial failed
  · rw [result] at kept allocated
    have coherent_after : after.IsCoherent := kept
    have cleared := clearExpired_cleared coherent_after
    obtain ⟨_, _, expired⟩ := expire_of_ok result
    have none_due : ∀ id timer, after.timer? id = some timer → timer.isDue = false := by
      intro id timer held_after
      obtain ⟨before, held⟩ := Option.isSome_iff_exists.mp
        ((allocated id).symm.trans (by rw [held_after, Option.isSome_some]))
      obtain ⟨left, same, _, positive⟩ := punctual.reconcile_stale ticking result held
      rw [held_after, Option.some.injEq] at same
      rw [Bool.eq_false_iff, ne_eq, Timer.isDue_iff, not_and, same]
      exact fun pending => Nat.ne_of_gt (positive pending).2
    rw [expired]
    constructor
    · rw [List.eq_nil_iff_forall_not_mem]
      intro expiry fired
      obtain ⟨timer, held_after, due, _⟩ := cleared.due expiry fired
      rw [none_due _ timer held_after] at due
      cases due
    · intro id timer held
      obtain ⟨left, held_after, unchanged, split⟩ :=
        punctual.reconcile_stale ticking result held
      refine ⟨left, ?_, unchanged, split⟩
      have slots : after.clearExpired.1.startNext.1.slots = after.clearExpired.1.slots := by
        rcases startNext_cases after.clearExpired.1 with
          ⟨_, started⟩ | ⟨_, _, ⟨_, _, _, started⟩ | ⟨_, _, started⟩⟩ <;> rw [started]
      have settled := cleared.timers id
      rw [held_after, Option.map_some, Timer.settled, none_due id _ held_after,
        if_neg Bool.false_ne_true, timer?, ← slots] at settled
      exact settled

/-! ## No tick is lost -/

/-- An expiry that the manager has not worked off yet has a notice on its way. -/
def Noticed (system : TimerSystem SimulatedTimer κ) : Prop :=
  system.manager.armed = true → system.manager.hardware.phase = .expired → 0 < system.notices

theorem Ticking.noticed (ticking : system.Ticking) : system.Noticed := by
  intro armed expired
  rw [ticking armed] at expired
  cases expired

theorem noticed_perform (noticed : system.Noticed) (wellFormed : system.WellFormed)
    (move : TimerMove κ) : (system.perform move).Noticed := by
  apply wellFormed.perform_keeps Noticed noticed
  intro system next wellFormed noticed stage
  rcases wellFormed.stage_ticking stage with ticking | ⟨armed, hardware, notices⟩
  · exact ticking.noticed
  · rw [Noticed, armed, hardware, notices]
    exact noticed

/-- No pass has missed a due timer, and no schedule has ended that missed more than the present. -/
structure Raced (storage : TimerStorage) (system : TimerSystem SimulatedTimer κ) : Prop where
  /-- The manager is on time. -/
  punctual : system.Punctual storage
  /-- Every pass collects what is due. -/
  passes : PassesUpToDate system.history
  /-- A schedule may end after the hardware has expired for it and before the manager knows. -/
  ends : EndsWith (fun plan now => plan.UpToDate now ∨ plan.DueNow now) system.history
  /-- What is charged is worked off. -/
  settles : Settles system.history

theorem raced_fresh (resolution : Duration) (storage : TimerStorage) :
    (fresh { resolution } storage : TimerSystem SimulatedTimer κ).Raced storage where
  punctual := punctual_fresh _ storage
  passes := AtEach.nil
  ends := AtEach.nil
  settles := by
    intro before time elapsed after split_at
    simp [fresh] at split_at

theorem raced_perform (raced : system.Raced storage) (collects_all : storage.CollectsAll)
    (move : TimerMove κ) : (system.perform move).Raced storage := by
  obtain ⟨punctual, passes, ends, settles⟩ := raced
  obtain ⟨punctual_after, passes_after⟩ := punctual.perform_keeps collects_all
    (fun system => PassesUpToDate system.history) passes
    (fun _ _ wellFormed housed timely passes stage =>
      passes.stage timely wellFormed housed collects_all stage) move
  obtain ⟨events, one_section, history⟩ := perform_oneSection punctual.wellFormed move
  refine ⟨punctual_after, passes_after, ?_, ?_⟩
  · rw [history]
    refine ends.append_section ?_ (fun _ _ done => done) one_section
    exact fun id plan planned => (punctual.upToDate_or_dueNow planned).imp_right And.left
  · rw [history]
    exact settles.append (settles_section one_section system.time)

theorem raced_counted (raced : system.Raced storage) {hardware : SimulatedTimer} (notices : Nat)
    (period : hardware.period = system.manager.hardware.period)
    (forward : system.manager.armed = true →
      system.manager.hardware.elapsed.count ≤ hardware.elapsed.count)
    (running : system.manager.armed = true →
      (hardware.phase = .armed ∧ hardware.elapsed.count < hardware.period.count) ∨
      (hardware.phase = .expired ∧ hardware.elapsed = hardware.period)) :
    (system.counted hardware notices).Raced storage where
  punctual := by
    apply raced.punctual.elapse period (Nat.le_add_right _ _) _ running
    intro armed
    have later := forward armed
    omega
  passes := raced.passes
  ends := raced.ends
  settles := raced.settles

theorem raced_step (raced : system.Raced storage) (noticed : system.Noticed)
    (collects_all : storage.CollectsAll) (move : RaceMove κ) :
    (system.raceStep move).Raced storage ∧ (system.raceStep move).Noticed := by
  have wellFormed := raced.punctual.wellFormed
  have running := raced.punctual.timely.running
  cases move with
  | use move =>
      exact ⟨raced_perform raced collects_all move, noticed_perform noticed wellFormed move⟩
  | tick ticks =>
      rw [raceStep]
      split
      · next hardware passed =>
          rcases SimulatedTimer.of_pass_done passed with
            ⟨_, period, phase, counted, short⟩ | ⟨_, rfl⟩
          · refine ⟨raced_counted raced _ period (fun _ => by omega)
              (fun _ => Or.inl ⟨phase, short⟩), ?_⟩
            exact Ticking.noticed fun _ => phase
          · exact ⟨raced_counted raced _ rfl (fun _ => Nat.le_refl _) running, noticed⟩
      · next hardware left passed =>
          obtain ⟨period, past_end, reached, _, _⟩ := SimulatedTimer.of_pass_expiry passed
          refine ⟨raced_counted raced _ period ?_ (fun _ => Or.inr ⟨past_end, reached⟩),
            fun _ _ => Nat.succ_pos _⟩
          intro armed
          rw [reached, period]
          rcases running armed with ⟨_, short⟩ | ⟨_, same⟩
          · exact Nat.le_of_lt short
          · exact Nat.le_of_eq (congrArg Ticks.count same)
  | notice =>
      rw [raceStep]
      split
      · exact ⟨raced, noticed⟩
      · have arrived : TimerSystem.Raced storage
            { system with notices := system.notices - 1 } :=
          ⟨raced.punctual.elapse rfl (Nat.le_refl _) (fun _ => rfl) running, raced.passes,
            raced.ends, raced.settles⟩
        exact ⟨raced_perform arrived collects_all .expire,
          (ticking_expire arrived.punctual.wellFormed).noticed⟩

theorem raced_steps (raced : system.Raced storage) (noticed : system.Noticed)
    (collects_all : storage.CollectsAll) (moves : List (RaceMove κ)) :
    (moves.foldl raceStep system).Raced storage ∧ (moves.foldl raceStep system).Noticed := by
  induction moves generalizing system with
  | nil => exact ⟨raced, noticed⟩
  | cons move moves induction =>
      obtain ⟨raced_after, noticed_after⟩ := raced_step raced noticed collects_all move
      exact induction raced_after noticed_after

/-- What a timer has left and what has been charged to it since it was scheduled or fired make up
the ticks of its schedule. -/
theorem Punctual.remaining_add_spent (punctual : system.Punctual storage) {id : TimerId}
    {timer : Timer κ} (held : system.manager.timer? id = some timer)
    (pending : timer.pending = true) :
    ∃ before start ticks serial callback reign,
      system.history =
        before ++ ⟨start, .scheduled id timer.mode ticks serial callback⟩ :: reign ∧
      (∀ entry ∈ reign, entry.retires id = false) ∧
      timer.reload = ticks ∧ timer.remaining.count + spentSince id reign = ticks.count := by
  cases planned : plan? id system.history with
  | none =>
      rw [punctual.wellFormed.not_pending held planned] at pending
      cases pending
  | some plan =>
      have on_time := punctual.timely.on_time id plan timer planned held
      obtain ⟨before, reign, split_at, quiet⟩ := reign_of_plan? planned
      have same : plan.spent = spentSince id reign := by
        have found := planned
        rw [split_at, plan?_of_reign quiet, Option.some.injEq] at found
        rw [← found]
      have spent_eq := on_time.spent_eq pending
      rw [same] at spent_eq
      rw [on_time.mode]
      exact ⟨before, plan.start, plan.ticks, plan.serial, plan.callback, reign, split_at, quiet,
        on_time.reload, spent_eq⟩

/-- However the hardware and the manager race each other, what a timer has left and what has been
charged to it make up the ticks of its schedule; every pass finds each schedule in force collected
exactly when it was due, and every charge is followed by a pass; a schedule misses no more than the
due time at which the hardware has just expired, with a notice on its way; nothing is collected for
a schedule that is not in force; and a stale notice fires nothing and only charges what has been
counted. -/
theorem collections_eq_dueTimes_at_passes (resolution : Duration) (storage : TimerStorage)
    (collects_all : storage.CollectsAll) (moves : List (RaceMove κ))
    (system : TimerSystem SimulatedTimer κ) (ran : raceRun resolution storage moves = system) :
    (∀ id timer, system.manager.timer? id = some timer → timer.pending = true →
      (∃ before start ticks serial callback reign,
        system.history =
          before ++ ⟨start, .scheduled id timer.mode ticks serial callback⟩ :: reign ∧
        (∀ entry ∈ reign, entry.retires id = false) ∧
        timer.reload = ticks ∧ timer.remaining.count + spentSince id reign = ticks.count) ∧
      system.manager.armed = true ∧
      system.manager.hardware.elapsed.count ≤ timer.remaining.count) ∧
    (∀ before start id mode ticks serial callback reign time rest,
      system.history = before ++
        ⟨start, .scheduled id mode ticks serial callback⟩ :: (reign ++ ⟨time, .passed⟩ :: rest) →
      (∀ entry ∈ reign, entry.retires id = false) →
      collections id reign = dueTimes mode start ticks.count time) ∧
    (∀ before time elapsed after,
      system.history = before ++ ⟨time, .charged elapsed⟩ :: after →
      ∃ between rest, after = between ++ ⟨time, .passed⟩ :: rest ∧
        ∀ entry ∈ between, entry.time = time ∧ ∀ elapsed, entry.event ≠ .charged elapsed) ∧
    (∀ before start id mode ticks serial callback reign,
      system.history = before ++ ⟨start, .scheduled id mode ticks serial callback⟩ :: reign →
      (∀ entry ∈ reign, entry.retires id = false) →
      collections id reign = dueTimes mode start ticks.count system.time ∨
        collections id reign ++ [system.time] = dueTimes mode start ticks.count system.time ∧
          system.manager.hardware.phase = .expired ∧ 0 < system.notices) ∧
    (∀ before start id mode ticks serial callback reign last rest,
      system.history = before ++
        ⟨start, .scheduled id mode ticks serial callback⟩ :: (reign ++ last :: rest) →
      (∀ entry ∈ reign, entry.retires id = false) → last.retires id = true →
      collections id reign = dueTimes mode start ticks.count last.time ∨
        collections id reign ++ [last.time] = dueTimes mode start ticks.count last.time) ∧
    (∀ before entry expiry after, system.history = before ++ entry :: after →
      entry.event = .collected expiry → InForce before expiry) ∧
    (¬(system.manager.armed = true ∧ system.manager.hardware.phase = .expired) →
      system.manager.expire.fired = [] ∧
      ∀ id timer, system.manager.timer? id = some timer →
        ∃ left : Ticks, system.manager.expire.manager.timer? id =
            some { timer with remaining := left } ∧
          (timer.pending = false → left = timer.remaining) ∧
          (timer.pending = true →
            left.count + system.manager.uncharged = timer.remaining.count ∧ 0 < left.count)) := by
  obtain ⟨⟨punctual, passes, ends, settles⟩, noticed⟩ : system.Raced storage ∧ system.Noticed := by
    rw [← ran]
    exact raced_steps (raced_fresh resolution storage)
      (fun armed => absurd armed Bool.false_ne_true) collects_all moves
  have wellFormed := punctual.wellFormed
  refine ⟨?_, ?_, settles, ?_, ?_, ?_, ?_⟩
  · intro id timer held pending
    obtain ⟨armed, bound⟩ := wellFormed.period_le punctual.synced held pending
    have counted : system.manager.hardware.elapsed.count ≤ timer.remaining.count :=
      punctual.timely.unfloored armed id timer held pending
    exact ⟨punctual.remaining_add_spent held pending, armed, counted⟩
  · intro before start id mode ticks serial callback reign time rest split_at quiet
    exact passes (before ++ ⟨start, .scheduled id mode ticks serial callback⟩ :: reign)
      ⟨time, .passed⟩ rest (by rw [split_at]; simp) rfl id _ (plan?_of_reign quiet)
  · intro before start id mode ticks serial callback reign split_at quiet
    have planned : plan? id system.history = some
        { start, mode, ticks, serial, callback
          hits := collections id reign, spent := spentSince id reign } := by
      rw [split_at, plan?_of_reign quiet]
    rcases punctual.upToDate_or_dueNow planned with up_to_date | ⟨due_now, armed, expired⟩
    · exact Or.inl up_to_date
    · exact Or.inr ⟨due_now, expired, noticed armed expired⟩
  · intro before start id mode ticks serial callback reign last rest split_at quiet retires
    exact ends (before ++ ⟨start, .scheduled id mode ticks serial callback⟩ :: reign) last rest
      (by rw [split_at]; simp) id _ retires (plan?_of_reign quiet)
  · intro before entry expiry after split_at collected
    exact punctual.collects before entry after split_at expiry collected
  · intro stale
    apply punctual.expire_stale
    intro armed
    rcases punctual.timely.running armed with ⟨counting, _⟩ | ⟨expired, _⟩
    · exact counting
    · exact absurd ⟨armed, expired⟩ stale

/-- The hardware expires for a one-shot, whose notice arrives after another timer has been
scheduled; then it expires again. -/
def racedSystem : TimerSystem SimulatedTimer Nat :=
  raceRun .microsecond .growing
    [.use .allocate, .use .allocate,
      .use (.schedule ⟨0⟩ .oneshot (.ofMicros 30) { bytes := 8 } 1), .tick (.clamp 30),
      .use (.schedule ⟨1⟩ .periodic (.ofMicros 20) { bytes := 8 } 2), .tick (.clamp 5), .notice,
      .tick (.clamp 20)]

/-- The one-shot has been collected once, before its notice arrived. -/
theorem raced_one_shot_fires_once :
    TimerStorage.growing.CollectsAll ∧ racedSystem.notices = 1 ∧
    ∃ reign, racedSystem.history =
        [] ++ ⟨0, .scheduled ⟨0⟩ .oneshot (.clamp 30) 0 1⟩ :: (reign ++ [⟨35, .passed⟩]) ∧
      collections ⟨0⟩ reign = [30] := by
  have history : racedSystem.history =
      [] ++ ⟨0, .scheduled ⟨0⟩ .oneshot (.clamp 30) 0 1⟩ ::
        ([⟨0, .passed⟩, ⟨30, .charged (.clamp 30)⟩,
          ⟨30, .scheduled ⟨1⟩ .periodic (.clamp 20) 1 2⟩, ⟨30, .collected ⟨⟨0⟩, 0, 1⟩⟩,
          ⟨30, .passed⟩, ⟨35, .charged (.clamp 5)⟩] ++ [⟨35, .passed⟩]) := by decide +kernel
  refine ⟨TimerStorage.collectsAll_growing, by decide +kernel, _, history, ?_⟩
  rw [(collections_eq_dueTimes_at_passes .microsecond .growing TimerStorage.collectsAll_growing _
    racedSystem rfl).2.1 _ _ _ _ _ _ _ _ _ _ history (by simp [Entry.retires])]
  decide

end TimerSystem

end Reactor

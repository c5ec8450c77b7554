import Reactor.Proofs.Timer.Stages

/-!
# Handles, timers and schedules

Whatever its users do, a manager keeps its slots and its queue coherent, holds a timer for each
handle and for nothing else, and keeps for each timer the schedule that is in force.  From this it
follows that every move of a run goes through stages.
-/

namespace Reactor.TimerSystem

open TimerManager

variable {H κ : Type} {system next : TimerSystem H κ} {id : TimerId}

/-- The manager and the history agree with each other and with those who use the manager. -/
structure WellFormed (system : TimerSystem H κ) : Prop where
  /-- The slots and the queue are coherent. -/
  coherent : system.manager.IsCoherent
  /-- A timer is allocated for each handle until the release of the handle is complete. -/
  allocated_iff : ∀ id, (system.manager.timer? id).isSome = true ↔
    id ∈ system.handles ∨ id ∈ system.releasing
  /-- No two handles are for the same timer. -/
  distinct : (system.handles ++ system.releasing).Nodup
  /-- A timer that waits to be freed has no schedule in force. -/
  unplanned : ∀ id ∈ system.releasing, plan? id system.history = none
  /-- A timer holds the schedule in force. -/
  accounted : ∀ id, (system.manager.timer? id).bind Timer.schedule =
    (plan? id system.history).map Plan.schedule

theorem WellFormed.exists_timer (wellFormed : system.WellFormed)
    (owned : id ∈ system.handles ∨ id ∈ system.releasing) :
    ∃ timer, system.manager.timer? id = some timer :=
  Option.isSome_iff_exists.mp ((wellFormed.allocated_iff id).mpr owned)

theorem WellFormed.schedule_eq (wellFormed : system.WellFormed) {timer : Timer κ}
    (held : system.manager.timer? id = some timer) :
    timer.schedule = (plan? id system.history).map Plan.schedule := by
  have accounted := wellFormed.accounted id
  rwa [held] at accounted

/-- A timer without a schedule in force does not wait. -/
theorem WellFormed.not_pending (wellFormed : system.WellFormed) {timer : Timer κ}
    (held : system.manager.timer? id = some timer) (unplanned : plan? id system.history = none) :
    timer.pending = false := by
  rw [Bool.eq_false_iff]
  intro pending
  have scheduled := (wellFormed.coherent.ready held pending).scheduled
  rw [wellFormed.schedule_eq held, unplanned] at scheduled
  cases scheduled

/-! ## What a stage does to the history -/

section

variable {time : Nat} {events : List (TimerEvent κ)}

theorem schedule_plan?_of_quiet {history : List (Entry κ)}
    (quiet : ∀ event ∈ events, (Entry.mk time event).retires id = false) :
    (plan? id (history ++ events.map (Entry.mk time))).map Plan.schedule =
      (plan? id history).map Plan.schedule := by
  have quiet_entries : ∀ entry ∈ events.map (Entry.mk time), entry.retires id = false := by
    intro entry member
    obtain ⟨event, recorded, rfl⟩ := List.mem_map.mp member
    exact quiet event recorded
  rw [plan?_append_of_quiet quiet_entries, Option.map_map]
  rfl

theorem quiet_firing (fired : List (Expiry κ)) :
    ∀ event ∈ firing fired, (Entry.mk time event).retires id = false := by
  intro event member
  rcases mem_firing.mp member with ⟨expiry, _, rfl⟩ | rfl <;> rfl

end

/-! ## Every stage keeps the manager well-formed -/

variable [HardwareTimer H]

theorem WellFormed.stage_accounted (wellFormed : system.WellFormed) (stage : Stage system next)
    (id : TimerId) :
    (next.manager.timer? id).bind Timer.schedule = (plan? id next.history).map Plan.schedule := by
  have accounted := wellFormed.accounted id
  cases stage with
  | stopFailed | restartFailed | restarted | givenUp => exact accounted
  | @charged hardware armed stopped =>
      rw [history_record, schedule_plan?_of_quiet (by simp [Entry.retires]), ← accounted,
        manager_record, wellFormed.coherent.timer?_chargedTo]
      cases system.manager.timer? id with
      | none => rfl
      | some timer =>
          simp only [Option.map_some, Option.bind_some]
          split <;> rfl
  | @queued other timer queue mode ticks callback idle owned held period_pos pushed =>
      rw [manager_record, history_record, timer?_eq_held?, held?_slotsWaiting held]
      split
      · next same =>
          rw [List.map_singleton, plan?_concat_of_retires (by simp [Entry.retires, same])]
          rfl
      · next apart =>
          rw [schedule_plan?_of_quiet (by simp [Entry.retires, Ne.symm apart]), ← accounted]
  | @turnedAway other timer mode ticks idle held full =>
      have timers : ({ system.manager.vacated other (some (.turnedAway mode ticks)) with
          nextSerial := system.manager.nextSerial + 1 } : TimerManager H κ).timer? id =
          if id = other then some (.turnedAway mode ticks) else system.manager.timer? id :=
        timer?_vacated held _
      rw [manager_record, history_record, timers]
      split
      · next same =>
          rw [List.map_singleton, plan?_concat_of_retires (by simp [Entry.retires, same])]
          rfl
      · next apart =>
          rw [schedule_plan?_of_quiet (by simp [Entry.retires, Ne.symm apart]), ← accounted]
  | cleared idle =>
      rw [history_record, schedule_plan?_of_quiet (quiet_firing _), ← accounted,
        manager_record, (clearExpired_cleared wellFormed.coherent).timers]
      cases system.manager.timer? id with
      | none => rfl
      | some timer => exact timer.schedule_settled
  | @retired other timer held =>
      rw [manager_record, history_record, timer?_vacated held]
      split
      · next same =>
          rw [List.map_singleton, plan?_concat_of_retires (by simp [Entry.retires, same])]
          rfl
      · next apart =>
          rw [schedule_plan?_of_quiet (by simp [Entry.retires, Ne.symm apart]), ← accounted]
  | @freed other timer given_up held =>
      rw [manager_record, history_record, timer?_vacated held]
      split
      · next same =>
          rw [List.map_singleton, plan?_concat_of_retires (by simp [Entry.retires, same])]
          rfl
      · next apart =>
          rw [schedule_plan?_of_quiet (by simp [Entry.retires, Ne.symm apart]), ← accounted]
  | @allocated other slots absent placed capacity size =>
      rw [timer?_eq_held?, placed]
      split
      · next same =>
          rw [same, absent] at accounted
          rw [same, ← accounted]
          rfl
      · exact accounted
  | handedOver waits =>
      rw [history_record, schedule_plan?_of_quiet (by simp [Entry.retires])]
      exact accounted

theorem stage_isCoherent (coherent : system.manager.IsCoherent) (stage : Stage system next) :
    next.manager.IsCoherent := by
  cases stage with
  | stopFailed | restartFailed | restarted => exact coherent.congr rfl rfl
  | charged => exact coherent.chargedTo _
  | queued idle owned held period_pos pushed => exact coherent.queued held period_pos pushed
  | @turnedAway other timer mode ticks idle held full =>
      have away : (system.manager.vacated other (some (.turnedAway mode ticks))).IsCoherent :=
        coherent.vacated held (atRest_some rfl)
      exact away.congr rfl rfl
  | cleared => exact (clearExpired_cleared coherent).coherent
  | retired held => exact coherent.vacated held (atRest_some rfl)
  | freed given_up held => exact coherent.vacated held atRest_none
  | givenUp | handedOver => exact coherent
  | allocated absent placed => exact Coherent.place coherent absent rfl placed

theorem WellFormed.stage_allocated_iff (wellFormed : system.WellFormed)
    (stage : Stage system next) (id : TimerId) :
    (next.manager.timer? id).isSome = true ↔ id ∈ next.handles ∨ id ∈ next.releasing := by
  have allocated_iff := wellFormed.allocated_iff id
  cases stage with
  | stopFailed | restartFailed | restarted | handedOver => exact allocated_iff
  | charged =>
      rw [manager_record, wellFormed.coherent.timer?_chargedTo, Option.isSome_map]
      exact allocated_iff
  | cleared =>
      rw [manager_record, (clearExpired_cleared wellFormed.coherent).timers, Option.isSome_map]
      exact allocated_iff
  | @queued other timer queue mode ticks callback idle owned held period_pos pushed =>
      have still : (held? (system.manager.slotsWaiting other mode ticks callback) id).isSome =
          (system.manager.timer? id).isSome := by
        rw [held?_slotsWaiting held]
        split
        · next same => rw [same, held, Option.isSome_some, Option.isSome_some]
        · rfl
      rw [manager_record, timer?_eq_held?, still]
      exact allocated_iff
  | @turnedAway other timer mode ticks idle held full =>
      rw [← timer?_isSome_vacated held (.turnedAway mode ticks)] at allocated_iff
      exact allocated_iff
  | @retired other timer held =>
      rw [manager_record, timer?_isSome_vacated held]
      exact allocated_iff
  | @givenUp other owned idle =>
      by_cases same : id = other
      · subst same
        simp [allocated_iff, owned]
      · rw [allocated_iff, List.mem_erase_of_ne same, List.mem_cons]
        simp [same]
  | @freed other timer given_up held =>
      obtain ⟨_, releasing_distinct, disjoint⟩ := List.nodup_append'.mp wellFormed.distinct
      rw [manager_record, timer?_vacated held]
      split
      · next same =>
          subst same
          have gone : id ∉ system.releasing.erase id := releasing_distinct.not_mem_erase
          have unowned : id ∉ system.handles := fun owned => disjoint owned given_up
          simp [record, gone, unowned]
      · next apart =>
          rw [allocated_iff]
          simp [record, List.mem_erase_of_ne apart]
  | @allocated other slots absent placed capacity size =>
      rw [timer?_eq_held?, placed]
      split
      · next same => simp [same]
      · next apart =>
          rw [allocated_iff]
          simp [apart]

theorem WellFormed.stage_distinct (wellFormed : system.WellFormed) (stage : Stage system next) :
    (next.handles ++ next.releasing).Nodup := by
  have distinct := wellFormed.distinct
  cases stage with
  | @givenUp other owned idle =>
      have moved : (system.handles.erase other ++ other :: system.releasing).Perm
          (system.handles ++ system.releasing) := by
        refine List.perm_middle.trans ?_
        rw [← List.cons_append]
        exact (List.perm_cons_erase owned).symm.append_right _
      exact moved.nodup_iff.mpr distinct
  | @freed other timer given_up held =>
      exact distinct.sublist (List.erase_sublist.append_left _)
  | @allocated other slots absent placed capacity size =>
      have unowned : other ∉ system.handles ++ system.releasing := by
        rw [List.mem_append, ← wellFormed.allocated_iff, absent]
        simp
      exact List.nodup_cons.mpr ⟨unowned, distinct⟩
  | _ => exact distinct

theorem WellFormed.stage_unplanned (wellFormed : system.WellFormed) (stage : Stage system next) :
    ∀ id ∈ next.releasing, plan? id next.history = none := by
  intro id releasing
  have unplanned := wellFormed.unplanned id
  have mapped : ∀ {time : Nat} {events : List (TimerEvent κ)}, id ∈ system.releasing →
      (∀ event ∈ events, (Entry.mk time event).retires id = false) →
      plan? id (system.history ++ events.map (Entry.mk time)) = none := by
    intro time events releasing quiet
    rw [← Option.map_eq_none_iff, schedule_plan?_of_quiet quiet, unplanned releasing,
      Option.map_none]
  have retired : ∀ {entry : Entry κ}, entry.retires id = true → entry.opens? = none →
      plan? id (system.history ++ [entry]) = none := by
    intro entry retires opens
    rw [plan?_concat_of_retires retires, opens]
  cases stage with
  | stopFailed | restartFailed | restarted | allocated => exact unplanned releasing
  | charged | handedOver => exact mapped releasing (by simp [Entry.retires])
  | cleared => exact mapped releasing (quiet_firing _)
  | @queued other timer queue mode ticks callback idle owned held period_pos pushed =>
      have apart : other ≠ id := by
        rintro rfl
        exact (List.nodup_append'.mp wellFormed.distinct).2.2 owned releasing
      exact mapped releasing (by simp [Entry.retires, apart])
  | @turnedAway other | @retired other =>
      by_cases same : other = id
      · exact retired (by simp [Entry.retires, same]) rfl
      · exact mapped releasing (by simp [Entry.retires, same])
  | @freed other =>
      by_cases same : other = id
      · exact retired (by simp [Entry.retires, same]) rfl
      · exact mapped (List.mem_of_mem_erase releasing) (by simp [Entry.retires, same])
  | @givenUp other owned idle =>
      rcases List.mem_cons.mp releasing with same | earlier
      · rw [same]
        exact idle
      · exact unplanned earlier

theorem WellFormed.stage (wellFormed : system.WellFormed) (stage : Stage system next) :
    next.WellFormed where
  coherent := stage_isCoherent wellFormed.coherent stage
  allocated_iff := wellFormed.stage_allocated_iff stage
  distinct := wellFormed.stage_distinct stage
  unplanned := wellFormed.stage_unplanned stage
  accounted := wellFormed.stage_accounted stage

theorem WellFormed.stages (wellFormed : system.WellFormed) (stages : Stages system next) :
    next.WellFormed :=
  stages.keep WellFormed wellFormed fun _ _ wellFormed stage => wellFormed.stage stage

theorem wellFormed_fresh (hardware : H) (storage : TimerStorage) :
    (fresh hardware storage : TimerSystem H κ).WellFormed where
  coherent := Coherent.empty storage.timers storage.scheduled
  allocated_iff := by simp [fresh, new, timer?, Roster.empty, Roster.get?]
  distinct := List.nodup_nil
  unplanned := by simp [fresh]
  accounted := by simp [fresh, new, timer?, Roster.empty, Roster.get?, plan?]

/-! ## Every move goes through stages -/

/-- A move is a number of stages. -/
theorem WellFormed.perform_stages (wellFormed : system.WellFormed) (move : TimerMove κ) :
    Stages system (system.perform move) := by
  cases move with
  | allocate =>
      rw [perform]
      split
      · next id allocated =>
          obtain ⟨slots, result, absent, placed, capacity, size⟩ := allocate_of_ok allocated
          rw [result]
          exact (Stage.allocated system absent placed capacity size).stages
      · exact .refl system
  | schedule id mode delay footprint callback =>
      rw [perform]
      split
      · next owned =>
          obtain ⟨timer, held⟩ := wellFormed.exists_timer (Or.inl owned)
          split
          · next ticks accepted =>
              exact schedule_stages callback wellFormed.coherent owned held
                (period_pos_of_accept accepted)
          · exact .refl system
      · exact .refl system
  | cancel id =>
      rw [perform]
      split
      · next owned =>
          obtain ⟨timer, held⟩ := wellFormed.exists_timer (Or.inl owned)
          exact retire_stages wellFormed.coherent held
      · exact .refl system
  | release id =>
      rw [perform]
      split
      · next owned =>
          obtain ⟨timer, held⟩ := wellFormed.exists_timer (Or.inl owned)
          exact (retire_stages wellFormed.coherent held).trans
            (Stage.givenUp (system.retire id) owned (plan?_retire system id)).stages
      · exact .refl system
  | free id =>
      rw [perform]
      split
      · next given_up =>
          obtain ⟨timer, held⟩ := wellFormed.exists_timer (Or.inr given_up)
          have freed := Stage.freed system given_up held
          rw [free_eq held]
          simpa [commit, record, chargesOf, passOf, TimerNote.endsPass] using freed.stages
      · exact .refl system
  | expire => exact expire_stages wellFormed.coherent
  | handOver place =>
      rw [perform]
      split
      · exact .refl system
      · next expiry waits => exact (Stage.handedOver system waits).stages

/-- What every stage keeps of a well-formed system, every move keeps. -/
theorem WellFormed.perform_keeps (kept : TimerSystem H κ → Prop) (wellFormed : system.WellFormed)
    (start : kept system) (stage_keeps : ∀ system next : TimerSystem H κ, system.WellFormed →
      kept system → Stage system next → kept next)
    (move : TimerMove κ) : kept (system.perform move) := by
  have both : (system.perform move).WellFormed ∧ kept (system.perform move) := by
    apply (wellFormed.perform_stages move).keep (fun system => system.WellFormed ∧ kept system)
    · exact ⟨wellFormed, start⟩
    · rintro system next ⟨wellFormed, start⟩ stage
      exact ⟨wellFormed.stage stage, stage_keeps system next wellFormed start stage⟩
  exact both.2

theorem WellFormed.perform (wellFormed : system.WellFormed) (move : TimerMove κ) :
    (system.perform move).WellFormed :=
  wellFormed.stages (wellFormed.perform_stages move)

end Reactor.TimerSystem

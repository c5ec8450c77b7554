import Reactor.Proofs.Timer.Ownership

/-!
# Schedule numbers

Each scheduling takes the next number, so the number of a schedule counts those before it.  As long
as fewer than `2 ^ 32` have been given out, a number stands for one schedule only.
-/

namespace Reactor

variable {H κ : Type} {history more : List (Entry κ)} {entry : Entry κ}

/-! ## Numbers in a history -/

/-- The number of every schedule in a history counts the numbers given out before. -/
def CountsUp (history : List (Entry κ)) : Prop :=
  AtEach (fun before entry => ∀ id mode ticks serial callback,
    entry.event = .scheduled id mode ticks serial callback →
    serial = UInt32.ofNat (issued before)) history

theorem issued_append : issued (history ++ more) = issued history + issued more :=
  List.countP_append

theorem issued_cons (takes : entry.takesNumber = true) : issued (entry :: more) = issued more + 1 :=
  List.countP_cons_of_pos takes

theorem issued_eq_zero (silent : ∀ entry ∈ more, entry.takesNumber = false) : issued more = 0 := by
  rw [issued, List.countP_eq_zero]
  intro entry member
  simp [silent entry member]

/-- Entries that take no number leave the count as it is. -/
theorem CountsUp.append (counts : CountsUp history)
    (silent : ∀ entry ∈ more, entry.takesNumber = false) : CountsUp (history ++ more) := by
  apply AtEach.append_of_forall counts
  intro entry member before id mode ticks serial callback scheduled
  have takes_none := silent entry member
  simp [Entry.takesNumber, scheduled] at takes_none

/-- Numbers given out at different places of a history differ. -/
theorem split_eq_of_issued_eq {before₁ after₁ before₂ after₂ : List (Entry κ)}
    {entry₁ entry₂ : Entry κ} (first : history = before₁ ++ entry₁ :: after₁)
    (second : history = before₂ ++ entry₂ :: after₂) (takes₁ : entry₁.takesNumber = true)
    (takes₂ : entry₂.takesNumber = true) (same : issued before₁ = issued before₂) :
    before₁ = before₂ ∧ entry₁ = entry₂ ∧ after₁ = after₂ := by
  rw [first] at second
  rcases List.append_eq_append_iff.mp second with ⟨gap, longer, rest⟩ | ⟨gap, longer, rest⟩
  · cases gap with
    | nil =>
        rw [List.append_nil] at longer
        rw [List.nil_append, List.cons.injEq] at rest
        exact ⟨longer.symm, rest.1, rest.2⟩
    | cons entry gap =>
        rw [List.cons_append, List.cons.injEq] at rest
        rw [longer, issued_append, ← rest.1, issued_cons takes₁] at same
        omega
  · cases gap with
    | nil =>
        rw [List.append_nil] at longer
        rw [List.nil_append, List.cons.injEq] at rest
        exact ⟨longer, rest.1.symm, rest.2.symm⟩
    | cons entry gap =>
        rw [List.cons_append, List.cons.injEq] at rest
        rw [longer, issued_append, ← rest.1, issued_cons takes₂] at same
        omega

/-- While numbers do not wrap around, a number stands for one schedule. -/
theorem CountsUp.split_eq (counts : CountsUp history) (few : issued history < UInt32.size)
    {before₁ after₁ before₂ after₂ : List (Entry κ)} {time₁ time₂ : Nat} {id₁ id₂ : TimerId}
    {mode₁ mode₂ : TimerMode} {ticks₁ ticks₂ : Ticks} {serial : UInt32} {callback₁ callback₂ : κ}
    (first : history =
      before₁ ++ ⟨time₁, .scheduled id₁ mode₁ ticks₁ serial callback₁⟩ :: after₁)
    (second : history =
      before₂ ++ ⟨time₂, .scheduled id₂ mode₂ ticks₂ serial callback₂⟩ :: after₂) :
    id₁ = id₂ ∧ callback₁ = callback₂ ∧ after₁ = after₂ := by
  have below : ∀ {before after : List (Entry κ)} {entry : Entry κ},
      history = before ++ entry :: after → issued before < UInt32.size := by
    intro before after entry split_at
    rw [split_at, issued_append] at few
    omega
  have same : issued before₁ = issued before₂ := by
    have numbers : UInt32.ofNat (issued before₁) = UInt32.ofNat (issued before₂) := by
      rw [← counts _ _ _ first _ _ _ _ _ rfl, ← counts _ _ _ second _ _ _ _ _ rfl]
    have counted := congrArg UInt32.toNat numbers
    rwa [UInt32.toNat_ofNat_of_lt' (below first), UInt32.toNat_ofNat_of_lt' (below second)]
      at counted
  obtain ⟨_, entries, afters⟩ := split_eq_of_issued_eq first second rfl rfl same
  simp only [Entry.mk.injEq, TimerEvent.scheduled.injEq] at entries
  exact ⟨entries.2.1, entries.2.2.2.2.2, afters⟩

/-! ## Numbers in a run -/

namespace TimerSystem

open TimerManager

variable {system next : TimerSystem H κ}

/-- Whether an expiry was scheduled under its number. -/
def Scheduled (history : List (Entry κ)) (expiry : Expiry κ) : Prop :=
  ∃ before time mode ticks after, history = before ++
    ⟨time, .scheduled expiry.id mode ticks expiry.serial expiry.callback⟩ :: after

theorem Scheduled.append {expiry : Expiry κ} (scheduled : Scheduled history expiry) :
    Scheduled (history ++ more) expiry := by
  obtain ⟨before, time, mode, ticks, after, rfl⟩ := scheduled
  exact ⟨before, time, mode, ticks, after ++ more, by simp⟩

/-- The manager gives out numbers one by one, and what has been collected was scheduled. -/
structure Numbered (system : TimerSystem H κ) : Prop where
  /-- The next number counts those given out. -/
  next_eq : system.manager.nextSerial = UInt32.ofNat (issued system.history)
  /-- The numbers given out count up. -/
  counts : CountsUp system.history
  /-- What waits to be handed over was scheduled. -/
  collected : ∀ expiry ∈ system.collected, Scheduled system.history expiry
  /-- What waits to be run was scheduled. -/
  inFlight : ∀ expiry ∈ system.inFlight, Scheduled system.history expiry

/-- A change that takes no number. -/
theorem Numbered.of_silent (numbered : system.Numbered) {events : List (TimerEvent κ)}
    (silent : ∀ event ∈ events, (Entry.mk system.time event).takesNumber = false)
    (serial : next.manager.nextSerial = system.manager.nextSerial)
    (history : next.history = system.history ++ events.map (Entry.mk system.time))
    (collected : ∀ expiry ∈ next.collected, Scheduled next.history expiry)
    (inFlight : ∀ expiry ∈ next.inFlight, Scheduled next.history expiry) : next.Numbered := by
  have silent_entries : ∀ entry ∈ events.map (Entry.mk system.time),
      entry.takesNumber = false := by
    intro entry member
    obtain ⟨event, recorded, rfl⟩ := List.mem_map.mp member
    exact silent event recorded
  refine ⟨?_, ?_, collected, inFlight⟩
  · rw [serial, history, issued_append, issued_eq_zero silent_entries]
    exact numbered.next_eq
  · rw [history]
    exact numbered.counts.append silent_entries

/-- A change that takes the next number. -/
theorem Numbered.of_number (numbered : system.Numbered) {event : TimerEvent κ}
    (takes : (Entry.mk system.time event).takesNumber = true)
    (number : ∀ id mode ticks serial callback, event = .scheduled id mode ticks serial callback →
      serial = system.manager.nextSerial)
    (serial : next.manager.nextSerial = system.manager.nextSerial + 1)
    (history : next.history = system.history ++ [Entry.mk system.time event])
    (collected : next.collected = system.collected) (inFlight : next.inFlight = system.inFlight) :
    next.Numbered := by
  constructor
  · rw [serial, history, issued_append, numbered.next_eq, issued_cons takes, UInt32.ofNat_add]
    rfl
  · rw [history]
    apply AtEach.concat numbered.counts
    intro id mode ticks serial callback scheduled
    rw [number id mode ticks serial callback scheduled, numbered.next_eq]
  · intro expiry waits
    rw [history]
    exact (numbered.collected expiry (collected ▸ waits)).append
  · intro expiry waits
    rw [history]
    exact (numbered.inFlight expiry (inFlight ▸ waits)).append

variable [HardwareTimer H]

theorem Numbered.stage (numbered : system.Numbered) (wellFormed : system.WellFormed)
    (stage : Stage system next) : next.Numbered := by
  cases stage with
  | stopFailed | restartFailed | restarted | givenUp | allocated =>
      exact ⟨numbered.next_eq, numbered.counts, numbered.collected, numbered.inFlight⟩
  | charged | retired | freed =>
      exact numbered.of_silent (by simp [Entry.takesNumber]) rfl rfl
        (fun expiry waits => (numbered.collected expiry waits).append)
        (fun expiry waits => (numbered.inFlight expiry waits).append)
  | queued =>
      exact numbered.of_number rfl
        (by rintro _ _ _ _ _ ⟨⟩; rfl) rfl rfl rfl rfl
  | turnedAway =>
      exact numbered.of_number rfl (by rintro _ _ _ _ _ ⟨⟩) rfl rfl rfl rfl
  | cleared idle =>
      have cleared := clearExpired_cleared wellFormed.coherent
      have silent : ∀ event ∈ firing system.manager.clearExpired.2,
          (Entry.mk system.time event).takesNumber = false := by
        intro event member
        rcases mem_firing.mp member with ⟨expiry, _, rfl⟩ | rfl <;> rfl
      refine numbered.of_silent silent cleared.nextSerial rfl ?_ ?_
      · intro expiry waits
        rcases List.mem_append.mp waits with earlier | fired
        · exact (numbered.collected expiry earlier).append
        · obtain ⟨timer, held, _, scheduled⟩ := cleared.due expiry fired
          have planned := wellFormed.schedule_eq held
          rw [scheduled] at planned
          obtain ⟨before, time, mode, ticks, reign, split_at, _⟩ :=
            inForce_iff_plan?.mpr planned.symm
          have found : Scheduled system.history expiry :=
            ⟨before, time, mode, ticks, reign, split_at⟩
          exact found.append
      · exact fun expiry waits => (numbered.inFlight expiry waits).append
  | @handedOver place expiry waits =>
      have found := numbered.collected expiry (List.mem_of_getElem? waits)
      have silent : ∀ event ∈ [TimerEvent.handedOver expiry],
          (Entry.mk system.time event).takesNumber = false := by simp [Entry.takesNumber]
      refine numbered.of_silent silent rfl rfl ?_ ?_
      · exact fun other waits =>
          (numbered.collected other (List.mem_of_mem_eraseIdx waits)).append
      · intro other handed
        rcases List.mem_append.mp handed with earlier | last
        · exact (numbered.inFlight other earlier).append
        · rw [List.mem_singleton.mp last]
          exact found.append

theorem numbered_fresh (hardware : H) (storage : TimerStorage) :
    (fresh hardware storage : TimerSystem H κ).Numbered where
  next_eq := rfl
  counts := .nil
  collected := by simp [fresh]
  inFlight := by simp [fresh]

end TimerSystem

end Reactor

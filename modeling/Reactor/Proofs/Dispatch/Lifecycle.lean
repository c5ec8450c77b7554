import Reactor.Proofs.Dispatch.ActiveObject

/-!
# The life of an active object

The worker of an active object shows its first hook, the items that it is given and its last hook,
as far as it gets.  The first shutdown ends this, whether it comes before the first hook, between
items, from within an item or after a panic: when it has returned, every accepted item has been
processed or discarded.
-/

namespace Reactor

namespace ActiveSystem

variable {ι : Type} {system : ActiveSystem ι} {capacity : Capacity}

/-! ## The story of the worker -/

/-- What the worker shows before its last hook, if it has been given these items. -/
def story (items : List ι) : List (ActiveEvent ι) := .started :: items.map .processes

/-- What the worker has shown, by where it is and whether it is inside a hook. -/
inductive Told : ActiveWorker ι → Bool → List (ActiveEvent ι) → Prop
  | unborn : Told .starting false []
  | waiting (items : List ι) (inHook : Bool) : Told .waiting inHook (story items)
  | processing (items : List ι) (item : ι) :
      Told (.processing item) false (story (items ++ [item]))
  | finished (items : List ι) (inHook : Bool) :
      Told .finished inHook (story items ++ [.stopped])
  | died (items : List ι) : Told .dead false (story items)
  | diedStopping (items : List ι) : Told .dead false (story items ++ [.stopped])

theorem story_concat (items : List ι) (item : ι) :
    story items ++ [.processes item] = story (items ++ [item]) := by
  simp [story]

theorem filterMap_item?_story (items : List ι) :
    (story items).filterMap ActiveEvent.item? = items := by
  rw [story, List.filterMap_cons_none rfl, List.filterMap_map]
  exact List.filterMap_some

theorem Told.perform (told : Told system.object.worker system.inHook system.trace)
    (move : ActiveMove ι) :
    Told (system.perform move).object.worker (system.perform move).inHook
      (system.perform move).trace := by
  rcases system.perform_cases move with same | turn
  · rw [same]
    exact told
  generalize system.perform move = next at turn
  obtain ⟨⟨config, work, worker⟩, inHook, joinable, trace, accepted, discarded, shutdowns⟩ := system
  simp only at told
  cases turn with
  | starts _ starting =>
      cases starting
      cases told
      exact .waiting [] true
  | @takes item work _ waits _ =>
      cases waits
      cases told with
      | waiting items => exact story_concat items item ▸ .processing items item
  | stops _ waits _ =>
      cases waits
      cases told with
      | waiting items => exact .finished items true
  | leaves inside =>
      cases inside
      cases told with
      | waiting items => exact .waiting items false
      | finished items => exact .finished items false
  | @finishes item _ busy =>
      cases busy
      cases told with
      | processing items => exact .waiting (items ++ [item]) false
  | panics busy =>
      cases told with
      | unborn => simp at busy
      | waiting items => exact .died items
      | processing items item => exact .died (items ++ [item])
      | finished items => exact .diedStopping items
      | died items => exact .died items
      | diedStopping items => exact .diedStopping items
  | enqueued | closes | comesLate | takesHandle | joins | discards | returns => exact told

theorem Told.isPrefix {worker : ActiveWorker ι} {inHook : Bool} {trace : List (ActiveEvent ι)}
    (told : Told worker inHook trace) :
    trace <+: story (trace.filterMap ActiveEvent.item?) ++ [.stopped] := by
  cases told with
  | unborn => exact List.nil_prefix
  | waiting items | died items =>
      rw [filterMap_item?_story]
      exact List.prefix_append _ _
  | processing items item =>
      rw [filterMap_item?_story]
      exact List.prefix_append _ _
  | finished items | diedStopping items =>
      have same : (story items ++ [ActiveEvent.stopped]).filterMap ActiveEvent.item? = items := by
        rw [List.filterMap_append, filterMap_item?_story]
        exact List.append_nil items
      refine ⟨[], ?_⟩
      rw [List.append_nil, same]

/-! ## The shutdowns -/

/-- What has come true when the shutdown that closed the object is at a stage. -/
def IsAt (system : ActiveSystem ι) (byWorker : Bool) : ShutdownStage → Prop
  | .closing => system.joinable = true
  | .joining => True
  | .discarding => byWorker = true ∨ system.hasEnded = true
  | .returned =>
      (byWorker = true ∨ system.hasEnded = true) ∧ system.object.work.queue.items = []
  | .late => False

/-- Whoever closed the object shuts it down, and everybody else came late. -/
inductive Attended (system : ActiveSystem ι) : Prop
  | running (isOpen : system.object.work.closed = false) (none_yet : system.shutdowns = [])
      (joinable : system.joinable = true)
  | closed {byWorker : Bool} {stage : ShutdownStage} {late : List Shutdown}
      (shut : system.object.work.closed = true)
      (first : system.shutdowns = { byWorker, stage } :: late)
      (others : ∀ shutdown ∈ late, shutdown.stage = .late)
      (at_stage : system.IsAt byWorker stage)

theorem shutdowns_withStage {shutdown : Shutdown} {late : List Shutdown}
    (first : system.shutdowns = shutdown :: late) (stage : ShutdownStage) :
    (system.withStage 0 shutdown stage).shutdowns = { shutdown with stage } :: late := by
  rw [withStage, first]
  rfl

theorem Attended.first_of_getElem? (attended : system.Attended) {place : Nat} {byWorker : Bool}
    {stage : ShutdownStage} (found : system.shutdowns[place]? = some { byWorker, stage })
    (in_time : stage ≠ .late) :
    place = 0 ∧ system.object.work.closed = true ∧ system.IsAt byWorker stage ∧
      ∃ late, system.shutdowns = { byWorker, stage } :: late ∧
        ∀ shutdown ∈ late, shutdown.stage = .late := by
  cases attended with
  | running _ none_yet => simp [none_yet] at found
  | @closed _ _ late shut first others at_stage =>
      rw [first] at found
      cases place with
      | zero =>
          cases found
          exact ⟨rfl, shut, at_stage, late, first, others⟩
      | succ place =>
          rw [List.getElem?_cons_succ] at found
          exact absurd (others _ (List.mem_of_getElem? found)) in_time

/-- What the worker does changes nothing about the shutdowns. -/
theorem Attended.of_same (attended : system.Attended) {next : ActiveSystem ι}
    (closed_eq : next.object.work.closed = system.object.work.closed)
    (shutdowns_eq : next.shutdowns = system.shutdowns)
    (joinable_eq : next.joinable = system.joinable)
    (ended : system.hasEnded = true → next.hasEnded = true)
    (emptied : system.object.work.closed = true → system.object.work.queue.items = [] →
      next.object.work.queue.items = []) : next.Attended := by
  cases attended with
  | running isOpen none_yet joinable =>
      exact .running (closed_eq.trans isOpen) (shutdowns_eq.trans none_yet)
        (joinable_eq.trans joinable)
  | @closed byWorker stage late shut first others at_stage =>
      refine .closed (closed_eq.trans shut) (shutdowns_eq.trans first) others ?_
      cases stage with
      | closing => exact joinable_eq.trans at_stage
      | joining => exact trivial
      | discarding => exact at_stage.imp_right ended
      | returned => exact ⟨at_stage.1.imp_right ended, emptied shut at_stage.2⟩
      | late => exact at_stage

theorem Attended.perform (attended : system.Attended) (move : ActiveMove ι) :
    (system.perform move).Attended := by
  rcases system.perform_cases move with same | turn
  · rw [same]
    exact attended
  generalize system.perform move = next at turn
  have ended := fun gone => (turn.ended gone).1
  cases turn with
  | enqueued pushed =>
      obtain ⟨isOpen, _, rfl⟩ := WorkQueue.push_eq_ok_iff.mp pushed
      cases attended with
      | running _ none_yet joinable => exact .running isOpen none_yet joinable
      | closed shut => exact absurd (isOpen.symm.trans shut) (by simp)
  | takes _ _ given =>
      obtain ⟨isOpen, _, _, rfl⟩ := WorkQueue.next?_eq_some_iff.mp given
      exact attended.of_same rfl rfl rfl ended fun shut => absurd (isOpen.symm.trans shut) (by simp)
  | starts | stops | leaves | finishes | panics =>
      exact attended.of_same rfl rfl rfl ended fun _ none_left => none_left
  | closes isOpen =>
      cases attended with
      | running _ none_yet joinable =>
          exact .closed rfl (congrArg (· ++ _) none_yet) (fun _ member => by cases member) joinable
      | closed shut => exact absurd (isOpen.symm.trans shut) (by simp)
  | comesLate shut =>
      cases attended with
      | running isOpen => exact absurd (isOpen.symm.trans shut) (by simp)
      | @closed _ stage late _ first others at_stage =>
          refine .closed shut (congrArg (· ++ _) first) ?_ at_stage
          intro shutdown member
          rcases List.mem_append.mp member with early | last
          · exact others shutdown early
          · rw [List.mem_singleton.mp last]
  | takesHandle found =>
      obtain ⟨rfl, shut, at_stage, late, first, others⟩ :=
        attended.first_of_getElem? found (by simp)
      have joinable : system.joinable = true := at_stage
      refine .closed shut (shutdowns_withStage first _) others ?_
      rw [joinable]
      exact trivial
  | joins found free =>
      obtain ⟨rfl, shut, _, late, first, others⟩ := attended.first_of_getElem? found (by simp)
      exact .closed shut (shutdowns_withStage first _) others free
  | discards found in_front =>
      obtain ⟨rfl, shut, free, late, first, others⟩ := attended.first_of_getElem? found (by simp)
      exact .closed shut first others free
  | returns found none_left =>
      obtain ⟨rfl, shut, free, late, first, others⟩ := attended.first_of_getElem? found (by simp)
      exact .closed shut (shutdowns_withStage first _) others ⟨free, none_left⟩

/-! ## The books -/

/-- The books of the items: what the worker has been given has been taken. -/
def ledger (system : ActiveSystem ι) : WorkLedger ι where
  work := system.object.work
  accepted := system.accepted
  taken := system.processed
  discarded := system.discarded

theorem Attended.exists_ledger_perform (attended : system.Attended) (move : ActiveMove ι) :
    ∃ turns, (system.perform move).ledger = system.ledger.after turns := by
  rcases system.perform_cases move with same | turn
  · exact ⟨[], congrArg ledger same⟩
  generalize system.perform move = next at turn
  cases turn with
  | @enqueued item work pushed =>
      refine ⟨[.push item], ?_⟩
      simp [ledger, processed, WorkLedger.after, WorkLedger.perform, pushed]
  | takes _ _ given =>
      refine ⟨[.next], ?_⟩
      simp [ledger, processed, WorkLedger.after, WorkLedger.perform, given, ActiveEvent.item?]
  | starts | stops =>
      refine ⟨[], ?_⟩
      simp [ledger, processed, WorkLedger.after, ActiveEvent.item?]
  | closes => exact ⟨[.close], rfl⟩
  | discards found in_front =>
      obtain ⟨_, shut, _⟩ := attended.first_of_getElem? found (by simp)
      have given := WorkQueue.discardOne?_eq_some_iff.mpr ⟨_, in_front, rfl⟩
      refine ⟨[.discard], ?_⟩
      simp [ledger, processed, WorkLedger.after, WorkLedger.perform, shut, given]
  | leaves | finishes | panics | comesLate | takesHandle | joins | returns => exact ⟨[], rfl⟩

/-- What holds of an active object at every moment. -/
structure Sound (capacity : Capacity) (system : ActiveSystem ι) : Prop where
  told : Told system.object.worker system.inHook system.trace
  attended : system.Attended
  balanced : system.ledger.Balanced capacity
  closed_of_stopped : ActiveEvent.stopped ∈ system.trace → system.object.work.closed = true

theorem sound_opened (config : ActiveConfig) (capacity : Capacity) :
    (opened config capacity : ActiveSystem ι).Sound capacity where
  told := .unborn
  attended := .running rfl rfl rfl
  balanced := WorkLedger.balanced_opened capacity
  closed_of_stopped := fun stopped => by cases stopped

theorem Sound.closed_of_stopped_perform (sound : system.Sound capacity) (move : ActiveMove ι)
    (stopped : ActiveEvent.stopped ∈ (system.perform move).trace) :
    (system.perform move).object.work.closed = true := by
  obtain ⟨turns, same⟩ := sound.attended.exists_ledger_perform move
  have still_closed (shut : system.object.work.closed = true) :
      (system.perform move).object.work.closed = true := by
    have winding : system.ledger.Winding (system.ledger.after turns) :=
      WorkLedger.winding_after shut turns
    rw [← same] at winding
    exact winding.closed
  rcases system.perform_cases move with unchanged | turn
  · exact still_closed (sound.closed_of_stopped (unchanged ▸ stopped))
  apply still_closed
  generalize system.perform move = next at turn stopped
  cases turn with
  | stops _ _ shut => exact shut
  | starts | takes =>
      rcases List.mem_append.mp stopped with earlier | now
      · exact sound.closed_of_stopped earlier
      · simp at now
  | enqueued | leaves | finishes | panics | closes | comesLate | takesHandle | joins | discards
    | returns => exact sound.closed_of_stopped stopped

theorem Sound.perform (sound : system.Sound capacity) (move : ActiveMove ι) :
    (system.perform move).Sound capacity where
  told := sound.told.perform move
  attended := sound.attended.perform move
  balanced := by
    obtain ⟨turns, same⟩ := sound.attended.exists_ledger_perform move
    rw [same]
    exact sound.balanced.after turns
  closed_of_stopped := sound.closed_of_stopped_perform move

theorem Sound.after (sound : system.Sound capacity) (moves : List (ActiveMove ι)) :
    (system.after moves).Sound capacity := by
  induction moves using List.reverseRecOn with
  | nil => exact sound
  | append_singleton moves move induction =>
      rw [after_concat]
      exact induction.perform move

theorem Sound.exists_ledger_after (sound : system.Sound capacity) (moves : List (ActiveMove ι)) :
    ∃ turns, (system.after moves).ledger = system.ledger.after turns := by
  induction moves using List.reverseRecOn with
  | nil => exact ⟨[], rfl⟩
  | append_singleton moves move induction =>
      obtain ⟨turns, same⟩ := induction
      obtain ⟨last, last_same⟩ := (sound.after moves).attended.exists_ledger_perform move
      refine ⟨turns ++ last, ?_⟩
      rw [after_concat, last_same, same, WorkLedger.after_append]

/-! ## After the object has been closed -/

/-- Whoever closed an object, its worker is given nothing from then on, and no item is accepted. -/
theorem Sound.winding_after (sound : system.Sound capacity)
    (shut : system.object.work.closed = true) (moves : List (ActiveMove ι)) :
    system.ledger.Winding (system.after moves).ledger := by
  obtain ⟨turns, same⟩ := sound.exists_ledger_after moves
  rw [same]
  exact WorkLedger.winding_after shut turns

theorem closed_after_iff (isOpen : system.object.work.closed = false)
    (moves : List (ActiveMove ι)) :
    (system.after moves).object.work.closed = true ↔
      ∃ byWorker, ActiveMove.shutDown byWorker ∈ moves := by
  induction moves using List.reverseRecOn with
  | nil => simp [after, isOpen]
  | append_singleton moves move induction =>
      rw [after_concat]
      have split : (∃ byWorker, ActiveMove.shutDown byWorker ∈ moves ++ [move]) ↔
          (∃ byWorker, ActiveMove.shutDown byWorker ∈ moves) ∨
            ∃ byWorker, ActiveMove.shutDown byWorker = move := by
        simp only [List.mem_append, List.mem_singleton, exists_or]
      rw [split, ← induction]
      rcases (system.after moves).perform_cases move with same | turn
      · rw [same]
        refine ⟨Or.inl, ?_⟩
        rintro (shut | ⟨byWorker, rfl⟩)
        · exact shut
        · exact congrArg (fun next => next.object.work.closed) same.symm
      · generalize (system.after moves).perform move = next at turn
        cases turn with
        | enqueued pushed =>
            obtain ⟨_, _, rfl⟩ := WorkQueue.push_eq_ok_iff.mp pushed
            simp
        | takes _ _ given =>
            obtain ⟨_, _, _, rfl⟩ := WorkQueue.next?_eq_some_iff.mp given
            simp
        | comesLate shut => simp [shut]
        | starts | stops | leaves | finishes | panics | closes | takesHandle | joins | discards
          | returns => simp [withStage]

theorem ended_after (ended : system.hasEnded = true) (moves : List (ActiveMove ι)) :
    (system.after moves).hasEnded = true ∧ (system.after moves).trace = system.trace := by
  induction moves using List.reverseRecOn with
  | nil => exact ⟨ended, rfl⟩
  | append_singleton moves move induction =>
      rw [after_concat]
      rcases (system.after moves).perform_cases move with same | turn
      · rw [same]
        exact induction
      · obtain ⟨gone, trace_eq⟩ := turn.ended induction.1
        exact ⟨gone, trace_eq.trans induction.2⟩

/-- A shutdown of the object has come to its end and the worker with it. -/
structure Settled (system : ActiveSystem ι) : Prop where
  ended : system.hasEnded = true
  shut : system.object.work.closed = true
  emptied : system.object.work.queue.items = []
  idle : ∀ shutdown ∈ system.shutdowns, shutdown.stage = .returned ∨ shutdown.stage = .late

/-- What happens to a settled object is that further shutdowns come late. -/
theorem Settled.perform (settled : system.Settled) (move : ActiveMove ι) :
    ∃ shutdowns, system.perform move = { system with shutdowns } ∧
      ({ system with shutdowns } : ActiveSystem ι).Settled := by
  rcases system.perform_cases move with same | turn
  · exact ⟨system.shutdowns, same, settled⟩
  generalize system.perform move = next at turn
  obtain ⟨quiet, gone⟩ := hasEnded_iff.mp settled.ended
  have not_at {worker : ActiveWorker ι} (state : system.object.worker = worker)
      (running : worker ≠ .finished ∧ worker ≠ .dead) : False := by
    rw [state] at gone
    exact gone.elim running.1 running.2
  have idle {place : Nat} {shutdown : Shutdown}
      (found : system.shutdowns[place]? = some shutdown) :=
    settled.idle shutdown (List.mem_of_getElem? found)
  cases turn with
  | enqueued pushed =>
      have isOpen := (WorkQueue.push_eq_ok_iff.mp pushed).1
      exact absurd (isOpen.symm.trans settled.shut) (by simp)
  | starts _ state => exact (not_at state (by simp)).elim
  | takes _ state => exact (not_at state (by simp)).elim
  | stops _ state => exact (not_at state (by simp)).elim
  | finishes _ state => exact (not_at state (by simp)).elim
  | leaves inside => exact absurd (quiet.symm.trans inside) (by simp)
  | panics busy =>
      rcases busy with inside | ⟨item, state⟩
      · exact absurd (quiet.symm.trans inside) (by simp)
      · exact (not_at state (by simp)).elim
  | closes isOpen => exact absurd (isOpen.symm.trans settled.shut) (by simp)
  | @comesLate byWorker shut =>
      refine ⟨_, rfl, settled.ended, shut, settled.emptied, ?_⟩
      intro shutdown member
      rcases List.mem_append.mp member with early | last
      · exact settled.idle shutdown early
      · exact Or.inr (congrArg Shutdown.stage (List.mem_singleton.mp last))
  | takesHandle found | joins found | discards found | returns found =>
      exact absurd (idle found) (by simp)

theorem Settled.after (settled : system.Settled) (moves : List (ActiveMove ι)) :
    ∃ shutdowns, system.after moves = { system with shutdowns } ∧
      ({ system with shutdowns } : ActiveSystem ι).Settled := by
  induction moves using List.reverseRecOn with
  | nil => exact ⟨system.shutdowns, rfl, settled⟩
  | append_singleton moves move induction =>
      obtain ⟨earlier, same, still⟩ := induction
      rw [after_concat, same]
      exact still.perform move

/-! ## Shutdowns return -/

/-- How often a shutdown goes on before it returns, if as many items wait. -/
def remaining (waiting : Nat) : ShutdownStage → Nat
  | .closing => waiting + 3
  | .joining => waiting + 2
  | .discarding => waiting + 1
  | .returned | .late => 0

theorem perform_advance {place : Nat} {shutdown : Shutdown}
    (found : system.shutdowns[place]? = some shutdown) :
    system.perform (.advance place) = system.proceed place shutdown := by
  rw [perform, found]

/-- A shutdown that need not wait for the worker comes nearer to its end. -/
theorem exists_stage_advance {place : Nat} {byWorker : Bool} {stage : ShutdownStage}
    (found : system.shutdowns[place]? = some { byWorker, stage }) (in_time : stage ≠ .late)
    (free : byWorker = true ∨ system.hasEnded = true) :
    ∃ further, (system.perform (.advance place)).shutdowns[place]? =
        some { byWorker, stage := further } ∧
      further ≠ .late ∧
      (byWorker = true ∨ (system.perform (.advance place)).hasEnded = true) ∧
      remaining (system.perform (.advance place)).object.work.size further ≤
        remaining system.object.work.size stage - 1 := by
  have restaged (further : ShutdownStage) :
      (system.withStage place { byWorker, stage } further).shutdowns[place]? =
        some { byWorker, stage := further } := by
    obtain ⟨inside, _⟩ := List.getElem?_eq_some_iff.mp found
    rw [withStage, List.getElem?_set_self inside]
  rw [perform_advance found]
  cases stage with
  | closing =>
      refine ⟨_, restaged _, by split <;> simp, free, ?_⟩
      change remaining system.object.work.size _ ≤ _
      split <;> simp [remaining]
  | joining =>
      have go : (byWorker || system.hasEnded) = true := by rwa [Bool.or_eq_true]
      simp only [proceed, go, if_true]
      exact ⟨.discarding, restaged _, by simp, free, Nat.le_refl _⟩
  | discarding =>
      simp only [proceed]
      cases given : system.object.work.discardOne? with
      | none => exact ⟨.returned, restaged _, by simp, free, Nat.zero_le _⟩
      | some next =>
          obtain ⟨item, work⟩ := next
          obtain ⟨rest, in_front, rfl⟩ := WorkQueue.discardOne?_eq_some_iff.mp given
          refine ⟨.discarding, found, by simp, free, ?_⟩
          simp [remaining, WorkQueue.size, Fifo.size, in_front]
  | returned => exact ⟨.returned, found, by simp, free, Nat.zero_le _⟩
  | late => exact absurd rfl in_time

theorem returned_after_advances {place : Nat} {byWorker : Bool} {stage : ShutdownStage}
    (found : system.shutdowns[place]? = some { byWorker, stage }) (in_time : stage ≠ .late)
    (free : byWorker = true ∨ system.hasEnded = true) {count : Nat}
    (enough : remaining system.object.work.size stage ≤ count) :
    (system.after (List.replicate count (.advance place))).shutdowns[place]? =
      some { byWorker, stage := .returned } := by
  induction count generalizing system stage with
  | zero =>
      cases stage with
      | returned => exact found
      | late => exact absurd rfl in_time
      | closing | joining | discarding => simp [remaining] at enough
  | succ count induction =>
      obtain ⟨further, found_further, further_in_time, still_free, nearer⟩ :=
        exists_stage_advance found in_time free
      exact induction found_further further_in_time still_free (by omega)

/-- The worker of a closed object comes to its end as soon as what it runs does. -/
theorem ended_after_shut (told : Told system.object.worker system.inHook system.trace)
    (shut : system.object.work.closed = true) :
    (system.after [.complete, .step, .complete, .step, .complete]).hasEnded = true := by
  obtain ⟨⟨config, ⟨queue, closed⟩, worker⟩, inHook, joinable, trace, accepted, discarded,
    shutdowns⟩ := system
  simp only at shut told
  subst shut
  cases told with
  | unborn | processing | died | diedStopping => rfl
  | waiting | finished => cases inHook <;> rfl

theorem remaining_le (waiting : Nat) (stage : ShutdownStage) :
    remaining waiting stage ≤ waiting + 3 := by
  cases stage <;> simp [remaining]

/-! ## The life of an active object -/

theorem Told.exists_story {inHook : Bool} {trace : List (ActiveEvent ι)} {item : ι}
    (told : Told (.processing item) inHook trace) :
    ∃ earlier, trace = story (earlier ++ [item]) := by
  cases told with
  | processing earlier => exact ⟨earlier, rfl⟩

theorem Told.trace_of_panic (told : Told system.object.worker system.inHook system.trace)
    {item : ι} (busy : system.object.current? = some item) :
    ∃ earlier, system.trace = story (earlier ++ [item]) ∧
      ∀ later, ((system.perform .panic).after later).trace = system.trace := by
  have crashed : system.perform .panic =
      { system with object := system.object.crash, inHook := false } := by
    rw [ActiveSystem.perform, busy, Option.isSome_some, Bool.or_true, if_pos rfl]
  have gone : (system.perform .panic).hasEnded = true := by
    rw [crashed]
    rfl
  have frozen (later : List (ActiveMove ι)) :
      ((system.perform .panic).after later).trace = system.trace := by
    rw [(ended_after gone later).2, crashed]
  rw [ActiveObject.current?] at busy
  split at busy
  · next current state =>
    cases busy
    obtain ⟨earlier, trace_eq⟩ := (state ▸ told).exists_story
    exact ⟨earlier, trace_eq, frozen⟩
  · cases busy

theorem Attended.late_iff (attended : system.Attended) {place : Nat} {byWorker : Bool}
    {stage : ShutdownStage} (found : system.shutdowns[place]? = some { byWorker, stage }) :
    stage = .late ↔ place ≠ 0 := by
  constructor
  · rintro rfl rfl
    cases attended with
    | running _ none_yet => simp [none_yet] at found
    | closed _ first _ at_stage =>
        rw [first] at found
        cases found
        exact at_stage
  · intro behind
    by_contra in_time
    exact behind (attended.first_of_getElem? found in_time).1

theorem perform_shutDown_of_closed (shut : system.object.work.closed = true) (byWorker : Bool) :
    system.perform (.shutDown byWorker) =
      { system with shutdowns := system.shutdowns ++ [{ byWorker, stage := .late }] } := by
  obtain ⟨⟨config, ⟨queue, closed⟩, worker⟩, inHook, joinable, trace, accepted, discarded,
    shutdowns⟩ := system
  simp only at shut
  subst shut
  rfl

/-- What holds from the moment on at which the shutdown that closed the object has returned. -/
theorem Sound.of_returned (sound : system.Sound capacity) {place : Nat} {byWorker : Bool}
    (found : system.shutdowns[place]? = some { byWorker, stage := .returned }) :
    system.accepted = system.processed ++ system.discarded ∧
      (∀ later, (system.after later).object.work.size = 0 ∧
        (system.after later).object.isRunning = false ∧
        ∀ item, (system.after later).object.enqueue item = .error .shutDown) ∧
      (byWorker = false → system.hasEnded = true ∧
        ∀ later, ∃ shutdowns, system.after later = { system with shutdowns }) := by
  obtain ⟨_, shut, ⟨free, emptied⟩, late, first, others⟩ :=
    sound.attended.first_of_getElem? found (by simp)
  refine ⟨?_, ?_, ?_⟩
  · have books := sound.balanced.accepted_eq
    rw [WorkLedger.waiting, show system.ledger.work.queue.items = [] from emptied,
      List.append_nil] at books
    exact books
  · intro later
    obtain ⟨turns, same⟩ := sound.exists_ledger_after later
    have few : (system.ledger.after turns).waiting.length ≤ _ :=
      WorkLedger.length_waiting_after_le shut turns
    have still_shut : (system.after later).object.work.closed = true :=
      (sound.winding_after shut later).closed
    rw [← same, WorkLedger.waiting, WorkLedger.waiting,
      show system.ledger.work.queue.items = [] from emptied, List.length_nil, Nat.zero_sub] at few
    refine ⟨Nat.le_zero.mp few, ?_, fun item => ?_⟩
    · rw [ActiveObject.isRunning, still_shut, Bool.not_true]
    · rw [ActiveObject.enqueue, WorkQueue.push_of_closed still_shut]
      rfl
  · rintro rfl
    have ended : system.hasEnded = true := free.resolve_left (by simp)
    have settled : system.Settled := by
      refine ⟨ended, shut, emptied, ?_⟩
      rw [first]
      intro shutdown member
      rcases List.mem_cons.mp member with rfl | behind
      · exact Or.inl rfl
      · exact Or.inr (others shutdown behind)
    refine ⟨ended, fun later => ?_⟩
    obtain ⟨shutdowns, same, _⟩ := settled.after later
    exact ⟨shutdowns, same⟩

/-- The worker shows its first hook, items in the order in which they were accepted and its last
hook, as far as it gets, and the last hook only after a shutdown has begun.  Just the first shutdown
closes the object.  It waits for the worker unless it comes from there, and when it has returned
every accepted item has been processed or discarded and the object is out of use. -/
theorem processes_until_shut_down (config : ActiveConfig) (capacity : Capacity)
    (moves : List (ActiveMove ι)) :
    ∀ system, system = (opened config capacity).after moves →
      system.trace <+: story system.processed ++ [.stopped] ∧
      system.processed <+: system.accepted ∧
      (ActiveEvent.stopped ∈ system.trace → ∃ byWorker, ActiveMove.shutDown byWorker ∈ moves) ∧
      (∀ item, system.object.current? = some item →
        ∃ earlier, system.trace = story (earlier ++ [item]) ∧
          ∀ later, ((system.perform .panic).after later).trace = system.trace) ∧
      (∀ place byWorker stage, system.shutdowns[place]? = some { byWorker, stage } →
        (stage = .late ↔ place ≠ 0) ∧
        (stage = .late → system.perform (.advance place) = system) ∧
        (stage ≠ .late → byWorker = true ∨ system.hasEnded = true →
          (system.after (List.replicate (system.object.work.size + 3) (.advance place))).shutdowns[
            place]? = some { byWorker, stage := .returned }) ∧
        (stage = .returned →
          system.accepted = system.processed ++ system.discarded ∧
          (∀ later, (system.after later).object.work.size = 0 ∧
            (system.after later).object.isRunning = false ∧
            ∀ item, (system.after later).object.enqueue item = .error .shutDown) ∧
          (byWorker = false → system.hasEnded = true ∧
            ∀ later, ∃ shutdowns, system.after later = { system with shutdowns }))) ∧
      (system.object.isRunning = false →
        (∀ byWorker, system.perform (.shutDown byWorker) =
          { system with shutdowns := system.shutdowns ++ [{ byWorker, stage := .late }] }) ∧
        (∀ later, (system.after later).processed = system.processed) ∧
        (system.after [.complete, .step, .complete, .step, .complete]).hasEnded = true) := by
  rintro system rfl
  have sound : ((opened config capacity : ActiveSystem ι).after moves).Sound capacity :=
    (sound_opened config capacity).after moves
  have new_open : (opened config capacity : ActiveSystem ι).object.work.closed = false := rfl
  have closed_iff := closed_after_iff new_open moves
  generalize (opened config capacity).after moves = system at sound closed_iff ⊢
  have prefix_accepted : system.processed <+: system.accepted := by
    refine ⟨system.discarded ++ system.ledger.waiting, ?_⟩
    rw [← List.append_assoc]
    exact sound.balanced.accepted_eq.symm
  refine ⟨sound.told.isPrefix, prefix_accepted,
    fun stopped => closed_iff.mp (sound.closed_of_stopped stopped), ?_, ?_, ?_⟩
  · intro item busy
    exact sound.told.trace_of_panic busy
  · intro place byWorker stage found
    refine ⟨sound.attended.late_iff found, ?_, ?_, ?_⟩
    · rintro rfl
      exact perform_advance found
    · intro in_time free
      exact returned_after_advances found in_time free (remaining_le _ _)
    · rintro rfl
      exact sound.of_returned found
  · intro stopped
    have shut : system.object.work.closed = true := by
      rwa [ActiveObject.isRunning, Bool.not_eq_false'] at stopped
    exact ⟨perform_shutDown_of_closed shut, fun later => (sound.winding_after shut later).taken_eq,
      ended_after_shut sound.told shut⟩

/-- While the first of three items is processed another thread shuts the object down, and a fourth
item comes too late.  The first item panics, and the shutdown goes on to its end. -/
def panickedSystem : ActiveSystem Nat :=
  (opened {} (.bounded 2)).after
    [.enqueue 1, .enqueue 2, .step, .complete, .step, .enqueue 3, .shutDown false, .enqueue 4,
      .advance 0, .advance 0, .panic, .advance 0, .advance 0, .advance 0, .advance 0]

/-- The first of two items has shut the object down. -/
def ownSystem : ActiveSystem Nat :=
  (opened {} .unbounded).after
    [.enqueue 1, .enqueue 2, .step, .complete, .step, .shutDown true, .shutDown false]

theorem panicked_object_is_shut_down :
    panickedSystem.trace = story [1] ∧
    panickedSystem.accepted = [1] ++ [2, 3] ∧ panickedSystem.discarded = [2, 3] ∧
    (∀ later, ∃ shutdowns, panickedSystem.after later = { panickedSystem with shutdowns }) ∧
    ownSystem.shutdowns = [⟨true, .closing⟩, ⟨false, .late⟩] ∧
    ownSystem.perform (.advance 1) = ownSystem ∧
    (ownSystem.after (List.replicate 4 (.advance 0))).shutdowns[0]? = some ⟨true, .returned⟩ ∧
    ∀ later, (ownSystem.after later).processed = [1] := by
  obtain ⟨_, _, _, _, panicked, _⟩ :=
    processes_until_shut_down {} (.bounded 2) _ panickedSystem rfl
  obtain ⟨_, _, _, _, own, own_closed⟩ := processes_until_shut_down {} .unbounded _ ownSystem rfl
  have returned : panickedSystem.shutdowns[0]? = some ⟨false, .returned⟩ := by decide +kernel
  obtain ⟨_, _, _, settles⟩ := panicked 0 false .returned returned
  obtain ⟨books, _, frozen⟩ := settles rfl
  obtain ⟨_, _, goes_on, _⟩ := own 0 true .closing (by decide +kernel)
  obtain ⟨_, stays_late, _, _⟩ := own 1 false .late (by decide +kernel)
  obtain ⟨_, given_nothing, _⟩ := own_closed (by decide +kernel)
  exact ⟨rfl, books, rfl, (frozen rfl).2, rfl, stays_late rfl, goes_on (by simp) (Or.inl rfl),
    given_nothing⟩

end ActiveSystem

end Reactor

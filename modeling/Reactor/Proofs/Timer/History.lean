import Reactor.Timer.Basic
import Mathlib.Data.List.Induction

/-!
# Histories of timers

A history lists what has happened to the timers of a manager, the oldest first.  Which schedule of a
timer is in force, when that timer fired and what has been charged to it can all be read off the
history alone, without a look at the manager.
-/

namespace Reactor

/-- Something that happens to the timers of a manager. -/
inductive TimerEvent (κ : Type) where
  /-- A timer has been scheduled and took a number. -/
  | scheduled (id : TimerId) (mode : TimerMode) (ticks : Ticks) (serial : UInt32) (callback : κ)
  /-- A timer took a number and found no room in the queue. -/
  | turnedAway (id : TimerId)
  /-- A timer has been cancelled. -/
  | cancelled (id : TimerId)
  /-- A timer has been freed. -/
  | freed (id : TimerId)
  /-- Ticks that the hardware counted have been charged to the timers that wait. -/
  | charged (elapsed : Ticks)
  /-- A timer has fired, and its callback has been collected. -/
  | collected (expiry : Expiry κ)
  /-- A pass over the due timers has ended. -/
  | passed
  /-- A collected callback has been handed to the dispatcher. -/
  | handedOver (expiry : Expiry κ)
deriving DecidableEq

/-- An event and the time at which it happened. -/
structure Entry (κ : Type) where
  /-- The time in ticks. -/
  time : Nat
  /-- What happened. -/
  event : TimerEvent κ
deriving DecidableEq

variable {κ : Type}

namespace Entry

/-- Whether an entry ends the schedule of a timer that was in force until then. -/
def retires (id : TimerId) (entry : Entry κ) : Bool :=
  match entry.event with
  | .scheduled other _ _ _ _ | .turnedAway other | .cancelled other | .freed other => other == id
  | _ => false

/-- Whether a schedule number has been given out. -/
def takesNumber (entry : Entry κ) : Bool :=
  match entry.event with
  | .scheduled .. | .turnedAway _ => true
  | _ => false

/-- The time at which a timer is collected by an entry. -/
def collects? (id : TimerId) (entry : Entry κ) : Option Nat :=
  match entry.event with
  | .collected expiry => if expiry.id = id then some entry.time else none
  | _ => none

/-- The ticks charged since a timer was scheduled or fired, after one more entry. -/
def spend (id : TimerId) (spent : Nat) (entry : Entry κ) : Nat :=
  match entry.event with
  | .charged elapsed => spent + elapsed.count
  | .collected expiry => if expiry.id = id then 0 else spent
  | _ => spent

end Entry

/-- How many schedule numbers have been given out. -/
def issued (history : List (Entry κ)) : Nat := history.countP Entry.takesNumber

/-- The times at which a timer was collected. -/
def collections (id : TimerId) (history : List (Entry κ)) : List Nat :=
  history.filterMap (Entry.collects? id)

/-- The ticks charged since a timer was collected last. -/
def spentSince (id : TimerId) (history : List (Entry κ)) : Nat :=
  history.foldl (Entry.spend id) 0

/-- Whether an expiry belongs to the schedule of its timer that is in force. -/
def InForce (history : List (Entry κ)) (expiry : Expiry κ) : Prop :=
  ∃ before time mode ticks reign,
    history = before ++
      ⟨time, .scheduled expiry.id mode ticks expiry.serial expiry.callback⟩ :: reign ∧
    ∀ entry ∈ reign, entry.retires expiry.id = false

/-- The times up to `now` at which a schedule made at `start` is due. -/
def dueTimes (mode : TimerMode) (start ticks now : Nat) : List Nat :=
  match mode with
  | .oneshot => if start + ticks ≤ now then [start + ticks] else []
  | .periodic => (List.range ((now - start) / ticks)).map fun round => start + (round + 1) * ticks

/-! ## The schedule in force -/

/-- A schedule in force and what has become of it so far. -/
structure Plan (κ : Type) where
  /-- When it was made. -/
  start : Nat
  /-- What its timer does when the ticks have passed. -/
  mode : TimerMode
  /-- How long its timer waits. -/
  ticks : Ticks
  /-- Its number. -/
  serial : UInt32
  /-- What it runs. -/
  callback : κ
  /-- When its timer has fired. -/
  hits : List Nat := []
  /-- What has been charged since. -/
  spent : Nat := 0

namespace Plan

/-- What a timer under this plan holds. -/
def schedule (plan : Plan κ) : Schedule κ := { serial := plan.serial, callback := plan.callback }

/-- The plan after some entries that leave it in force. -/
def after (plan : Plan κ) (id : TimerId) (entries : List (Entry κ)) : Plan κ :=
  { plan with
    hits := plan.hits ++ collections id entries
    spent := entries.foldl (Entry.spend id) plan.spent }

end Plan

/-- The plan that an entry brings into force. -/
def Entry.opens? (entry : Entry κ) : Option (Plan κ) :=
  match entry.event with
  | .scheduled _ mode ticks serial callback =>
      some { start := entry.time, mode, ticks, serial, callback }
  | _ => none

/-- The plan of a timer after one more entry. -/
def Entry.follow (id : TimerId) (plan : Option (Plan κ)) (entry : Entry κ) : Option (Plan κ) :=
  if entry.retires id then entry.opens? else plan.map (·.after id [entry])

/-- The plan of a timer that is in force at the end of a history. -/
def plan? (id : TimerId) (history : List (Entry κ)) : Option (Plan κ) :=
  history.foldl (Entry.follow id) none

variable {id : TimerId} {history more : List (Entry κ)} {plan : Plan κ} {entry : Entry κ}

theorem plan?_append :
    plan? id (history ++ more) = more.foldl (Entry.follow id) (plan? id history) :=
  List.foldl_append

theorem plan?_concat : plan? id (history ++ [entry]) = (plan? id history).elim
    (if entry.retires id then entry.opens? else none)
    fun plan => if entry.retires id then entry.opens? else some (plan.after id [entry]) := by
  rw [plan?_append, List.foldl_cons, List.foldl_nil, Entry.follow]
  cases plan? id history <;> split <;> rfl

theorem Plan.after_cons :
    plan.after id (entry :: more) = (plan.after id [entry]).after id more := by
  simp [after, collections, List.filterMap_cons]
  split <;> simp

/-- Entries that retire nothing of a timer are added to its plan. -/
theorem foldl_follow_of_quiet (quiet : ∀ entry ∈ more, entry.retires id = false) :
    more.foldl (Entry.follow id) (some plan) = some (plan.after id more) := by
  induction more generalizing plan with
  | nil => simp [Plan.after, collections]
  | cons entry more induction =>
      rw [List.foldl_cons, Entry.follow, if_neg (by simp [quiet entry]), Option.map_some,
        induction fun entry member => quiet entry (List.mem_cons_of_mem _ member),
        ← Plan.after_cons]

/-- A timer without a plan has none until it is scheduled. -/
theorem foldl_follow_none (none_opens : ∀ entry ∈ more, entry.retires id = true →
    entry.opens? = none) : more.foldl (Entry.follow id) none = none := by
  induction more with
  | nil => rfl
  | cons entry more induction =>
      have opens := none_opens entry (List.mem_cons_self ..)
      have stays : Entry.follow id none entry = none := by
        rw [Entry.follow]
        split
        · next retires => exact opens retires
        · rfl
      rw [List.foldl_cons, stays]
      exact induction fun entry member => none_opens entry (List.mem_cons_of_mem _ member)

/-- Entries that retire nothing of a timer leave its plan in force. -/
theorem plan?_append_of_quiet (quiet : ∀ entry ∈ more, entry.retires id = false) :
    plan? id (history ++ more) = (plan? id history).map (·.after id more) := by
  rw [plan?_append]
  cases plan? id history with
  | none =>
      apply foldl_follow_none
      intro entry member retires
      rw [quiet entry member] at retires
      cases retires
  | some plan => exact foldl_follow_of_quiet quiet

/-- Entries that neither retire nor collect a timer nor charge anything leave its plan as it is. -/
theorem plan?_concat_of_ignored (quiet : entry.retires id = false)
    (uncollected : entry.collects? id = none) (free : ∀ spent, entry.spend id spent = spent) :
    plan? id (history ++ [entry]) = plan? id history := by
  have unchanged : ∀ plan : Plan κ, plan.after id [entry] = plan := by
    intro plan
    simp [Plan.after, collections, uncollected, free]
  rw [plan?_append_of_quiet (by simpa using quiet)]
  simp [unchanged]

/-- An entry that retires the plan of a timer may open another. -/
theorem plan?_concat_of_retires (retires : entry.retires id = true) :
    plan? id (history ++ [entry]) = entry.opens? := by
  rw [plan?_concat]
  cases plan? id history <;> simp [retires]

/-- A schedule that nothing has retired since is the plan. -/
theorem plan?_of_reign {before reign : List (Entry κ)} {time : Nat} {mode : TimerMode}
    {ticks : Ticks} {serial : UInt32} {callback : κ}
    (quiet : ∀ entry ∈ reign, entry.retires id = false) :
    plan? id (before ++ ⟨time, .scheduled id mode ticks serial callback⟩ :: reign) =
      some { start := time, mode, ticks, serial, callback
             hits := collections id reign, spent := spentSince id reign } := by
  have opened : Entry.follow id (plan? id before)
      ⟨time, .scheduled id mode ticks serial callback⟩ =
        some { start := time, mode, ticks, serial, callback } := by
    simp [Entry.follow, Entry.retires, Entry.opens?]
  rw [plan?_append, List.foldl_cons, opened, foldl_follow_of_quiet quiet]
  simp [Plan.after, spentSince]

/-- A plan comes from a schedule that nothing has retired since. -/
theorem reign_of_plan? (planned : plan? id history = some plan) :
    ∃ before reign,
      history = before ++
        ⟨plan.start, .scheduled id plan.mode plan.ticks plan.serial plan.callback⟩ :: reign ∧
      ∀ entry ∈ reign, entry.retires id = false := by
  induction history using List.reverseRecOn generalizing plan with
  | nil => cases planned
  | append_singleton history entry induction =>
      by_cases retires : entry.retires id = true
      · have opened : entry.opens? = some plan := by
          rw [← planned, plan?_concat_of_retires retires]
        obtain ⟨time, event⟩ := entry
        cases event
        case scheduled other mode ticks serial callback =>
          simp only [Entry.opens?, Option.some.injEq] at opened
          subst opened
          simp only [Entry.retires, beq_iff_eq] at retires
          subst retires
          exact ⟨history, [], rfl, by simp⟩
        all_goals cases opened
      · cases before_planned : plan? id history with
        | none => simp [plan?_concat, before_planned, retires] at planned
        | some before_plan =>
            simp only [plan?_concat, before_planned, Option.elim_some, retires, Bool.false_eq_true,
              if_false, Option.some.injEq] at planned
            subst planned
            obtain ⟨before, reign, split_at, quiet⟩ := induction before_planned
            refine ⟨before, reign ++ [entry], by rw [split_at]; simp [Plan.after], ?_⟩
            intro other member
            rcases List.mem_append.mp member with earlier | last
            · exact quiet other earlier
            · rw [List.mem_singleton.mp last]
              exact Bool.eq_false_iff.mpr retires

/-- What belongs to the schedule in force is what the plan says. -/
theorem inForce_iff_plan? {expiry : Expiry κ} :
    InForce history expiry ↔
      (plan? expiry.id history).map Plan.schedule = some ⟨expiry.serial, expiry.callback⟩ := by
  constructor
  · rintro ⟨before, time, mode, ticks, reign, rfl, quiet⟩
    rw [plan?_of_reign quiet]
    rfl
  · intro planned
    obtain ⟨plan, in_force, same⟩ := Option.map_eq_some_iff.mp planned
    obtain ⟨before, reign, split_at, quiet⟩ := reign_of_plan? in_force
    rw [Plan.schedule, Schedule.mk.injEq] at same
    rw [same.1, same.2] at split_at
    exact ⟨before, plan.start, plan.mode, plan.ticks, reign, split_at, quiet⟩

/-! ## Splitting a history -/

/-- An entry of a longer history is one of the entries before or the last one. -/
theorem concat_eq_append_cons_iff {last : Entry κ} {before after : List (Entry κ)} :
    history ++ [last] = before ++ entry :: after ↔
      (before = history ∧ entry = last ∧ after = []) ∨
        ∃ rest, after = rest ++ [last] ∧ history = before ++ entry :: rest := by
  constructor
  · intro same
    rcases List.eq_nil_or_concat after with rfl | ⟨rest, final, rfl⟩
    · left
      obtain ⟨same_before, same_last⟩ := List.append_inj' same rfl
      exact ⟨same_before.symm, (List.cons.inj same_last).1.symm, rfl⟩
    · right
      have regrouped : history ++ [last] = (before ++ entry :: rest) ++ [final] := by
        rw [same]
        simp
      obtain ⟨same_history, same_last⟩ := List.append_inj' regrouped rfl
      rw [(List.cons.inj same_last).1]
      exact ⟨rest, by simp, same_history⟩
  · rintro (⟨rfl, rfl, rfl⟩ | ⟨rest, rfl, rfl⟩)
    · rfl
    · simp

/-- Whether something holds of each entry and the history before it. -/
def AtEach (holds : List (Entry κ) → Entry κ → Prop) (history : List (Entry κ)) : Prop :=
  ∀ before entry after, history = before ++ entry :: after → holds before entry

variable {holds : List (Entry κ) → Entry κ → Prop}

theorem AtEach.nil : AtEach holds [] := by
  intro before entry after split_at
  simp at split_at

theorem AtEach.concat (each : AtEach holds history) (last : holds history entry) :
    AtEach holds (history ++ [entry]) := by
  intro before other after split_at
  rcases concat_eq_append_cons_iff.mp split_at with ⟨rfl, rfl, _⟩ | ⟨rest, _, earlier⟩
  · exact last
  · exact each before other rest earlier

theorem AtEach.append (each : AtEach holds history)
    (rest : AtEach (fun before entry => holds (history ++ before) entry) more) :
    AtEach holds (history ++ more) := by
  induction more using List.reverseRecOn with
  | nil => rwa [List.append_nil]
  | append_singleton more entry induction =>
      rw [← List.append_assoc]
      apply AtEach.concat
      · apply induction
        intro before other after split_at
        exact rest before other (after ++ [entry]) (by rw [split_at]; simp)
      · exact rest more entry [] rfl

/-- Entries of which it holds whatever came before. -/
theorem AtEach.append_of_forall (each : AtEach holds history)
    (rest : ∀ entry ∈ more, ∀ before, holds before entry) : AtEach holds (history ++ more) := by
  apply each.append
  rintro before entry after rfl
  exact rest entry (by simp) _

end Reactor

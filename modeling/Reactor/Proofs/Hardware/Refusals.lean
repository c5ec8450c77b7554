import Reactor.Hardware.WallClock
import Reactor.Proofs.Hardware.Advance
import Mathlib.Data.List.Induction

/-!
# Refused calls of a hardware timer

A hardware timer cannot be armed for no time at all.  A timer on a wall clock looks at the period
before it touches anything, so a refused call leaves it as it was.  A simulated timer stores the
period before it looks at it: a refused call makes it forget the period it had, and if it is counting
it goes on towards a period that it has passed already.
-/

namespace Reactor

open Hardware

/-- A timer that takes no period but zero for an invalid one. -/
def Hardware.RejectsZeroOnly (H : Type) [HardwareTimer H] : Prop :=
  ∀ (timer : H) (period : Ticks), 0 < period.count →
    (HardwareTimer.restart timer period).2 ≠ .error .invalidPeriod

theorem WallClockTimer.rejectsZeroOnly : RejectsZeroOnly WallClockTimer := by
  intro timer period positive
  have nonzero : period.isZero = false := by
    rw [Ticks.isZero, beq_eq_false_iff_ne]
    omega
  simp only [HardwareTimer.restart, restart, nonzero, Bool.false_eq_true, if_false]
  split <;> simp

namespace SimulatedTimer

variable {timer left : SimulatedTimer} {period ticks : Ticks} {fault : Fault}

/-- What can be done to a simulated timer, also by the callback of an expiry. -/
inductive Act where
  /-- Arms it with the last period. -/
  | start
  /-- Stops it. -/
  | stop
  /-- Arms it with a new period. -/
  | restart (period : Ticks)
  /-- Lets ticks pass, up to the next expiry. -/
  | pass (ticks : Ticks)

/-- Whether an act arms the timer. -/
def Act.arms : Act → Bool
  | start | restart _ => true
  | stop | pass _ => false

/-- The timer after an act. -/
def perform (timer : SimulatedTimer) : Act → SimulatedTimer
  | .start => timer.start.1
  | .stop => timer.stop.1
  | .restart period => (timer.restart period).1
  | .pass ticks =>
      match timer.pass ticks with
      | .done moved | .expiry moved _ => moved

/-- A timer to which some acts have been done since it was made. -/
def run (resolution : Duration) (acts : List Act) : SimulatedTimer :=
  acts.foldl perform { resolution }

theorem start_of_zero (zero : timer.period = .zero) :
    timer.start = (timer, .error .invalidPeriod) := by
  rw [start, if_pos (Ticks.isZero_iff.mpr zero)]

theorem start_of_pos (positive : timer.period ≠ .zero) :
    timer.start = ({ timer with
      elapsed := .zero, phase := .armed, restarts := timer.restarts + 1 }, .ok ()) := by
  rw [start, if_neg (mt Ticks.isZero_iff.mp positive)]

/-- A timer that cannot start stays as it is. -/
theorem of_start_error (failed : timer.start = (left, .error fault)) :
    left = timer ∧ fault = .invalidPeriod ∧ timer.period = .zero := by
  by_cases zero : timer.period = .zero
  · rw [start_of_zero zero] at failed
    cases failed
    exact ⟨rfl, rfl, zero⟩
  · rw [start_of_pos zero] at failed
    cases failed

/-- A period is refused because it is zero, and the timer forgets the one it had. -/
theorem of_restart_error (failed : timer.restart period = (left, .error fault)) :
    period = .zero ∧ fault = .invalidPeriod ∧ left = { timer with period := .zero } := by
  obtain ⟨rfl, rfl, zero⟩ := of_start_error failed
  have same : period = .zero := zero
  rw [same]
  exact ⟨rfl, rfl, rfl⟩

theorem rejectsZeroOnly : RejectsZeroOnly SimulatedTimer := by
  intro timer period positive refused
  have failed : timer.restart period = ((timer.restart period).1, .error .invalidPeriod) :=
    Prod.ext rfl refused
  rw [(of_restart_error failed).1] at positive
  exact absurd positive (Nat.lt_irrefl 0)

/-- A timer that counts towards no period expires as soon as the clock is touched, and all ticks are
left. -/
theorem pass_of_zero (armed : timer.phase = .armed) (zero : timer.period = .zero) :
    timer.pass ticks = .expiry { timer with elapsed := .zero, phase := .expired } ticks := by
  have untouched : ticks - (timer.period - timer.elapsed) = ticks := by
    apply Ticks.ext
    rw [Ticks.count_sub, Ticks.count_sub, zero, Ticks.count_zero]
    omega
  rw [pass_of_le armed (by rw [zero]; exact Nat.zero_le _), untouched, zero]

/-- A timer that counts has not reached its period, or has forgotten it, which takes a refusal. -/
def ShortUnless (refused : Prop) (timer : SimulatedTimer) : Prop :=
  timer.phase = .armed → timer.elapsed < timer.period ∨ timer.period = .zero ∧ refused

theorem short_start (timer : SimulatedTimer) (refused : Prop)
    (before : timer.period = .zero → ShortUnless refused timer) :
    ShortUnless refused timer.start.1 := by
  by_cases zero : timer.period = .zero
  · rw [start_of_zero zero]
    exact before zero
  · rw [start_of_pos zero]
    intro _
    left
    rw [Ticks.lt_iff]
    exact Nat.pos_of_ne_zero fun none => zero (Ticks.ext none)

theorem short_perform {refused : Prop} (short : ShortUnless refused timer) (act : Act) :
    ShortUnless (refused ∨ act = .restart .zero) (timer.perform act) := by
  have weaker : ∀ {after : SimulatedTimer}, ShortUnless refused after →
      ShortUnless (refused ∨ act = .restart .zero) after := by
    intro after short armed
    exact (short armed).imp_right fun forgot => ⟨forgot.1, Or.inl forgot.2⟩
  cases act with
  | start => exact weaker (short_start timer refused fun _ => short)
  | stop =>
      apply weaker
      intro armed
      rw [perform, stop] at armed ⊢
      split at armed
      · cases armed
      · next idle => exact absurd armed idle
  | restart period =>
      -- The period is set before it is checked, so a refused one stays.
      apply short_start
      intro zero _
      have same : period = .zero := zero
      exact Or.inr ⟨zero, Or.inr (by rw [same])⟩
  | pass ticks =>
      apply weaker
      intro armed
      rw [perform] at armed ⊢
      split at armed
      · next moved passed =>
          rcases of_pass_done passed with ⟨_, _, _, _, less⟩ | ⟨idle, same⟩
          · exact Or.inl less
          · rw [same] at armed
            exact absurd armed idle
      · next moved left passed =>
          rw [(of_pass_expiry passed).2.1] at armed
          cases armed

theorem short_run (resolution : Duration) (acts : List Act) :
    ShortUnless (.restart .zero ∈ acts) (run resolution acts) := by
  induction acts using List.reverseRecOn with
  | nil => exact fun armed => nomatch armed
  | append_singleton acts act induction =>
      intro armed
      have after : run resolution (acts ++ [act]) = (run resolution acts).perform act := by
        rw [run, List.foldl_append]
        rfl
      rw [after] at armed ⊢
      refine (short_perform induction act armed).imp_right fun forgot => ⟨forgot.1, ?_⟩
      rw [List.mem_append, List.mem_singleton]
      exact forgot.2.imp_right Eq.symm

/-- A timer that counts has not reached its period. -/
def Short (timer : SimulatedTimer) : Prop := timer.phase = .armed → timer.elapsed < timer.period

theorem Short.perform (short : timer.Short) {act : Act} (accepted : act ≠ .restart .zero) :
    (timer.perform act).Short := by
  have shortUnless : ShortUnless False timer := fun armed => Or.inl (short armed)
  intro armed
  refine (short_perform shortUnless act armed).resolve_right ?_
  rintro ⟨_, never | refused⟩
  · exact never
  · exact accepted refused

/-- An expiry takes at least one tick of a timer that has not reached its period. -/
theorem Short.lt_of_pass {moved : SimulatedTimer} {rest : Ticks} (short : timer.Short)
    (passed : timer.pass ticks = .expiry moved rest) : rest < ticks := by
  have armed : timer.phase = .armed := by
    by_contra idle
    rw [pass_of_not_armed idle] at passed
    cases passed
  have less := short armed
  obtain ⟨_, _, _, enough, left_over⟩ := of_pass_expiry passed
  rw [Ticks.lt_iff] at less ⊢
  omega

/-- A call of `start` that fails leaves the timer as it was, and so does any call that fails of a
timer on a wall clock.  A call of `restart` that fails makes a simulated timer forget its period, and
nothing else: the next period makes up for it, but a timer that was counting expires before any
tick has passed.  As long as no period has been refused, a timer that counts has not reached its
period, and every expiry takes at least one tick. -/
theorem refused_restart_forgets_period (resolution : Duration) (acts : List Act)
    (timer : SimulatedTimer) (reached : timer = run resolution acts) :
    (∀ left fault, timer.start = (left, .error fault) → left = timer) ∧
    (∀ period left fault, timer.restart period = (left, .error fault) →
      period = .zero ∧ fault = .invalidPeriod ∧ left = { timer with period := .zero } ∧
      (∀ next, left.restart next = timer.restart next) ∧
      (timer.phase = .armed → ∀ ticks,
        left.pass ticks = .expiry { left with elapsed := .zero, phase := .expired } ticks)) ∧
    (timer.phase = .armed →
      timer.elapsed < timer.period ∨ timer.period = .zero ∧ .restart .zero ∈ acts) ∧
    (.restart .zero ∉ acts → ∀ ticks moved rest, timer.pass ticks = .expiry moved rest →
      rest < ticks) ∧
    ∀ (clock left : WallClockTimer) (fault : Fault),
      (clock.start = (left, .error fault) → left = clock) ∧
      ∀ period, clock.restart period = (left, .error fault) → left = clock := by
  have short := short_run resolution acts
  rw [← reached] at short
  refine ⟨fun left fault failed => (of_start_error failed).1, ?_, short, ?_, ?_⟩
  · intro period left fault failed
    obtain ⟨zero, invalid, rfl⟩ := of_restart_error failed
    exact ⟨zero, invalid, rfl, fun next => rfl, fun armed ticks => pass_of_zero armed rfl⟩
  · intro none_refused ticks moved rest passed
    have still_short : timer.Short := fun armed =>
      (short armed).resolve_right fun forgot => none_refused forgot.2
    exact still_short.lt_of_pass passed
  · intro clock left fault
    exact ⟨WallClockTimer.restart_of_error, fun period => WallClockTimer.restart_of_error⟩

/-- Armed for ten ticks, of which three have passed. -/
def countingTimer : SimulatedTimer :=
  run .microsecond [.restart (.clamp 10), .pass (.clamp 3)]

/-- No period has been refused yet, so eight ticks are enough for an expiry and one of them is left;
a refusal then costs the timer the ticks that it has counted. -/
theorem counting_timer_takes_ticks :
    countingTimer = run .microsecond [.restart (.clamp 10), .pass (.clamp 3)] ∧
    countingTimer.elapsed < countingTimer.period ∧
    (∃ moved, countingTimer.pass (.clamp 8) = .expiry moved (.clamp 1) ∧
      Ticks.clamp 1 < Ticks.clamp 8) ∧
    ∃ left, countingTimer.restart .zero = (left, .error .invalidPeriod) ∧
      left.pass (.clamp 8) =
        .expiry { left with elapsed := .zero, phase := .expired } (.clamp 8) := by
  obtain ⟨_, refused, short, takes_ticks, _⟩ :=
    refused_restart_forgets_period .microsecond [.restart (.clamp 10), .pass (.clamp 3)]
      countingTimer rfl
  have expires : countingTimer.pass (.clamp 8) = .expiry _ (.clamp 1) := rfl
  have fails : countingTimer.restart .zero = (_, .error .invalidPeriod) := rfl
  obtain ⟨_, _, _, _, at_once⟩ := refused _ _ _ fails
  refine ⟨rfl, (short rfl).resolve_right fun forgot => ?_, ⟨_, expires,
    takes_ticks (fun refused => ?_) _ _ _ expires⟩, _, fails, at_once rfl _⟩
  · exact absurd forgot.1 (by decide)
  · rcases refused with _ | ⟨_, _ | ⟨_, ⟨⟩⟩⟩

/-- A period of zero is refused, and yet the timer counts towards it: it has passed it already, does
not start any more, and expires when no tick passes. -/
theorem refused_restart_changes_timer :
    ∃ left fault, countingTimer.restart .zero = (left, .error fault) ∧
      countingTimer.armedPeriod? = some (.clamp 10) ∧ left.armedPeriod? = some .zero ∧
      left.elapsed = .clamp 3 ∧
      countingTimer.start.2 = .ok () ∧ left.start.2 = .error .invalidPeriod ∧
      (∃ moved, countingTimer.pass .zero = .done moved ∧ moved = countingTimer) ∧
      ∃ moved, left.pass .zero = .expiry moved .zero ∧ moved.elapsed = .zero :=
  ⟨_, _, rfl, rfl, rfl, rfl, rfl, rfl, ⟨_, rfl, rfl⟩, _, rfl, rfl⟩

end SimulatedTimer

end Reactor

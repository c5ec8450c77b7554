/-!
# Tick counts

Time is measured in whole hardware ticks.  A count has 64 bits; subtraction stops at zero and
addition stops at the largest count, so no operation ever wraps around.
-/

namespace Reactor

/-- A number of hardware ticks that fits into 64 bits. -/
@[ext]
structure Ticks where
  /-- The count itself. -/
  count : Nat
  /-- Counts have 64 bits. -/
  count_lt : count < 1 <<< 64 := by omega
deriving DecidableEq

namespace Ticks

/-- No time at all. -/
def zero : Ticks := ⟨0, by omega⟩

/-- The longest span that can be counted. -/
def max : Ticks := ⟨(1 <<< 64) - 1, by omega⟩

instance : Inhabited Ticks := ⟨zero⟩

/-- The count nearest to a natural number: anything beyond 64 bits becomes `max`. -/
def clamp (n : Nat) : Ticks :=
  if fits : n < 1 <<< 64 then ⟨n, fits⟩ else max

instance : LE Ticks := ⟨fun left right => left.count ≤ right.count⟩
instance : LT Ticks := ⟨fun left right => left.count < right.count⟩

instance (left right : Ticks) : Decidable (left ≤ right) :=
  inferInstanceAs (Decidable (left.count ≤ right.count))

instance (left right : Ticks) : Decidable (left < right) :=
  inferInstanceAs (Decidable (left.count < right.count))

instance : Ord Ticks := ⟨fun left right => compare left.count right.count⟩

/-- What is left of a span after part of it has passed; never less than nothing. -/
def sub (whole part : Ticks) : Ticks :=
  ⟨whole.count - part.count, Nat.lt_of_le_of_lt (Nat.sub_le _ _) whole.count_lt⟩

/-- Two spans one after the other, at most `max`. -/
def add (first second : Ticks) : Ticks := clamp (first.count + second.count)

instance : Sub Ticks := ⟨sub⟩
instance : Add Ticks := ⟨add⟩

/-- Whether the span is empty. -/
def isZero (ticks : Ticks) : Bool := ticks.count == 0

/-- The written form, a number followed by its unit. -/
def text (ticks : Ticks) : String := s!"{ticks.count}ticks"

theorem le_iff {left right : Ticks} : left ≤ right ↔ left.count ≤ right.count := Iff.rfl

theorem lt_iff {left right : Ticks} : left < right ↔ left.count < right.count := Iff.rfl

@[simp]
theorem count_zero : zero.count = 0 := rfl

@[simp]
theorem count_sub (whole part : Ticks) : (whole - part).count = whole.count - part.count := rfl

@[simp]
theorem count_clamp (n : Nat) : (clamp n).count = min n ((1 <<< 64) - 1) := by
  by_cases fits : n < 1 <<< 64
  · simp only [clamp, fits, dite_true]
    omega
  · simp only [clamp, fits, dite_false, max]
    omega

theorem count_add (first second : Ticks) :
    (first + second).count = min (first.count + second.count) ((1 <<< 64) - 1) :=
  count_clamp _

theorem isZero_iff {ticks : Ticks} : ticks.isZero = true ↔ ticks = zero := by
  simp [isZero, Ticks.ext_iff]

end Ticks

end Reactor

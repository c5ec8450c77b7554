/-!
# Signals

A signal is a sixteen-bit number that says what kind an event is.
-/

namespace Reactor

/-- The number of a kind of event. -/
@[ext]
structure Signal where
  /-- The number itself. -/
  raw : UInt16
deriving DecidableEq, Inhabited

namespace Signal

instance : Ord Signal := ⟨fun left right => compare left.raw.toNat right.raw.toNat⟩

/-- A hexadecimal digit in lower case. -/
def hexDigit (n : Nat) : Char := Nat.digitChar (n % 16)

/-- The written form, four hexadecimal digits in brackets. -/
def text (signal : Signal) : String :=
  let n := signal.raw.toNat
  let digits := String.ofList
    [hexDigit (n / 4096), hexDigit (n / 256), hexDigit (n / 16), hexDigit n]
  s!"SIG(0x{digits})"

end Signal

end Reactor

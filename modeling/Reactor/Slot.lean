/-!
# Where callables are kept

A callable is kept on the heap, where any size fits, or in an inline slot of a fixed number of
words, where it must fit in size and alignment.
-/

namespace Reactor

/-- Bytes in a machine word. -/
def wordBytes : Nat := 8

/-- The size and alignment of a callable. -/
structure Footprint where
  /-- Size in bytes. -/
  bytes : Nat
  /-- Alignment in bytes. -/
  align : Nat := 1
deriving DecidableEq

/-- The footprint of a callable of whole words. -/
def Footprint.ofWords (words : Nat) : Footprint := { bytes := words * wordBytes, align := wordBytes }

/-- Why a callable does not go into an inline slot. -/
inductive Misfit where
  /-- It is larger than the slot. -/
  | size (bytes slot : Nat)
  /-- It needs a coarser alignment than a word. -/
  | alignment (align : Nat)
deriving DecidableEq

/-- What a misfit says. -/
def Misfit.message : Misfit → String
  | size bytes slot => s!"closure of {bytes} bytes does not fit an inline slot of {slot} bytes"
  | alignment align => s!"closure alignment {align} exceeds inline slot alignment"

/-- How callables are kept. -/
inductive Housing where
  /-- On the heap. -/
  | boxed
  /-- Inline, in a slot of some machine words. -/
  | inline (words : Nat)
deriving DecidableEq

namespace Housing

/-- Why a callable cannot be kept this way, if it cannot.  Size is looked at before alignment. -/
def misfit? : Housing → Footprint → Option Misfit
  | boxed, _ => none
  | inline words, footprint =>
      if words * wordBytes < footprint.bytes then some (.size footprint.bytes (words * wordBytes))
      else if wordBytes < footprint.align then some (.alignment footprint.align)
      else none

/-- The size of the slot in bytes, for inline housing. -/
def slotBytes? : Housing → Option Nat
  | boxed => none
  | inline words => some (words * wordBytes)

@[simp]
theorem misfit?_boxed (footprint : Footprint) : boxed.misfit? footprint = none := rfl

end Housing

end Reactor

import GuestShell.Binary64.Arithmetic
import GuestShell.Binary64.Integral

/-!
# Signed 24.8 fixed-point numbers

A fixed-point number is a whole number of 256ths with 32 bits.  From a floating-point
number it is the nearest one, clamped; from an integer it wraps.
-/

namespace GuestShell.Wire

/-- A number of 256ths. -/
structure Fixed where
  raw : Int32
  deriving DecidableEq, Repr

namespace Fixed

/-- The 256ths in one. -/
def perOne : Int := 256

/-- A whole number; the upper eight bits of a number beyond 24 bits are lost. -/
def ofInt32 (value : Int32) : Fixed := ⟨Int32.ofInt (value.toInt * perOne)⟩

def ofBinary64 (x : Binary64) : Fixed := ⟨(x * Binary64.ofInt perOne).toInt32 .nearest⟩

def toBinary64 (f : Fixed) : Binary64 := Binary64.ofInt f.raw.toInt / Binary64.ofInt perOne

end Fixed

end GuestShell.Wire

import GuestShell.Binary64.Rounding

/-!
# Multiplication, division and conversion from integers

The results are the exact ones rounded once.  Invalid combinations, such as zero times
infinity, give a NaN; the sign of a product or quotient is that of the two signs together,
also when the result is zero or infinite.
-/

namespace GuestShell.Binary64

/-- The floating-point number nearest to an integer. -/
def ofInt (n : Int) : Binary64 :=
  rounded (n < 0) (n.natAbs * unitsPerOne) 1

def one : Binary64 := ofInt 1

def negate : Binary64 → Binary64
  | .nan => .nan
  | .number negative m => .number (!negative) m

def mul : Binary64 → Binary64 → Binary64
  | .number s a, .number t b =>
      if a.isInfinite || b.isInfinite then
        if a.isZero || b.isZero then .nan else .number (s != t) .infinity
      else rounded (s != t) (a.units * b.units) unitsPerOne
  | _, _ => .nan

def div : Binary64 → Binary64 → Binary64
  | .number s a, .number t b =>
      if a.isInfinite then
        if b.isInfinite then .nan else .number (s != t) .infinity
      else if b.isInfinite then .number (s != t) .zero
      else if b.isZero then
        if a.isZero then .nan else .number (s != t) .infinity
      else rounded (s != t) (a.units * unitsPerOne) b.units
  | _, _ => .nan

instance : Mul Binary64 := ⟨mul⟩

instance : Div Binary64 := ⟨div⟩

end GuestShell.Binary64

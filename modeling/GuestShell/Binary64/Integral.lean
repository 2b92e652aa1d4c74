import GuestShell.Binary64.Basic

/-!
# From floating-point numbers to integers

A finite number is rounded to an integer in one of four directions and then clamped to
the range of the integer type.  An infinity clamps to the end of its side and a NaN
becomes zero, so the conversions are total.
-/

namespace GuestShell

/-- Which integer stands for a number that lies between two. -/
inductive Direction where
  | down
  | up
  | towardZero
  /-- The nearer integer, a half going away from zero. -/
  | nearest
  deriving DecidableEq, Repr

namespace Direction

/-- Whether the magnitude `quotient + rest / unitsPerOne` goes to the larger integer. -/
def awayFromZero (direction : Direction) (negative : Bool) (rest : Nat) : Bool :=
  match direction with
  | .down => negative && rest != 0
  | .up => !negative && rest != 0
  | .towardZero => false
  | .nearest => Binary64.unitsPerOne ≤ 2 * rest

/-- The integer next to a signed number of units in a direction. -/
def integer (direction : Direction) (negative : Bool) (units : Nat) : Int :=
  let quotient := units / Binary64.unitsPerOne
  let rest := units % Binary64.unitsPerOne
  let magnitude := if direction.awayFromZero negative rest then quotient + 1 else quotient
  if negative then -(magnitude : Int) else magnitude

end Direction

namespace Binary64

/-- The integer next to a number in a direction; zero for a NaN.  Infinity counts as
`2 ^ 1024`. -/
def toInt (direction : Direction) : Binary64 → Int
  | .nan => 0
  | .number negative m => direction.integer negative m.units

/-- The nearest 32-bit integer in a direction, clamped at the ends of the range. -/
def toInt32 (direction : Direction) (x : Binary64) : Int32 :=
  Int32.ofIntClamp (x.toInt direction)

/-- The nearest 64-bit integer in a direction, clamped at the ends of the range. -/
def toInt64 (direction : Direction) (x : Binary64) : Int64 :=
  Int64.ofIntClamp (x.toInt direction)

end Binary64

end GuestShell

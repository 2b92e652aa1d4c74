import GuestShell.Binary64.Basic

/-!
# The shortest decimal text of a floating-point number

Every number has an interval of decimal numbers that read back as it: the points nearer
to it than to its neighbours, ends included when its position is even.  The text has the
fewest digits of any point in that interval, and of the points with that many digits it
is the nearest, the larger one in a tie.  It is written positionally, without an exponent.
-/

namespace GuestShell.Binary64

/-- The decimal number `digits · 10 ^ (place - 400)`.  Every power of ten in use is a
natural number when counted from `10 ^ -400`. -/
structure DecimalPoint where
  digits : Nat
  place : Nat
  deriving DecidableEq, Repr

/-- Where `place` counts from. -/
def placeOrigin : Nat := 400

/-- The interval that reads back as the magnitude at a position, in halves of a unit. -/
structure ReadBack where
  low : Nat
  value : Nat
  high : Nat
  closed : Bool

def readBack (position : Nat) : ReadBack where
  low := units (position - 1) + units position
  value := 2 * units position
  high := units position + units (position + 1)
  closed := position % 2 = 0

/-- A decimal point in halves of a unit, times `10 ^ placeOrigin`. -/
def DecimalPoint.scaled (p : DecimalPoint) : Nat :=
  p.digits * Nat.pow 10 p.place * (2 * unitsPerOne)

/-- Whether a point reads back as the magnitude. -/
def ReadBack.holds (r : ReadBack) (p : DecimalPoint) : Bool :=
  let x := p.scaled
  let low := r.low * Nat.pow 10 placeOrigin
  let high := r.high * Nat.pow 10 placeOrigin
  if r.closed then low ≤ x && x ≤ high else low < x && x < high

/-- The nearest point of the grid of multiples of `10 ^ (place - 400)` that reads back. -/
def ReadBack.onGrid (r : ReadBack) (place : Nat) : Option DecimalPoint :=
  let target := r.value * Nat.pow 10 placeOrigin
  let below := target / (Nat.pow 10 place * (2 * unitsPerOne))
  let lower : DecimalPoint := ⟨below, place⟩
  let upper : DecimalPoint := ⟨below + 1, place⟩
  match r.holds lower, r.holds upper with
  | true, true =>
      if target - lower.scaled < upper.scaled - target then some lower else some upper
  | true, false => some lower
  | false, true => some upper
  | false, false => none

/-- The first grid, from a coarse one down, with a point that reads back. -/
def ReadBack.coarsest (r : ReadBack) : Nat → DecimalPoint
  | 0 => ⟨0, 0⟩
  | place + 1 =>
      match r.onGrid place with
      | some p => p
      | none => r.coarsest place

/-- The decimal number with the fewest digits that reads back as a positive, finite
magnitude, the nearest of those. -/
def shortest (position : Nat) : DecimalPoint :=
  let r := readBack position
  let width := (Nat.toDigits 10 (r.value * Nat.pow 10 placeOrigin / (2 * unitsPerOne))).length
  r.coarsest (width + 1)

/-- Digits without an exponent; a point appears only before a digit that is not zero. -/
def DecimalPoint.positional (p : DecimalPoint) : String :=
  let digits := Nat.toDigits 10 p.digits
  if placeOrigin ≤ p.place then
    String.ofList (digits ++ List.replicate (p.place - placeOrigin) '0')
  else
    let fraction := placeOrigin - p.place
    let padded := List.replicate (fraction + 1 - digits.length) '0' ++ digits
    let whole := padded.take (padded.length - fraction)
    String.ofList (whole ++ '.' :: padded.drop (padded.length - fraction))

/-- The magnitude as text. -/
def magnitudeText (m : Magnitude) : String :=
  if m.isZero then "0"
  else if m.isInfinite then "inf"
  else (shortest m.position).positional

/-- The shortest text that reads back as the number. -/
def text : Binary64 → String
  | .nan => "NaN"
  | .number negative m => (if negative then "-" else "") ++ magnitudeText m

end GuestShell.Binary64

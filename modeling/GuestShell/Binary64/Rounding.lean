import GuestShell.Binary64.Basic

/-!
# Rounding a fraction to the nearest floating-point number

Every operation of the format computes an exact fraction of units and rounds it once: to
the nearest magnitude, a tie going to the magnitude at the even position.  Magnitudes
from `2 ^ 1024` minus half a step upwards become infinity.
-/

namespace GuestShell.Binary64

/-- The whole number nearest to `numerator / denominator`, ties to even. -/
def roundHalfEven (numerator denominator : Nat) : Nat :=
  let quotient := numerator / denominator
  let rest := 2 * (numerator % denominator)
  if rest < denominator then quotient
  else if denominator < rest then quotient + 1
  else if quotient % 2 = 0 then quotient
  else quotient + 1

/-- The power of two that steps between neighbours have where the fraction lies. -/
def stepExponent (numerator denominator : Nat) : Nat :=
  (numerator / denominator).log2 - 52

/-- The position nearest to a fraction of units; it may lie past infinity. -/
def nearestPosition (numerator denominator : Nat) : Nat :=
  let step := stepExponent numerator denominator
  step * binade + roundHalfEven numerator (denominator <<< step)

/-- The magnitude nearest to `numerator / denominator` units. -/
def roundedMagnitude (numerator denominator : Nat) : Magnitude :=
  .ofPosition (nearestPosition numerator denominator)

/-- The number with a given sign nearest to `numerator / denominator` units. -/
def rounded (negative : Bool) (numerator denominator : Nat) : Binary64 :=
  .number negative (roundedMagnitude numerator denominator)

theorem roundHalfEven_of_dvd {n d : Nat} (hd : 0 < d) (h : d ∣ n) :
    roundHalfEven n d = n / d := by
  simp [roundHalfEven, Nat.mod_eq_zero_of_dvd h, hd]

end GuestShell.Binary64

import GuestShell.Binary64.Arithmetic
import Mathlib.Tactic.Linarith
import Mathlib.Tactic.Ring

/-!
# How far rounding moves a number

Rounding a fraction of units moves it by at most one part in `2 ^ 53`, if the fraction is not
below the normal numbers and well within range.  Everything is stated for whole numbers: that
`m` is near `n / d` is a pair of inequalities between products.

Integers of less than 53 bits are not moved at all.  Nothing is claimed of fractions below
the normal numbers, where the error is at most half a unit but may be large in proportion.
-/

namespace GuestShell

namespace Binary64

/-- Rounding moves a number by at most one of so many parts: `2 ^ 53`. -/
def resolution : Nat := 2 * binade

/-- A whole number that was rounded to lies within half of the fraction. -/
theorem roundHalfEven_near (n : Nat) {d : Nat} (hd : 0 < d) :
    2 * n ≤ 2 * (roundHalfEven n d * d) + d ∧ 2 * (roundHalfEven n d * d) ≤ 2 * n + d := by
  have hdiv : n / d * d + n % d = n := Nat.div_add_mod' n d
  have hrest : n % d < d := Nat.mod_lt n hd
  have hnext : (n / d + 1) * d = n / d * d + d := Nat.succ_mul _ _
  simp only [roundHalfEven]
  -- the quotient is kept or raised by one, as twice the rest compares with the denominator
  split
  · omega
  · split
    · omega
    · split <;> omega

/-- A common factor of both parts of a fraction does not matter. -/
theorem roundHalfEven_mul_right (n d : Nat) {k : Nat} (hk : 0 < k) :
    roundHalfEven (n * k) (d * k) = roundHalfEven n d := by
  simp only [roundHalfEven, Nat.mul_div_mul_right _ _ hk, Nat.mul_mod_mul_right,
    ← Nat.mul_assoc, Nat.mul_lt_mul_right hk]

theorem le_roundHalfEven (n d : Nat) : n / d ≤ roundHalfEven n d := by
  simp only [roundHalfEven]
  repeat' split
  all_goals omega

theorem roundHalfEven_le (n d : Nat) : roundHalfEven n d ≤ n / d + 1 := by
  simp only [roundHalfEven]
  repeat' split
  all_goals omega

/-- Positions and units within the spacing `2 ^ step`.  The least numbers all have the
spacing of one unit; after them a spacing lasts for `binade` positions. -/
theorem units_step (step significand : Nat) (hle : significand ≤ resolution)
    (hnormal : step = 0 ∨ binade ≤ significand) :
    units (step * binade + significand) = significand <<< step := by
  have hpos : 0 < binade := by decide
  rcases Nat.lt_or_ge significand binade with hsmall | hlarge
  · obtain rfl : step = 0 := hnormal.resolve_right (by omega)
    rw [Nat.zero_mul, Nat.zero_add, units_eq_self hsmall, Nat.shiftLeft_zero]
  · -- the significand is one leading bit and a rest, or carries into the next spacing
    obtain ⟨rest, rfl⟩ := Nat.exists_eq_add_of_le hlarge
    rcases Nat.lt_or_ge rest binade with hrest | hcarry
    · have hsum : step * binade + (binade + rest) = rest + (step + 1) * binade := by ring
      rw [units, hsum, Nat.add_mul_div_right _ _ hpos, Nat.add_mul_mod_self_right,
        Nat.div_eq_of_lt hrest, Nat.mod_eq_of_lt hrest, if_neg (by omega)]
      congr 1
      omega
    · obtain rfl : rest = binade := by
        rw [resolution] at hle
        omega
      have hsum : step * binade + (binade + binade) = (step + 2) * binade := by ring
      rw [units, hsum, Nat.mul_div_cancel _ hpos, Nat.mul_mod_left, if_neg (by omega)]
      simp only [Nat.shiftLeft_eq, Nat.add_zero, show step + 2 - 1 = step + 1 by omega, pow_succ]
      ring

theorem shiftLeft_pos {d : Nat} (hd : 0 < d) (step : Nat) : 0 < d <<< step := by
  rw [Nat.shiftLeft_eq]
  exact Nat.mul_pos hd (Nat.two_pow_pos step)

theorem roundedMagnitude_mul_right (n d : Nat) {k : Nat} (hk : 0 < k) :
    roundedMagnitude (n * k) (d * k) = roundedMagnitude n d := by
  have hstep : stepExponent (n * k) (d * k) = stepExponent n d := by
    rw [stepExponent, Nat.mul_div_mul_right _ _ hk, stepExponent]
  have hspacing : (d * k) <<< stepExponent n d = (d <<< stepExponent n d) * k := by
    rw [Nat.shiftLeft_eq, Nat.shiftLeft_eq, Nat.mul_right_comm]
  rw [roundedMagnitude, nearestPosition, hstep, hspacing, roundHalfEven_mul_right _ _ hk]
  rfl

/-- The significand that is rounded to has 53 bits, or is the first number with more. -/
theorem significand_le (n : Nat) {d : Nat} (hd : 0 < d) :
    roundHalfEven n (d <<< stepExponent n d) ≤ resolution := by
  have hlog : n / d < 2 ^ ((n / d).log2 + 1) := Nat.lt_log2_self
  have hexp : 2 ^ ((n / d).log2 + 1) ≤ 2 ^ (53 + stepExponent n d) :=
    Nat.pow_le_pow_right (by decide) (by rw [stepExponent]; omega)
  have hn : n < 2 ^ (53 + stepExponent n d) * d :=
    (Nat.div_lt_iff_lt_mul hd).1 (Nat.lt_of_lt_of_le hlog hexp)
  have hquotient : n / (d <<< stepExponent n d) < resolution := by
    rw [Nat.div_lt_iff_lt_mul (shiftLeft_pos hd _), Nat.shiftLeft_eq,
      show resolution = 2 ^ 53 by decide]
    calc n < 2 ^ (53 + stepExponent n d) * d := hn
      _ = 2 ^ 53 * (d * 2 ^ stepExponent n d) := by ring
  have hle := roundHalfEven_le n (d <<< stepExponent n d)
  omega

/-- Of a fraction that is not below the normal numbers, the significand has a leading bit. -/
theorem binade_mul_le {n d : Nat} (hd : 0 < d) (hnormal : binade * d ≤ n) :
    binade * (d <<< stepExponent n d) ≤ n := by
  have hquotient : binade ≤ n / d := (Nat.le_div_iff_mul_le hd).2 hnormal
  have hne : n / d ≠ 0 := by
    have hpos : 0 < binade := by decide
    omega
  have hbits : 52 ≤ (n / d).log2 := (Nat.le_log2 hne).2 hquotient
  have hlog : 2 ^ (52 + stepExponent n d) ≤ n / d := by
    rw [show 52 + stepExponent n d = (n / d).log2 by rw [stepExponent]; omega]
    exact Nat.log2_self_le hne
  rw [Nat.shiftLeft_eq, show binade = 2 ^ 52 by decide]
  calc 2 ^ 52 * (d * 2 ^ stepExponent n d) = 2 ^ (52 + stepExponent n d) * d := by ring
    _ ≤ n := (Nat.le_div_iff_mul_le hd).1 hlog

/-- Where neighbours are more than a unit apart, the significand has a leading bit. -/
theorem binade_le_significand {n d : Nat} (hd : 0 < d) (hstep : stepExponent n d ≠ 0) :
    binade ≤ roundHalfEven n (d <<< stepExponent n d) := by
  have hbits : 52 ≤ (n / d).log2 := by
    rw [stepExponent] at hstep
    omega
  have hne : n / d ≠ 0 := by
    intro hzero
    rw [hzero] at hbits
    exact absurd hbits (by decide)
  have hnormal : binade * d ≤ n := (Nat.le_div_iff_mul_le hd).1 ((Nat.le_log2 hne).1 hbits)
  have hquotient : binade ≤ n / (d <<< stepExponent n d) :=
    (Nat.le_div_iff_mul_le (shiftLeft_pos hd _)).2 (binade_mul_le hd hnormal)
  -- the quotient has a leading bit, and rounding does not lose it
  exact hquotient.trans (le_roundHalfEven _ _)

/-- The nearest position holds the significand, moved by the step. -/
theorem units_nearestPosition (n : Nat) {d : Nat} (hd : 0 < d) :
    units (nearestPosition n d) =
      roundHalfEven n (d <<< stepExponent n d) <<< stepExponent n d := by
  refine units_step _ _ (significand_le n hd) ?_
  by_cases hstep : stepExponent n d = 0
  · exact Or.inl hstep
  · exact Or.inr (binade_le_significand hd hstep)

/-- Quotients of fewer than 2097 bits are well within range. -/
theorem nearestPosition_lt {n d : Nat} (hd : 0 < d) (hrange : (n / d).log2 < 2096) :
    nearestPosition n d < infinityPosition := by
  have hle := significand_le n hd
  have hstep : stepExponent n d ≤ 2043 := by
    rw [stepExponent]
    omega
  simp only [nearestPosition, infinityPosition, resolution, binade] at *
  omega

/-- A magnitude in range is rounded to without being cut off. -/
theorem roundedMagnitude_position {n d : Nat} (hd : 0 < d) (hrange : (n / d).log2 < 2096) :
    (roundedMagnitude n d).position = nearestPosition n d :=
  Nat.min_eq_left (nearestPosition_lt hd hrange).le

theorem isInfinite_roundedMagnitude {n d : Nat} (hd : 0 < d) (hrange : (n / d).log2 < 2096) :
    (roundedMagnitude n d).isInfinite = false := by
  rw [Magnitude.isInfinite, roundedMagnitude_position hd hrange, beq_eq_false_iff_ne]
  exact (nearestPosition_lt hd hrange).ne

end Binary64

open Binary64

/-- The magnitude differs from `n / d` units by at most one part in `2 ^ 53`. -/
structure Magnitude.Near (m : Magnitude) (n d : Nat) : Prop where
  finite : m.isInfinite = false
  below : (resolution - 1) * n ≤ resolution * (m.units * d)
  above : resolution * (m.units * d) ≤ (resolution + 1) * n

namespace Binary64

/-- The relative error of rounding. -/
theorem near_roundedMagnitude {n d : Nat} (hd : 0 < d) (hnormal : binade * d ≤ n)
    (hrange : (n / d).log2 < 2096) : (roundedMagnitude n d).Near n d := by
  have hnear := roundHalfEven_near n (shiftLeft_pos hd (stepExponent n d))
  have hspacing := binade_mul_le hd hnormal
  have hunits : (roundedMagnitude n d).units * d =
      roundHalfEven n (d <<< stepExponent n d) * (d <<< stepExponent n d) := by
    rw [Magnitude.units, roundedMagnitude_position hd hrange, units_nearestPosition n hd,
      Nat.shiftLeft_eq, Nat.shiftLeft_eq, Nat.mul_assoc, Nat.mul_comm d]
  -- half of the spacing is at most one part of the fraction
  refine ⟨isInfinite_roundedMagnitude hd hrange, ?_, ?_⟩
  · rw [hunits]
    simp only [resolution, binade] at *
    omega
  · rw [hunits]
    simp only [resolution, binade] at *
    omega

/-- A fraction that is a whole number of steps is not moved. -/
theorem units_roundedMagnitude_of_dvd {n : Nat} (hdvd : 1 <<< stepExponent n 1 ∣ n)
    (hrange : n.log2 < 2096) : (roundedMagnitude n 1).units = n := by
  have hposition := roundedMagnitude_position (n := n) Nat.one_pos (by rwa [Nat.div_one])
  rw [Magnitude.units, hposition, units_nearestPosition n Nat.one_pos,
    roundHalfEven_of_dvd (shiftLeft_pos Nat.one_pos _) hdvd]
  simp only [Nat.shiftLeft_eq, Nat.one_mul] at hdvd ⊢
  exact Nat.div_mul_cancel hdvd

end Binary64

end GuestShell

import GuestShell.Proofs.Binary64.Ratio
import Mathlib.Algebra.Order.Field.Basic
import Mathlib.Algebra.Order.Field.Rat

/-!
# The value of a floating-point number

A finite number stands for a rational number: its units, counted in units per one, with its
sign.  A NaN and an infinity have no value.  So to be positive and finite is to have a positive
value.

The ratio of two positive sizes below `2 ^ 31` has a value between `2 ^ -31` and `2 ^ 31`.
Rounding moves it by at most one part in `2 ^ 53`, and the sizes leave more room than that.
-/

namespace GuestShell

open Binary64

/-- The magnitude as a rational number. -/
def Magnitude.value (m : Magnitude) : Rat := m.units / unitsPerOne

namespace Binary64

/-- What a finite number stands for. -/
def value? : Binary64 → Option Rat
  | .nan => none
  | .number negative m =>
      if m.isInfinite then none else some (if negative then -m.value else m.value)

/-- The number is finite and greater than zero. -/
def PositiveFinite (x : Binary64) : Prop := ∃ v, x.value? = some v ∧ 0 < v

/-- The number lies between `2 ^ -31` and `2 ^ 31`. -/
def Moderate (x : Binary64) : Prop :=
  ∃ v, x.value? = some v ∧ 1 / (sizeLimit : Rat) ≤ v ∧ v ≤ sizeLimit

theorem cast_unitsPerOne_pos : (0 : Rat) < unitsPerOne := Nat.cast_pos.2 unitsPerOne_pos

theorem cast_sizeLimit_pos : (0 : Rat) < sizeLimit := Nat.cast_pos.2 (by decide)

theorem Moderate.positiveFinite {x : Binary64} (h : x.Moderate) : x.PositiveFinite := by
  obtain ⟨v, hvalue, hlow, -⟩ := h
  exact ⟨v, hvalue, (one_div_pos.2 cast_sizeLimit_pos).trans_le hlow⟩

/-- Only the first position holds no units. -/
theorem units_pos {position : Nat} (h : position ≠ 0) : 0 < units position := by
  unfold units
  split
  · exact Nat.pos_of_ne_zero h
  · exact shiftLeft_pos (Nat.add_pos_left (by decide) _) _

end Binary64

namespace Magnitude

theorem value_nonneg (m : Magnitude) : 0 ≤ m.value :=
  div_nonneg (Nat.cast_nonneg _) cast_unitsPerOne_pos.le

theorem value_pos_iff (m : Magnitude) : 0 < m.value ↔ m.isZero = false := by
  rw [value, div_pos_iff_of_pos_right cast_unitsPerOne_pos, Nat.cast_pos]
  constructor
  · intro hunits
    exact isZero_eq_false hunits.ne'
  · intro hzero
    exact units_pos (beq_eq_false_iff_ne.1 hzero)

end Magnitude

namespace Binary64

/-- The tests for positive and for finite numbers find the numbers with a positive value. -/
theorem positiveFinite_iff (x : Binary64) :
    x.PositiveFinite ↔ (x.isPositive && x.isFinite) = true := by
  cases x with
  | nan => simp [PositiveFinite, value?, isPositive]
  | number negative m =>
      cases hinfinite : m.isInfinite with
      | true => simp [PositiveFinite, value?, isFinite, hinfinite]
      | false =>
          cases negative with
          | true => simp [PositiveFinite, value?, isPositive, hinfinite, m.value_nonneg]
          | false =>
              simp [PositiveFinite, value?, isPositive, isFinite, hinfinite, m.value_pos_iff]

section Ratio

variable {pixels logical : Nat} (hp : 0 < pixels) (hl : 0 < logical)
  (hpixels : pixels < sizeLimit) (hlogical : logical < sizeLimit)

include hp hl hpixels hlogical

theorem ratioMagnitude_range :
    unitsPerOne ≤ sizeLimit * (ratioMagnitude pixels logical).units ∧
      (ratioMagnitude pixels logical).units ≤ sizeLimit * unitsPerOne := by
  obtain ⟨-, hbelow, habove⟩ := near_ratioMagnitude hp hl hpixels.le hlogical.le
  set ratio := (ratioMagnitude pixels logical).units
  -- the sizes are one less than the limit, and that is more than the error
  have hroom : (resolution + 1) * (sizeLimit - 1) ≤ resolution * sizeLimit := by decide
  have hroom' : resolution * (sizeLimit - 1) ≤ (resolution - 1) * sizeLimit := by decide
  have hresolution : 0 < resolution := by decide
  constructor
  · refine Nat.le_of_mul_le_mul_left ?_ (Nat.mul_pos hresolution hl)
    calc resolution * logical * unitsPerOne
        ≤ resolution * (sizeLimit - 1) * unitsPerOne :=
          Nat.mul_le_mul_right _ (Nat.mul_le_mul_left _ (Nat.le_sub_one_of_lt hlogical))
      _ ≤ (resolution - 1) * sizeLimit * unitsPerOne := Nat.mul_le_mul_right _ hroom'
      _ = sizeLimit * ((resolution - 1) * unitsPerOne) := by ring
      _ ≤ sizeLimit * ((resolution - 1) * (pixels * unitsPerOne)) :=
          Nat.mul_le_mul_left _ (Nat.mul_le_mul_left _ (Nat.le_mul_of_pos_left _ hp))
      _ ≤ sizeLimit * (resolution * (ratio * logical)) := Nat.mul_le_mul_left _ hbelow
      _ = resolution * logical * (sizeLimit * ratio) := by ring
  · refine Nat.le_of_mul_le_mul_left ?_ hresolution
    calc resolution * ratio
        ≤ resolution * (ratio * logical) :=
          Nat.mul_le_mul_left _ (Nat.le_mul_of_pos_right _ hl)
      _ ≤ (resolution + 1) * (pixels * unitsPerOne) := habove
      _ ≤ (resolution + 1) * ((sizeLimit - 1) * unitsPerOne) :=
          Nat.mul_le_mul_left _ (Nat.mul_le_mul_right _ (Nat.le_sub_one_of_lt hpixels))
      _ = (resolution + 1) * (sizeLimit - 1) * unitsPerOne := by ring
      _ ≤ resolution * sizeLimit * unitsPerOne := Nat.mul_le_mul_right _ hroom
      _ = resolution * (sizeLimit * unitsPerOne) := by ring

/-- The ratio of two positive sizes is moderate. -/
theorem moderate_ratio : (number false (ratioMagnitude pixels logical)).Moderate := by
  obtain ⟨hlow, hhigh⟩ := ratioMagnitude_range hp hl hpixels hlogical
  have hfinite := (near_ratioMagnitude hp hl hpixels.le hlogical.le).finite
  refine ⟨(ratioMagnitude pixels logical).value, ?_, ?_, ?_⟩
  · simp only [value?, hfinite, Bool.false_eq_true, if_false]
  · rw [Magnitude.value, div_le_div_iff₀ cast_sizeLimit_pos cast_unitsPerOne_pos, one_mul,
      mul_comm]
    exact_mod_cast hlow
  · rw [Magnitude.value, div_le_iff₀ cast_unitsPerOne_pos]
    exact_mod_cast hhigh

end Ratio

end Binary64

end GuestShell

import GuestShell.Proofs.Binary64.Order
import GuestShell.Scale.Conversion

/-!
# Damage on the host covers the damaged area

In uniform mode a damaged rectangle is moved out by a pixel on each side, but not beyond the
clamps, and then divided by the scale and rounded outward.  A corner that lies within the clamps
is never moved inward, and what follows keeps the order of corners.  So the result contains the
rectangle that is divided without being moved out, however its corners are rounded.

Nothing is used of the arithmetic but that it keeps the order: the scale may be so small that
quotients leave the range, or infinite.  Direct mode truncates its corners and is NOT covered.
-/

namespace GuestShell

open Binary64

/-- A corner divided by a factor and rounded in a direction. -/
def dividedCorner (direction : Direction) (factor : Binary64) (v : Int64) : Int64 :=
  (ofInt v.toInt / factor).toInt64 direction

namespace DamageRect

/-- The rectangle divided by a factor on each axis, with a direction of rounding for the first
corners and one for the last. -/
def divided (r : DamageRect) (x y : Binary64) (first last : Direction) : DamageRect :=
  ⟨dividedCorner first x r.x₁, dividedCorner first y r.y₁,
   dividedCorner last x r.x₂, dividedCorner last y r.y₂⟩

theorem contains_iff (outer inner : DamageRect) :
    outer.contains inner = true ↔
      outer.x₁ ≤ inner.x₁ ∧ outer.y₁ ≤ inner.y₁ ∧ inner.x₂ ≤ outer.x₂ ∧ inner.y₂ ≤ outer.y₂ := by
  simp only [contains, Bool.and_eq_true, decide_eq_true_eq, ge_iff_le, and_assoc]

theorem contains_trans {outer middle inner : DamageRect} (houter : outer.contains middle = true)
    (hinner : middle.contains inner = true) : outer.contains inner = true := by
  rw [contains_iff] at *
  obtain ⟨hx₁, hy₁, hx₂, hy₂⟩ := houter
  obtain ⟨hx₁', hy₁', hx₂', hy₂'⟩ := hinner
  exact ⟨Int64.le_trans hx₁ hx₁', Int64.le_trans hy₁ hy₁', Int64.le_trans hx₂' hx₂,
    Int64.le_trans hy₂' hy₂⟩

/-- Rounded outward, a divided rectangle contains itself rounded in any other way. -/
theorem divided_outward_contains (r : DamageRect) (x y : Binary64) (first last : Direction) :
    (r.divided x y .down .up).contains (r.divided x y first last) = true := by
  rw [contains_iff]
  exact ⟨(toInt64_between first _).1, (toInt64_between first _).1, (toInt64_between last _).2,
    (toInt64_between last _).2⟩

end DamageRect

/-! ### One corner -/

section Corner

variable {factor : Binary64} (hfactor : factor.isPositive = true)

include hfactor

theorem quotient_mono (direction : Direction) {i j : Int} (hle : i ≤ j)
    (hi : i.natAbs ≤ resolution * resolution) (hj : j.natAbs ≤ resolution * resolution) :
    (ofInt i / factor).toInt64 direction ≤ (ofInt j / factor).toInt64 direction :=
  toInt64_mono direction
    (div_mono (ofInt_mono hle) (isFinite_ofInt hi) (isFinite_ofInt hj) hfactor)

/-- A first corner that is not below the clamp is not moved up. -/
theorem outsetFirst_le {v : Int64} (hv : minDamage ≤ v.toInt) :
    outsetFirst factor v ≤ dividedCorner .down factor v := by
  have hlow := v.le_toInt
  have hhigh := v.toInt_lt
  have hmoved : max (v.toInt - 1) minDamage ≤ v.toInt := max_le (Int.sub_le_self _ (by decide)) hv
  refine quotient_mono hfactor .down hmoved ?_ ?_
  all_goals
    simp only [minDamage, resolution, binade] at *
    omega

/-- A last corner that is not above the clamp is not moved down. -/
theorem le_outsetLast {v : Int64} (hv : v.toInt ≤ maxDamage) :
    dividedCorner .up factor v ≤ outsetLast factor v := by
  have hlow := v.le_toInt
  have hhigh := v.toInt_lt
  have hmoved : v.toInt ≤ min (v.toInt + 1) maxDamage := le_min (Int.le_add_one le_rfl) hv
  refine quotient_mono hfactor .up hmoved ?_ ?_
  all_goals
    simp only [maxDamage, resolution, binade] at *
    omega

end Corner

namespace ScaleConfig

/-- In uniform mode the damage of the host contains the damaged rectangle divided by the scale
and rounded outward, and so also the one rounded toward zero.  The scale is the computed product
of both factors; it is greater than zero and may be infinite. -/
theorem damageToHost_covers (config : ScaleConfig) (surface : Option SurfaceScale)
    (buffer : ScalePair) (r : DamageRect) (huniform : config.isDirect = false)
    (hx : (buffer.x * config.factor).isPositive = true)
    (hy : (buffer.y * config.factor).isPositive = true)
    (hx₁ : minDamage ≤ r.x₁.toInt) (hy₁ : minDamage ≤ r.y₁.toInt)
    (hx₂ : r.x₂.toInt ≤ maxDamage) (hy₂ : r.y₂.toInt ≤ maxDamage) :
    let damage := config.damageToHost surface buffer r
    let divided := r.divided (buffer.x * config.factor) (buffer.y * config.factor)
    damage.contains (divided .down .up) = true ∧
      damage.contains (divided .towardZero .towardZero) = true := by
  intro damage divided
  have hmode : config.mode = .uniform := by
    cases hmode : config.mode with
    | uniform => rfl
    | direct factors => simp only [isDirect, hmode, Bool.true_eq_false] at huniform
  have houtward : damage.contains (divided .down .up) = true := by
    simp only [damage, damageToHost, hmode]
    rw [DamageRect.contains_iff]
    exact ⟨outsetFirst_le hx hx₁, outsetFirst_le hy hy₁, le_outsetLast hx hx₂,
      le_outsetLast hy hy₂⟩
  exact ⟨houtward, DamageRect.contains_trans houtward (r.divided_outward_contains _ _ _ _)⟩

/-- A scale that is the least positive number on one axis and infinite on the other, and a
rectangle that reaches both clamps. -/
theorem damageToHost_covers_extremes :
    let config := ScaleConfig.uniform .one
    let buffer : ScalePair := ⟨.ofBits 1, .infinity⟩
    let r : DamageRect := ⟨-214748364, -7, -3, 214748364⟩
    config.isDirect = false ∧
    (buffer.x * config.factor).isPositive = true ∧
    (buffer.y * config.factor).isPositive = true ∧
    (minDamage ≤ r.x₁.toInt ∧ minDamage ≤ r.y₁.toInt) ∧
    (r.x₂.toInt ≤ maxDamage ∧ r.y₂.toInt ≤ maxDamage) ∧
    let damage := config.damageToHost none buffer r
    let divided := r.divided (buffer.x * config.factor) (buffer.y * config.factor)
    damage.contains (divided .down .up) = true ∧
      damage.contains (divided .towardZero .towardZero) = true := by
  intro config buffer r
  have hx : (buffer.x * config.factor).isPositive = true := by decide +kernel
  have hy : (buffer.y * config.factor).isPositive = true := by decide +kernel
  have hfirst : minDamage ≤ r.x₁.toInt ∧ minDamage ≤ r.y₁.toInt := by decide
  have hlast : r.x₂.toInt ≤ maxDamage ∧ r.y₂.toInt ≤ maxDamage := by decide
  exact ⟨rfl, hx, hy, hfirst, hlast,
    damageToHost_covers config none buffer r rfl hx hy hfirst.1 hfirst.2 hlast.1 hlast.2⟩

/-- At three halves of a pixel to a unit, the corners -5 and 4 are moved out to -6 and 5. -/
example :
    (uniform (ofInt 3 / ofInt 2)).damageToHost none .identity ⟨-5, -5, 4, 4⟩ = ⟨-4, -4, 4, 4⟩ := by
  decide +kernel

end ScaleConfig

end GuestShell

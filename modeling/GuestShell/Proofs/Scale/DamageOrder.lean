import GuestShell.Proofs.Binary64.Scaling
import GuestShell.Proofs.Scale.Damage

/-!
# When damage stays ordered

Direct mode divides and truncates all corners alike, so a rectangle with its corners in order
keeps them in order.  Uniform mode clamps first corners only from below and last corners only from
above.  A rectangle that reaches into the range between the clamps stays ordered even so.  Of one
that lies past a clamp, the farther corner is brought back to the clamp and the nearer one is not;
it stays ordered exactly if rounding outward makes up for that.

Rectangles of any 64-bit corners are covered, and scales that are infinite too.  It is NOT claimed
that the damage of a rectangle past a clamp covers the rectangle, ordered or not.
-/

namespace GuestShell

open Binary64

namespace DamageRect

/-- The first corner does not come after the last one on either axis. -/
def Ordered (r : DamageRect) : Prop :=
  r.x₁ ≤ r.x₂ ∧ r.y₁ ≤ r.y₂

instance (r : DamageRect) : Decidable r.Ordered :=
  inferInstanceAs (Decidable (r.x₁ ≤ r.x₂ ∧ r.y₁ ≤ r.y₂))

end DamageRect

/-- Two corners of an axis, moved out by a pixel, reach the range between the clamps, or past it
the one that is not clamped comes to no more than the clamp when both are divided and rounded. -/
inductive StaysOrdered (factor : Binary64) (first last : Int64) : Prop
  | reaches (hfirst : first.toInt - 1 ≤ maxDamage) (hlast : minDamage ≤ last.toInt + 1)
  | pastLast (hpast : maxDamage < first.toInt - 1)
      (hquotient : (ofInt (first.toInt - 1) / factor).toInt64 .down ≤
        (ofInt maxDamage / factor).toInt64 .up)
  | pastFirst (hpast : last.toInt + 1 < minDamage)
      (hquotient : (ofInt minDamage / factor).toInt64 .down ≤
        (ofInt (last.toInt + 1) / factor).toInt64 .up)

/-! ### One axis -/

section Axis

variable {factor : Binary64} (hfactor : factor.isPositive = true)
variable {first last : Int64} (hle : first ≤ last)

include hfactor hle

theorem truncatedCorner_mono : truncatedCorner factor first ≤ truncatedCorner factor last := by
  have hfirst := first.le_toInt
  have hlast := last.toInt_lt
  have hint : first.toInt ≤ last.toInt := Int64.le_iff_toInt_le.1 hle
  refine quotient_mono hfactor .towardZero hint ?_ ?_
  all_goals
    simp only [resolution, binade] at *
    omega

/-- Between the clamps, the corners that are divided are still in order. -/
theorem outsetFirst_le_outsetLast (hfirst : first.toInt - 1 ≤ maxDamage)
    (hlast : minDamage ≤ last.toInt + 1) : outsetFirst factor first ≤ outsetLast factor last := by
  have hint : first.toInt ≤ last.toInt := Int64.le_iff_toInt_le.1 hle
  have hclamped : max (first.toInt - 1) minDamage ≤ min (last.toInt + 1) maxDamage :=
    max_le (le_min (by omega) hfirst) (le_min hlast (by decide))
  have hdown : outsetFirst factor first ≤
      (ofInt (min (last.toInt + 1) maxDamage) / factor).toInt64 .down := by
    refine quotient_mono hfactor .down hclamped ?_ ?_
    all_goals
      simp only [minDamage, maxDamage, resolution, binade] at *
      omega
  exact Int64.le_trans hdown (toInt64_between .up _).1

theorem outsetFirst_le_outsetLast_iff :
    outsetFirst factor first ≤ outsetLast factor last ↔ StaysOrdered factor first last := by
  have hint : first.toInt ≤ last.toInt := Int64.le_iff_toInt_le.1 hle
  have hclamps : minDamage ≤ maxDamage := by decide
  rcases Int.lt_or_le maxDamage (first.toInt - 1) with hpast | hfirst
  · -- both corners are past the last clamp, which takes hold of the last one only
    have hfree : max (first.toInt - 1) minDamage = first.toInt - 1 := max_eq_left (by omega)
    have hclamped : min (last.toInt + 1) maxDamage = maxDamage := min_eq_right (by omega)
    rw [outsetFirst, outsetLast, hfree, hclamped]
    refine ⟨.pastLast hpast, ?_⟩
    rintro (⟨hfirst, -⟩ | ⟨-, hquotient⟩ | ⟨hbefore, -⟩)
    · omega
    · exact hquotient
    · omega
  · rcases Int.lt_or_le (last.toInt + 1) minDamage with hpast | hlast
    · have hclamped : max (first.toInt - 1) minDamage = minDamage := max_eq_right (by omega)
      have hfree : min (last.toInt + 1) maxDamage = last.toInt + 1 := min_eq_left (by omega)
      rw [outsetFirst, outsetLast, hfree, hclamped]
      refine ⟨.pastFirst hpast, ?_⟩
      rintro (⟨-, hlast⟩ | ⟨hafter, -⟩ | ⟨-, hquotient⟩)
      · omega
      · omega
      · exact hquotient
    · have hreaches := outsetFirst_le_outsetLast hfactor hle hfirst hlast
      exact ⟨fun _ => .reaches hfirst hlast, fun _ => hreaches⟩

end Axis

/-! ### Rectangles -/

namespace ScaleConfig

/-- What damage is divided by: the scale in force and that of the buffer. -/
def damageFactors (config : ScaleConfig) (surface : Option SurfaceScale) (buffer : ScalePair) :
    ScalePair :=
  match config.mode with
  | .direct _ =>
      let factors := config.effective surface
      ⟨factors.x * buffer.x, factors.y * buffer.y⟩
  | .uniform => ⟨buffer.x * config.factor, buffer.y * config.factor⟩

/-- Damage of an ordered rectangle is ordered in direct mode.  In uniform mode it is ordered on
an axis exactly if the rectangle reaches the range between the clamps there, or lies past it and
its quotient, rounded outward, is not past the quotient of the clamp. -/
theorem damageToHost_ordered (config : ScaleConfig) (surface : Option SurfaceScale)
    (buffer : ScalePair) (r : DamageRect) (hordered : r.Ordered)
    (hx : (config.damageFactors surface buffer).x.isPositive = true)
    (hy : (config.damageFactors surface buffer).y.isPositive = true) :
    let factors := config.damageFactors surface buffer
    let damage := config.damageToHost surface buffer r
    (config.isDirect = true → damage.Ordered) ∧
    (config.isDirect = false →
      (damage.x₁ ≤ damage.x₂ ↔ StaysOrdered factors.x r.x₁ r.x₂) ∧
      (damage.y₁ ≤ damage.y₂ ↔ StaysOrdered factors.y r.y₁ r.y₂)) := by
  obtain ⟨hxs, hys⟩ := hordered
  cases hmode : config.mode with
  | direct pair =>
      simp only [damageFactors, hmode] at hx hy
      simp only [isDirect, damageToHost, hmode, DamageRect.Ordered, Bool.true_eq_false,
        false_implies, and_true]
      exact fun _ => ⟨truncatedCorner_mono hx hxs, truncatedCorner_mono hy hys⟩
  | uniform =>
      simp only [damageFactors, hmode] at hx hy
      simp only [isDirect, damageFactors, damageToHost, hmode, Bool.false_eq_true, false_implies,
        true_and]
      exact fun _ =>
        ⟨outsetFirst_le_outsetLast_iff hx hxs, outsetFirst_le_outsetLast_iff hy hys⟩

/-- At four pixels to a unit, a rectangle one pixel past the last clamp is rounded back to it. -/
theorem damageToHost_ordered_past_last :
    let config := ScaleConfig.uniform (ofInt 4)
    let r : DamageRect := ⟨214748366, -3, 500000000, 9⟩
    r.Ordered ∧
    (config.damageFactors none .identity).x.isPositive = true ∧
    (config.damageFactors none .identity).y.isPositive = true ∧
    config.isDirect = false ∧
    (config.damageToHost none .identity r).Ordered := by
  intro config r
  have hordered : r.Ordered := by decide
  have hx : (config.damageFactors none .identity).x.isPositive = true := by decide +kernel
  have hy : (config.damageFactors none .identity).y.isPositive = true := by decide +kernel
  have hpast : StaysOrdered (config.damageFactors none .identity).x r.x₁ r.x₂ :=
    .pastLast (by decide) (by decide +kernel)
  have hreaches : StaysOrdered (config.damageFactors none .identity).y r.y₁ r.y₂ :=
    .reaches (by decide) (by decide)
  obtain ⟨hxs, hys⟩ := (damageToHost_ordered config none .identity r hordered hx hy).2 rfl
  exact ⟨hordered, hx, hy, rfl, hxs.2 hpast, hys.2 hreaches⟩

/-- At scale one, a rectangle far past the last clamp is turned inside out. -/
theorem damageToHost_inverted :
    let config := ScaleConfig.uniform .one
    let r : DamageRect := ⟨1000000000, 0, 1000000000, 10⟩
    r.Ordered ∧
    (config.damageFactors none .identity).x.PositiveFinite ∧
    (config.damageFactors none .identity).y.PositiveFinite ∧
    config.damageToHost none .identity r = ⟨999999999, -1, 214748364, 11⟩ ∧
    ¬(config.damageToHost none .identity r).Ordered := by
  intro config r
  have hx : (config.damageFactors none .identity).x.PositiveFinite :=
    (positiveFinite_iff _).2 (by decide +kernel)
  have hy : (config.damageFactors none .identity).y.PositiveFinite :=
    (positiveFinite_iff _).2 (by decide +kernel)
  have hdamage : config.damageToHost none .identity r = ⟨999999999, -1, 214748364, 11⟩ := by
    decide +kernel
  refine ⟨by decide, hx, hy, hdamage, ?_⟩
  rw [hdamage]
  decide

end ScaleConfig

end GuestShell

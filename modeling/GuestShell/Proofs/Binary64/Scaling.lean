import GuestShell.Proofs.Binary64.Order

/-!
# Scaling by a positive finite number

A product with a positive finite number, and a quotient by one, keep the sign and multiply the
magnitude by one fraction, with one rounding.  Both are `scale`, so they have their laws in
common: numbers stay in their order and zero stays zero.

Unlike `div_mono` this asks nothing of the number that is scaled.  It may be infinite, as it is
when an earlier operation overflowed.
-/

namespace GuestShell

/-- Infinity is at the last position and is not zero. -/
theorem Magnitude.isInfinite_cases (m : Magnitude) :
    m.isInfinite = true ∧ m.isZero = false ∧ Binary64.infinityPosition ≤ m.position ∨
      m.isInfinite = false ∧ ¬Binary64.infinityPosition ≤ m.position := by
  by_cases hm : m.position = Binary64.infinityPosition
  · refine Or.inl ⟨beq_iff_eq.2 hm, beq_eq_false_iff_ne.2 ?_, hm.ge⟩
    rw [hm]
    decide
  · exact Or.inr ⟨beq_eq_false_iff_ne.2 hm, fun hlast => hm (m.position_le.antisymm hlast)⟩

namespace Binary64

/-- The magnitude at a position multiplied by the fraction `k / d`; infinity stays infinity. -/
def scaledMagnitude (k d position : Nat) : Magnitude :=
  if infinityPosition ≤ position then .infinity else roundedMagnitude (units position * k) d

/-- A number with its magnitude multiplied by the fraction `k / d`. -/
def scale (k d : Nat) : Binary64 → Binary64
  | .nan => .nan
  | .number negative m => .number negative (scaledMagnitude k d m.position)

theorem scaledMagnitude_zero (k d : Nat) : scaledMagnitude k d 0 = .zero := by
  rw [scaledMagnitude, if_neg (by decide), units_zero, Nat.zero_mul, roundedMagnitude_zero]

theorem scaledMagnitude_mono (k : Nat) {d : Nat} (hd : 0 < d) :
    Monotone fun position => (scaledMagnitude k d position).position := by
  intro p q hle
  simp only [scaledMagnitude]
  by_cases hq : infinityPosition ≤ q
  · rw [if_pos hq]
    exact Magnitude.position_le _
  · have hp : ¬infinityPosition ≤ p := fun hlast => hq (hlast.trans hle)
    rw [if_neg hp, if_neg hq]
    exact roundedMagnitude_mono hd (Nat.mul_le_mul_right k (units_mono hle))

/-- A map of numbers that keeps their order, and both zeros. -/
structure KeepsOrder (f : Binary64 → Binary64) : Prop where
  mono : ∀ {x y : Binary64}, x ≤ y → f x ≤ f y
  zero : ∀ negative, f (number negative .zero) = number negative .zero

theorem KeepsOrder.comp {f g : Binary64 → Binary64} (hg : KeepsOrder g) (hf : KeepsOrder f) :
    KeepsOrder fun x => g (f x) where
  mono hle := hg.mono (hf.mono hle)
  zero negative := by rw [hf.zero, hg.zero]

theorem keepsOrder_scale (k : Nat) {d : Nat} (hd : 0 < d) : KeepsOrder (scale k d) where
  mono {x y} hle := by
    match x, y, hle with
    | .number s a, .number t b, hle =>
      refine signed_le_signed (f := fun _ n => (scaledMagnitude k d n).position) ?_ ?_ hle
      · intro _
        exact scaledMagnitude_mono k hd
      · intro _
        rw [scaledMagnitude_zero]
        rfl
  zero negative := congrArg (number negative) (scaledMagnitude_zero k d)

section Factor

variable {z : Binary64} (hz : z.PositiveFinite)
include hz

theorem PositiveFinite.exists_magnitude :
    ∃ m : Magnitude, z = number false m ∧ m.isInfinite = false ∧ m.units ≠ 0 := by
  rw [positiveFinite_iff, Bool.and_eq_true] at hz
  match z, hz with
  | .number false m, ⟨hpositive, hfinite⟩ =>
    have hzero : m.isZero = false := Bool.not_eq_true' _ ▸ hpositive
    exact ⟨m, rfl, Bool.not_eq_true' _ ▸ hfinite, (units_pos (beq_eq_false_iff_ne.1 hzero)).ne'⟩

theorem PositiveFinite.keepsOrder_mul : KeepsOrder fun x => x * z := by
  obtain ⟨m, rfl, hfinite, hunits⟩ := hz.exists_magnitude
  have hscale : (fun x => x * number false m) = scale m.units unitsPerOne := by
    funext x
    cases x with
    | nan => rfl
    | number s a =>
        rw [scale, scaledMagnitude]
        rcases a.isInfinite_cases with ⟨hinfinite, hzero, hlast⟩ | ⟨ha, hbefore⟩
        · change mul (number s a) (number false m) = _
          simp only [mul, hinfinite, hzero, isZero_eq_false hunits, if_pos hlast, Bool.true_or,
            Bool.or_self, Bool.bne_false, Bool.false_eq_true, if_true, if_false]
        · rw [number_mul_number s false ha hfinite, if_neg hbefore, Bool.bne_false]
          rfl
  rw [hscale]
  exact keepsOrder_scale m.units unitsPerOne_pos

theorem PositiveFinite.keepsOrder_div : KeepsOrder fun x => x / z := by
  obtain ⟨m, rfl, hfinite, hunits⟩ := hz.exists_magnitude
  have hscale : (fun x => x / number false m) = scale unitsPerOne m.units := by
    funext x
    cases x with
    | nan => rfl
    | number s a =>
        rw [scale, scaledMagnitude]
        rcases a.isInfinite_cases with ⟨hinfinite, -, hlast⟩ | ⟨ha, hbefore⟩
        · change div (number s a) (number false m) = _
          simp only [div, hinfinite, hfinite, if_pos hlast, Bool.bne_false, Bool.false_eq_true,
            if_true, if_false]
        · rw [number_div_number s false ha hfinite hunits, if_neg hbefore, Bool.bne_false]
          rfl
  rw [hscale]
  exact keepsOrder_scale unitsPerOne (Nat.pos_of_ne_zero hunits)

end Factor

/-! ### Clamped to 32 bits -/

theorem toInt_ofIntClamp32 (i : Int) :
    (Int32.ofIntClamp i).toInt = max Int32.minValue.toInt (min i Int32.maxValue.toInt) := by
  have hrange : Int32.minValue.toInt ≤ Int32.maxValue.toInt := by decide
  rw [Int32.ofIntClamp]
  split
  · split
    · rw [Int32.toInt_ofIntLE]
      omega
    · omega
  · omega

theorem toInt32_mono (direction : Direction) {x y : Binary64} (hle : x ≤ y) :
    x.toInt32 direction ≤ y.toInt32 direction := by
  rw [Int32.le_iff_toInt_le, toInt32, toInt32, toInt_ofIntClamp32, toInt_ofIntClamp32]
  exact max_le_max_left _ (min_le_min_right _ (toInt_mono direction hle))

theorem toInt32_zero (direction : Direction) (negative : Bool) :
    (number negative .zero).toInt32 direction = 0 := by
  have hunits : Magnitude.zero.units = 0 := units_zero
  rw [toInt32, toInt, hunits, integer_zero]
  rfl

namespace KeepsOrder

variable {f : Binary64 → Binary64} (hf : KeepsOrder f) (direction : Direction)
include hf

/-- Integers that are converted by such a map stay in their order, also where they are clamped. -/
theorem toInt32_le {v w : Int32} (hle : v ≤ w) :
    (f (ofInt v.toInt)).toInt32 direction ≤ (f (ofInt w.toInt)).toInt32 direction :=
  toInt32_mono direction (hf.mono (ofInt_mono (Int32.le_iff_toInt_le.1 hle)))

theorem toInt32_eq_zero : (f (ofInt (0 : Int32).toInt)).toInt32 direction = 0 := by
  rw [Int32.toInt_zero, ofInt_zero, hf.zero, toInt32_zero]

end KeepsOrder

end Binary64

end GuestShell

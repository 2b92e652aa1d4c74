import GuestShell.Proofs.Binary64.Value
import Mathlib.Order.Monotone.Basic

/-!
# The order of floating-point numbers

Numbers are ordered by the positions of their magnitudes, downwards below zero.  Conversion
from integers, division by a positive number and conversion to integers in any direction keep
this order, whatever is lost by rounding and also where a result overflows.  Each of them keeps
the sign and maps magnitudes to magnitudes, so for each there is only a map of natural numbers
to look at, and `signed_le_signed` does the rest.

The order is NOT kept strictly: numbers that differ may be rounded to one.
-/

namespace GuestShell

namespace Binary64

/-! ### Rounding -/

theorem roundHalfEven_mono {n k : Nat} (hle : n ≤ k) (d : Nat) :
    roundHalfEven n d ≤ roundHalfEven k d := by
  have hquotient : n / d ≤ k / d := Nat.div_le_div_right hle
  rcases Nat.lt_or_eq_of_le hquotient with hless | hsame
  · have hn := roundHalfEven_le n d
    have hk := le_roundHalfEven k d
    omega
  · -- with one quotient, only the rests are compared
    have hn : d * (n / d) + n % d = n := Nat.div_add_mod n d
    have hk : d * (k / d) + k % d = k := Nat.div_add_mod k d
    rw [← hsame] at hk
    have hrest : n % d ≤ k % d := by omega
    simp only [roundHalfEven, ← hsame]
    split
    · split
      · exact le_rfl
      · (repeat' split) <;> omega
    · (repeat' split) <;> omega

theorem stepExponent_mono {n k : Nat} (hle : n ≤ k) (d : Nat) :
    stepExponent n d ≤ stepExponent k d :=
  Nat.sub_le_sub_right (log2_le_log2 (Nat.div_le_div_right hle)) 52

theorem nearestPosition_mono {n k d : Nat} (hd : 0 < d) (hle : n ≤ k) :
    nearestPosition n d ≤ nearestPosition k d := by
  rcases Nat.lt_or_eq_of_le (stepExponent_mono hle d) with hless | hsame
  · -- the larger significand has its leading bit, and the smaller one at most one bit more
    have hlarge := binade_le_significand hd (Nat.ne_zero_of_lt hless)
    have hsmall := significand_le n hd
    have hsteps : (stepExponent n d + 1) * binade ≤ stepExponent k d * binade :=
      Nat.mul_le_mul_right _ hless
    simp only [nearestPosition, resolution, Nat.add_mul] at *
    omega
  · simp only [nearestPosition, hsame]
    exact Nat.add_le_add_left (roundHalfEven_mono hle _) _

theorem roundedMagnitude_mono {n k d : Nat} (hd : 0 < d) (hle : n ≤ k) :
    (roundedMagnitude n d).position ≤ (roundedMagnitude k d).position :=
  min_le_min_right _ (nearestPosition_mono hd hle)

/-! ### Units -/

theorem binade_shiftLeft_mono {step k : Nat} (hle : step ≤ k) : binade <<< step ≤ binade <<< k := by
  rw [Nat.shiftLeft_eq, Nat.shiftLeft_eq]
  exact Nat.mul_le_mul_left _ (Nat.pow_le_pow_right (by decide) hle)

/-- All magnitudes up to the end of a spacing are below the next power of two. -/
theorem units_lt (position : Nat) : units position < binade <<< (position / binade) := by
  have hrest : position % binade < binade := Nat.mod_lt _ (by decide)
  cases hspacing : position / binade with
  | zero =>
      have hsum := Nat.div_add_mod position binade
      rw [hspacing] at hsum
      rw [units, if_pos hspacing, Nat.shiftLeft_zero]
      omega
  | succ step =>
      rw [units, hspacing, if_neg (Nat.succ_ne_zero step), Nat.add_sub_cancel]
      simp only [Nat.shiftLeft_eq]
      calc (binade + position % binade) * 2 ^ step
          < (binade + binade) * 2 ^ step :=
            Nat.mul_lt_mul_of_pos_right (by omega) (Nat.two_pow_pos step)
        _ = binade * 2 ^ (step + 1) := by ring

/-- A spacing begins with a power of two. -/
theorem binade_shiftLeft_le_units {position step : Nat} (hspacing : position / binade = step + 1) :
    binade <<< step ≤ units position := by
  rw [units, hspacing, if_neg (Nat.succ_ne_zero step), Nat.add_sub_cancel, Nat.shiftLeft_eq,
    Nat.shiftLeft_eq]
  exact Nat.mul_le_mul_right _ (Nat.le_add_right _ _)

theorem units_mono {p q : Nat} (hle : p ≤ q) : units p ≤ units q := by
  have hspacing : p / binade ≤ q / binade := Nat.div_le_div_right hle
  rcases Nat.lt_or_eq_of_le hspacing with hless | hsame
  · obtain ⟨step, hstep⟩ := Nat.exists_eq_succ_of_ne_zero (Nat.ne_zero_of_lt hless)
    have hbefore : p / binade ≤ step := by omega
    calc units p ≤ binade <<< (p / binade) := (units_lt p).le
      _ ≤ binade <<< step := binade_shiftLeft_mono hbefore
      _ ≤ units q := binade_shiftLeft_le_units hstep
  · have hp := Nat.div_add_mod p binade
    have hq := Nat.div_add_mod q binade
    rw [← hsame] at hq
    have hrest : p % binade ≤ q % binade := by omega
    rw [units, units, ← hsame]
    split
    · exact hle
    · rw [Nat.shiftLeft_eq, Nat.shiftLeft_eq]
      exact Nat.mul_le_mul_right _ (Nat.add_le_add_left hrest _)

/-! ### Numbers with a sign -/

/-- The order of numbers.  The two zeros are equal, and a NaN is not comparable. -/
def Le : Binary64 → Binary64 → Prop
  | .number s a, .number t b => signed s a.position ≤ signed t b.position
  | _, _ => False

instance : LE Binary64 := ⟨Le⟩

/-- Maps of magnitudes that keep their order and zero keep the order of numbers, also if the
map for negative numbers is another one. -/
theorem signed_le_signed {f : Bool → Nat → Nat} (hmono : ∀ negative, Monotone (f negative))
    (hzero : ∀ negative, f negative 0 = 0) {s t : Bool} {n k : Nat}
    (hle : signed s n ≤ signed t k) : signed s (f s n) ≤ signed t (f t k) := by
  cases s with
  | false =>
      cases t with
      | false =>
          have hmagnitude : n ≤ k := Int.ofNat_le.1 hle
          exact Int.ofNat_le.2 (hmono false hmagnitude)
      | true =>
          -- only zeros are left on the other sides
          simp only [signed, Bool.false_eq_true, if_false, if_true] at hle
          obtain rfl : n = 0 := by omega
          obtain rfl : k = 0 := by omega
          rw [hzero, hzero]
          decide
  | true =>
      cases t with
      | false =>
          simp only [signed, Bool.false_eq_true, if_false, if_true]
          omega
      | true =>
          have hmagnitude : k ≤ n := Int.ofNat_le.1 (Int.neg_le_neg_iff.1 hle)
          exact Int.neg_le_neg (Int.ofNat_le.2 (hmono true hmagnitude))

/-- A greater integer is not a smaller number. -/
theorem ofInt_mono {a b : Int} (hle : a ≤ b) : ofInt a ≤ ofInt b := by
  rw [← signed_natAbs a, ← signed_natAbs b] at hle
  refine signed_le_signed (f := fun _ n => (wholeMagnitude n).position) ?_ ?_ hle
  · intro _ n k hnk
    exact roundedMagnitude_mono Nat.one_pos (Nat.mul_le_mul_right _ hnk)
  · intro _
    rw [wholeMagnitude, Nat.zero_mul, roundedMagnitude_zero]
    rfl

/-- Integers of up to 106 bits do not overflow. -/
theorem isFinite_ofInt {i : Int} (hi : i.natAbs ≤ resolution * resolution) :
    (ofInt i).isFinite = true := by
  have hfinite : (wholeMagnitude i.natAbs).isInfinite = false := by
    refine isInfinite_roundedMagnitude Nat.one_pos ?_
    rw [Nat.div_one]
    exact log2_lt_of_le_units le_rfl hi
  rw [ofInt_eq_number, isFinite, hfinite]
  rfl

/-! ### Division -/

/-- The magnitude of a quotient of a finite number and one that is not zero. -/
def quotientMagnitude (position : Nat) (divisor : Magnitude) : Magnitude :=
  if divisor.isInfinite then .zero
  else roundedMagnitude (units position * unitsPerOne) divisor.units

theorem number_div_positive (s : Bool) {a divisor : Magnitude} (ha : a.isInfinite = false)
    (hdivisor : divisor.isZero = false) :
    number s a / number false divisor = number s (quotientMagnitude a.position divisor) := by
  change div (number s a) (number false divisor) = _
  simp only [div, ha, hdivisor, quotientMagnitude, Bool.bne_false, Bool.false_eq_true, if_false]
  split <;> rfl

/-- Finite numbers divided by one positive number stay in their order, an infinite divisor and
quotients out of range included. -/
theorem div_mono {x y z : Binary64} (hle : x ≤ y) (hx : x.isFinite = true)
    (hy : y.isFinite = true) (hz : z.isPositive = true) : x / z ≤ y / z := by
  match x, y, z, hle, hz with
  | .number s a, .number t b, .number false divisor, hle, hz =>
    have ha : a.isInfinite = false := Bool.not_eq_true' _ ▸ hx
    have hb : b.isInfinite = false := Bool.not_eq_true' _ ▸ hy
    have hdivisor : divisor.isZero = false := Bool.not_eq_true' _ ▸ hz
    rw [number_div_positive s ha hdivisor, number_div_positive t hb hdivisor]
    refine signed_le_signed (f := fun _ n => (quotientMagnitude n divisor).position) ?_ ?_ hle
    · intro _ n k hnk
      simp only [quotientMagnitude]
      split
      · exact le_rfl
      · exact roundedMagnitude_mono (units_pos (beq_eq_false_iff_ne.1 hdivisor))
          (Nat.mul_le_mul_right _ (units_mono hnk))
    · intro _
      simp only [quotientMagnitude]
      split
      · rfl
      · rw [units_zero, Nat.zero_mul, roundedMagnitude_zero]
        rfl

end Binary64

/-! ### To whole numbers -/

namespace Direction

open Binary64

/-- The whole number that a magnitude of units goes to. -/
def whole (direction : Direction) (negative : Bool) (units : Nat) : Nat :=
  if direction.awayFromZero negative (units % unitsPerOne) then units / unitsPerOne + 1
  else units / unitsPerOne

theorem integer_eq_signed (direction : Direction) (negative : Bool) (units : Nat) :
    direction.integer negative units = signed negative (direction.whole negative units) := rfl

/-- What is left over decides for the larger number the more, the larger it is. -/
theorem awayFromZero_mono (direction : Direction) (negative : Bool) {rest more : Nat}
    (hle : rest ≤ more) (haway : direction.awayFromZero negative rest = true) :
    direction.awayFromZero negative more = true := by
  cases direction with
  | down =>
      simp only [awayFromZero, Bool.and_eq_true, bne_iff_ne] at *
      exact ⟨haway.1, by omega⟩
  | up =>
      simp only [awayFromZero, Bool.and_eq_true, bne_iff_ne] at *
      exact ⟨haway.1, by omega⟩
  | towardZero => cases haway
  | nearest =>
      simp only [awayFromZero, decide_eq_true_eq] at *
      omega

theorem whole_mono (direction : Direction) (negative : Bool) :
    Monotone (direction.whole negative) := by
  intro n k hnk
  have hquotient : n / unitsPerOne ≤ k / unitsPerOne := Nat.div_le_div_right hnk
  rcases Nat.lt_or_eq_of_le hquotient with hless | hsame
  · simp only [whole]
    split <;> split <;> omega
  · have hn := Nat.div_add_mod n unitsPerOne
    have hk := Nat.div_add_mod k unitsPerOne
    rw [← hsame] at hk
    have hrest : n % unitsPerOne ≤ k % unitsPerOne := by omega
    simp only [whole, ← hsame]
    by_cases haway : direction.awayFromZero negative (n % unitsPerOne) = true
    · rw [if_pos haway, if_pos (direction.awayFromZero_mono negative hrest haway)]
    · rw [if_neg haway]
      split <;> omega

theorem whole_zero (direction : Direction) (negative : Bool) :
    direction.whole negative 0 = 0 := by
  rw [whole, Nat.zero_mod, awayFromZero_zero, Nat.zero_div]
  rfl

/-- The whole number is the quotient, or the next one if something is left over. -/
theorem whole_between (direction : Direction) (negative : Bool) (units : Nat) :
    units / unitsPerOne ≤ direction.whole negative units ∧
      direction.whole negative units ≤
        if units % unitsPerOne = 0 then units / unitsPerOne else units / unitsPerOne + 1 := by
  rw [whole]
  by_cases hrest : units % unitsPerOne = 0
  · rw [hrest, awayFromZero_zero]
    exact ⟨le_rfl, le_rfl⟩
  · rw [if_neg hrest]
    split <;> omega

end Direction

namespace Binary64

/-- A greater number has no smaller integer, in each direction. -/
theorem toInt_mono (direction : Direction) {x y : Binary64} (hle : x ≤ y) :
    x.toInt direction ≤ y.toInt direction := by
  match x, y, hle with
  | .number s a, .number t b, hle =>
    refine signed_le_signed (f := fun negative n => direction.whole negative (units n)) ?_ ?_ hle
    · intro negative n k hnk
      exact direction.whole_mono negative (units_mono hnk)
    · intro negative
      exact direction.whole_zero negative

/-- Rounding down and rounding up give the least and the greatest integer of all directions. -/
theorem toInt_between (direction : Direction) (x : Binary64) :
    x.toInt .down ≤ x.toInt direction ∧ x.toInt direction ≤ x.toInt .up := by
  cases x with
  | nan => exact ⟨le_rfl, le_rfl⟩
  | number negative m =>
      obtain ⟨hlow, hhigh⟩ := direction.whole_between negative m.units
      simp only [toInt, Direction.integer_eq_signed]
      cases negative with
      | false =>
          have hdown : Direction.down.whole false m.units = m.units / unitsPerOne := rfl
          have hup : Direction.up.whole false m.units =
              if m.units % unitsPerOne = 0 then m.units / unitsPerOne
              else m.units / unitsPerOne + 1 := by
            simp [Direction.whole, Direction.awayFromZero]
          simp only [signed, Bool.false_eq_true, if_false]
          omega
      | true =>
          have hup : Direction.up.whole true m.units = m.units / unitsPerOne := rfl
          have hdown : Direction.down.whole true m.units =
              if m.units % unitsPerOne = 0 then m.units / unitsPerOne
              else m.units / unitsPerOne + 1 := by
            simp [Direction.whole, Direction.awayFromZero]
          simp only [signed, if_true]
          omega

theorem toInt_ofIntClamp (i : Int) :
    (Int64.ofIntClamp i).toInt = max Int64.minValue.toInt (min i Int64.maxValue.toInt) := by
  have hrange : Int64.minValue.toInt ≤ Int64.maxValue.toInt := by decide
  rw [Int64.ofIntClamp]
  split
  · split
    · rw [Int64.toInt_ofIntLE]
      omega
    · omega
  · omega

theorem ofIntClamp_mono {i j : Int} (hle : i ≤ j) : Int64.ofIntClamp i ≤ Int64.ofIntClamp j := by
  rw [Int64.le_iff_toInt_le, toInt_ofIntClamp, toInt_ofIntClamp]
  exact max_le_max_left _ (min_le_min_right _ hle)

/-- Clamping keeps the order too. -/
theorem toInt64_mono (direction : Direction) {x y : Binary64} (hle : x ≤ y) :
    x.toInt64 direction ≤ y.toInt64 direction :=
  ofIntClamp_mono (toInt_mono direction hle)

theorem toInt64_between (direction : Direction) (x : Binary64) :
    x.toInt64 .down ≤ x.toInt64 direction ∧ x.toInt64 direction ≤ x.toInt64 .up :=
  ⟨ofIntClamp_mono (x.toInt_between direction).1, ofIntClamp_mono (x.toInt_between direction).2⟩

end Binary64

end GuestShell

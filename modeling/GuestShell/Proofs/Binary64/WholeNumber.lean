import GuestShell.Binary64.Integral
import GuestShell.Proofs.Binary64.RelativeError
import Mathlib.Data.Nat.Log

/-!
# Whole numbers as floating-point numbers

A whole number of at most 53 bits becomes the floating-point number with exactly its value.
A magnitude that is less than a half away from a whole number comes back as that number when
it is rounded, and as that number or the one before when it is truncated.
-/

namespace GuestShell

namespace Binary64

/-! ### Numbers of bits -/

theorem log2_mul_shiftLeft {n : Nat} (hn : n ≠ 0) (k : Nat) :
    (n * (1 <<< k)).log2 = n.log2 + k := by
  have hpos : 0 < 2 ^ k := Nat.two_pow_pos k
  rw [Nat.one_shiftLeft, Nat.log2_eq_iff (Nat.mul_ne_zero hn hpos.ne')]
  refine ⟨?_, ?_⟩
  · rw [pow_add]
    exact Nat.mul_le_mul_right _ (Nat.log2_self_le hn)
  · rw [Nat.add_right_comm, pow_add]
    exact Nat.mul_lt_mul_of_pos_right Nat.lt_log2_self hpos

theorem log2_le_log2 {n k : Nat} (h : n ≤ k) : n.log2 ≤ k.log2 := by
  rw [Nat.log2_eq_log_two, Nat.log2_eq_log_two]
  exact Nat.log_mono_right h

theorem one_shiftLeft_dvd {step k : Nat} (h : step ≤ k) : 1 <<< step ∣ 1 <<< k := by
  rw [Nat.one_shiftLeft, Nat.one_shiftLeft]
  exact Nat.pow_dvd_pow 2 h

theorem one_shiftLeft_lt {step k : Nat} (h : step < k) : 1 <<< step < 1 <<< k := by
  rw [Nat.one_shiftLeft, Nat.one_shiftLeft]
  exact Nat.pow_lt_pow_right (by decide) h

theorem unitsPerOne_pos : 0 < unitsPerOne := shiftLeft_pos Nat.one_pos 1074

theorem log2_mul_unitsPerOne {n : Nat} (hn : n ≠ 0) : (n * unitsPerOne).log2 = n.log2 + 1074 :=
  log2_mul_shiftLeft hn 1074

/-- Fractions that are no more than a whole number of some hundred bits are within range. -/
theorem log2_lt_of_le_units {q k : Nat} (hq : q ≤ k * unitsPerOne)
    (hk : k ≤ resolution * resolution) : q.log2 < 2096 := by
  have hle := log2_le_log2 hq
  have hbits : k.log2 ≤ 106 := (log2_le_log2 hk).trans (by decide)
  by_cases hzero : k = 0
  · rw [hzero, Nat.zero_mul] at hle
    exact Nat.lt_of_le_of_lt hle (by decide)
  · rw [log2_mul_unitsPerOne hzero] at hle
    omega

/-! ### From whole numbers -/

/-- The magnitude that a whole number becomes. -/
def wholeMagnitude (n : Nat) : Magnitude := roundedMagnitude (n * unitsPerOne) 1

theorem ofInt_eq_number (i : Int) : ofInt i = .number (i < 0) (wholeMagnitude i.natAbs) := rfl

/-- A whole number of at most 53 bits is a whole number of steps. -/
theorem stepExponent_dvd {n : Nat} (hn : n < resolution) :
    1 <<< stepExponent (n * unitsPerOne) 1 ∣ n * unitsPerOne := by
  by_cases hzero : n = 0
  · rw [hzero, Nat.zero_mul]
    exact Nat.dvd_zero _
  · have hbits : n.log2 < 53 := (Nat.log2_lt hzero).2 hn
    have hstep : stepExponent (n * unitsPerOne) 1 ≤ 1074 := by
      rw [stepExponent, Nat.div_one, log2_mul_unitsPerOne hzero]
      omega
    exact Dvd.dvd.mul_left (one_shiftLeft_dvd hstep) n

theorem le_square_of_lt {n : Nat} (hn : n < resolution) : n ≤ resolution * resolution :=
  hn.le.trans (Nat.le_mul_self resolution)

/-- A whole number of at most 53 bits keeps its value. -/
theorem units_wholeMagnitude {n : Nat} (hn : n < resolution) :
    (wholeMagnitude n).units = n * unitsPerOne := by
  exact units_roundedMagnitude_of_dvd (stepExponent_dvd hn)
    (log2_lt_of_le_units le_rfl (le_square_of_lt hn))

theorem isInfinite_wholeMagnitude {n : Nat} (hn : n < resolution) :
    (wholeMagnitude n).isInfinite = false := by
  refine isInfinite_roundedMagnitude Nat.one_pos ?_
  rw [Nat.div_one]
  exact log2_lt_of_le_units le_rfl (le_square_of_lt hn)

/-! ### Operations on finite numbers -/

theorem isZero_eq_false {m : Magnitude} (hm : m.units ≠ 0) : m.isZero = false := by
  rw [Magnitude.isZero, beq_eq_false_iff_ne]
  intro hzero
  rw [Magnitude.units, hzero, units_zero] at hm
  exact hm rfl

theorem number_div_number (s t : Bool) {a b : Magnitude} (ha : a.isInfinite = false)
    (hb : b.isInfinite = false) (hzero : b.units ≠ 0) :
    number s a / number t b = rounded (s != t) (a.units * unitsPerOne) b.units := by
  change div (number s a) (number t b) = _
  simp only [div, ha, hb, isZero_eq_false hzero, Bool.false_eq_true, if_false]

theorem number_mul_number (s t : Bool) {a b : Magnitude} (ha : a.isInfinite = false)
    (hb : b.isInfinite = false) :
    number s a * number t b = rounded (s != t) (a.units * b.units) unitsPerOne := by
  change mul (number s a) (number t b) = _
  simp only [mul, ha, hb, Bool.or_self, Bool.false_eq_true, if_false]

theorem roundedMagnitude_zero (d : Nat) : roundedMagnitude 0 d = .zero := by
  have hstep : stepExponent 0 d = 0 := by
    rw [stepExponent, Nat.zero_div]
    decide
  have hwhole : ∀ k, roundHalfEven 0 k = 0 := by
    intro k
    simp [roundHalfEven]
  rw [roundedMagnitude, nearestPosition, hstep, hwhole]
  rfl

theorem ofInt_zero : ofInt 0 = number false .zero := by
  rw [ofInt_eq_number, wholeMagnitude, Int.natAbs_zero, Nat.zero_mul, roundedMagnitude_zero]
  rfl

/-- Zero divided by anything is zero, or not a number. -/
theorem ofInt_zero_div (x : Binary64) :
    ofInt 0 / x = .nan ∨ ∃ negative, ofInt 0 / x = number negative .zero := by
  rw [ofInt_zero]
  change div _ _ = _ ∨ ∃ negative, div _ _ = _
  cases x with
  | nan => exact Or.inl rfl
  | number t b =>
      have hfinite : Magnitude.zero.isInfinite = false := by decide
      have hnone : Magnitude.zero.units * unitsPerOne = 0 := by
        rw [Magnitude.units, show Magnitude.zero.position = 0 from rfl, units_zero, Nat.zero_mul]
      simp only [div, hfinite, Bool.false_eq_true, if_false]
      split
      · exact Or.inr ⟨_, rfl⟩
      · split
        · exact Or.inl rfl
        · refine Or.inr ⟨false != t, ?_⟩
          rw [hnone, rounded, roundedMagnitude_zero]

/-! ### To whole numbers -/

/-- A whole number with a sign. -/
def signed (negative : Bool) (n : Nat) : Int := if negative then -(n : Int) else n

theorem natAbs_signed (negative : Bool) (n : Nat) : (signed negative n).natAbs = n := by
  cases negative
  · exact Int.natAbs_natCast n
  · exact (Int.natAbs_neg _).trans (Int.natAbs_natCast n)

/-- A whole number is its magnitude with its sign. -/
theorem signed_natAbs (i : Int) : signed (decide (i < 0)) i.natAbs = i := by
  by_cases hi : i < 0
  · rw [decide_eq_true hi, signed, if_pos rfl]
    omega
  · rw [decide_eq_false hi, signed, if_neg Bool.false_ne_true]
    omega

theorem integer_towardZero (negative : Bool) (units : Nat) :
    Direction.towardZero.integer negative units = signed negative (units / unitsPerOne) := rfl

/-- A whole number of units stays where it is. -/
theorem awayFromZero_zero (direction : Direction) (negative : Bool) :
    direction.awayFromZero negative 0 = false := by
  have hpos := unitsPerOne_pos
  cases direction <;> simp [Direction.awayFromZero]
  omega

theorem integer_zero (direction : Direction) (negative : Bool) :
    direction.integer negative 0 = 0 := by
  rw [Direction.integer, Nat.zero_mod, awayFromZero_zero, Nat.zero_div]
  cases negative <;> rfl

/-- A quotient that is less than a half away from a whole number is that number with a rest
of less than a half, or the number before with a rest of at least a half. -/
theorem div_cases {one n k : Nat} (hlow : 2 * (k * one) ≤ 2 * n + one)
    (hhigh : 2 * n < 2 * (k * one) + one) :
    (n / one = k ∧ ¬one ≤ 2 * (n % one)) ∨ (n / one + 1 = k ∧ one ≤ 2 * (n % one)) := by
  have hone : 0 < one := by
    rcases Nat.eq_zero_or_pos one with rfl | hpos
    · omega
    · exact hpos
  have hdiv : n / one * one + n % one = n := Nat.div_add_mod' n one
  have hrest := Nat.mod_lt n hone
  have hupper : n / one < k + 1 := by
    by_contra hge
    have hle : (k + 1) * one ≤ n / one * one := Nat.mul_le_mul_right one (by omega)
    rw [Nat.succ_mul] at hle
    omega
  have hlower : k < n / one + 2 := by
    by_contra hge
    have hle : (n / one + 2) * one ≤ k * one := Nat.mul_le_mul_right one (by omega)
    rw [Nat.add_mul] at hle
    omega
  rcases (by omega : n / one = k ∨ n / one + 1 = k) with hsame | hbefore
  · rw [hsame] at hdiv
    exact Or.inl ⟨hsame, by omega⟩
  · have hnext : (n / one + 1) * one = n / one * one + one := Nat.succ_mul _ _
    rw [hbefore] at hnext
    exact Or.inr ⟨hbefore, by omega⟩

/-- A magnitude that is less than a half away from a whole number is rounded to it. -/
theorem integer_nearest (negative : Bool) {units k : Nat}
    (hlow : 2 * (k * unitsPerOne) ≤ 2 * units + unitsPerOne)
    (hhigh : 2 * units < 2 * (k * unitsPerOne) + unitsPerOne) :
    Direction.nearest.integer negative units = signed negative k := by
  rw [Direction.integer, Direction.awayFromZero]
  rcases div_cases hlow hhigh with ⟨hsame, hkept⟩ | ⟨hbefore, hraised⟩
  · rw [decide_eq_false hkept, hsame]
    rfl
  · rw [decide_eq_true hraised, hbefore.symm]
    rfl

end Binary64

end GuestShell

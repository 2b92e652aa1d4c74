import GuestShell.Proofs.Binary64.WholeNumber

/-!
# Ratios of sizes

The ratio of two sizes is rounded when it is computed, and so is every product and quotient
with it.  Sizes have so few bits that the errors stay far below one half: divided by their
ratio, the pixels are less than a half away from the logical units they were divided by, and
fewer logical units times the ratio are less than the pixels.
-/

namespace GuestShell

namespace Binary64

/-- The magnitudes of sizes are at most this: `2 ^ 31`. -/
def sizeLimit : Nat := 2147483648

/-- The magnitude of the ratio of two whole numbers. -/
def ratioMagnitude (pixels logical : Nat) : Magnitude :=
  roundedMagnitude (pixels * unitsPerOne) logical

/-- The units in one leave room for every product of sizes. -/
theorem sizes_lt_unitsPerOne : sizeLimit * sizeLimit * resolution < unitsPerOne :=
  (by decide : sizeLimit * sizeLimit * resolution = 1 <<< 115) ▸
    one_shiftLeft_lt (by decide : 115 < 1074)

section Ratio

variable {pixels logical : Nat} (hp : 0 < pixels) (hl : 0 < logical)
  (hpixels : pixels ≤ sizeLimit) (hlogical : logical ≤ sizeLimit)

include hp hl hpixels hlogical

theorem near_ratioMagnitude :
    (ratioMagnitude pixels logical).Near (pixels * unitsPerOne) logical := by
  have hlarge := sizes_lt_unitsPerOne
  have hmany : unitsPerOne ≤ pixels * unitsPerOne := Nat.le_mul_of_pos_left _ hp
  refine near_roundedMagnitude hl ?_ ?_
  · simp only [sizeLimit, resolution, binade] at *
    omega
  · refine log2_lt_of_le_units (Nat.div_le_self _ _) ?_
    simp only [sizeLimit, resolution, binade] at *
    omega

/-- The ratio is at least about one unit of pixels for each logical unit, and at most about
the pixels. -/
theorem ratioMagnitude_bounds :
    pixels * unitsPerOne ≤ 2 * logical * (ratioMagnitude pixels logical).units ∧
      (ratioMagnitude pixels logical).units ≤ 2 * pixels * unitsPerOne := by
  have hnear := near_ratioMagnitude hp hl hpixels hlogical
  have hbelow := hnear.below
  have habove := hnear.above
  have hle : (ratioMagnitude pixels logical).units ≤
      (ratioMagnitude pixels logical).units * logical := Nat.le_mul_of_pos_right _ hl
  rw [Nat.mul_assoc, Nat.mul_assoc, Nat.mul_comm logical]
  simp only [resolution, binade] at *
  omega

theorem ratioMagnitude_units_ne_zero : (ratioMagnitude pixels logical).units ≠ 0 := by
  have hbound := (ratioMagnitude_bounds hp hl hpixels hlogical).1
  have hpos : 0 < pixels * unitsPerOne := Nat.mul_pos hp unitsPerOne_pos
  intro hzero
  rw [hzero, Nat.mul_zero] at hbound
  omega

/-- What the pixels come to when they are divided by the ratio. -/
theorem near_quotient :
    (roundedMagnitude (pixels * unitsPerOne * unitsPerOne)
        (ratioMagnitude pixels logical).units).Near
      (pixels * unitsPerOne * unitsPerOne) (ratioMagnitude pixels logical).units := by
  obtain ⟨hlow, hhigh⟩ := ratioMagnitude_bounds hp hl hpixels hlogical
  have hratio := Nat.pos_of_ne_zero (ratioMagnitude_units_ne_zero hp hl hpixels hlogical)
  have hlarge := sizes_lt_unitsPerOne
  refine near_roundedMagnitude hratio ?_ ?_
  · calc binade * (ratioMagnitude pixels logical).units
        ≤ binade * (2 * pixels * unitsPerOne) := Nat.mul_le_mul_left _ hhigh
      _ = pixels * unitsPerOne * resolution := by rw [resolution]; ring
      _ ≤ pixels * unitsPerOne * unitsPerOne := by
          refine Nat.mul_le_mul_left _ ?_
          simp only [sizeLimit, resolution, binade] at *
          omega
  · have hquotient : pixels * unitsPerOne * unitsPerOne / (ratioMagnitude pixels logical).units ≤
        2 * logical * unitsPerOne := by
      refine Nat.div_le_of_le_mul ?_
      calc pixels * unitsPerOne * unitsPerOne
          ≤ 2 * logical * (ratioMagnitude pixels logical).units * unitsPerOne :=
            Nat.mul_le_mul_right _ hlow
        _ = (ratioMagnitude pixels logical).units * (2 * logical * unitsPerOne) := by ring
    refine log2_lt_of_le_units hquotient ?_
    simp only [sizeLimit, resolution, binade] at *
    omega

/-- Divided by the ratio, the pixels are less than a half away from the logical units. -/
theorem quotient_units :
    let quotient := (roundedMagnitude (pixels * unitsPerOne * unitsPerOne)
      (ratioMagnitude pixels logical).units).units
    2 * (logical * unitsPerOne) ≤ 2 * quotient + unitsPerOne ∧
      2 * quotient < 2 * (logical * unitsPerOne) + unitsPerOne := by
  intro quotient
  obtain ⟨-, hratio, hratio'⟩ := near_ratioMagnitude hp hl hpixels hlogical
  obtain ⟨-, hquotient, hquotient'⟩ := near_quotient hp hl hpixels hlogical
  set ratio := (ratioMagnitude pixels logical).units
  have hpos : 0 < pixels * unitsPerOne * unitsPerOne :=
    Nat.mul_pos (Nat.mul_pos hp unitsPerOne_pos) unitsPerOne_pos
  -- were it further away, the two errors together would be more than two parts in `2 ^ 53`
  constructor
  · by_contra hfar
    have hless : 2 * quotient ≤ (2 * logical - 1) * unitsPerOne := by
      rw [Nat.sub_mul, Nat.mul_assoc]
      omega
    have hchain : 2 * logical * (resolution - 1) * (pixels * unitsPerOne * unitsPerOne) ≤
        (2 * logical - 1) * (resolution + 1) * (pixels * unitsPerOne * unitsPerOne) := by
      calc 2 * logical * (resolution - 1) * (pixels * unitsPerOne * unitsPerOne)
          = 2 * logical * ((resolution - 1) * (pixels * unitsPerOne * unitsPerOne)) := by ring
        _ ≤ 2 * logical * (resolution * (quotient * ratio)) := Nat.mul_le_mul_left _ hquotient
        _ = 2 * quotient * (resolution * (ratio * logical)) := by ring
        _ ≤ 2 * quotient * ((resolution + 1) * (pixels * unitsPerOne)) :=
            Nat.mul_le_mul_left _ hratio'
        _ ≤ (2 * logical - 1) * unitsPerOne * ((resolution + 1) * (pixels * unitsPerOne)) :=
            Nat.mul_le_mul_right _ hless
        _ = (2 * logical - 1) * (resolution + 1) * (pixels * unitsPerOne * unitsPerOne) := by ring
    have hfalse := Nat.le_of_mul_le_mul_right hchain hpos
    simp only [resolution, binade, sizeLimit] at *
    omega
  · by_contra hfar
    have hmore : (2 * logical + 1) * unitsPerOne ≤ 2 * quotient := by
      rw [Nat.succ_mul, Nat.mul_assoc]
      omega
    have hchain : (2 * logical + 1) * (resolution - 1) * (pixels * unitsPerOne * unitsPerOne) ≤
        2 * logical * (resolution + 1) * (pixels * unitsPerOne * unitsPerOne) := by
      calc (2 * logical + 1) * (resolution - 1) * (pixels * unitsPerOne * unitsPerOne)
          = (2 * logical + 1) * unitsPerOne * ((resolution - 1) * (pixels * unitsPerOne)) := by
            ring
        _ ≤ 2 * quotient * ((resolution - 1) * (pixels * unitsPerOne)) :=
            Nat.mul_le_mul_right _ hmore
        _ ≤ 2 * quotient * (resolution * (ratio * logical)) := Nat.mul_le_mul_left _ hratio
        _ = 2 * logical * (resolution * (quotient * ratio)) := by ring
        _ ≤ 2 * logical * ((resolution + 1) * (pixels * unitsPerOne * unitsPerOne)) :=
            Nat.mul_le_mul_left _ hquotient'
        _ = 2 * logical * (resolution + 1) * (pixels * unitsPerOne * unitsPerOne) := by ring
    have hfalse := Nat.le_of_mul_le_mul_right hchain hpos
    simp only [resolution, binade, sizeLimit] at *
    omega

theorem binade_le_ratioMagnitude : binade ≤ (ratioMagnitude pixels logical).units := by
  have hlarge := sizes_lt_unitsPerOne
  have hmany : unitsPerOne ≤ pixels * unitsPerOne := Nat.le_mul_of_pos_left _ hp
  have hlow := (ratioMagnitude_bounds hp hl hpixels hlogical).1
  by_contra hfew
  have hless : 2 * logical * (ratioMagnitude pixels logical).units ≤ 2 * sizeLimit * binade :=
    Nat.mul_le_mul (Nat.mul_le_mul_left 2 hlogical) (by omega)
  simp only [sizeLimit, resolution, binade] at *
  omega

/-- What some logical units come to when they are multiplied by the ratio. -/
theorem near_product {some : Nat} (hsome : 0 < some) (hle : some ≤ logical) :
    (roundedMagnitude (some * unitsPerOne * (ratioMagnitude pixels logical).units)
      unitsPerOne).Near (some * (ratioMagnitude pixels logical).units) 1 := by
  have hmany := binade_le_ratioMagnitude hp hl hpixels hlogical
  have hhigh := (ratioMagnitude_bounds hp hl hpixels hlogical).2
  set ratio := (ratioMagnitude pixels logical).units
  -- the units in one cancel
  have hcommon := roundedMagnitude_mul_right (some * ratio) 1 unitsPerOne_pos
  rw [Nat.one_mul, Nat.mul_right_comm] at hcommon
  rw [hcommon]
  refine near_roundedMagnitude Nat.one_pos ?_ ?_
  · rw [Nat.mul_one]
    exact hmany.trans (Nat.le_mul_of_pos_left _ hsome)
  · have hproduct : some * ratio / 1 ≤ some * (2 * pixels) * unitsPerOne := by
      rw [Nat.div_one, Nat.mul_assoc]
      exact Nat.mul_le_mul_left _ hhigh
    have hsizes : some * (2 * pixels) ≤ sizeLimit * (2 * sizeLimit) :=
      Nat.mul_le_mul (hle.trans hlogical) (Nat.mul_le_mul_left 2 hpixels)
    exact log2_lt_of_le_units hproduct (hsizes.trans (by decide))

/-- The product of the ratio with fewer than the logical units is less than the pixels. -/
theorem product_units_lt {fewer : Nat} (hfewer : fewer < logical) :
    (roundedMagnitude (fewer * unitsPerOne * (ratioMagnitude pixels logical).units)
      unitsPerOne).units < pixels * unitsPerOne := by
  have hpos : 0 < pixels * unitsPerOne := Nat.mul_pos hp unitsPerOne_pos
  rcases Nat.eq_zero_or_pos fewer with rfl | hsome
  · rw [Nat.zero_mul, Nat.zero_mul, roundedMagnitude_zero]
    exact hpos
  · obtain ⟨-, -, hproduct⟩ := near_product hp hl hpixels hlogical hsome hfewer.le
    obtain ⟨-, -, hratio⟩ := near_ratioMagnitude hp hl hpixels hlogical
    set ratio := (ratioMagnitude pixels logical).units
    set product := (roundedMagnitude (fewer * unitsPerOne * ratio) unitsPerOne).units
    rw [Nat.mul_one] at hproduct
    -- one logical unit is much more than the two errors together
    by_contra hfar
    have hchain : resolution * resolution * logical * (pixels * unitsPerOne) ≤
        (resolution + 1) * (resolution + 1) * fewer * (pixels * unitsPerOne) := by
      calc resolution * resolution * logical * (pixels * unitsPerOne)
          ≤ resolution * resolution * logical * product :=
            Nat.mul_le_mul_left _ (Nat.le_of_not_lt hfar)
        _ = resolution * logical * (resolution * product) := by ring
        _ ≤ resolution * logical * ((resolution + 1) * (fewer * ratio)) :=
            Nat.mul_le_mul_left _ hproduct
        _ = (resolution + 1) * fewer * (resolution * (ratio * logical)) := by ring
        _ ≤ (resolution + 1) * fewer * ((resolution + 1) * (pixels * unitsPerOne)) :=
            Nat.mul_le_mul_left _ hratio
        _ = (resolution + 1) * (resolution + 1) * fewer * (pixels * unitsPerOne) := by ring
    have hfalse := Nat.le_of_mul_le_mul_right hchain hpos
    simp only [resolution, binade, sizeLimit] at *
    omega

/-- Multiplied by the ratio, the logical units are less than a half away from the pixels. -/
theorem product_units :
    let product := (roundedMagnitude (logical * unitsPerOne * (ratioMagnitude pixels logical).units)
      unitsPerOne).units
    2 * (pixels * unitsPerOne) ≤ 2 * product + unitsPerOne ∧
      2 * product < 2 * (pixels * unitsPerOne) + unitsPerOne := by
  intro product
  obtain ⟨-, hproduct, hproduct'⟩ := near_product hp hl hpixels hlogical hl le_rfl
  obtain ⟨-, hratio, hratio'⟩ := near_ratioMagnitude hp hl hpixels hlogical
  set ratio := (ratioMagnitude pixels logical).units
  rw [Nat.mul_one] at hproduct hproduct'
  have hone := unitsPerOne_pos
  -- the two errors together are about two parts in `2 ^ 53`, and the pixels have 31 bits
  constructor
  · by_contra hfar
    have hless : 2 * product ≤ (2 * pixels - 1) * unitsPerOne := by
      rw [Nat.sub_mul, Nat.mul_assoc]
      omega
    have hchain : (resolution - 1) * (resolution - 1) * (2 * pixels) * unitsPerOne ≤
        resolution * resolution * (2 * pixels - 1) * unitsPerOne := by
      calc (resolution - 1) * (resolution - 1) * (2 * pixels) * unitsPerOne
          = 2 * (resolution - 1) * ((resolution - 1) * (pixels * unitsPerOne)) := by ring
        _ ≤ 2 * (resolution - 1) * (resolution * (ratio * logical)) :=
            Nat.mul_le_mul_left _ hratio
        _ = 2 * resolution * ((resolution - 1) * (logical * ratio)) := by ring
        _ ≤ 2 * resolution * (resolution * product) := Nat.mul_le_mul_left _ hproduct
        _ = resolution * resolution * (2 * product) := by ring
        _ ≤ resolution * resolution * ((2 * pixels - 1) * unitsPerOne) :=
            Nat.mul_le_mul_left _ hless
        _ = resolution * resolution * (2 * pixels - 1) * unitsPerOne := by ring
    have hfalse := Nat.le_of_mul_le_mul_right hchain hone
    simp only [resolution, binade, sizeLimit] at *
    omega
  · by_contra hfar
    have hmore : (2 * pixels + 1) * unitsPerOne ≤ 2 * product := by
      rw [Nat.succ_mul, Nat.mul_assoc]
      omega
    have hchain : resolution * resolution * (2 * pixels + 1) * unitsPerOne ≤
        (resolution + 1) * (resolution + 1) * (2 * pixels) * unitsPerOne := by
      calc resolution * resolution * (2 * pixels + 1) * unitsPerOne
          = resolution * resolution * ((2 * pixels + 1) * unitsPerOne) := by ring
        _ ≤ resolution * resolution * (2 * product) := Nat.mul_le_mul_left _ hmore
        _ = 2 * resolution * (resolution * product) := by ring
        _ ≤ 2 * resolution * ((resolution + 1) * (logical * ratio)) :=
            Nat.mul_le_mul_left _ hproduct'
        _ = 2 * (resolution + 1) * (resolution * (ratio * logical)) := by ring
        _ ≤ 2 * (resolution + 1) * ((resolution + 1) * (pixels * unitsPerOne)) :=
            Nat.mul_le_mul_left _ hratio'
        _ = (resolution + 1) * (resolution + 1) * (2 * pixels) * unitsPerOne := by ring
    have hfalse := Nat.le_of_mul_le_mul_right hchain hone
    simp only [resolution, binade, sizeLimit] at *
    omega

end Ratio

theorem natAbs_toInt_le (v : Int32) : v.toInt.natAbs ≤ sizeLimit := by
  have hlow := v.le_toInt
  have hhigh := v.toInt_lt
  simp only [sizeLimit]
  omega

theorem natAbs_toInt_pos {v : Int32} (hv : v ≠ 0) : 0 < v.toInt.natAbs := by
  rw [Int.natAbs_pos]
  intro hzero
  exact hv (Int32.toInt_inj.1 (hzero.trans Int32.toInt_zero.symm))

theorem lt_resolution_of_le_sizeLimit {n : Nat} (hn : n ≤ sizeLimit) : n < resolution :=
  Nat.lt_of_le_of_lt hn (by decide)

/-- The quotient of two sizes is their ratio. -/
theorem ofInt_div_ofInt {a b : Int} (ha : a.natAbs ≤ sizeLimit) (hb : b.natAbs ≤ sizeLimit)
    (hzero : b ≠ 0) :
    ofInt a / ofInt b =
      number (decide (a < 0) != decide (b < 0)) (ratioMagnitude a.natAbs b.natAbs) := by
  have hunits := units_wholeMagnitude (lt_resolution_of_le_sizeLimit hb)
  have hne : (wholeMagnitude b.natAbs).units ≠ 0 := by
    rw [hunits]
    exact (Nat.mul_pos (Int.natAbs_pos.2 hzero) unitsPerOne_pos).ne'
  rw [ofInt_eq_number, ofInt_eq_number,
    number_div_number _ _ (isInfinite_wholeMagnitude (lt_resolution_of_le_sizeLimit ha))
      (isInfinite_wholeMagnitude (lt_resolution_of_le_sizeLimit hb)) hne,
    units_wholeMagnitude (lt_resolution_of_le_sizeLimit ha), hunits, rounded,
    roundedMagnitude_mul_right _ _ unitsPerOne_pos, ratioMagnitude]

end Binary64

end GuestShell

import GuestShell.Proofs.Binary64.Ratio
import GuestShell.Scale.Calibration

/-!
# Calibration keeps the logical size

A calibrated surface converts with the ratio of its pixels to its logical units, and that
ratio has been rounded.  Divided by it, the pixels are less than a half away from the logical
units: rounding gives the logical units, truncation may give one less.  If it does, the way
back falls short of the pixels, so calibration makes the axis round.

So under its own override every size is converted to the logical size that the global factors
give, whatever those are.  Nothing is claimed here of the way back.
-/

namespace GuestShell

open Binary64

/-- A coordinate on the host, from pixels. -/
def hostCoordinate (factor : Binary64) (direction : Direction) (v : Int32) : Int32 :=
  (ofInt v.toInt / factor).toInt32 direction

/-- A coordinate in pixels, from the host. -/
def guestCoordinate (factor : Binary64) (direction : Direction) (v : Int32) : Int32 :=
  (ofInt v.toInt * factor).toInt32 direction

namespace ScaleConfig

theorem guestToHost_eq (config : ScaleConfig) (surface : Option SurfaceScale) (p : Point) :
    config.guestToHost surface p =
      ⟨hostCoordinate (config.effective surface).x (config.directions surface).1 p.x,
       hostCoordinate (config.effective surface).y (config.directions surface).2 p.y⟩ := rfl

theorem hostToGuest_eq (config : ScaleConfig) (surface : Option SurfaceScale) (p : Point) :
    config.hostToGuest surface p =
      ⟨guestCoordinate (config.effective surface).x (config.directions surface).1 p.x,
       guestCoordinate (config.effective surface).y (config.directions surface).2 p.y⟩ := rfl

end ScaleConfig

/-- A number within the range of 32 bits is not clamped. -/
theorem toInt_toInt32 {x : Binary64} {direction : Direction}
    (hlow : -2147483648 ≤ x.toInt direction) (hhigh : x.toInt direction ≤ 2147483647) :
    (x.toInt32 direction).toInt = x.toInt direction :=
  Int32.toInt_ofIntClamp hlow hhigh

/-- No pixels are no logical units, whatever the factor. -/
theorem hostCoordinate_zero (factor : Binary64) (direction : Direction) :
    hostCoordinate factor direction 0 = 0 := by
  rw [hostCoordinate, Int32.toInt_zero, toInt32]
  have hnone : (ofInt 0 / factor).toInt direction = 0 := by
    rcases ofInt_zero_div factor with hnan | ⟨negative, hzero⟩
    · rw [hnan, toInt]
    · rw [hzero, toInt, Magnitude.units, show Magnitude.zero.position = 0 from rfl, units_zero,
        integer_zero]
  rw [hnone]
  decide

section Axis

variable {pixels logical : Int32} (hp : pixels ≠ 0) (hl : 0 < logical.toInt)

include hl in
theorem ofInt_div_ofInt_size :
    ofInt pixels.toInt / ofInt logical.toInt =
      .number (decide (pixels.toInt < 0))
        (ratioMagnitude pixels.toInt.natAbs logical.toInt.natAbs) := by
  have hsign : decide (logical.toInt < 0) = false := decide_eq_false (by omega)
  rw [ofInt_div_ofInt (natAbs_toInt_le pixels) (natAbs_toInt_le logical) hl.ne', hsign,
    Bool.bne_false]

include hp hl

/-- Divided by the ratio, the pixels become a positive magnitude near the logical units. -/
theorem ofInt_div_ratio :
    ∃ quotient : Magnitude,
      ofInt pixels.toInt / (ofInt pixels.toInt / ofInt logical.toInt) = .number false quotient ∧
      2 * (logical.toInt.natAbs * unitsPerOne) ≤ 2 * quotient.units + unitsPerOne ∧
      2 * quotient.units < 2 * (logical.toInt.natAbs * unitsPerOne) + unitsPerOne := by
  have hpos := natAbs_toInt_pos hp
  have hlpos : 0 < logical.toInt.natAbs := Int.natAbs_pos.2 hl.ne'
  have hpixels := natAbs_toInt_le pixels
  have hlogical := natAbs_toInt_le logical
  refine ⟨_, ?_, quotient_units hpos hlpos hpixels hlogical⟩
  rw [ofInt_div_ofInt_size hl, ofInt_eq_number,
    number_div_number _ _ (isInfinite_wholeMagnitude (lt_resolution_of_le_sizeLimit hpixels))
      (near_ratioMagnitude hpos hlpos hpixels hlogical).finite
      (ratioMagnitude_units_ne_zero hpos hlpos hpixels hlogical),
    units_wholeMagnitude (lt_resolution_of_le_sizeLimit hpixels), bne_self_eq_false]
  rfl

/-- Rounded, the pixels divided by the ratio are the logical units. -/
theorem hostCoordinate_ratio_nearest :
    hostCoordinate (ofInt pixels.toInt / ofInt logical.toInt) .nearest pixels = logical := by
  obtain ⟨quotient, hquotient, hlow, hhigh⟩ := ofInt_div_ratio hp hl
  have hbelow := logical.toInt_lt
  have hint : (Binary64.number false quotient).toInt .nearest = logical.toInt := by
    rw [toInt, integer_nearest false hlow hhigh]
    exact Int.natAbs_of_nonneg hl.le
  rw [hostCoordinate, hquotient]
  apply Int32.toInt_inj.1
  rw [toInt_toInt32 (by omega) (by omega), hint]

/-- Truncated, they are the logical units or one less. -/
theorem hostCoordinate_ratio_towardZero :
    let host := hostCoordinate (ofInt pixels.toInt / ofInt logical.toInt) .towardZero pixels
    host = logical ∨ host.toInt + 1 = logical.toInt := by
  obtain ⟨quotient, hquotient, hlow, hhigh⟩ := ofInt_div_ratio hp hl
  have hbelow := logical.toInt_lt
  have hlogical := Int.natAbs_of_nonneg hl.le
  have hint : (Binary64.number false quotient).toInt .towardZero =
      (quotient.units / unitsPerOne : Nat) := rfl
  rw [hostCoordinate, hquotient]
  intro host
  rcases div_cases hlow hhigh with ⟨hsame, -⟩ | ⟨hbefore, -⟩
  · have hhost : host.toInt = logical.toInt := by
      rw [toInt_toInt32 (by omega) (by omega), hint]
      omega
    exact Or.inl (Int32.toInt_inj.1 hhost)
  · refine Or.inr ?_
    rw [toInt_toInt32 (by omega) (by omega), hint]
    omega

/-- Multiplied by the ratio, some units become a magnitude with the sign of the pixels. -/
theorem ofInt_mul_ratio {some : Int32} (hnonneg : 0 ≤ some.toInt) :
    ofInt some.toInt * (ofInt pixels.toInt / ofInt logical.toInt) =
      .number (decide (pixels.toInt < 0))
        (roundedMagnitude (some.toInt.natAbs * unitsPerOne *
          (ratioMagnitude pixels.toInt.natAbs logical.toInt.natAbs).units) unitsPerOne) := by
  have hpos := natAbs_toInt_pos hp
  have hlpos : 0 < logical.toInt.natAbs := Int.natAbs_pos.2 hl.ne'
  have hsome := lt_resolution_of_le_sizeLimit (natAbs_toInt_le some)
  rw [ofInt_div_ofInt_size hl, ofInt_eq_number,
    number_mul_number _ _ (isInfinite_wholeMagnitude hsome)
      (near_ratioMagnitude hpos hlpos (natAbs_toInt_le pixels) (natAbs_toInt_le logical)).finite,
    units_wholeMagnitude hsome, decide_eq_false (by omega), Bool.false_bne, rounded]

/-- Fewer than the logical units do not come back as the pixels. -/
theorem guestCoordinate_ratio_ne {fewer : Int32} (hnonneg : 0 ≤ fewer.toInt)
    (hfewer : fewer.toInt < logical.toInt) :
    guestCoordinate (ofInt pixels.toInt / ofInt logical.toInt) .towardZero fewer ≠ pixels := by
  have hpos := natAbs_toInt_pos hp
  have hlpos : 0 < logical.toInt.natAbs := Int.natAbs_pos.2 hl.ne'
  have hpixels := natAbs_toInt_le pixels
  have hlogical := natAbs_toInt_le logical
  have hless := product_units_lt hpos hlpos hpixels hlogical
    (show fewer.toInt.natAbs < logical.toInt.natAbs by omega)
  have hproduct := ofInt_mul_ratio hp hl hnonneg
  set product := roundedMagnitude (fewer.toInt.natAbs * unitsPerOne *
    (ratioMagnitude pixels.toInt.natAbs logical.toInt.natAbs).units) unitsPerOne
  set back := Binary64.number (decide (pixels.toInt < 0)) product with hback
  have hquotient : product.units / unitsPerOne < pixels.toInt.natAbs :=
    (Nat.div_lt_iff_lt_mul unitsPerOne_pos).2 hless
  have hsmall : (back.toInt .towardZero).natAbs < pixels.toInt.natAbs := by
    rwa [hback, toInt, integer_towardZero, natAbs_signed]
  simp only [sizeLimit] at hpixels
  have hclamped : (back.toInt32 .towardZero).toInt = back.toInt .towardZero :=
    toInt_toInt32 (by omega) (by omega)
  intro hsame
  rw [guestCoordinate, hproduct] at hsame
  have hpixel : back.toInt32 .towardZero = pixels := hsame
  rw [← hclamped, hpixel] at hsmall
  exact Nat.lt_irrefl _ hsmall

/-- Calibration chooses the direction in which the pixels become the logical units. -/
theorem hostCoordinate_calibrated :
    let ratio := ofInt pixels.toInt / ofInt logical.toInt
    let back := guestCoordinate ratio .towardZero (hostCoordinate ratio .towardZero pixels)
    hostCoordinate ratio (if back ≠ pixels then .nearest else .towardZero) pixels = logical := by
  intro ratio back
  by_cases hflag : back = pixels
  · rw [if_neg (not_not.2 hflag)]
    rcases hostCoordinate_ratio_towardZero hp hl with hsame | hbefore
    · exact hsame
    · -- one unit was lost, and then the pixels cannot have come back
      have hlost : (hostCoordinate ratio .towardZero pixels).toInt + 1 = logical.toInt := hbefore
      exact absurd hflag (guestCoordinate_ratio_ne hp hl (by omega) (by omega))
  · rw [if_pos hflag]
    exact hostCoordinate_ratio_nearest hp hl

end Axis

namespace ScaleConfig

/-- The override that calibration makes: the ratio, and rounding on an axis that does not come
back otherwise. -/
def calibratedOverride (config : ScaleConfig) (pixels logical : Point) : SurfaceScale :=
  let exact := exactOverride pixels logical
  let back := config.roundTrip (some exact) pixels
  { exact with roundX := back.x ≠ pixels.x, roundY := back.y ≠ pixels.y }

/-- Without an own scale a surface is converted like no surface. -/
theorem guestToHost_default (config : ScaleConfig) (p : Point) :
    config.guestToHost (some .default) p = config.guestToHost none p := by
  cases config with
  | mk factor mode => cases mode <;> rfl

section Direct

variable {config : ScaleConfig} (hdirect : config.isDirect = true)

include hdirect

theorem exists_factors : ∃ factors, config.mode = .direct factors := by
  cases hmode : config.mode with
  | uniform =>
      rw [isDirect, hmode] at hdirect
      cases hdirect
  | direct factors => exact ⟨factors, rfl⟩

/-- An own scale is the one in force. -/
theorem effective_of_own {s : SurfaceScale} {factors : ScalePair} (hown : s.own = some factors) :
    config.effective (some s) = factors := by
  obtain ⟨global, hmode⟩ := exists_factors hdirect
  simp only [effective, hmode, Option.bind_some, hown, Option.getD_some]

/-- An axis rounds if the surface says so. -/
theorem directions_some (s : SurfaceScale) :
    config.directions (some s) =
      (if s.roundX then .nearest else .towardZero, if s.roundY then .nearest else .towardZero) := by
  obtain ⟨global, hmode⟩ := exists_factors hdirect
  simp only [directions, hmode]

/-- Before rounding is decided, both ways of an override truncate. -/
theorem roundTrip_override (pixels logical p : Point) :
    config.roundTrip (some (exactOverride pixels logical)) p =
      ⟨guestCoordinate (ofInt pixels.x.toInt / ofInt logical.x.toInt) .towardZero
        (hostCoordinate (ofInt pixels.x.toInt / ofInt logical.x.toInt) .towardZero p.x),
       guestCoordinate (ofInt pixels.y.toInt / ofInt logical.y.toInt) .towardZero
        (hostCoordinate (ofInt pixels.y.toInt / ofInt logical.y.toInt) .towardZero p.y)⟩ := by
  rw [roundTrip, hostToGuest_eq, guestToHost_eq, effective_of_own hdirect rfl,
    directions_some hdirect]
  simp only [exactOverride, exactFactors, Bool.false_eq_true, if_false]

/-- An override converts with the ratio, and rounds an axis that does not come back otherwise. -/
theorem directions_calibratedOverride (pixels logical : Point) :
    let ratioX := ofInt pixels.x.toInt / ofInt logical.x.toInt
    let ratioY := ofInt pixels.y.toInt / ofInt logical.y.toInt
    let backX := guestCoordinate ratioX .towardZero (hostCoordinate ratioX .towardZero pixels.x)
    let backY := guestCoordinate ratioY .towardZero (hostCoordinate ratioY .towardZero pixels.y)
    config.effective (some (config.calibratedOverride pixels logical)) = ⟨ratioX, ratioY⟩ ∧
      config.directions (some (config.calibratedOverride pixels logical)) =
        (if backX ≠ pixels.x then .nearest else .towardZero,
          if backY ≠ pixels.y then .nearest else .towardZero) := by
  intro ratioX ratioY backX backY
  refine ⟨effective_of_own hdirect rfl, ?_⟩
  rw [directions_some hdirect]
  simp only [calibratedOverride, roundTrip_override hdirect, decide_eq_true_eq, backX, backY,
    ratioX, ratioY]

/-- An override converts the pixels to the logical size that it was made for. -/
theorem guestToHost_calibratedOverride {pixels logical : Point} (hpx : pixels.x ≠ 0)
    (hpy : pixels.y ≠ 0) (hlx : 0 < logical.x.toInt) (hly : 0 < logical.y.toInt) :
    config.guestToHost (some (config.calibratedOverride pixels logical)) pixels = logical := by
  obtain ⟨heffective, hdirections⟩ := directions_calibratedOverride hdirect pixels logical
  rw [guestToHost_eq, heffective, hdirections]
  simp only
  rw [hostCoordinate_calibrated hpx hlx, hostCoordinate_calibrated hpy hly]

/-- Calibration drops the override if the pixels come back under the global factors or have no
logical extent; else it makes one.  Then there are pixels on both axes. -/
theorem calibrate_eq (surface : SurfaceScale) (pixels : Size) :
    let logical := config.guestToHost none pixels.corner
    ((config.hostToGuest none logical = pixels.corner ∨ logical.x ≤ 0 ∨ logical.y ≤ 0) ∧
      config.calibrate surface pixels = .default) ∨
    (pixels.width ≠ 0 ∧ pixels.height ≠ 0 ∧ 0 < logical.x.toInt ∧ 0 < logical.y.toInt ∧
      config.calibrate surface pixels = config.calibratedOverride pixels.corner logical) := by
  intro logical
  by_cases hreset : config.hostToGuest none logical = pixels.corner ∨ logical.x ≤ 0 ∨ logical.y ≤ 0
  · refine Or.inl ⟨hreset, ?_⟩
    rw [calibrate, if_pos hdirect]
    exact if_pos hreset
  · have hcalibrated : config.calibrate surface pixels =
        config.calibratedOverride pixels.corner logical := by
      rw [calibrate, if_pos hdirect]
      exact if_neg hreset
    rw [not_or, not_or, Int32.not_le, Int32.not_le] at hreset
    obtain ⟨-, hx, hy⟩ := hreset
    have hlx : 0 < logical.x.toInt := Int32.lt_iff_toInt_lt.1 hx
    have hly : 0 < logical.y.toInt := Int32.lt_iff_toInt_lt.1 hy
    -- a side without pixels would have no logical units
    have hsome : ∀ factor direction v, 0 < (hostCoordinate factor direction v).toInt → v ≠ 0 := by
      rintro factor direction v hpos rfl
      rw [hostCoordinate_zero] at hpos
      exact absurd hpos (by decide)
    exact Or.inr ⟨hsome _ _ _ hlx, hsome _ _ _ hly, hlx, hly, hcalibrated⟩

/-- What calibration leaves: no override, or one that was made for the positive logical size
that the global factors give, and that converts to it. -/
theorem calibrate_cases (surface : SurfaceScale) (pixels : Size) :
    let logical := config.guestToHost none pixels.corner
    config.calibrate surface pixels = .default ∨
      0 < logical.x.toInt ∧ 0 < logical.y.toInt ∧
        (config.calibrate surface pixels).own = some (exactFactors pixels.corner logical) ∧
        (config.calibrate surface pixels).logical = some logical.extent ∧
        config.guestToHost (some (config.calibrate surface pixels)) pixels.corner = logical := by
  intro logical
  rcases calibrate_eq hdirect surface pixels with ⟨-, hnone⟩ | ⟨hpx, hpy, hlx, hly, hcalibrated⟩
  · exact Or.inl hnone
  · rw [hcalibrated]
    exact Or.inr ⟨hlx, hly, rfl, rfl, guestToHost_calibratedOverride hdirect hpx hpy hlx hly⟩

/-- Calibration never changes the logical size of the pixels it is for. -/
theorem guestToHost_calibrate (surface : SurfaceScale) (pixels : Size) :
    config.guestToHost (some (config.calibrate surface pixels)) pixels.corner =
      config.guestToHost none pixels.corner := by
  rcases calibrate_cases hdirect surface pixels with hnone | ⟨-, -, -, -, hsame⟩
  · rw [hnone, guestToHost_default]
  · exact hsame

/-- The logical size that an override remembers is the one it converts to. -/
theorem logical_calibrate {surface : SurfaceScale} {pixels : Size}
    (hown : (config.calibrate surface pixels).hasOwnScale = true) :
    (config.calibrate surface pixels).logical =
      some (config.guestToHost (some (config.calibrate surface pixels)) pixels.corner).extent := by
  rcases calibrate_cases hdirect surface pixels with hnone | ⟨-, -, -, hlogical, hsame⟩
  · rw [hnone] at hown
    cases hown
  · rw [hsame, hlogical]

end Direct

end ScaleConfig

end GuestShell

import GuestShell.Proofs.Scale.Calibration

/-!
# Calibrated sizes come back

The pixels of a window are converted to logical units and back to pixels.  Under the global
factors a pixel may be lost on the way.  After calibration none is: either the pixels come back
under the global factors and the surface uses these, or it has the ratio of pixels to logical
units for an override.  That ratio is rounded once when it is computed and once more in each
conversion; on an axis where the errors matter both conversions round to the nearest integer,
and the errors together stay below one half.

The pixels may be negative and the factors any numbers, also infinities, zeros and NaNs.  Left
out are the sizes without a logical extent, which calibration leaves to the global factors.
Nothing is claimed of other sizes than the one that the surface was calibrated for.
-/

namespace GuestShell

open Binary64

section Axis

variable {pixels logical : Int32} (hp : pixels ≠ 0) (hl : 0 < logical.toInt)

include hp hl

/-- Rounded, the logical units times the ratio are the pixels. -/
theorem guestCoordinate_ratio_nearest :
    guestCoordinate (ofInt pixels.toInt / ofInt logical.toInt) .nearest logical = pixels := by
  have hpos := natAbs_toInt_pos hp
  have hlpos : 0 < logical.toInt.natAbs := Int.natAbs_pos.2 hl.ne'
  obtain ⟨hlow, hhigh⟩ :=
    product_units hpos hlpos (natAbs_toInt_le pixels) (natAbs_toInt_le logical)
  have hint : (ofInt logical.toInt * (ofInt pixels.toInt / ofInt logical.toInt)).toInt .nearest =
      pixels.toInt := by
    rw [ofInt_mul_ratio hp hl hl.le, toInt, integer_nearest _ hlow hhigh, signed_natAbs]
  have habove := pixels.le_toInt
  have hbelow := pixels.toInt_lt
  rw [guestCoordinate]
  apply Int32.toInt_inj.1
  rw [toInt_toInt32 (by omega) (by omega), hint]

/-- Calibration chooses a direction in which the pixels come back. -/
theorem guestCoordinate_calibrated :
    let ratio := ofInt pixels.toInt / ofInt logical.toInt
    let back := guestCoordinate ratio .towardZero (hostCoordinate ratio .towardZero pixels)
    let direction := if back ≠ pixels then .nearest else .towardZero
    guestCoordinate ratio direction (hostCoordinate ratio direction pixels) = pixels := by
  intro ratio back direction
  by_cases hback : back = pixels
  · rw [show direction = .towardZero from if_neg (not_not.2 hback)]
    exact hback
  · rw [show direction = .nearest from if_pos hback, hostCoordinate_ratio_nearest hp hl,
      guestCoordinate_ratio_nearest hp hl]

end Axis

namespace ScaleConfig

theorem hostToGuest_default (config : ScaleConfig) (p : Point) :
    config.hostToGuest (some .default) p = config.hostToGuest none p := by
  cases config with
  | mk factor mode => cases mode <;> rfl

/-- An override brings back the pixels that it was made for. -/
theorem roundTrip_calibratedOverride {config : ScaleConfig} (hdirect : config.isDirect = true)
    {pixels logical : Point} (hpx : pixels.x ≠ 0) (hpy : pixels.y ≠ 0)
    (hlx : 0 < logical.x.toInt) (hly : 0 < logical.y.toInt) :
    config.roundTrip (some (config.calibratedOverride pixels logical)) pixels = pixels := by
  obtain ⟨heffective, hdirections⟩ := directions_calibratedOverride hdirect pixels logical
  rw [roundTrip, hostToGuest_eq, guestToHost_eq, heffective, hdirections]
  simp only
  rw [guestCoordinate_calibrated hpx hlx, guestCoordinate_calibrated hpy hly]

/-- Calibration makes the round trip of a size exact on both axes, whatever the direct factors
are and whatever scale the surface had, unless it left the surface without an override because
the size has no logical extent under the global factors. -/
theorem roundTrip_calibrate (factor : Binary64) (factors : ScalePair) (surface : SurfaceScale)
    (pixels : Size) :
    let config := ScaleConfig.direct factor factors
    let calibrated := config.calibrate surface pixels
    let logical := config.guestToHost none pixels.corner
    config.roundTrip (some calibrated) pixels.corner = pixels.corner ∨
      calibrated.hasOwnScale = false ∧ (logical.x ≤ 0 ∨ logical.y ≤ 0) := by
  intro config calibrated logical
  have hdirect : config.isDirect = true := rfl
  rcases calibrate_eq hdirect surface pixels with
    ⟨hreset, hnone⟩ | ⟨hpx, hpy, hlx, hly, hoverride⟩
  · have hdefault : calibrated = .default := hnone
    rw [hdefault]
    rcases hreset with hexact | hempty
    · -- the pixels come back without an override
      left
      rw [roundTrip, guestToHost_default, hostToGuest_default]
      exact hexact
    · exact Or.inr ⟨rfl, hempty⟩
  · left
    rw [show calibrated = _ from hoverride]
    exact roundTrip_calibratedOverride hdirect hpx hpy hlx hly

/-- At three halves of a pixel to a unit, 23 pixels are 15 units and come back as 22 pixels.  The
ratio of 23 to 15 does not help unless both conversions round. -/
example :
    let config := ScaleConfig.direct .one (.uniform (.ofInt 3 / .ofInt 2))
    let calibrated := config.calibrate .default ⟨23, 6⟩
    config.roundTrip none ⟨23, 6⟩ = ⟨22, 6⟩ ∧
      config.roundTrip (some { calibrated with roundX := false }) ⟨23, 6⟩ = ⟨21, 6⟩ ∧
      config.roundTrip (some calibrated) ⟨23, 6⟩ = ⟨23, 6⟩ := by
  decide +kernel

end ScaleConfig

end GuestShell

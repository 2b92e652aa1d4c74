import GuestShell.Scale.Conversion

/-!
# Calibrating a surface to its window

In direct mode a size may not survive the way to the host and back.  Calibration then
gives the surface the exact ratio of its pixels to its logical units, and makes an axis
that still does not come back round instead of truncate.

A size that comes back under the global factors, or that has no logical extent, needs no
override and loses the one it has.  Uniform mode has NO calibration.
-/

namespace GuestShell

namespace ScaleConfig

/-- A point taken to the host and back. -/
def roundTrip (config : ScaleConfig) (surface : Option SurfaceScale) (p : Point) : Point :=
  config.hostToGuest surface (config.guestToHost surface p)

/-- The ratio of a size in pixels to its logical size. -/
def exactFactors (pixels logical : Point) : ScalePair :=
  ⟨Binary64.ofInt pixels.x.toInt / Binary64.ofInt logical.x.toInt,
   Binary64.ofInt pixels.y.toInt / Binary64.ofInt logical.y.toInt⟩

/-- An override with the exact ratio, before rounding is decided. -/
def exactOverride (pixels logical : Point) : SurfaceScale :=
  ⟨some (exactFactors pixels logical), false, false, some logical.extent⟩

/-- The scale that a surface has after calibration for a window of `pixels`. -/
def calibrate (config : ScaleConfig) (surface : SurfaceScale) (pixels : Size) : SurfaceScale :=
  if config.isDirect then
    let requested := pixels.corner
    let logical := config.guestToHost none requested
    if config.hostToGuest none logical = requested ∨ logical.x ≤ 0 ∨ logical.y ≤ 0 then
      surface.reset
    else
      let exact := exactOverride requested logical
      let back := config.roundTrip (some exact) requested
      { exact with roundX := back.x ≠ requested.x, roundY := back.y ≠ requested.y }
  else surface

end ScaleConfig

end GuestShell

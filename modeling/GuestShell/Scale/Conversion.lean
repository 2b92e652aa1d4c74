import GuestShell.Scale.Basic

/-!
# Converting between guest pixels and host units

Guest to host divides by the factors in force, host to guest multiplies by them, each axis
on its own.  Integer coordinates are truncated, or rounded on an axis where the surface's
calibration asks for it; fixed-point and scroll values keep their 256ths.

Damage is converted outward in uniform mode, so that filtering on the host never samples
outside the damaged area; in direct mode its corners are truncated.  Every conversion is
total: factors of zero, infinities and NaNs give clamped integers.
-/

namespace GuestShell

open Wire (Fixed)

namespace ScaleConfig

/-- Guest pixels to host units. -/
def guestToHost (config : ScaleConfig) (surface : Option SurfaceScale) (p : Point) : Point :=
  let factors := config.effective surface
  let (directionX, directionY) := config.directions surface
  ⟨(Binary64.ofInt p.x.toInt / factors.x).toInt32 directionX,
   (Binary64.ofInt p.y.toInt / factors.y).toInt32 directionY⟩

/-- Host units to guest pixels. -/
def hostToGuest (config : ScaleConfig) (surface : Option SurfaceScale) (p : Point) : Point :=
  let factors := config.effective surface
  let (directionX, directionY) := config.directions surface
  ⟨(Binary64.ofInt p.x.toInt * factors.x).toInt32 directionX,
   (Binary64.ofInt p.y.toInt * factors.y).toInt32 directionY⟩

def guestToHostFixed (config : ScaleConfig) (surface : Option SurfaceScale) (p : FixedPoint) :
    FixedPoint :=
  let factors := config.effective surface
  ⟨.ofBinary64 (p.x.toBinary64 / factors.x), .ofBinary64 (p.y.toBinary64 / factors.y)⟩

def hostToGuestFixed (config : ScaleConfig) (surface : Option SurfaceScale) (p : FixedPoint) :
    FixedPoint :=
  let factors := config.effective surface
  ⟨.ofBinary64 (p.x.toBinary64 * factors.x), .ofBinary64 (p.y.toBinary64 * factors.y)⟩

/-- The factor of a scroll axis: vertical scrolling goes with the y axis. -/
def axisFactor (config : ScaleConfig) (surface : Option SurfaceScale) : ScrollAxis → Binary64
  | .vertical => (config.effective surface).y
  | .horizontal => (config.effective surface).x

def guestToHostAxis (config : ScaleConfig) (surface : Option SurfaceScale) (axis : ScrollAxis)
    (value : Fixed) : Fixed :=
  .ofBinary64 (value.toBinary64 / config.axisFactor surface axis)

def hostToGuestAxis (config : ScaleConfig) (surface : Option SurfaceScale) (axis : ScrollAxis)
    (value : Fixed) : Fixed :=
  .ofBinary64 (value.toBinary64 * config.axisFactor surface axis)

end ScaleConfig

/-- A damaged rectangle: `(x₁, y₁)` is its first point and `(x₂, y₂)` lies just past it. -/
structure DamageRect where
  x₁ : Int64
  y₁ : Int64
  x₂ : Int64
  y₂ : Int64
  deriving DecidableEq, Repr

/-- Every point of the second rectangle's outline lies in the first. -/
def DamageRect.contains (outer inner : DamageRect) : Bool :=
  outer.x₁ ≤ inner.x₁ && outer.y₁ ≤ inner.y₁ && outer.x₂ ≥ inner.x₂ && outer.y₂ ≥ inner.y₂

/-- First corners are raised to this before they are scaled in uniform mode. -/
def minDamage : Int := -214748364

/-- Last corners are lowered to this before they are scaled in uniform mode. -/
def maxDamage : Int := 214748364

/-- A first corner moved out by one pixel, then scaled and rounded down. -/
def outsetFirst (factor : Binary64) (v : Int64) : Int64 :=
  (Binary64.ofInt (max (v.toInt - 1) minDamage) / factor).toInt64 .down

/-- A last corner moved out by one pixel, then scaled and rounded up. -/
def outsetLast (factor : Binary64) (v : Int64) : Int64 :=
  (Binary64.ofInt (min (v.toInt + 1) maxDamage) / factor).toInt64 .up

/-- A corner scaled and truncated. -/
def truncatedCorner (factor : Binary64) (v : Int64) : Int64 :=
  (Binary64.ofInt v.toInt / factor).toInt64 .towardZero

namespace ScaleConfig

/-- Damage of a buffer, which has a scale of its own, to damage of the host surface. -/
def damageToHost (config : ScaleConfig) (surface : Option SurfaceScale) (buffer : ScalePair)
    (r : DamageRect) : DamageRect :=
  match config.mode with
  | .direct _ =>
      let factors := config.effective surface
      let x := factors.x * buffer.x
      let y := factors.y * buffer.y
      ⟨truncatedCorner x r.x₁, truncatedCorner y r.y₁,
       truncatedCorner x r.x₂, truncatedCorner y r.y₂⟩
  | .uniform =>
      let x := buffer.x * config.factor
      let y := buffer.y * config.factor
      ⟨outsetFirst x r.x₁, outsetFirst y r.y₁, outsetLast x r.x₂, outsetLast y r.y₂⟩

/-- The logical size a surface of some pixels is shown at.  In direct mode it is never
empty. -/
def viewportSize (config : ScaleConfig) (surface : Option SurfaceScale)
    (contentsScale : Binary64) (s : Size) : Size :=
  match config.mode with
  | .direct _ =>
      let logical := config.guestToHost surface s.corner
      ⟨max logical.x 1, max logical.y 1⟩
  | .uniform =>
      let factor := config.factor * contentsScale
      ⟨(Binary64.ofInt s.width.toInt / factor).toInt32 .up,
       (Binary64.ofInt s.height.toInt / factor).toInt32 .up⟩

/-- The dimensions of the output that the guest is told. -/
def outputDimensions (config : ScaleConfig) (s : Size) : Size :=
  ⟨(Binary64.ofInt s.width.toInt * config.factor).toInt32 .towardZero,
   (Binary64.ofInt s.height.toInt * config.factor).toInt32 .towardZero⟩

end ScaleConfig

end GuestShell

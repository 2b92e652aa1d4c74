import GuestShell.Binary64.Arithmetic
import GuestShell.Wire.Fixed

/-!
# Scale factors and coordinates

Guest windows are measured in pixels and host surfaces in logical units.  One of two
strategies converts between them.  In *uniform* mode there is one factor for everything.
In *direct* mode each axis has a factor of its own, and a surface may carry an override
with factors that were calibrated for its size.

The conversions are in `Scale.Conversion`, the calibration is in `Scale.Calibration`.
-/

namespace GuestShell

open Wire (Fixed)

/-- A factor for each axis. -/
structure ScalePair where
  x : Binary64
  y : Binary64
  deriving DecidableEq

namespace ScalePair

/-- The same factor on both axes. -/
def uniform (factor : Binary64) : ScalePair := ⟨factor, factor⟩

def identity : ScalePair := uniform .one

end ScalePair

/-- How coordinates are scaled. -/
inductive ScaleMode where
  /-- By the global factor. -/
  | uniform
  /-- By a factor for each axis, for surfaces that have no factors of their own. -/
  | direct (factors : ScalePair)
  deriving DecidableEq

/-- The scaling in force for all windows. -/
structure ScaleConfig where
  /-- The global factor: all of uniform mode, and the output's dimensions in both. -/
  factor : Binary64
  mode : ScaleMode
  deriving DecidableEq

/-- Pixel or logical coordinates. -/
structure Point where
  x : Int32
  y : Int32
  deriving DecidableEq, Repr

/-- A width and a height. -/
structure Size where
  width : Int32
  height : Int32
  deriving DecidableEq, Repr

namespace Size

/-- The far corner of a size placed at the origin. -/
def corner (s : Size) : Point := ⟨s.width, s.height⟩

end Size

namespace Point

/-- The size whose far corner is the point. -/
def extent (p : Point) : Size := ⟨p.x, p.y⟩

end Point

/-- Coordinates below the pixel. -/
structure FixedPoint where
  x : Fixed
  y : Fixed
  deriving DecidableEq, Repr

/-- The axis of a scroll event. -/
inductive ScrollAxis where
  | vertical
  | horizontal
  deriving DecidableEq, Repr

/-- The axis that a pointer event's axis word names. -/
def ScrollAxis.ofWord? : UInt32 → Option ScrollAxis
  | 0 => some .vertical
  | 1 => some .horizontal
  | _ => none

/-- A surface's override of the direct factors. -/
structure SurfaceScale where
  /-- The factors of the surface, if it was calibrated. -/
  own : Option ScalePair
  /-- Integer conversions round on the axis instead of truncating. -/
  roundX : Bool
  roundY : Bool
  /-- The logical size that the calibration found. -/
  logical : Option Size
  deriving DecidableEq

namespace SurfaceScale

/-- A surface that uses the global factors. -/
def default : SurfaceScale := ⟨none, false, false, none⟩

def withOverride (factors : ScalePair) (roundX roundY : Bool) : SurfaceScale :=
  ⟨some factors, roundX, roundY, none⟩

def hasOwnScale (s : SurfaceScale) : Bool := s.own.isSome

/-- The override dropped. -/
def reset (_ : SurfaceScale) : SurfaceScale := default

end SurfaceScale

namespace ScaleConfig

def uniform (factor : Binary64) : ScaleConfig := ⟨factor, .uniform⟩

def direct (factor : Binary64) (factors : ScalePair) : ScaleConfig := ⟨factor, .direct factors⟩

/-- Pixels and logical units agree. -/
def unscaled : ScaleConfig := uniform .one

def isDirect (config : ScaleConfig) : Bool :=
  match config.mode with
  | .uniform => false
  | .direct _ => true

/-- The factors that a conversion for a surface uses.  An override counts in direct mode
only. -/
def effective (config : ScaleConfig) (surface : Option SurfaceScale) : ScalePair :=
  match config.mode with
  | .uniform => .uniform config.factor
  | .direct factors => (surface.bind SurfaceScale.own).getD factors

/-- How an integer conversion for a surface treats fractions on the two axes. -/
def directions (config : ScaleConfig) (surface : Option SurfaceScale) : Direction × Direction :=
  match config.mode, surface with
  | .direct _, some s =>
      (if s.roundX then .nearest else .towardZero, if s.roundY then .nearest else .towardZero)
  | _, _ => (.towardZero, .towardZero)

end ScaleConfig

end GuestShell

import GuestShell.Proofs.Binary64.Scaling
import GuestShell.Scale.Conversion

/-!
# Conversions keep the order of coordinates

Coordinates are converted axis by axis: as integers, in 256ths, or as the value of a scroll event,
to the host by a division and to the guest by a multiplication.  With a factor that is positive
and finite each of the six conversions keeps the order of the coordinates on its axis and takes
zero to zero, whatever is rounded, clamped or out of range on the way.  It looks at no other axis,
and vertical scrolling goes with the factor that points have on the y axis.

The order is NOT kept strictly.  Coordinates that differ can become one.
-/

namespace GuestShell

open Wire (Fixed)
open Binary64

/-! ### One axis -/

/-- The factor of a pair for an axis. -/
def ScalePair.along (factors : ScalePair) : ScrollAxis → Binary64
  | .vertical => factors.y
  | .horizontal => factors.x

/-- The coordinate of a point on an axis. -/
def Point.along (p : Point) : ScrollAxis → Int32
  | .vertical => p.y
  | .horizontal => p.x

def FixedPoint.along (p : FixedPoint) : ScrollAxis → Fixed
  | .vertical => p.y
  | .horizontal => p.x

/-- How integer coordinates on an axis are rounded. -/
def ScaleConfig.directionAlong (config : ScaleConfig) (surface : Option SurfaceScale) :
    ScrollAxis → Direction
  | .vertical => (config.directions surface).2
  | .horizontal => (config.directions surface).1

/-- What a conversion does on one axis: the coordinate that is converted, the coordinate that it
becomes, and how that is rounded. -/
structure AxisConversion (α : Type) where
  coordinate : α → Int32
  convert : ScaleConfig → Option SurfaceScale → α → Int32
  rounding : ScaleConfig → Option SurfaceScale → Direction

namespace AxisConversion

/-- A conversion of points. -/
def ofPoints (axis : ScrollAxis)
    (convert : ScaleConfig → Option SurfaceScale → Point → Point) : AxisConversion Point where
  coordinate p := p.along axis
  convert config surface p := (convert config surface p).along axis
  rounding config surface := config.directionAlong surface axis

/-- A conversion of points below the pixel, which rounds to the nearest of the 256ths. -/
def ofFixedPoints (axis : ScrollAxis)
    (convert : ScaleConfig → Option SurfaceScale → FixedPoint → FixedPoint) :
    AxisConversion FixedPoint where
  coordinate p := (p.along axis).raw
  convert config surface p := ((convert config surface p).along axis).raw
  rounding _ _ := .nearest

/-- A conversion of scroll values. -/
def ofScrolls (axis : ScrollAxis)
    (convert : ScaleConfig → Option SurfaceScale → ScrollAxis → Fixed → Fixed) :
    AxisConversion Fixed where
  coordinate value := value.raw
  convert config surface value := (convert config surface axis value).raw
  rounding _ _ := .nearest

/-- A conversion keeps the order and the signs of the coordinates on an axis, and depends on
nothing but the coordinate, the factor and the rounding there. -/
structure KeepsOrder {α : Type} (conversion : AxisConversion α) (axis : ScrollAxis)
    (config : ScaleConfig) (surface : Option SurfaceScale) : Prop where
  mono : ∀ a b, conversion.coordinate a ≤ conversion.coordinate b →
    conversion.convert config surface a ≤ conversion.convert config surface b
  zero : ∀ a, conversion.coordinate a = 0 → conversion.convert config surface a = 0
  nonneg : ∀ a, 0 ≤ conversion.coordinate a → 0 ≤ conversion.convert config surface a
  nonpos : ∀ a, conversion.coordinate a ≤ 0 → conversion.convert config surface a ≤ 0
  own : ∀ (config' : ScaleConfig) (surface' : Option SurfaceScale) (a b : α),
    conversion.coordinate a = conversion.coordinate b →
    (config.effective surface).along axis = (config'.effective surface').along axis →
    conversion.rounding config surface = conversion.rounding config' surface' →
      conversion.convert config surface a = conversion.convert config' surface' b

/-- A conversion by a map of numbers that is given by the factor of the axis alone. -/
theorem KeepsOrder.of_factor {α : Type} {conversion : AxisConversion α} {axis : ScrollAxis}
    {f : Binary64 → Binary64 → Binary64}
    (hconvert : ∀ config surface a, conversion.convert config surface a =
      (f ((config.effective surface).along axis)
        (ofInt (conversion.coordinate a).toInt)).toInt32 (conversion.rounding config surface))
    {config : ScaleConfig} {surface : Option SurfaceScale}
    (hf : Binary64.KeepsOrder (f ((config.effective surface).along axis))) :
    conversion.KeepsOrder axis config surface := by
  have hzero := hf.toInt32_eq_zero (conversion.rounding config surface)
  refine ⟨fun a b hle => ?_, fun a ha => ?_, fun a ha => ?_, fun a ha => ?_, ?_⟩
  · rw [hconvert, hconvert]
    exact hf.toInt32_le _ hle
  · rw [hconvert, ha, hzero]
  · have hle := hf.toInt32_le (conversion.rounding config surface) ha
    rwa [hzero, ← hconvert] at hle
  · have hle := hf.toInt32_le (conversion.rounding config surface) ha
    rwa [hzero, ← hconvert] at hle
  · intro config' surface' a b hcoordinate hfactor hrounding
    rw [hconvert, hconvert, hcoordinate, hfactor, hrounding]

end AxisConversion

/-! ### 256ths -/

theorem positiveFinite_perOne : (ofInt Fixed.perOne).PositiveFinite :=
  (positiveFinite_iff _).2 (by decide +kernel)

/-- What a map of numbers comes to on 256ths. -/
def throughFixed (f : Binary64 → Binary64) (x : Binary64) : Binary64 :=
  f (x / ofInt Fixed.perOne) * ofInt Fixed.perOne

theorem keepsOrder_throughFixed {f : Binary64 → Binary64} (hf : Binary64.KeepsOrder f) :
    Binary64.KeepsOrder (throughFixed f) :=
  positiveFinite_perOne.keepsOrder_mul.comp (hf.comp positiveFinite_perOne.keepsOrder_div)

theorem raw_ofBinary64 (f : Binary64 → Binary64) (value : Fixed) :
    (Fixed.ofBinary64 (f value.toBinary64)).raw =
      (throughFixed f (ofInt value.raw.toInt)).toInt32 .nearest := rfl

/-- A conversion of what has 256ths for its coordinates. -/
theorem AxisConversion.KeepsOrder.of_fixed {α : Type} {conversion : AxisConversion α}
    {axis : ScrollAxis} (value : α → Fixed) (f : Binary64 → Binary64 → Binary64)
    (hcoordinate : ∀ a, conversion.coordinate a = (value a).raw)
    (hrounding : ∀ config surface, conversion.rounding config surface = .nearest)
    (hconvert : ∀ config surface a, conversion.convert config surface a =
      (Fixed.ofBinary64 (f ((config.effective surface).along axis) (value a).toBinary64)).raw)
    {config : ScaleConfig} {surface : Option SurfaceScale}
    (hf : Binary64.KeepsOrder (f ((config.effective surface).along axis))) :
    conversion.KeepsOrder axis config surface := by
  refine .of_factor (f := fun factor => throughFixed (f factor)) ?_ (keepsOrder_throughFixed hf)
  intro config surface a
  rw [hconvert, hcoordinate, hrounding]
  exact raw_ofBinary64 _ _

/-! ### All conversions -/

namespace ScaleConfig

variable (config : ScaleConfig) (surface : Option SurfaceScale) (axis : ScrollAxis)

theorem guestToHost_along (p : Point) : (config.guestToHost surface p).along axis =
    (ofInt (p.along axis).toInt / (config.effective surface).along axis).toInt32
      (config.directionAlong surface axis) := by
  cases axis <;> rfl

theorem hostToGuest_along (p : Point) : (config.hostToGuest surface p).along axis =
    (ofInt (p.along axis).toInt * (config.effective surface).along axis).toInt32
      (config.directionAlong surface axis) := by
  cases axis <;> rfl

theorem guestToHostFixed_along (p : FixedPoint) : (config.guestToHostFixed surface p).along axis =
    .ofBinary64 ((p.along axis).toBinary64 / (config.effective surface).along axis) := by
  cases axis <;> rfl

theorem hostToGuestFixed_along (p : FixedPoint) : (config.hostToGuestFixed surface p).along axis =
    .ofBinary64 ((p.along axis).toBinary64 * (config.effective surface).along axis) := by
  cases axis <;> rfl

theorem guestToHostAxis_eq (value : Fixed) : config.guestToHostAxis surface axis value =
    .ofBinary64 (value.toBinary64 / (config.effective surface).along axis) := by
  cases axis <;> rfl

theorem hostToGuestAxis_eq (value : Fixed) : config.hostToGuestAxis surface axis value =
    .ofBinary64 (value.toBinary64 * (config.effective surface).along axis) := by
  cases axis <;> rfl

/-- On an axis with a positive finite factor, the conversions of points, of points below the pixel
and of scroll values keep the order and the signs of coordinates in both directions, and each
depends on nothing of the other axis.  Scroll values are divided and multiplied by the factor that
points have on their axis, which is the y axis for vertical scrolling. -/
theorem conversions_keepOrder
    (hfactor : ((config.effective surface).along axis).PositiveFinite) :
    (AxisConversion.ofPoints axis guestToHost).KeepsOrder axis config surface ∧
    (AxisConversion.ofPoints axis hostToGuest).KeepsOrder axis config surface ∧
    (AxisConversion.ofFixedPoints axis guestToHostFixed).KeepsOrder axis config surface ∧
    (AxisConversion.ofFixedPoints axis hostToGuestFixed).KeepsOrder axis config surface ∧
    (AxisConversion.ofScrolls axis guestToHostAxis).KeepsOrder axis config surface ∧
    (AxisConversion.ofScrolls axis hostToGuestAxis).KeepsOrder axis config surface ∧
    (∀ value, config.guestToHostAxis surface axis value =
      .ofBinary64 (value.toBinary64 / (config.effective surface).along axis)) ∧
    (∀ value, config.hostToGuestAxis surface axis value =
      .ofBinary64 (value.toBinary64 * (config.effective surface).along axis)) := by
  let toHost : Binary64 → Binary64 → Binary64 := fun factor x => x / factor
  let toGuest : Binary64 → Binary64 → Binary64 := fun factor x => x * factor
  have hdiv : Binary64.KeepsOrder (toHost _) := hfactor.keepsOrder_div
  have hmul : Binary64.KeepsOrder (toGuest _) := hfactor.keepsOrder_mul
  have hrounding : ∀ (_ : ScaleConfig) (_ : Option SurfaceScale), Direction.nearest = .nearest :=
    fun _ _ => rfl
  refine ⟨?_, ?_, ?_, ?_, ?_, ?_, config.guestToHostAxis_eq surface axis,
    config.hostToGuestAxis_eq surface axis⟩
  · refine .of_factor (f := toHost) ?_ hdiv
    exact fun config surface p => config.guestToHost_along surface axis p
  · refine .of_factor (f := toGuest) ?_ hmul
    exact fun config surface p => config.hostToGuest_along surface axis p
  · refine .of_fixed (·.along axis) toHost (fun _ => rfl) hrounding ?_ hdiv
    intro config surface p
    simp only [AxisConversion.ofFixedPoints, guestToHostFixed_along, toHost]
  · refine .of_fixed (·.along axis) toGuest (fun _ => rfl) hrounding ?_ hmul
    intro config surface p
    simp only [AxisConversion.ofFixedPoints, hostToGuestFixed_along, toGuest]
  · refine .of_fixed id toHost (fun _ => rfl) hrounding ?_ hdiv
    intro config surface value
    simp only [AxisConversion.ofScrolls, guestToHostAxis_eq, toHost, id]
  · refine .of_fixed id toGuest (fun _ => rfl) hrounding ?_ hmul
    intro config surface value
    simp only [AxisConversion.ofScrolls, hostToGuestAxis_eq, toGuest, id]

/-- With the least positive factor on the x axis, which rounds, quotients overflow and are clamped;
scroll values go with three halves on the y axis, where the surface does not round. -/
theorem conversions_keepOrder_extremes :
    let config := ScaleConfig.direct .one .identity
    let surface := some (SurfaceScale.withOverride ⟨.ofBits 1, ofInt 3 / ofInt 2⟩ true false)
    ((config.effective surface).along .horizontal).PositiveFinite ∧
    ((config.effective surface).along .vertical).PositiveFinite ∧
    (config.guestToHost surface ⟨-7, 3⟩).x ≤ (config.guestToHost surface ⟨9, -5⟩).x ∧
    (config.hostToGuest surface ⟨-7, 3⟩).y ≤ (config.hostToGuest surface ⟨9, 4⟩).y ∧
    (config.hostToGuestAxis surface .vertical ⟨0⟩).raw = 0 := by
  intro config surface
  have hx : ((config.effective surface).along .horizontal).PositiveFinite :=
    (positiveFinite_iff _).2 (by decide +kernel)
  have hy : ((config.effective surface).along .vertical).PositiveFinite :=
    (positiveFinite_iff _).2 (by decide +kernel)
  obtain ⟨hhost, -⟩ := conversions_keepOrder config surface .horizontal hx
  obtain ⟨-, hguest, -, -, -, hscroll, -⟩ := conversions_keepOrder config surface .vertical hy
  have hleft := hhost.mono ⟨-7, 3⟩ ⟨9, -5⟩ (by decide)
  have hup := hguest.mono ⟨-7, 3⟩ ⟨9, 4⟩ (by decide)
  have hstill := hscroll.zero ⟨0⟩ rfl
  simp only [AxisConversion.ofPoints, AxisConversion.ofScrolls, Point.along] at hleft hup hstill
  exact ⟨hx, hy, hleft, hup, hstill⟩

/-- Seven pixels to the left are far out of range, and 7 pixels down are 4 units and two thirds. -/
example :
    let surface := some (SurfaceScale.withOverride ⟨.ofBits 1, ofInt 3 / ofInt 2⟩ true false)
    (direct .one .identity).guestToHost surface ⟨-7, 7⟩ = ⟨-2147483648, 4⟩ := by
  decide +kernel

end ScaleConfig

end GuestShell

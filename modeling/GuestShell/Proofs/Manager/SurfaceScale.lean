import GuestShell.Proofs.Manager.RecordStep
import GuestShell.Proofs.Scale.Calibration

/-!
# The scale of a window's surface

A surface is calibrated for the geometry of its window, and geometry, role and scale are
changed by different operations.  Still no record keeps a scale that was made for another
geometry or for a role that is gone: it has the default one, or the one that calibration
gives a fresh surface for the geometry that the record has now.

From this and from what calibration promises follows that the logical size of a window is
a function of its geometry and the global factors alone, in every state of every run.  What
the host is told to show therefore does not depend on whether a surface was calibrated.
-/

namespace GuestShell

/-- A side has the pixels it was given, as far as a signed number can say so. -/
theorem Geometry.toInt_clampSide (side : UInt32) :
    (clampSide side).toInt = min side.toNat 2147483647 := by
  have hmin : Int32.minValue.toInt = -2147483648 := Int32.toInt_minValue
  have hmax : Int32.maxValue.toInt = 2147483647 := Int32.toInt_maxValue
  by_cases hsmall : side.toNat ≤ 2147483647
  · have hclamp : (Int32.ofIntClamp side.toNat).toInt = side.toNat :=
      Int32.toInt_ofIntClamp (by omega) (by omega)
    rw [clampSide, hclamp]
    omega
  · have hclamp : Int32.ofIntClamp side.toNat = Int32.maxValue := by
      rw [Int32.ofIntClamp, dif_pos (by omega), dif_neg (by omega)]
    rw [clampSide, hclamp]
    omega

namespace ScaleConfig

/-- Calibration does not look at the scale that the surface had. -/
theorem calibrate_eq_default {config : ScaleConfig} (hdirect : config.isDirect = true)
    (surface : SurfaceScale) (pixels : Size) :
    config.calibrate surface pixels = config.calibrate .default pixels := by
  simp only [calibrate, hdirect, if_true]
  rfl

theorem one_le_max_one (side : Int32) : 1 ≤ (max side 1).toInt := by
  have hone : (1 : Int32).toInt = 1 := by decide
  rw [show max side 1 = if side ≤ 1 then 1 else side from rfl]
  split
  · exact hone.ge
  next hlarge =>
    have hless := Int32.lt_iff_toInt_lt.1 (Int32.not_le.1 hlarge)
    omega

/-- In direct mode a logical size is never empty. -/
theorem one_le_viewportSize {config : ScaleConfig} (hdirect : config.isDirect = true)
    (surface : Option SurfaceScale) (contentsScale : Binary64) (s : Size) :
    1 ≤ (config.viewportSize surface contentsScale s).width.toInt ∧
      1 ≤ (config.viewportSize surface contentsScale s).height.toInt := by
  obtain ⟨factors, hmode⟩ := exists_factors hdirect
  simp only [viewportSize, hmode]
  exact ⟨one_le_max_one _, one_le_max_one _⟩

/-- The logical size depends on the surface through the conversion of the far corner. -/
theorem viewportSize_congr {config : ScaleConfig} (hdirect : config.isDirect = true)
    {surface other : Option SurfaceScale} (contentsScale : Binary64) {s : Size}
    (hsame : config.guestToHost surface s.corner = config.guestToHost other s.corner) :
    config.viewportSize surface contentsScale s = config.viewportSize other contentsScale s := by
  obtain ⟨factors, hmode⟩ := exists_factors hdirect
  simp only [viewportSize, hmode, hsame]

end ScaleConfig

/-- The scale of a record's surface is the default one, or it was made for the geometry and
the role that the record has. -/
inductive Window.Calibrated (config : ScaleConfig) (w : Window) : Prop
  | default (hscale : w.scale = .default)
  | current (hdirect : config.isDirect = true) (hrole : w.hasRole = true)
      (hscale : w.scale = config.calibrate .default w.geometry.pixels)

namespace Window.Calibrated

variable {config : ScaleConfig} {w w' : Window}

/-- Only scale, geometry and role matter. -/
theorem of_eq (h : w.Calibrated config) (hscale : w'.scale = w.scale)
    (hgeometry : w'.geometry = w.geometry) (hrole : w.hasRole = true → w'.hasRole = true) :
    w'.Calibrated config := by
  cases h with
  | default hdefault => exact .default (hscale.trans hdefault)
  | current hdirect hrole' hcurrent =>
      refine .current hdirect (hrole hrole') ?_
      rw [hscale, hcurrent, hgeometry]

/-- A geometry that is recorded with a role comes with a calibration, and without a role
there was none that it could make stale. -/
theorem configured {setting : Setting} (h : w.Calibrated setting.scale) (change : GeometryChange) :
    (w.configured setting change).Calibrated setting.scale := by
  simp only [Window.configured]
  split
  next hcalibrates =>
    rw [Bool.and_eq_true] at hcalibrates
    exact .current hcalibrates.1 hcalibrates.2
      (ScaleConfig.calibrate_eq_default hcalibrates.1 w.scale _)
  next hkept =>
    cases h with
    | default hdefault => exact .default hdefault
    | current hdirect hrole hcurrent =>
        have hcalibrates : (setting.scale.isDirect && w.hasRole) = true := by
          rw [hdirect, hrole, Bool.and_self]
        exact absurd hcalibrates hkept

end Window.Calibrated

variable {ω : Type} [HostChannel ω] [PropertySource ω]

namespace Manager

theorem calibrated_of_run (setting : Setting) (calls : List (Call ω)) {id : WindowId} {w : Window}
    (hw : ((new setting).run calls).windows[id]? = some w) : w.Calibrated setting.scale := by
  refine run_record_induction (P := fun _ w => w.Calibrated setting.scale) setting ?_ ?_ calls hw
  · intro id r w hfresh
    cases hfresh with
    | created => exact .default rfl
    | takenOver => exact .default rfl
  · intro id w r operation w' r' sending hostState hwrites h
    have hwritten : w'.Calibrated setting.scale := by
      cases hwrites with
      | configured change => exact h.configured change
      | unmapped => exact .default rfl
      | assigned => exact h.of_eq rfl rfl (fun _ => rfl)
      | _ => exact h.of_eq rfl rfl (fun hrole => hrole)
    exact hwritten.of_eq rfl rfl (fun hrole => hrole)

/-- One and a half pixels to a unit, in direct mode. -/
def oneAndAHalf : Setting :=
  let factor : Binary64 := .ofInt 3 / .ofInt 2
  { Setting.plain true with scale := .direct .one (.uniform factor) }

/-- A window gets a role, and then a width that does not survive the way to the host and
back: 23 pixels are 15 units, and these are 22 pixels. -/
def calibratedRun : List (Call (Surroundings Queue PropertyTable)) :=
  [.queued 7 (.guest (.created false .empty)),
   .queued 7 (.assignRole 30),
   .queued 7 (.guest (.configureRequested ⟨none, none, some 23, some 5⟩))]

/-- The width is made to round, the height need not be. -/
theorem calibratedRun_scale : ∃ w,
    ((new oneAndAHalf).run calibratedRun).windows[(7 : WindowId)]? = some w ∧
      w.scale.hasOwnScale = true ∧ w.scale.roundX = true ∧ w.scale.roundY = false ∧
      w.scale.logical = some ⟨15, 3⟩ := by
  rw [run_getElem?, getElem?_new]
  refine ⟨_, rfl, ?_⟩
  decide +kernel

/-- No record keeps a stale calibration.  The scale of a window's surface is the default one,
or the window has a role in direct mode and the scale is that of a fresh surface calibrated
for the geometry recorded now, whose sides are taken up to the largest signed number.  In
uniform mode it is the default one. -/
theorem scale_default_or_current (setting : Setting) (calls : List (Call ω)) {id : WindowId}
    {w : Window} (htracked : ((new setting).run calls).windows[id]? = some w) :
    (w.scale = .default ∨
      setting.scale.isDirect = true ∧ w.hasRole = true ∧
        w.scale = setting.scale.calibrate .default w.geometry.pixels) ∧
    w.geometry.pixels.width.toInt = min w.geometry.width.toNat 2147483647 ∧
    w.geometry.pixels.height.toInt = min w.geometry.height.toNat 2147483647 ∧
    (setting.scale.isDirect = false → w.scale = .default) := by
  refine ⟨?_, Geometry.toInt_clampSide _, Geometry.toInt_clampSide _, ?_⟩
  · cases calibrated_of_run setting calls htracked with
    | default hdefault => exact Or.inl hdefault
    | current hdirect hrole hcurrent => exact Or.inr ⟨hdirect, hrole, hcurrent⟩
  · intro huniform
    cases calibrated_of_run setting calls htracked with
    | default hdefault => exact hdefault
    | current hdirect hrole hcurrent =>
        rw [huniform] at hdirect
        cases hdirect

theorem scale_current_calibratedRun : ∃ w,
    ((new oneAndAHalf).run calibratedRun).windows[(7 : WindowId)]? = some w ∧
      w.scale.hasOwnScale = true ∧
      (w.scale = .default ∨
        oneAndAHalf.scale.isDirect = true ∧ w.hasRole = true ∧
          w.scale = oneAndAHalf.scale.calibrate .default w.geometry.pixels) ∧
      w.geometry.pixels.width.toInt = min w.geometry.width.toNat 2147483647 ∧
      w.geometry.pixels.height.toInt = min w.geometry.height.toNat 2147483647 ∧
      (oneAndAHalf.scale.isDirect = false → w.scale = .default) := by
  obtain ⟨w, hw, hown, -⟩ := calibratedRun_scale
  exact ⟨w, hw, hown, scale_default_or_current oneAndAHalf calibratedRun hw⟩

/-- Calibration never changes a logical size.  In direct mode, whatever the factors are, the
logical size of every tracked window is the one that the global factors give its geometry,
at least one unit on each axis; and an override remembers the size that it converts to. -/
theorem logicalSize_eq_global (setting : Setting) (hdirect : setting.scale.isDirect = true)
    (calls : List (Call ω)) {id : WindowId} {w : Window}
    (htracked : ((new setting).run calls).windows[id]? = some w) :
    let global := setting.scale.viewportSize none .one w.geometry.pixels
    ((new setting).run calls).logicalSize id = some global ∧
    1 ≤ global.width.toInt ∧ 1 ≤ global.height.toInt ∧
    (w.scale.hasOwnScale = true →
      w.scale.logical =
        some (setting.scale.guestToHost (some w.scale) w.geometry.pixels.corner).extent) := by
  intro global
  obtain ⟨hwidth, hheight⟩ := ScaleConfig.one_le_viewportSize hdirect none .one w.geometry.pixels
  have hlogical : ((new setting).run calls).logicalSize id =
      some (setting.scale.viewportSize (some w.scale) .one w.geometry.pixels) := by
    rw [logicalSize, htracked, run_setting]
    rfl
  have hcalibrated := calibrated_of_run setting calls htracked
  refine ⟨?_, hwidth, hheight, ?_⟩
  · rw [hlogical]
    refine congrArg some (ScaleConfig.viewportSize_congr hdirect .one ?_)
    cases hcalibrated with
    | default hdefault => rw [hdefault, ScaleConfig.guestToHost_default]
    | current _ hrole hcurrent => rw [hcurrent, ScaleConfig.guestToHost_calibrate hdirect]
  · intro hown
    cases hcalibrated with
    | default hdefault =>
        rw [hdefault] at hown
        cases hown
    | current _ hrole hcurrent =>
        rw [hcurrent] at hown ⊢
        exact ScaleConfig.logical_calibrate hdirect hown

theorem logicalSize_eq_global_calibratedRun : ∃ w,
    ((new oneAndAHalf).run calibratedRun).windows[(7 : WindowId)]? = some w ∧
      w.scale.roundX = true ∧ w.scale.roundY = false ∧ w.scale.logical = some ⟨15, 3⟩ ∧
      let global := oneAndAHalf.scale.viewportSize none .one w.geometry.pixels
      ((new oneAndAHalf).run calibratedRun).logicalSize 7 = some global ∧
      1 ≤ global.width.toInt ∧ 1 ≤ global.height.toInt ∧
      (w.scale.hasOwnScale = true →
        w.scale.logical =
          some (oneAndAHalf.scale.guestToHost (some w.scale) w.geometry.pixels.corner).extent) := by
  obtain ⟨w, hw, -, hx, hy, hlogical⟩ := calibratedRun_scale
  exact ⟨w, hw, hx, hy, hlogical, logicalSize_eq_global oneAndAHalf rfl calibratedRun hw⟩

end Manager

end GuestShell

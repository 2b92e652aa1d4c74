import GuestShell.Config.Document
import GuestShell.Proofs.Binary64.Value
import GuestShell.Proofs.Manager.SurfaceScale

/-!
# The factors that conversions divide by

A factor comes from the configuration, which was checked when it was read, or from a
calibration, which divides the pixels of a window by its logical units.  The guest decides on
the pixels, and the logical units are whatever the configured factors make of them.
Calibration gives factors only where the logical size is positive, and where it is, there are
pixels too.  So whatever the guest does, every conversion divides by a positive finite number.

The check of a configuration is for all three factors, also for those that its mode does not
use.  Nothing is claimed here of a window manager that was set up without a configuration.
-/

namespace GuestShell

open Binary64

namespace ScalePair

/-- Both factors are positive and finite. -/
def PositiveFinite (p : ScalePair) : Prop := p.x.PositiveFinite ∧ p.y.PositiveFinite

/-- Both factors lie between `2 ^ -31` and `2 ^ 31`. -/
def Moderate (p : ScalePair) : Prop := p.x.Moderate ∧ p.y.Moderate

theorem Moderate.positiveFinite {p : ScalePair} (h : p.Moderate) : p.PositiveFinite :=
  ⟨h.1.positiveFinite, h.2.positiveFinite⟩

end ScalePair

/-! ### Factors from a configuration -/

namespace ScaleSection

theorem isUsable_iff (x : Binary64) : isUsable x = true ↔ x.PositiveFinite :=
  (positiveFinite_iff x).symm

end ScaleSection

namespace ScaleConfig

/-- All factors of the configuration are positive and finite. -/
structure Sound (config : ScaleConfig) : Prop where
  factor : config.factor.PositiveFinite
  direct : ∀ factors, config.mode = .direct factors → factors.PositiveFinite

end ScaleConfig

/-- A text is accepted if it can be read as a configuration and all its factors are positive
and finite. -/
theorem Config.parse_eq_ok_iff_positiveFinite (text : String) (config : Config) :
    Config.parse text = .ok config ↔
      (Toml.parse? text).bind Config.ofEntries? = some config ∧
        config.scale.factor.PositiveFinite ∧ config.scale.directX.PositiveFinite ∧
        config.scale.directY.PositiveFinite := by
  rw [parse_eq_ok_iff, ScaleSection.check_eq_ok_iff, ScaleSection.isUsable_iff,
    ScaleSection.isUsable_iff, ScaleSection.isUsable_iff]

-- a factor of the mode that was not chosen is checked all the same
example : Config.parse "[scale]\ndirect_x = 0.0\n" =
    .error (.notPositive "scale.direct_x" .zero) := by
  decide +kernel

theorem ScaleSection.sound_toScaleConfig {s : ScaleSection} (hfactor : s.factor.PositiveFinite)
    (hx : s.directX.PositiveFinite) (hy : s.directY.PositiveFinite) : s.toScaleConfig.Sound := by
  cases hdirect : s.direct with
  | true =>
      have hmode : s.toScaleConfig = .direct s.factor ⟨s.directX, s.directY⟩ := by
        rw [toScaleConfig, hdirect, if_pos rfl]
      rw [hmode]
      refine ⟨hfactor, ?_⟩
      rintro factors hfactors
      cases hfactors
      exact ⟨hx, hy⟩
  | false =>
      have hmode : s.toScaleConfig = .uniform s.factor := by
        rw [toScaleConfig, hdirect, if_neg Bool.false_ne_true]
      rw [hmode]
      exact ⟨hfactor, fun factors hfactors => nomatch hfactors⟩

/-! ### Factors from a calibration -/

/-- The ratio of pixels to logical units, both positive. -/
theorem moderate_ofInt_div {pixels logical : Int32} (hp : 0 < pixels.toInt)
    (hl : 0 < logical.toInt) : (ofInt pixels.toInt / ofInt logical.toInt).Moderate := by
  have hpixels := pixels.toInt_lt
  have hlogical := logical.toInt_lt
  have hpositive : decide (pixels.toInt < 0) = false := decide_eq_false (by omega)
  rw [ofInt_div_ofInt_size hl, hpositive]
  exact moderate_ratio (by omega) (by omega) (by simp only [sizeLimit]; omega)
    (by simp only [sizeLimit]; omega)

/-- Pixels that have logical units are some. -/
theorem pixels_pos_of_hostCoordinate_pos {factor : Binary64} {direction : Direction} {v : Int32}
    (hnonneg : 0 ≤ v.toInt) (hpos : 0 < (hostCoordinate factor direction v).toInt) :
    0 < v.toInt := by
  refine lt_of_le_of_ne hnonneg fun hzero => ?_
  obtain rfl : v = 0 := Int32.toInt_inj.1 hzero.symm
  rw [hostCoordinate_zero] at hpos
  exact absurd hpos (by decide)

/-- Calibration for sides that are not negative finds moderate factors, or none. -/
theorem ScaleConfig.moderate_of_calibrate {config : ScaleConfig} (hdirect : config.isDirect = true)
    {surface : SurfaceScale} {pixels : Size} (hwidth : 0 ≤ pixels.width.toInt)
    (hheight : 0 ≤ pixels.height.toInt) {own : ScalePair}
    (hown : (config.calibrate surface pixels).own = some own) : own.Moderate := by
  rcases calibrate_cases hdirect surface pixels with hnone | ⟨hx, hy, hexact, -, -⟩
  · rw [hnone] at hown
    cases hown
  · rw [hexact] at hown
    cases hown
    exact ⟨moderate_ofInt_div (pixels_pos_of_hostCoordinate_pos hwidth hx) hx,
      moderate_ofInt_div (pixels_pos_of_hostCoordinate_pos hheight hy) hy⟩

/-- However large a window is said to be, the pixels of its sides are not negative. -/
theorem Geometry.pixels_nonneg (g : Geometry) :
    0 ≤ g.pixels.width.toInt ∧ 0 ≤ g.pixels.height.toInt := by
  have hwidth : g.pixels.width.toInt = min g.width.toNat 2147483647 := toInt_clampSide g.width
  have hheight : g.pixels.height.toInt = min g.height.toNat 2147483647 := toInt_clampSide g.height
  omega

namespace Manager

variable {ω : Type} [HostChannel ω] [PropertySource ω]

/-- An override is moderate in every state of every run, whatever is configured. -/
theorem moderate_own_of_run (setting : Setting) (calls : List (Call ω)) {id : WindowId}
    {w : Window} (htracked : ((new setting).run calls).windows[id]? = some w) {own : ScalePair}
    (hown : w.scale.own = some own) : own.Moderate := by
  cases calibrated_of_run setting calls htracked with
  | default hdefault =>
      rw [hdefault] at hown
      cases hown
  | current hdirect hrole hcurrent =>
      rw [hcurrent] at hown
      obtain ⟨hwidth, hheight⟩ := w.geometry.pixels_nonneg
      exact ScaleConfig.moderate_of_calibrate hdirect hwidth hheight hown

/-- The factors in force are those of the surface, or configured ones. -/
theorem positiveFinite_effective {config : ScaleConfig} (hsound : config.Sound)
    {s : SurfaceScale} (hown : ∀ own, s.own = some own → own.Moderate) :
    (config.effective (some s)).PositiveFinite := by
  cases hmode : config.mode with
  | uniform =>
      simp only [ScaleConfig.effective, hmode]
      exact ⟨hsound.factor, hsound.factor⟩
  | direct factors =>
      simp only [ScaleConfig.effective, hmode, Option.bind_some]
      cases hs : s.own with
      | none => exact hsound.direct factors hmode
      | some own => exact (hown own hs).positiveFinite

/-- No conversion divides by anything but a positive finite factor.  A text is accepted as a
configuration exactly if it can be read as one and its three factors are positive and finite;
and then so are the global factor, the direct ones and those in force for every window that is
tracked after any run.  An override lies between `2 ^ -31` and `2 ^ 31`. -/
theorem factors_positiveFinite (text : String) (config : Config) :
    (Config.parse text = .ok config ↔
      (Toml.parse? text).bind Config.ofEntries? = some config ∧
        config.scale.factor.PositiveFinite ∧ config.scale.directX.PositiveFinite ∧
        config.scale.directY.PositiveFinite) ∧
    (Config.parse text = .ok config → ∀ setting : Setting,
      setting.scale = config.scale.toScaleConfig →
        setting.scale.factor.PositiveFinite ∧
        (∀ factors, setting.scale.mode = .direct factors → factors.PositiveFinite) ∧
        ∀ (calls : List (Call ω)) (id : WindowId) (w : Window),
          ((new setting).run calls).windows[id]? = some w →
            (setting.scale.effective (some w.scale)).PositiveFinite ∧
            ∀ own, w.scale.own = some own → own.Moderate) := by
  refine ⟨Config.parse_eq_ok_iff_positiveFinite text config, ?_⟩
  intro hparse setting hscale
  obtain ⟨-, hfactor, hx, hy⟩ := (Config.parse_eq_ok_iff_positiveFinite text config).1 hparse
  have hsound : setting.scale.Sound := by
    rw [hscale]
    exact ScaleSection.sound_toScaleConfig hfactor hx hy
  refine ⟨hsound.factor, hsound.direct, ?_⟩
  intro calls id w htracked
  have hown : ∀ own, w.scale.own = some own → own.Moderate :=
    fun own hown => moderate_own_of_run setting calls htracked hown
  exact ⟨positiveFinite_effective hsound hown, hown⟩

/-- The configuration of one and a half pixels to a unit. -/
def oneAndAHalfText : String := "[scale]\ndirect = true\ndirect_x = 1.5\ndirect_y = 1.5\n"

def oneAndAHalfConfig : Config :=
  let factor : Binary64 := .ofInt 3 / .ofInt 2
  { Config.default with
    scale := { ScaleSection.default with direct := true, directX := factor, directY := factor } }

theorem parse_oneAndAHalf : Config.parse oneAndAHalfText = .ok oneAndAHalfConfig := by
  decide +kernel

/-- The configured factors lead to an override, and it is moderate. -/
theorem factors_positiveFinite_calibratedRun : ∃ w,
    Config.parse oneAndAHalfText = .ok oneAndAHalfConfig ∧
      ((new oneAndAHalf).run calibratedRun).windows[(7 : WindowId)]? = some w ∧
      w.scale.hasOwnScale = true ∧ oneAndAHalf.scale.factor.PositiveFinite ∧
      (oneAndAHalf.scale.effective (some w.scale)).PositiveFinite ∧
      ∀ own, w.scale.own = some own → own.Moderate := by
  obtain ⟨w, hw, hown, -⟩ := calibratedRun_scale
  obtain ⟨-, hfactors⟩ := @factors_positiveFinite (Surroundings Queue PropertyTable) _ _
    oneAndAHalfText oneAndAHalfConfig
  obtain ⟨hfactor, -, htracked⟩ := hfactors parse_oneAndAHalf oneAndAHalf rfl
  obtain ⟨heffective, hmoderate⟩ := htracked calibratedRun 7 w hw
  exact ⟨w, parse_oneAndAHalf, hw, hown, hfactor, heffective, hmoderate⟩

end Manager

end GuestShell

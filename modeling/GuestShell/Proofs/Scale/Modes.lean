import GuestShell.Proofs.Scale.Calibration

/-!
# The two modes of scaling are apart

A conversion in uniform mode looks at no surface.  A conversion in direct mode asks the surface
for its factors and, on its own, for its rounding; so a surface that has no factors but rounds
would be converted with the global factors and rounded.  There is no such surface.  Every scale
that calibrating and resetting can lead to either has factors of its own or is the default
(`SurfaceScale.Obtainable.eq_default`), and the default converts like no surface.

Nothing is claimed of the sizes that a calibrated surface has.
-/

namespace GuestShell

open Wire (Fixed)

/-- The scales of surfaces: the default and the explicit overrides, and whatever calibrations, under
any configuration and for any size, and resets make of these. -/
inductive SurfaceScale.Obtainable : SurfaceScale → Prop
  | default : Obtainable .default
  | withOverride (factors : ScalePair) (roundX roundY : Bool) :
      Obtainable (.withOverride factors roundX roundY)
  | calibrate {s : SurfaceScale} (config : ScaleConfig) (pixels : Size) (h : Obtainable s) :
      Obtainable (config.calibrate s pixels)
  | reset {s : SurfaceScale} (h : Obtainable s) : Obtainable s.reset

namespace ScaleConfig

/-- Every conversion gives the same for one surface as for another. -/
structure ConvertsAlike (config : ScaleConfig) (surface surface' : Option SurfaceScale) :
    Prop where
  guestToHost : ∀ p, config.guestToHost surface p = config.guestToHost surface' p
  hostToGuest : ∀ p, config.hostToGuest surface p = config.hostToGuest surface' p
  guestToHostFixed : ∀ p, config.guestToHostFixed surface p = config.guestToHostFixed surface' p
  hostToGuestFixed : ∀ p, config.hostToGuestFixed surface p = config.hostToGuestFixed surface' p
  guestToHostAxis : ∀ axis value,
    config.guestToHostAxis surface axis value = config.guestToHostAxis surface' axis value
  hostToGuestAxis : ∀ axis value,
    config.hostToGuestAxis surface axis value = config.hostToGuestAxis surface' axis value
  damageToHost : ∀ buffer r,
    config.damageToHost surface buffer r = config.damageToHost surface' buffer r
  viewportSize : ∀ contents size,
    config.viewportSize surface contents size = config.viewportSize surface' contents size

/-- Conversions look at the factors and the rounding that a surface gives, and at nothing else of
it. -/
theorem ConvertsAlike.of_eq {config : ScaleConfig} {surface surface' : Option SurfaceScale}
    (heffective : config.effective surface = config.effective surface')
    (hdirections : config.directions surface = config.directions surface') :
    config.ConvertsAlike surface surface' := by
  have hpoint : ∀ p, config.guestToHost surface p = config.guestToHost surface' p := by
    intro p
    rw [guestToHost_eq, guestToHost_eq, heffective, hdirections]
  have hfactor : ∀ axis, config.axisFactor surface axis = config.axisFactor surface' axis := by
    intro axis
    cases axis with
    | vertical => exact congrArg ScalePair.y heffective
    | horizontal => exact congrArg ScalePair.x heffective
  refine ⟨hpoint, ?_, ?_, ?_, ?_, ?_, ?_, ?_⟩
  · intro p
    rw [hostToGuest_eq, hostToGuest_eq, heffective, hdirections]
  · intro p
    simp only [ScaleConfig.guestToHostFixed, heffective]
  · intro p
    simp only [ScaleConfig.hostToGuestFixed, heffective]
  · intro axis value
    simp only [ScaleConfig.guestToHostAxis, hfactor]
  · intro axis value
    simp only [ScaleConfig.hostToGuestAxis, hfactor]
  · intro buffer r
    simp only [ScaleConfig.damageToHost, heffective]
  · intro contents size
    simp only [ScaleConfig.viewportSize, hpoint]

end ScaleConfig

/-- A scale without factors of its own is the default: it does not round, and it remembers no
size. -/
theorem SurfaceScale.Obtainable.eq_default {s : SurfaceScale} (h : s.Obtainable)
    (hown : s.hasOwnScale = false) : s = .default := by
  induction h with
  | default => rfl
  | withOverride => cases hown
  | reset => rfl
  | @calibrate s config pixels h ih =>
      by_cases hdirect : config.isDirect = true
      · rcases ScaleConfig.calibrate_cases hdirect s pixels with hnone | ⟨-, -, howns, -, -⟩
        · exact hnone
        · rw [hasOwnScale, howns] at hown
          cases hown
      · have hkept : config.calibrate s pixels = s := if_neg hdirect
        rw [hkept] at hown ⊢
        exact ih hown

namespace ScaleConfig

section Uniform

variable {config : ScaleConfig} (huniform : config.isDirect = false)
include huniform

theorem mode_of_uniform : config.mode = .uniform := by
  cases hmode : config.mode with
  | uniform => rfl
  | direct factors => simp only [isDirect, hmode, Bool.true_eq_false] at huniform

/-- In uniform mode no surface matters. -/
theorem convertsAlike_of_uniform (surface surface' : Option SurfaceScale) :
    config.ConvertsAlike surface surface' := by
  have hmode := mode_of_uniform huniform
  refine .of_eq ?_ ?_
  · simp only [effective, hmode]
  · simp only [directions, hmode]

end Uniform

/-- In direct mode the default scale gives the global factors and truncation. -/
theorem effective_default {config : ScaleConfig} {factors : ScalePair}
    (hmode : config.mode = .direct factors) :
    config.effective (some .default) = factors ∧
      config.directions (some .default) = (.towardZero, .towardZero) ∧
      config.ConvertsAlike (some .default) none := by
  have heffective : config.effective (some .default) = factors := by
    simp only [effective, hmode]
    rfl
  have hdirections : config.directions (some .default) = (.towardZero, .towardZero) := by
    simp only [directions, hmode]
    rfl
  refine ⟨heffective, hdirections, .of_eq (heffective.trans ?_) (hdirections.trans ?_)⟩
  · simp only [effective, hmode]
    rfl
  · simp only [directions, hmode]

end ScaleConfig

/-- Modes of scaling do not leak into each other.  A scale that calibrations and resets can lead to
and that has no factors of its own neither rounds nor remembers a size, so that in direct mode a
surface with it is converted like no surface, with the global factors and truncation.  In uniform
mode conversions are the same for all surfaces, whatever scales these have, and calibration leaves
the scale. -/
theorem SurfaceScale.modes_apart {s : SurfaceScale} (hs : s.Obtainable) :
    (s.hasOwnScale = false → s.roundX = false ∧ s.roundY = false ∧ s.logical = none ∧
      ∀ (config : ScaleConfig) (factors : ScalePair), config.mode = .direct factors →
        config.effective (some s) = factors ∧
        config.directions (some s) = (.towardZero, .towardZero) ∧
        config.ConvertsAlike (some s) none) ∧
    ∀ config : ScaleConfig, config.isDirect = false →
      (∀ surface surface', config.ConvertsAlike surface surface') ∧
      ∀ (surface : SurfaceScale) (pixels : Size), config.calibrate surface pixels = surface := by
  refine ⟨fun hown => ?_, fun config huniform => ⟨?_, fun surface pixels => ?_⟩⟩
  · obtain rfl := hs.eq_default hown
    exact ⟨rfl, rfl, rfl, fun config factors hmode => ScaleConfig.effective_default hmode⟩
  · exact ScaleConfig.convertsAlike_of_uniform huniform
  · rw [ScaleConfig.calibrate, huniform]
    rfl

/-- An override that rounds gives way to a calibrated one, which a second size does not need. -/
theorem SurfaceScale.modes_apart_recalibrated :
    let config := ScaleConfig.direct .one (.uniform (.ofInt 3 / .ofInt 2))
    let rounding := SurfaceScale.withOverride (.uniform .one) true true
    let s := config.calibrate (config.calibrate rounding ⟨23, 6⟩) ⟨6, 6⟩
    s.Obtainable ∧ s.hasOwnScale = false ∧
      config.effective (some s) = .uniform (.ofInt 3 / .ofInt 2) ∧
      config.ConvertsAlike (some s) none ∧
      (ScaleConfig.uniform .one).ConvertsAlike (some rounding) none := by
  intro config rounding s
  have hs : s.Obtainable :=
    .calibrate config _ (.calibrate config _ (.withOverride (.uniform .one) true true))
  have hown : s.hasOwnScale = false := by decide +kernel
  obtain ⟨hnone, huniform⟩ := SurfaceScale.modes_apart hs
  obtain ⟨-, -, -, hdirect⟩ := hnone hown
  obtain ⟨heffective, -, halike⟩ := hdirect config _ rfl
  exact ⟨hs, hown, heffective, halike, (huniform (.uniform .one) rfl).1 _ _⟩

/-- A scale that rounds without factors of its own, which nothing leads to, would not be converted
like no surface. -/
example :
    let config := ScaleConfig.direct .one (.uniform (.ofInt 3 / .ofInt 2))
    config.guestToHost (some ⟨none, true, true, none⟩) ⟨4, 4⟩ = ⟨3, 3⟩ ∧
      config.guestToHost none ⟨4, 4⟩ = ⟨2, 2⟩ := by
  decide +kernel

end GuestShell

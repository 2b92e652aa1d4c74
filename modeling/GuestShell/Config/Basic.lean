import GuestShell.Binary64.Shortest
import GuestShell.Scale.Basic
import GuestShell.Text.Quoted
import GuestShell.Window.Identity

/-!
# Configuration

The settings of the program in sections, and the reasons for which there may be none.  The
scale factors must be positive and finite, also those that the chosen mode does not use.
-/

namespace GuestShell

/-- How guest pixels are scaled. -/
structure ScaleSection where
  /-- The factor for both axes. -/
  factor : Binary64
  /-- Whether each axis has the factor below instead. -/
  direct : Bool
  directX : Binary64
  directY : Binary64
  deriving DecidableEq

/-- Where the host listens, if anywhere. -/
structure ChannelSection where
  socket : Option String
  deriving DecidableEq

/-- What is logged. -/
structure LoggingSection where
  filter : String
  deriving DecidableEq

/-- The settings of the program. -/
structure Config where
  scale : ScaleSection
  identity : Identity
  channel : ChannelSection
  logging : LoggingSection
  deriving DecidableEq

/-- Why there is no configuration. -/
inductive ConfigError where
  | malformed
  | notPositive (setting : String) (value : Binary64)
  | noSuchFile (path : String)
  | unreadable (path : String)
  /-- There is no place where a configuration is looked for. -/
  | noDirectory
  deriving DecidableEq

def ConfigError.message : ConfigError → String
  | .malformed => "Failed to parse config file"
  | .notPositive setting value => s!"{setting} must be a positive number, got {value.text}"
  | .noSuchFile path => s!"Config file {Text.quoted path} does not exist"
  | .unreadable path => s!"Failed to read config file {Text.quoted path}"
  | .noDirectory => "Failed to get config directory"

namespace ScaleSection

def default : ScaleSection where
  factor := .one
  direct := false
  directX := .one
  directY := .one

/-- The factors with the names of their settings. -/
def factors (s : ScaleSection) : List (String × Binary64) :=
  [("scale.factor", s.factor), ("scale.direct_x", s.directX), ("scale.direct_y", s.directY)]

/-- A factor that can be divided by. -/
def isUsable (x : Binary64) : Bool := x.isPositive && x.isFinite

/-- Finds the first factor that cannot be used. -/
def check (s : ScaleSection) : Except ConfigError Unit :=
  match s.factors.find? fun (_, x) => !isUsable x with
  | none => .ok ()
  | some (setting, x) => .error (.notPositive setting x)

/-- The scaling that the settings ask for. -/
def toScaleConfig (s : ScaleSection) : ScaleConfig :=
  if s.direct then .direct s.factor ⟨s.directX, s.directY⟩ else .uniform s.factor

theorem check_eq_ok_iff (s : ScaleSection) :
    s.check = .ok () ↔
      isUsable s.factor = true ∧ isUsable s.directX = true ∧ isUsable s.directY = true := by
  cases hf : isUsable s.factor <;> cases hx : isUsable s.directX <;>
    cases hy : isUsable s.directY <;> simp [check, factors, hf, hx, hy]

end ScaleSection

namespace Config

/-- The settings where nothing is set. -/
def default : Config where
  scale := .default
  identity := .default
  channel := ⟨none⟩
  logging := ⟨"crosswl=info"⟩

end Config

end GuestShell

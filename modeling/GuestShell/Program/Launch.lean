import GuestShell.Config.Load
import GuestShell.Program.Failure

/-!
# Before the display is needed

The command line is read first and the configuration after it; files are not even looked at
if the command line makes no sense.
-/

namespace GuestShell

/-- What the program is to work with. -/
structure Launch where
  replace : Bool
  config : Config
  deriving DecidableEq

namespace Launch

variable {m : Type → Type} [Monad m] [FileAccess m]

/-- Reads the command line and loads the configuration it asks for. -/
def prepare (configDirectory : Option String) (arguments : List String) :
    m (Except Failure Launch) := do
  match Options.ofArguments arguments with
  | .error e => return .error (.commandLine e)
  | .ok options =>
    match ← Config.load configDirectory options.config with
    | .error e => return .error (.config e)
    | .ok config => return .ok ⟨options.replace, config⟩

end Launch

end GuestShell

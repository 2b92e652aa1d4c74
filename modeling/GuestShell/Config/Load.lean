import GuestShell.Config.Document
import GuestShell.Files.Access

/-!
# Loading the configuration

A configuration is read from a given path or from its place in the configuration directory.
If the path leads nowhere, a given path is an error, while in the configuration directory the
default configuration is written and used.  Nothing that the path leads to is overwritten, and
the default configuration is used also if it cannot be written.
-/

namespace GuestShell.Config

/-- The directory of the program among the configurations. -/
def directory (configDirectory : String) : String := Path.join configDirectory "crosswl"

/-- Where the configuration is if no path is given. -/
def defaultPath (configDirectory : String) : String :=
  Path.join (directory configDirectory) "config.toml"

variable {m : Type → Type} [Monad m] [FileAccess m]

/-- Reads the configuration at a path where something is. -/
def readFrom (path : String) : m (Except ConfigError Config) := do
  match ← FileAccess.readText path with
  | none => return .error (.unreadable path)
  | some text => return parse text

/-- Writes the default configuration, as far as that goes. -/
def writeDefault (configDirectory : String) : m Unit := do
  if ← FileAccess.createDirectories (directory configDirectory) then
    discard (FileAccess.writeText (defaultPath configDirectory) defaultText)

/-- The configuration at a given path. -/
def loadFrom (path : String) : m (Except ConfigError Config) := do
  if ← FileAccess.pathExists path then readFrom path else return .error (.noSuchFile path)

/-- The configuration in the configuration directory. -/
def loadDefault (configDirectory : String) : m (Except ConfigError Config) := do
  if ← FileAccess.pathExists (defaultPath configDirectory) then
    readFrom (defaultPath configDirectory)
  else
    writeDefault configDirectory
    return .ok default

/-- The configuration at the given path, or else in the configuration directory, if there is
one. -/
def load (configDirectory path : Option String) : m (Except ConfigError Config) :=
  match path, configDirectory with
  | some path, _ => loadFrom path
  | none, some configDirectory => loadDefault configDirectory
  | none, none => return .error .noDirectory

end GuestShell.Config

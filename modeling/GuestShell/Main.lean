import GuestShell.Program.Launch

/-!
# The program at the command line

Files and the environment are the system's here.  Connections to displays are NOT part of
the library: once the configuration is loaded, the program ends for want of a display.
-/

namespace GuestShell

/-- Whether an action went well. -/
def succeeds {α : Type} (action : IO α) : IO Bool := do
  match ← action.toBaseIO with
  | .ok _ => return true
  | .error _ => return false

instance : FileAccess IO where
  pathExists path := succeeds (IO.FS.realPath path)
  readText path := do
    match ← (IO.FS.readFile path).toBaseIO with
    | .ok text => return some text
    | .error _ => return none
  createDirectories path := succeeds (IO.FS.createDirAll path)
  writeText path text := succeeds (IO.FS.writeFile path text)

/-- The directory of configurations that the environment names. -/
def environmentDirectory : IO (Option String) := do
  match ← IO.getEnv "XDG_CONFIG_HOME", ← IO.getEnv "HOME" with
  | some directory, home =>
    if Path.isAbsolute directory then return some directory
    else return home.map fun home => Path.join home ".config"
  | none, home => return home.map fun home => Path.join home ".config"

/-- Reports why the program ends. -/
def finish (failure : Failure) : IO UInt32 := do
  IO.eprintln failure.report
  return failure.exitStatus

end GuestShell

open GuestShell in
def main (arguments : List String) : IO UInt32 := do
  match ← Launch.prepare (← environmentDirectory) arguments with
  | .error failure => finish failure
  | .ok _ => finish .noDisplay

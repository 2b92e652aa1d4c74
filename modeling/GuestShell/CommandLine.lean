/-!
# The command line

The program takes the path of a configuration and whether it may replace another window
manager.  Arguments are read from left to right up to the first that makes no sense; of
several paths the last one counts.  Whatever follows a demand for a path is the path.
-/

namespace GuestShell

/-- What the program was asked to do. -/
structure Options where
  config : Option String
  replace : Bool
  deriving DecidableEq, Repr

/-- Why a command line makes no sense. -/
inductive CommandLineError where
  | pathMissing
  | unknownArgument (argument : String)
  deriving DecidableEq, Repr

def CommandLineError.message : CommandLineError → String
  | .pathMissing => "--config needs a path"
  | .unknownArgument argument => s!"Unknown argument: {argument}"

namespace Options

def default : Options := ⟨none, false⟩

/-- An argument that asks to replace another window manager. -/
def asksToReplace (argument : String) : Bool := argument = "--replace" || argument = "-r"

/-- An argument that is followed by the path of a configuration. -/
def asksForConfig (argument : String) : Bool := argument = "--config" || argument = "-c"

/-- The options after more arguments. -/
def addAll (options : Options) : List String → Except CommandLineError Options
  | [] => .ok options
  | [argument] =>
    if asksToReplace argument then .ok { options with replace := true }
    else if asksForConfig argument then .error .pathMissing
    else .error (.unknownArgument argument)
  | argument :: next :: rest =>
    if asksToReplace argument then addAll { options with replace := true } (next :: rest)
    else if asksForConfig argument then addAll { options with config := some next } rest
    else .error (.unknownArgument argument)

/-- The options that a command line asks for. -/
def ofArguments (arguments : List String) : Except CommandLineError Options :=
  default.addAll arguments

end Options

end GuestShell

import GuestShell.CommandLine
import GuestShell.Config.Basic
import GuestShell.Display.Ownership

/-!
# Why the program ends

The reasons for which the program does not start or cannot go on, and what it reports then.
-/

namespace GuestShell

inductive Failure where
  | commandLine (error : CommandLineError)
  | config (error : ConfigError)
  /-- There is no display, or it has no such screen. -/
  | noDisplay
  | ownership (error : OwnershipError)
  | atomsUnknown
  /-- A request could not be sent. -/
  | notSent
  /-- The display did not tell which windows there are. -/
  | windowsUnknown
  | hostUnreachable (path : String)
  | hostLost
  /-- The display closed the connection. -/
  | displayLost
  deriving DecidableEq

namespace Failure

def message : Failure → String
  | .commandLine error => error.message
  | .config error => error.message
  | .noDisplay => "Failed to connect to X server"
  | .ownership error => error.message
  | .atomsUnknown => "Failed to intern atoms"
  | .notSent => connectionLostMessage
  | .windowsUnknown => "X11 error"
  | .hostUnreachable path => s!"Failed to connect host channel {Text.quoted path}"
  | .hostLost => "Host channel failed"
  | .displayLost => "X11 connection lost"

/-- What the program says at its end. -/
def report (failure : Failure) : String := "Error: " ++ failure.message

/-- The status that the program ends with. -/
def exitStatus (_ : Failure) : UInt32 := 1

end Failure

end GuestShell

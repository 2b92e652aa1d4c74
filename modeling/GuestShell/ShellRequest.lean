import GuestShell.Wire.Message

/-!
# Requests to the host shell

The requests that the window manager sends about a window: to its `xdg_toplevel` object, or
to its `zaura_surface` object for the application id.  Each has one encoding.
-/

namespace GuestShell

open Wire

/-- A request addressed to an object of the host. -/
inductive ShellRequest where
  | setTitle (toplevel : UInt32) (title : String)
  | setMaximized (toplevel : UInt32)
  | unsetMaximized (toplevel : UInt32)
  /-- On the output of the compositor's choosing. -/
  | setFullscreen (toplevel : UInt32)
  | unsetFullscreen (toplevel : UInt32)
  | setMinimized (toplevel : UInt32)
  | setApplicationId (auraSurface : UInt32) (appId : String)
  deriving DecidableEq, Repr

namespace ShellRequest

/-- The object the request is for. -/
def target : ShellRequest → UInt32
  | setTitle toplevel _ => toplevel
  | setMaximized toplevel => toplevel
  | unsetMaximized toplevel => toplevel
  | setFullscreen toplevel => toplevel
  | unsetFullscreen toplevel => toplevel
  | setMinimized toplevel => toplevel
  | setApplicationId auraSurface _ => auraSurface

def opcode : ShellRequest → UInt16
  | setTitle .. => 2
  | setMaximized .. => 9
  | unsetMaximized .. => 10
  | setFullscreen .. => 11
  | unsetFullscreen .. => 12
  | setMinimized .. => 13
  | setApplicationId .. => 4

/-- The protocol's name of the request. -/
def name : ShellRequest → String
  | setTitle .. => "xdg_toplevel.set_title"
  | setMaximized .. => "xdg_toplevel.set_maximized"
  | unsetMaximized .. => "xdg_toplevel.unset_maximized"
  | setFullscreen .. => "xdg_toplevel.set_fullscreen"
  | unsetFullscreen .. => "xdg_toplevel.unset_fullscreen"
  | setMinimized .. => "xdg_toplevel.set_minimized"
  | setApplicationId .. => "zaura_surface.set_application_id"

/-- Fullscreen names no output, which is the null object. -/
def arguments : ShellRequest → List Argument
  | setTitle _ title => [.string (some title)]
  | setFullscreen _ => [.object none]
  | setApplicationId _ appId => [.string (some appId)]
  | _ => []

def message (r : ShellRequest) : Message := .ofArguments r.target r.opcode r.arguments

/-- The bytes of the request; there are none if its text is too long. -/
def encode (r : ShellRequest) : Except WireError (List UInt8) := r.message.encode

end ShellRequest

end GuestShell

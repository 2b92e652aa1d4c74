import GuestShell.ShellRequest

/-!
# Window states

A window is fullscreen or not, maximized or not, iconified or not, each independently of
the others.  The host is told of a change of state by one request per axis; it has no
request for leaving the iconified state.
-/

namespace GuestShell

/-- One of the independent states of a window. -/
inductive StateAxis where
  | fullscreen
  | maximized
  | iconified
  deriving DecidableEq, Repr

/-- The states of a window. -/
structure WindowState where
  fullscreen : Bool
  maximized : Bool
  iconified : Bool
  deriving DecidableEq, Repr

namespace WindowState

/-- None of the states. -/
def normal : WindowState := ⟨false, false, false⟩

def get (s : WindowState) : StateAxis → Bool
  | .fullscreen => s.fullscreen
  | .maximized => s.maximized
  | .iconified => s.iconified

def set (s : WindowState) (axis : StateAxis) (value : Bool) : WindowState :=
  match axis with
  | .fullscreen => { s with fullscreen := value }
  | .maximized => { s with maximized := value }
  | .iconified => { s with iconified := value }

theorem get_set_self (s : WindowState) (axis : StateAxis) (value : Bool) :
    (s.set axis value).get axis = value := by
  cases axis <;> rfl

theorem get_set_of_ne (s : WindowState) {axis other : StateAxis} (value : Bool)
    (h : axis ≠ other) : (s.set axis value).get other = s.get other := by
  cases axis <;> cases other <;> first | rfl | exact absurd rfl h

/-- The request that puts a toplevel into or out of fullscreen. -/
def fullscreenRequest (toplevel : UInt32) : Bool → ShellRequest
  | true => .setFullscreen toplevel
  | false => .unsetFullscreen toplevel

/-- The request that maximizes a toplevel or restores it. -/
def maximizedRequest (toplevel : UInt32) : Bool → ShellRequest
  | true => .setMaximized toplevel
  | false => .unsetMaximized toplevel

/-- The requests that bring a host which knows `host` in line with `target`, each with the
axis it is about: fullscreen first, then maximized, then minimized. -/
def syncRequests (toplevel : UInt32) (host target : WindowState) :
    List (StateAxis × ShellRequest) :=
  (if host.fullscreen = target.fullscreen then []
    else [(.fullscreen, fullscreenRequest toplevel target.fullscreen)]) ++
  (if host.maximized = target.maximized then []
    else [(.maximized, maximizedRequest toplevel target.maximized)]) ++
  (if target.iconified && !host.iconified then [(.iconified, .setMinimized toplevel)] else [])

theorem syncRequests_self (toplevel : UInt32) (s : WindowState) :
    syncRequests toplevel s s = [] := by
  simp [syncRequests]

end WindowState

end GuestShell

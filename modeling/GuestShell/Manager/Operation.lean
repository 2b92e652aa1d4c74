import GuestShell.Window.StateRequest
import GuestShell.Window.Identity
import GuestShell.Display.Properties

/-!
# What happens to windows

A *guest change* is what the guest's display reports about one window.  An *operation* is a
guest change or something the host side does with the window.  Each operation names one
window and says nothing about any other.
-/

namespace GuestShell

/-- The parts of a geometry that a window asks to change. -/
structure GeometryChange where
  x : Option Int32
  y : Option Int32
  width : Option UInt32
  height : Option UInt32
  deriving DecidableEq, Repr

/-- The geometry with the named parts replaced. -/
def Geometry.change (g : Geometry) (c : GeometryChange) : Geometry where
  x := c.x.getD g.x
  y := c.y.getD g.y
  width := c.width.getD g.width
  height := c.height.getD g.height

/-- What the display reports about a window. -/
inductive GuestChange where
  | created (overrideRedirect : Bool) (geometry : Geometry)
  | destroyed
  | reparented (parent : WindowId)
  | mapRequested
  | unmapped
  | configureRequested (change : GeometryChange)
  | focused
  /-- A property was set or deleted. -/
  | propertyChanged (property : Atom)
  | messaged (messageType : Atom) (data : MessageWords)
  deriving DecidableEq, Repr

/-- A report about one window. -/
structure GuestEvent where
  window : WindowId
  change : GuestChange
  deriving DecidableEq, Repr

/-- What can happen to a window. -/
inductive Operation where
  | guest (change : GuestChange)
  /-- The window was there before the window manager. -/
  | adopt (geometry : Geometry) (viewable : Bool)
  /-- The host made a toplevel for the window. -/
  | assignRole (toplevel : UInt32)
  /-- The host made an aura surface for the window. -/
  | assignAuraSurface (auraSurface : UInt32)
  | updateApplicationId
  deriving DecidableEq, Repr

/-- What stays the same while the window manager runs. -/
structure Setting where
  root : WindowId
  atoms : Atoms
  scale : ScaleConfig
  identity : Identity
  /-- Whether windows can be iconified at all. -/
  iconify : Bool
  deriving DecidableEq

end GuestShell

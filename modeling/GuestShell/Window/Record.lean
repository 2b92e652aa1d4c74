import GuestShell.Scale.Basic
import GuestShell.Window.State

/-!
# Window records

What is known of one guest window: what the guest said about it, what the host was told,
and the host objects that stand for it.  The host objects come and go with the mapping of
the window; everything else stays as long as the record does.
-/

namespace GuestShell

/-- The number of a window on the guest's display. -/
abbrev WindowId := UInt32

/-- A place and a size in guest pixels. -/
structure Geometry where
  x : Int32
  y : Int32
  width : UInt32
  height : UInt32
  deriving DecidableEq, Repr

namespace Geometry

def empty : Geometry := ⟨0, 0, 0, 0⟩

/-- A side as a signed number, clamped. -/
def clampSide (side : UInt32) : Int32 := Int32.ofIntClamp side.toNat

/-- The size as signed numbers, clamped. -/
def pixels (g : Geometry) : Size := ⟨clampSide g.width, clampSide g.height⟩

end Geometry

/-- The record of one guest window. -/
structure Window where
  id : WindowId
  /-- The guest asked for it to be mapped, and did not unmap it since. -/
  managed : Bool
  overrideRedirect : Bool
  /-- The geometry last asked for. -/
  geometry : Geometry
  /-- The state last asked for. -/
  state : WindowState
  /-- The state the host was last told. -/
  hostState : WindowState
  title : String
  /-- The class part of the window's class property. -/
  className : Option String
  clientLeader : Option WindowId
  /-- The application id that the guest put on the window. -/
  appIdProperty : Option String
  /-- The host's toplevel object, once the window has a role. -/
  toplevel : Option UInt32
  /-- The host's aura surface object. -/
  auraSurface : Option UInt32
  /-- The host's surface object, as announced by the guest. -/
  hostSurface : Option UInt32
  scale : SurfaceScale
  deriving DecidableEq

namespace Window

/-- A record about which nothing is known but the number. -/
def new (id : WindowId) : Window where
  id := id
  managed := false
  overrideRedirect := false
  geometry := .empty
  state := .normal
  hostState := .normal
  title := ""
  className := none
  clientLeader := none
  appIdProperty := none
  toplevel := none
  auraSurface := none
  hostSurface := none
  scale := .default

def hasRole (w : Window) : Bool := w.toplevel.isSome

/-- The record without host objects and what they were told. -/
def clearHostObjects (w : Window) : Window :=
  { w with
    toplevel := none
    auraSurface := none
    hostSurface := none
    hostState := .normal
    scale := w.scale.reset }

end Window

end GuestShell

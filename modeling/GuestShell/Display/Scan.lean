import GuestShell.Display.Router

/-!
# Windows that were there before

When the window manager takes over a screen it goes through the children of the root
window once and tracks those it is to manage.  A window that vanishes meanwhile is passed
over; it does NOT keep the others from being tracked.
-/

namespace GuestShell.Manager

variable {ω : Type} [Connection ω] [HostChannel ω] [PropertySource ω]

/-- Takes over a window.  What keeps it from being adopted is no reason to stop. -/
def adopt (m : Manager) (window : WindowId) (geometry : Geometry) (viewable : Bool) :
    Action ω Fault Manager := fun world =>
  let outcome := m.perform window (.adopt geometry viewable) world
  (.ok outcome.value, outcome.world)

/-- Looks at a child of the root window and takes it over, unless it asks to be left alone
or is gone. -/
def examine (m : Manager) (window : WindowId) : Action ω Fault Manager := do
  match ← Action.ask? (.getWindowAttributes window) .lost with
  | none => return m
  | some reply =>
    let attributes : WindowAttributes := reply
    if attributes.overrideRedirect then return m
    match ← Action.ask? (.getGeometry window) .lost with
    | none => return m
    | some geometry =>
      Action.tell (.changeWindowAttributes window (selectEvents guestEvents)) .lost
      m.adopt window geometry (attributes.mapState = .viewable)

/-- Goes through the children of the root window. -/
def scan (m : Manager) : Action ω Fault Manager := do
  let children : List WindowId ← Action.ask (.queryTree m.setting.root) .lost .refused
  children.foldlM examine m

end GuestShell.Manager

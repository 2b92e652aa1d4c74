import GuestShell.Display.Connection
import GuestShell.Display.Event
import GuestShell.Manager.Basic

/-!
# Routing events to the window manager

Every event goes to the window manager first.  Then the display is asked for what the event
calls for, whether or not the window manager had trouble with it: guest windows must be
mapped and configured even when the host cannot be reached.

The root window tells which window is active, and which hints are supported.
-/

namespace GuestShell

/-- What became of an event. -/
inductive Routed where
  | handled
  /-- The event says nothing to the window manager. -/
  | ignored
  deriving DecidableEq, Repr

/-- What the window manager wants to hear from a guest window. -/
def guestEvents : UInt32 := EventKind.mask [.propertyChange, .focusChange]

/-- The values of a configure request that its mask names. -/
def ConfigureRequest.values (r : ConfigureRequest) : ValueList :=
  (if r.names .x then [(1, r.x.toInt32.toUInt32)] else []) ++
  (if r.names .y then [(2, r.y.toInt32.toUInt32)] else []) ++
  (if r.names .width then [(4, r.width.toUInt32)] else []) ++
  (if r.names .height then [(8, r.height.toUInt32)] else []) ++
  (if r.names .borderWidth then [(16, r.borderWidth.toUInt32)] else []) ++
  (if r.names .sibling then [(32, r.sibling)] else []) ++
  (if r.names .stackMode then [(64, r.stackMode)] else [])

namespace Atoms

/-- The request that tells which window is active; zero stands for none. -/
def activeWindowRequest (atoms : Atoms) (root : WindowId) (active : Option WindowId) : Request :=
  .changeProperty root atoms.netActiveWindow PredefinedAtom.window.number
    (.words [active.getD 0])

/-- The name the window manager gives itself. -/
def managerName : String := "crosswl"

/-- The requests that advertise the supported hints and the window that stands for the
window manager. -/
def supportRequests (atoms : Atoms) (root check : WindowId) : List Request :=
  let checkRequest (window : WindowId) : Request :=
    .changeProperty window atoms.netSupportingWmCheck PredefinedAtom.window.number
      (.words [check])
  [.changeProperty root atoms.netSupported PredefinedAtom.atom.number (.words atoms.supported),
   checkRequest root, checkRequest check,
   .changeProperty check atoms.netWmName atoms.utf8String (.bytes (Utf8.encode managerName))]

end Atoms

namespace DisplayEvent

/-- The request that an event calls for, given the window manager after it. -/
def followUp (event : DisplayEvent) (m : Manager) : Option Request :=
  match event with
  | .createNotify window .. => some (.changeWindowAttributes window (selectEvents guestEvents))
  | .mapRequest window => some (.mapWindow window)
  | .configureRequest request => some (.configureWindow request.window request.values)
  | .focusIn window =>
      if m.tracks window then
        some (m.setting.atoms.activeWindowRequest m.setting.root (some window))
      else none
  | _ => none

end DisplayEvent

namespace Manager

variable {ω : Type} [Connection ω] [HostChannel ω] [PropertySource ω]

/-- Performs the request that an event calls for, if it calls for one. -/
def follow (event : DisplayEvent) (m : Manager) (world : ω) : Except Fault Routed × ω :=
  match event.followUp m with
  | none => (.ok .handled, world)
  | some request =>
    match (Action.tell request Fault.lost).run world with
    | (.ok (), world) => (.ok .handled, world)
    | (.error fault, world) => (.error fault, world)

/-- Takes in an event and does what it calls for.  Only a lost connection is an error. -/
def route (m : Manager) (event : DisplayEvent) (world : ω) :
    Except Fault Routed × Manager × ω :=
  match event, GuestEvent.ofDisplayEvent? event with
  | .error, _ => (.ok .handled, m, world)
  | _, none => (.ok .ignored, m, world)
  | _, some guest =>
    let handled := m.handle guest world
    let (result, world) := follow event handled.value handled.world
    (result, handled.value, world)

end Manager

end GuestShell

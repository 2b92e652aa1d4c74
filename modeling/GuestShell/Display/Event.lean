import GuestShell.Manager.Operation

/-!
# Reports of a display

The events that a display sends, and what the window manager makes of them.  Client
messages are understood only in the 32-bit format; events of other kinds say nothing to
the window manager.
-/

namespace GuestShell

/-- A window's wish to be configured.  Only the values named in the mask count. -/
structure ConfigureRequest where
  window : WindowId
  x : Int16
  y : Int16
  width : UInt16
  height : UInt16
  borderWidth : UInt16
  sibling : WindowId
  stackMode : UInt32
  valueMask : UInt16
  deriving DecidableEq, Repr

/-- The values of a configure request, in the order of their mask bits. -/
inductive ConfigureValue where
  | x
  | y
  | width
  | height
  | borderWidth
  | sibling
  | stackMode
  deriving DecidableEq, Repr

def ConfigureValue.bit : ConfigureValue → UInt16
  | .x => 1
  | .y => 2
  | .width => 4
  | .height => 8
  | .borderWidth => 16
  | .sibling => 32
  | .stackMode => 64

namespace ConfigureRequest

/-- The mask names a value. -/
def names (r : ConfigureRequest) (value : ConfigureValue) : Bool :=
  r.valueMask &&& value.bit != 0

/-- The geometry asked for. -/
def geometryChange (r : ConfigureRequest) : GeometryChange where
  x := if r.names .x then some r.x.toInt32 else none
  y := if r.names .y then some r.y.toInt32 else none
  width := if r.names .width then some r.width.toUInt32 else none
  height := if r.names .height then some r.height.toUInt32 else none

end ConfigureRequest

/-- The contents of a client message. -/
inductive MessageData where
  | words (data : MessageWords)
  /-- Bytes or 16-bit numbers. -/
  | other
  deriving DecidableEq, Repr

/-- An event of a display. -/
inductive DisplayEvent where
  | createNotify (window : WindowId) (overrideRedirect : Bool) (x y : Int16)
      (width height : UInt16)
  | destroyNotify (window : WindowId)
  | reparentNotify (window parent : WindowId)
  | mapRequest (window : WindowId)
  | unmapNotify (window : WindowId)
  | configureRequest (request : ConfigureRequest)
  | focusIn (window : WindowId)
  | propertyNotify (window : WindowId) (property : Atom)
  | clientMessage (window : WindowId) (messageType : Atom) (data : MessageData)
  /-- A request that nobody checked was refused. -/
  | error
  | other
  deriving DecidableEq, Repr

/-- What an event says about a window, if it does. -/
def GuestEvent.ofDisplayEvent? : DisplayEvent → Option GuestEvent
  | .createNotify window overrideRedirect x y width height =>
      some ⟨window, .created overrideRedirect
        ⟨x.toInt32, y.toInt32, width.toUInt32, height.toUInt32⟩⟩
  | .destroyNotify window => some ⟨window, .destroyed⟩
  | .reparentNotify window parent => some ⟨window, .reparented parent⟩
  | .mapRequest window => some ⟨window, .mapRequested⟩
  | .unmapNotify window => some ⟨window, .unmapped⟩
  | .configureRequest request => some ⟨request.window, .configureRequested request.geometryChange⟩
  | .focusIn window => some ⟨window, .focused⟩
  | .propertyNotify window property => some ⟨window, .propertyChanged property⟩
  | .clientMessage window messageType (.words data) =>
      some ⟨window, .messaged messageType data⟩
  | .clientMessage _ _ .other => none
  | .error => none
  | .other => none

end GuestShell

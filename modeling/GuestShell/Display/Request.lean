import GuestShell.Display.Atoms
import GuestShell.Window.Record

/-!
# Requests to a display

The requests the window manager makes and what a display answers to each.  Attributes and
geometry values travel as lists of words, each with the bit that names it; the bits of a
list are in ascending order and their sum is the mask of the request.
-/

namespace GuestShell

/-- Words with the mask bits that name them. -/
abbrev ValueList := List (UInt32 × UInt32)

namespace ValueList

def mask (values : ValueList) : UInt32 := values.foldl (fun mask v => mask ||| v.1) 0

def words (values : ValueList) : List UInt32 := values.map (·.2)

end ValueList

/-- The reports that a client of the display can ask for. -/
inductive EventKind where
  | structureNotify
  | substructureNotify
  | substructureRedirect
  | focusChange
  | propertyChange
  deriving DecidableEq, Repr

def EventKind.bit : EventKind → UInt32
  | .structureNotify => 0x20000
  | .substructureNotify => 0x80000
  | .substructureRedirect => 0x100000
  | .focusChange => 0x200000
  | .propertyChange => 0x400000

/-- The mask that asks for some kinds of reports. -/
def EventKind.mask (kinds : List EventKind) : UInt32 :=
  kinds.foldl (fun mask kind => mask ||| kind.bit) 0

/-- The attributes that ask for reports from a window. -/
def selectEvents (mask : UInt32) : ValueList := [(0x800, mask)]

/-- The attribute that keeps a window out of the window manager's hands. -/
def overrideRedirect : ValueList := [(0x200, 1)]

/-- The value of a property. -/
inductive PropertyData where
  | bytes (value : List UInt8)
  | words (value : List UInt32)
  deriving DecidableEq, Repr

/-- A window to be made, one pixel in size and out of sight. -/
structure HiddenWindow where
  depth : UInt8
  window : WindowId
  parent : WindowId
  x : Int32
  y : Int32
  width : UInt32
  height : UInt32
  attributes : ValueList
  deriving DecidableEq, Repr

/-- A request to a display. -/
inductive Request where
  | internAtom (name : String)
  | createWindow (window : HiddenWindow)
  | changeWindowAttributes (window : WindowId) (attributes : ValueList)
  | configureWindow (window : WindowId) (values : ValueList)
  | getWindowAttributes (window : WindowId)
  | getGeometry (window : WindowId)
  | queryTree (window : WindowId)
  | mapWindow (window : WindowId)
  /-- Replaces a property. -/
  | changeProperty (window : WindowId) (property type : Atom) (data : PropertyData)
  /-- Reads a property of a type; type zero stands for any. -/
  | getProperty (window : WindowId) (property type : Atom)
  | setSelectionOwner (owner : WindowId) (selection : Atom)
  | getSelectionOwner (selection : Atom)
  deriving DecidableEq, Repr

/-- The longest property that is read, in words. -/
def maxPropertyWords : Nat := 1024

/-- How a window is mapped. -/
inductive MapState where
  | unmapped
  | unviewable
  | viewable
  deriving DecidableEq, Repr

/-- The attributes of a window. -/
structure WindowAttributes where
  mapState : MapState
  overrideRedirect : Bool
  /-- The reports that this client has asked the window for. -/
  eventMask : UInt32
  deriving DecidableEq, Repr

/-- A property as it is read.  Without a property the type is zero; for a property of
another type than asked for the value is empty. -/
structure PropertyValue where
  type : Atom
  /-- The number of bits in an item. -/
  format : Nat
  value : List UInt8
  deriving DecidableEq, Repr

/-- What a display answers to a request.  Requests with nothing to answer are only done or
refused. -/
def Request.Reply : Request → Type
  | .internAtom _ => Atom
  | .getWindowAttributes _ => WindowAttributes
  | .getGeometry _ => Geometry
  | .queryTree _ => List WindowId
  | .getProperty .. => PropertyValue
  | .getSelectionOwner _ => WindowId
  | _ => Unit

/-- A screen of a display. -/
structure Screen where
  root : WindowId
  depth : UInt8
  deriving DecidableEq, Repr

end GuestShell

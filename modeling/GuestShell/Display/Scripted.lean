import GuestShell.Display.Connection

/-!
# Displays that follow a script

A scripted display answers from tables and keeps a transcript of the requests.  The script
says which windows exist, which of them vanish and when, which requests are refused and
when the connection breaks.  It serves for examining the window manager without a display;
it is NOT a model of how displays must behave, and a request that changes a property is
only noted.
-/

namespace GuestShell

/-- The numbers of names: given ones, then ascending ones in the order of first use. -/
structure AtomNames where
  known : List (String × Atom)
  next : Nat
  deriving Repr

namespace AtomNames

/-- The names that every display knows. -/
def predefined : List (String × Atom) :=
  [("ATOM", 4), ("CARDINAL", 6), ("STRING", 31), ("WINDOW", 33), ("WM_HINTS", 35),
   ("WM_NAME", 39), ("WM_NORMAL_HINTS", 40), ("WM_CLASS", 67)]

/-- The predefined names, with further ones that come before them. -/
def new (given : List (String × Atom)) : AtomNames := ⟨given ++ predefined, 200⟩

/-- The number of a name, which is a new one at its first use. -/
def intern (name : String) (names : AtomNames) : Atom × AtomNames :=
  match names.known.lookup name with
  | some atom => (atom, names)
  | none =>
    let atom := UInt32.ofNat names.next
    (atom, ⟨(name, atom) :: names.known, names.next + 1⟩)

end AtomNames

/-- The names of requests, as the display's protocol has them. -/
def Request.name : Request → String
  | .internAtom _ => "InternAtom"
  | .createWindow _ => "CreateWindow"
  | .changeWindowAttributes .. => "ChangeWindowAttributes"
  | .configureWindow .. => "ConfigureWindow"
  | .getWindowAttributes _ => "GetWindowAttributes"
  | .getGeometry _ => "GetGeometry"
  | .queryTree _ => "QueryTree"
  | .mapWindow _ => "MapWindow"
  | .changeProperty .. => "ChangeProperty"
  | .getProperty .. => "GetProperty"
  | .setSelectionOwner .. => "SetSelectionOwner"
  | .getSelectionOwner _ => "GetSelectionOwner"

/-- A child of the root window. -/
structure ScriptedWindow where
  window : WindowId
  /-- Absent if it cannot be asked for. -/
  geometry : Option Geometry
  mapState : MapState
  overrideRedirect : Bool

/-- A property of a window. -/
structure ScriptedProperty where
  window : WindowId
  property : Atom
  value : PropertyValue

/-- What a display was asked to do. -/
inductive TranscriptEntry where
  | request (request : Request)
  | flush

/-- A display that follows a script. -/
structure ScriptedDisplay where
  screens : List Screen
  names : AtomNames
  /-- The children of the root window. -/
  tree : List ScriptedWindow
  properties : List ScriptedProperty
  /-- Windows that do not exist. -/
  gone : List WindowId
  /-- How many more times windows are found before they are gone. -/
  goneAfter : List (WindowId × Nat)
  /-- The owner of every selection. -/
  owner : WindowId
  /-- What is said of the owner from the second time on. -/
  verifyOwner : Option WindowId
  eventMask : UInt32
  /-- Requests that are refused, by name and number. -/
  refusals : List (String × Nat)
  /-- How many more requests can be sent, if the connection breaks. -/
  remaining : Option Nat
  /-- How often each request was made. -/
  counts : List (String × Nat)
  /-- The newest entry first. -/
  transcript : List TranscriptEntry

namespace ScriptedDisplay

/-- A display where nothing is out of order. -/
def new (screens : List Screen) (names : AtomNames) : ScriptedDisplay where
  screens := screens
  names := names
  tree := []
  properties := []
  gone := []
  goneAfter := []
  owner := 0
  verifyOwner := none
  eventMask := 0
  refusals := []
  remaining := none
  counts := []
  transcript := []

/-- How often a request was made. -/
def count (d : ScriptedDisplay) (name : String) : Nat := (d.counts.lookup name).getD 0

/-- Notes a request. -/
def note (d : ScriptedDisplay) (request : Request) : ScriptedDisplay :=
  { d with
    counts := (request.name, d.count request.name + 1) :: d.counts
    transcript := .request request :: d.transcript
    remaining := d.remaining.map (· - 1) }

/-- Sets a property of a window, or deletes it. -/
def setProperty (d : ScriptedDisplay) (window : WindowId) (property : Atom)
    (value : Option PropertyValue) : ScriptedDisplay :=
  let others := d.properties.filter fun p => !(p.window == window && p.property == property)
  match value with
  | none => { d with properties := others }
  | some value => { d with properties := ⟨window, property, value⟩ :: others }

/-- What is read of a property: its beginning, or nothing of one of another type. -/
def property (d : ScriptedDisplay) (window : WindowId) (property type : Atom) : PropertyValue :=
  match d.properties.find? fun p => p.window == window && p.property == property with
  | none => ⟨0, 0, []⟩
  | some p =>
    if type = 0 || type = p.value.type then
      { p.value with value := p.value.value.take (4 * maxPropertyWords) }
    else { p.value with value := [] }

/-- Looks for a window, which may be the last time that it is found. -/
def find (d : ScriptedDisplay) (window : WindowId) : Bool × ScriptedDisplay :=
  if window ∈ d.gone then (false, d)
  else
    match d.goneAfter.lookup window with
    | none => (true, d)
    | some 0 => (false, { d with gone := window :: d.gone })
    | some (n + 1) => (true, { d with goneAfter := (window, n) :: d.goneAfter })

def child (d : ScriptedDisplay) (window : WindowId) : Option ScriptedWindow :=
  d.tree.find? (·.window == window)

def attributes (d : ScriptedDisplay) (window : WindowId) : WindowAttributes :=
  match d.child window with
  | none => ⟨.unmapped, false, d.eventMask⟩
  | some c => ⟨c.mapState, c.overrideRedirect, d.eventMask⟩

/-- Answers a request that is neither lost nor refused by the script. -/
def answer (request : Request) (d : ScriptedDisplay) :
    Except Fault request.Reply × ScriptedDisplay :=
  match request with
  | .internAtom name =>
    let (atom, names) := d.names.intern name
    (.ok atom, { d with names := names })
  | .getWindowAttributes window =>
    match d.find window with
    | (true, d) => (.ok (d.attributes window), d)
    | (false, d) => (.error .refused, d)
  | .getGeometry window =>
    if window ∈ d.gone then (.error .refused, d)
    else
      match (d.child window).bind (·.geometry) with
      | some geometry => (.ok geometry, d)
      | none => (.error .refused, d)
  | .queryTree _ => (.ok (d.tree.map (·.window)), d)
  | .getProperty window property type =>
    if window ∈ d.gone then (.error .refused, d) else (.ok (d.property window property type), d)
  | .getSelectionOwner _ =>
    match d.verifyOwner with
    | some owner => if d.count "GetSelectionOwner" ≥ 2 then (.ok owner, d) else (.ok d.owner, d)
    | none => (.ok d.owner, d)
  | .setSelectionOwner owner _ => (.ok (), { d with owner := owner })
  | .createWindow _ => (.ok (), d)
  | .changeWindowAttributes .. => (.ok (), d)
  | .configureWindow .. => (.ok (), d)
  | .mapWindow _ => (.ok (), d)
  | .changeProperty .. => (.ok (), d)

/-- Performs a request as the script says. -/
def perform (request : Request) (d : ScriptedDisplay) :
    Except Fault request.Reply × ScriptedDisplay :=
  if d.remaining = some 0 then (.error .lost, d)
  else
    let d := d.note request
    if (request.name, d.count request.name) ∈ d.refusals then (.error .refused, d)
    else answer request d

/-- The number that every new window gets. -/
def freshId : WindowId := 0xa00001

instance : Connection ScriptedDisplay where
  screens := screens
  newId d := (.ok freshId, d)
  perform := perform
  flush d := (.ok (), { d with transcript := .flush :: d.transcript })

end ScriptedDisplay

end GuestShell

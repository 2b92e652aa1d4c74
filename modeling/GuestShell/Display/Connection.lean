import GuestShell.Display.Properties
import GuestShell.Display.Request

/-!
# Connections to a display

A connection performs requests one after another.  It may be lost, and the display may
refuse a request; nothing else is assumed of the answers.  A refused request without an
answer is noticed only by who checks for it.  Numbers for new windows can run out.

Window properties can be read over a connection.  Such reads do NOT fail: whatever goes
wrong, the property counts as absent.
-/

namespace GuestShell

/-- Why a request has no answer. -/
inductive Fault where
  /-- The request could not be sent. -/
  | lost
  /-- The display answered with an error. -/
  | refused
  deriving DecidableEq, Repr

/-- Why there is no number for a new window. -/
inductive IdFault where
  /-- All numbers are in use. -/
  | exhausted
  /-- The display was asked for more numbers, and there is no answer. -/
  | unanswered (fault : Fault)
  deriving DecidableEq, Repr

/-- A world with a connection to a display. -/
class Connection (ω : Type) where
  screens : ω → List Screen
  /-- A number for a new window. -/
  newId : ω → Except IdFault WindowId × ω
  perform : (request : Request) → ω → Except Fault request.Reply × ω
  /-- Hands all requests over to the display. -/
  flush : ω → Except Fault Unit × ω

/-- Actions that work on a world and may end in an error. -/
abbrev Action (ω ε α : Type) := ExceptT ε (StateM ω) α

namespace Action

variable {ω ε : Type} [Connection ω]

/-- Performs a request, each fault being an error of its own. -/
def ask (request : Request) (onLost onRefused : ε) : Action ω ε request.Reply := fun world =>
  match Connection.perform request world with
  | (.ok reply, world) => (.ok reply, world)
  | (.error .lost, world) => (.error onLost, world)
  | (.error .refused, world) => (.error onRefused, world)

/-- Performs a request without checking whether the display refused it. -/
def tell (request : Request) (onLost : ε) : Action ω ε Unit := fun world =>
  match Connection.perform request world with
  | (.error .lost, world) => (.error onLost, world)
  | (_, world) => (.ok (), world)

/-- Performs a request; none if the display refused it. -/
def ask? (request : Request) (onLost : ε) : Action ω ε (Option request.Reply) := fun world =>
  match Connection.perform request world with
  | (.ok reply, world) => (.ok (some reply), world)
  | (.error .lost, world) => (.error onLost, world)
  | (.error .refused, world) => (.ok none, world)

/-- Performs a request and goes on whatever comes of it. -/
def attempt (request : Request) : Action ω ε Unit := fun world =>
  (.ok (), (Connection.perform request world).2)

def flush (onLost : ε) : Action ω ε Unit := fun world =>
  match Connection.flush world with
  | (.ok (), world) => (.ok (), world)
  | (.error _, world) => (.error onLost, world)

/-- A number for a new window, each reason why there is none being an error of its own. -/
def newId (onFault : IdFault → ε) : Action ω ε WindowId := fun world =>
  match Connection.newId world with
  | (.ok id, world) => (.ok id, world)
  | (.error fault, world) => (.error (onFault fault), world)

end Action

/-- The text in a property, which consists of bytes. -/
def PropertyValue.text? (p : PropertyValue) : Option String :=
  if p.format = 8 then some (Utf8.decodeLossy p.value) else none

/-- The window that a property names, which consists of words.  Zero is no window. -/
def PropertyValue.window? (p : PropertyValue) : Option WindowId :=
  if p.format = 32 then
    match Wire.takeWord? p.value with
    | some (id, _) => if id = 0 then none else some id
    | none => none
  else none

namespace Connection

variable {ω : Type} [Connection ω]

/-- Reads a property; none if there is none or it cannot be read. -/
def readProperty (id : WindowId) (property type : Atom) (world : ω) :
    Option PropertyValue × ω :=
  match perform (.getProperty id property type) world with
  | (.ok reply, world) =>
    let value : PropertyValue := reply
    (if value.type = 0 then none else some value, world)
  | (.error _, world) => (none, world)

def readText (id : WindowId) (property : Atom) (world : ω) : Option String × ω :=
  match readProperty id property 0 world with
  | (reply, world) => (reply.bind PropertyValue.text?, world)

def readClassName (id : WindowId) (world : ω) : Option String × ω :=
  match readProperty id PredefinedAtom.wmClass.number PredefinedAtom.string.number world with
  | (reply, world) => (reply.bind fun p => parseWmClass p.value, world)

def readWindow (id : WindowId) (property : Atom) (world : ω) : Option WindowId × ω :=
  match readProperty id property PredefinedAtom.window.number world with
  | (reply, world) => (reply.bind PropertyValue.window?, world)

/-- Properties read over a connection. -/
@[reducible] def propertySource : PropertySource ω where
  text := readText
  className := readClassName
  window := readWindow

end Connection

end GuestShell

import GuestShell.Host.Channel
import GuestShell.Manager.Operation
import GuestShell.Text.Hex

/-!
# Telling the host about a window

A request is encoded and offered to the channel; either step may fail, and then nothing was
sent.  A record advances what the host is known to have been told only after the channel
accepted the request that told it, so a refused request is sent again by the next change.
-/

namespace GuestShell

/-- Why an operation did not complete. -/
inductive ManagerError where
  | duplicateWindow (id : WindowId)
  | channel (error : ChannelError)
  | wire (error : Wire.WireError)
  deriving DecidableEq, Repr

def ManagerError.message : ManagerError → String
  | .duplicateWindow id => s!"window {hex id.toNat} is already registered"
  | .channel error => "host channel: " ++ error.message
  | .wire error => "encoding host request: " ++ error.message

variable {ω : Type} [HostChannel ω]

/-- Encodes a request and offers it to the channel. -/
def ShellRequest.send (request : ShellRequest) (world : ω) : Except ManagerError Unit × ω :=
  match request.encode with
  | .error e => (.error (.wire e), world)
  | .ok bytes =>
    match HostChannel.send bytes world with
    | (.error e, world) => (.error (.channel e), world)
    | (.ok (), world) => (.ok (), world)

/-- How an operation ended, the value it left and the world it left. -/
structure Outcome (α ω : Type) where
  result : Except ManagerError Unit
  value : α
  world : ω

/-- The outcome with its value replaced. -/
def Outcome.map {α β ω : Type} (f : α → β) (o : Outcome α ω) : Outcome β ω :=
  ⟨o.result, f o.value, o.world⟩

namespace Window

/-- The record after the host was told its state on one axis. -/
def told (w : Window) (axis : StateAxis) : Window :=
  { w with hostState := w.hostState.set axis (w.state.get axis) }

/-- Sends requests in order and records each one that was accepted, up to the first that
was not.  If all were, the host knows the whole state. -/
def sendAll : List (StateAxis × ShellRequest) → Window → ω → Outcome Window ω
  | [], w, world => ⟨.ok (), { w with hostState := w.state }, world⟩
  | (axis, request) :: rest, w, world =>
    match request.send world with
    | (.error e, world) => ⟨.error e, w, world⟩
    | (.ok (), world) => sendAll rest (w.told axis) world

/-- Brings the host in line with the recorded state.  A window without a role has nothing
to bring in line. -/
def forwardState (w : Window) (world : ω) : Outcome Window ω :=
  match w.toplevel with
  | none => ⟨.ok (), w, world⟩
  | some toplevel =>
    sendAll (WindowState.syncRequests toplevel w.hostState w.state) w world

/-- Tells the aura surface the window's application id.  Without an aura surface nothing is
sent. -/
def sendApplicationId (w : Window) (identity : Identity) (world : ω) : Outcome Window ω :=
  match w.auraSurface with
  | none => ⟨.ok (), w, world⟩
  | some auraSurface =>
    match (ShellRequest.setApplicationId auraSurface (identity.resolve w)).send world with
    | (result, world) => ⟨result, w, world⟩

/-- The application id is told only while the window is managed. -/
def sendApplicationIdIfManaged (w : Window) (identity : Identity) (world : ω) :
    Outcome Window ω :=
  if w.managed then w.sendApplicationId identity world else ⟨.ok (), w, world⟩

/-- Tells the toplevel the window's title, if there is one. -/
def sendTitle (w : Window) (world : ω) : Outcome Window ω :=
  match w.toplevel with
  | none => ⟨.ok (), w, world⟩
  | some toplevel =>
    match (ShellRequest.setTitle toplevel w.title).send world with
    | (result, world) => ⟨result, w, world⟩

end Window

end GuestShell

import GuestShell.Display.Desk
import GuestShell.Display.Scan
import GuestShell.Host.Transport
import GuestShell.Program.Launch

/-!
# The running program

The program takes over a screen, advertises itself, opens the channel to the host and
tracks the windows that are there already.  From then on it takes in the events of the
display in rounds.  What the window manager has for the host waits in a queue until the end
of a round; without a host it is dropped then.

Only a lost display or host ends the program.  An event that could not be dealt with does
NOT.
-/

namespace GuestShell

/-- The state of the program between two rounds. -/
structure Program where
  manager : Manager
  queue : Queue
  /-- There is a host to hand the queue to. -/
  hosted : Bool

namespace Program

variable {ω : Type} [Connection ω] [HostTransport ω]

/-- Lets the window manager work with the display and a queue. -/
def atDesk {ε α : Type} (queue : Queue) (action : Action (Desk ω Queue) ε α) :
    Action ω ε (α × Queue) := fun world =>
  match action.run ⟨world, queue⟩ with
  | (.ok a, desk) => (.ok (a, desk.channel), desk.display)
  | (.error e, desk) => (.error e, desk.display)

/-- Hands one message to the host. -/
def transmit (message : List UInt8) : Action ω Failure Unit := fun world =>
  match HostChannel.send message world with
  | (.ok (), world) => (.ok (), world)
  | (.error _, world) => (.error .hostLost, world)

/-- Empties the queue. -/
def handOver (p : Program) : Action ω Failure Program := do
  let (messages, queue) := p.queue.drain
  if p.hosted then messages.forM transmit
  return { p with queue := queue }

/-- Opens the channel to the host, if one is configured. -/
def openChannel (path : String) : Action ω Failure Unit := fun world =>
  match HostTransport.connect path world with
  | (.ok (), world) => (.ok (), world)
  | (.error _, world) => (.error (.hostUnreachable path), world)

/-- The error of a scan that could not be made. -/
def scanFailure : Fault → Failure
  | .lost => .notSent
  | .refused => .windowsUnknown

/-- Tracks the windows that are there already, and hands over what is to be said of them. -/
def trackExisting (manager : Manager) (hosted : Bool) : Action ω Failure Program := do
  let (manager, queue) ← atDesk .empty (manager.scan.adapt scanFailure)
  handOver ⟨manager, queue, hosted⟩

/-- Starts the program on a screen.  `iconify` says whether windows can be iconified. -/
def start (launch : Launch) (screen : Nat) (iconify : Bool) : Action ω Failure Program := do
  let config := launch.config
  if (Connection.screens (← getThe ω))[screen]?.isNone then throw .noDisplay
  let ownership ← (Ownership.acquire screen launch.replace).adapt Failure.ownership
  let atoms ← Atoms.intern
    (fun name => Action.ask (.internAtom name) .atomsUnknown .atomsUnknown)
    config.identity.appIdProperty
  (atoms.supportRequests ownership.root ownership.ownerWindow).forM (Action.tell · .notSent)
  Action.flush .notSent
  config.channel.socket.forM openChannel
  let manager := Manager.new
    { root := ownership.root, atoms, scale := config.scale.toScaleConfig,
      identity := config.identity, iconify }
  trackExisting manager config.channel.socket.isSome

/-- Takes in one event. -/
def takeIn (p : Program) (event : DisplayEvent) : Action ω Failure Program := fun world =>
  let (_, manager, desk) := p.manager.route event (⟨world, p.queue⟩ : Desk ω Queue)
  (.ok { p with manager := manager, queue := desk.channel }, desk.display)

/-- Takes in the events that have come, and hands over what is to be said. -/
def round (p : Program) (events : List DisplayEvent) : Action ω Failure Program := do
  let p ← events.foldlM takeIn p
  let p ← p.handOver
  Action.flush .notSent
  return p

end Program

/-- How a program that runs comes to its end. -/
inductive Ending where
  /-- It was told to. -/
  | signalled
  /-- The display closed the connection. -/
  | disconnected
  deriving DecidableEq, Repr

/-- What the program ends with. -/
def Ending.result : Ending → Except Failure Unit
  | .signalled => .ok ()
  | .disconnected => .error .displayLost

end GuestShell

import GuestShell.Display.Connection
import GuestShell.Host.Socket

/-!
# Opening a channel to the host

A transport is a channel that has to be opened first, by the path where the host listens.
A *site* puts a display beside a tree of files where the sockets are.
-/

namespace GuestShell

/-- A world in which a channel to the host can be opened. -/
class HostTransport (ω : Type) extends HostChannel ω where
  connect : String → ω → Except ChannelError Unit × ω

/-- A display and files, with the socket that was opened, if any. -/
structure Site (χ : Type) where
  display : χ
  files : FileTree
  socket : Option Socket

namespace Site

variable {χ : Type}

instance [Connection χ] : Connection (Site χ) where
  screens s := Connection.screens s.display
  newId s :=
    let (id, display) := Connection.newId s.display
    (id, { s with display := display })
  perform request s :=
    let (reply, display) := Connection.perform request s.display
    (reply, { s with display := display })
  flush s :=
    let (result, display) := Connection.flush s.display
    (result, { s with display := display })

instance : HostTransport (Site χ) where
  send message s :=
    match s.socket with
    | none => (.error .disconnected, s)
    | some socket =>
      let (result, socket) := HostChannel.send message socket
      (result, { s with socket := some socket })
  connect path s :=
    match s.files.connect path with
    | .ok socket => (.ok (), { s with socket := some socket })
    | .error e => (.error e, s)

end Site

end GuestShell

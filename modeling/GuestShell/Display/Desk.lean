import GuestShell.Display.Connection
import GuestShell.Host.Channel

/-!
# The desk of the window manager

A desk puts a display on one side and a channel to the host on the other.  Window
properties are read over the display, or, with a table put on top, from the table.
-/

namespace GuestShell

/-- A display and a channel. -/
structure Desk (χ σ : Type) where
  display : χ
  channel : σ

namespace Desk

variable {χ σ : Type}

instance [Connection χ] : Connection (Desk χ σ) where
  screens d := Connection.screens d.display
  newId d :=
    let (id, display) := Connection.newId d.display
    (id, { d with display := display })
  perform request d :=
    let (reply, display) := Connection.perform request d.display
    (reply, { d with display := display })
  flush d :=
    let (result, display) := Connection.flush d.display
    (result, { d with display := display })

instance [HostChannel σ] : HostChannel (Desk χ σ) where
  send message d :=
    let (result, channel) := HostChannel.send message d.channel
    (result, { d with channel := channel })

instance [Connection χ] : PropertySource (Desk χ σ) := Connection.propertySource

end Desk

/-- A world whose window properties are read from a table. -/
structure Tabled (ω : Type) where
  world : ω
  table : PropertyTable

namespace Tabled

variable {ω : Type}

instance [Connection ω] : Connection (Tabled ω) where
  screens t := Connection.screens t.world
  newId t :=
    let (id, world) := Connection.newId t.world
    (id, { t with world := world })
  perform request t :=
    let (reply, world) := Connection.perform request t.world
    (reply, { t with world := world })
  flush t :=
    let (result, world) := Connection.flush t.world
    (result, { t with world := world })

instance [HostChannel ω] : HostChannel (Tabled ω) where
  send message t :=
    let (result, world) := HostChannel.send message t.world
    (result, { t with world := world })

instance : PropertySource (Tabled ω) where
  text id property t := (t.table.text id property, t)
  className id t := (t.table.className id, t)
  window id property t := (t.table.window id property, t)

end Tabled

end GuestShell

import GuestShell.Manager.Step
import Std.Data.ExtHashMap

/-!
# The window manager

The window manager keeps the records of the windows it tracks and remembers which of them
has the focus.  An operation is performed by looking up the record of its window, stepping
it and storing what is left; so it neither reads nor writes any other record.
-/

namespace GuestShell

/-- The records of the tracked windows, by number. -/
abbrev Registry := Std.ExtHashMap WindowId Window

namespace Registry

/-- Stores the record of a window, or forgets it. -/
def store (r : Registry) (id : WindowId) : Option Window → Registry
  | none => r.erase id
  | some w => r.insert id w

theorem getElem?_store (r : Registry) (id other : WindowId) (record : Option Window) :
    (r.store id record)[other]? = if id = other then record else r[other]? := by
  cases record with
  | none =>
      rw [store, Std.ExtHashMap.getElem?_erase]
      by_cases h : id = other <;> simp [h]
  | some w =>
      rw [store, Std.ExtHashMap.getElem?_insert]
      by_cases h : id = other <;> simp [h]

theorem store_getElem? (r : Registry) (id : WindowId) : r.store id r[id]? = r := by
  apply Std.ExtHashMap.ext_getElem?
  intro other
  rw [getElem?_store]
  by_cases h : id = other <;> simp [h]

end Registry

/-- The state of the window manager. -/
structure Manager where
  setting : Setting
  windows : Registry
  focused : Option WindowId

namespace Manager

/-- No window is tracked yet. -/
def new (setting : Setting) : Manager := ⟨setting, ∅, none⟩

/-- The window has a record. -/
def tracks (m : Manager) (id : WindowId) : Bool := m.windows.contains id

/-- The window that has the focus after an operation, given its record before and after.
The focus goes to a tracked window, and from a window that is not tracked any more. -/
def focusAfter (id : WindowId) (operation : Operation) (before after : Option Window)
    (focused : Option WindowId) : Option WindowId :=
  if operation = .guest .focused then
    if before.isSome then some id else focused
  else if before.isSome && after.isNone && focused = some id then none
  else focused

variable {ω : Type} [HostChannel ω] [PropertySource ω]

/-- Performs an operation on a window. -/
def perform (m : Manager) (id : WindowId) (operation : Operation) (world : ω) :
    Outcome Manager ω :=
  let before := m.windows[id]?
  (operation.step m.setting id before world).map fun after =>
    { m with
      windows := m.windows.store id after
      focused := focusAfter id operation before after m.focused }

/-- Takes in a report of the guest's display. -/
def handle (m : Manager) (event : GuestEvent) (world : ω) : Outcome Manager ω :=
  m.perform event.window (.guest event.change) world

/-- The logical size of a window's surface on the host. -/
def logicalSize (m : Manager) (id : WindowId) : Option Size :=
  m.windows[id]?.map fun w =>
    m.setting.scale.viewportSize (some w.scale) .one w.geometry.pixels

end Manager

end GuestShell

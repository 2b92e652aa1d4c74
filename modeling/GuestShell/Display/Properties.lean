import GuestShell.Display.Atoms
import GuestShell.Text.Utf8
import GuestShell.Window.Record

/-!
# Window properties

What the window manager reads from windows: texts, the class name and references to other
windows.  A source of properties is a part of some world; a read may change the world, as
it does when it is a request on a display.  A property that cannot be read counts as
absent, so reading never fails.
-/

namespace GuestShell

/-- A world with readable window properties. -/
class PropertySource (ω : Type) where
  /-- A text property. -/
  text : WindowId → Atom → ω → Option String × ω
  /-- The class part of the class property. -/
  className : WindowId → ω → Option String × ω
  /-- A property that names a window. -/
  window : WindowId → Atom → ω → Option WindowId × ω

/-- The class in the value of a class property, which is an instance name and a class name,
each ended by a zero byte.  An empty class is none. -/
def parseWmClass (value : List UInt8) : Option String :=
  match value.dropWhile (· != 0) with
  | [] => none
  | _ :: afterInstance =>
    match afterInstance.takeWhile (· != 0) with
    | [] => none
    | name => some (Utf8.decodeLossy name)

/-- The class stands between the two zero bytes, whatever follows. -/
theorem parseWmClass_terminated {instanceName className : List UInt8}
    (hinstance : 0 ∉ instanceName) (hclass : 0 ∉ className) (rest : List UInt8) :
    parseWmClass (instanceName ++ 0 :: (className ++ 0 :: rest)) =
      if className = [] then none else some (Utf8.decodeLossy className) := by
  have hinside : ∀ {name : List UInt8}, 0 ∉ name → ∀ byte ∈ name, (byte != 0) = true :=
    fun hname byte hbyte => bne_iff_ne.2 (ne_of_mem_of_not_mem hbyte hname)
  have hafter : (instanceName ++ 0 :: (className ++ 0 :: rest)).dropWhile (· != 0) =
      0 :: (className ++ 0 :: rest) := by
    rw [List.dropWhile_append_of_pos (hinside hinstance)]
    rfl
  have hname : (className ++ 0 :: rest).takeWhile (· != 0) = className := by
    rw [List.takeWhile_append_of_pos (hinside hclass)]
    exact List.append_nil className
  simp only [parseWmClass, hafter, hname]
  cases className <;> rfl

/-- The title of a window: its `_NET_WM_NAME`, else its `WM_NAME`, else empty. -/
def readTitle {ω : Type} [PropertySource ω] (atoms : Atoms) (id : WindowId) (world : ω) :
    String × ω :=
  match PropertySource.text id atoms.netWmName world with
  | (some title, world) => (title, world)
  | (none, world) =>
    match PropertySource.text id atoms.wmName world with
    | (title, world) => (title.getD "", world)

/-- Properties that are known without asking anybody. -/
structure PropertyTable where
  text : WindowId → Atom → Option String
  className : WindowId → Option String
  window : WindowId → Atom → Option WindowId

namespace PropertyTable

/-- No window has any property. -/
def empty : PropertyTable := ⟨fun _ _ => none, fun _ => none, fun _ _ => none⟩

def setText (t : PropertyTable) (id : WindowId) (property : Atom) (value : Option String) :
    PropertyTable :=
  { t with text := fun i p => if i = id ∧ p = property then value else t.text i p }

def setClassName (t : PropertyTable) (id : WindowId) (value : Option String) : PropertyTable :=
  { t with className := fun i => if i = id then value else t.className i }

def setWindow (t : PropertyTable) (id : WindowId) (property : Atom) (value : Option WindowId) :
    PropertyTable :=
  { t with window := fun i p => if i = id ∧ p = property then value else t.window i p }

instance : PropertySource PropertyTable where
  text id property t := (t.text id property, t)
  className id t := (t.className id, t)
  window id property t := (t.window id property, t)

end PropertyTable

end GuestShell

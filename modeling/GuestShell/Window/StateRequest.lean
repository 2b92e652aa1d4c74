import GuestShell.Display.Atoms
import GuestShell.Window.State

/-!
# Requests of a guest to change a window's state

A `_NET_WM_STATE` message has five words: an action and up to two state atoms come first.
Fullscreen is one atom; maximized is asked for only by both of its atoms together.  Zero,
unknown and repeated atoms name nothing.
-/

namespace GuestShell

/-- The five words of a client message. -/
structure MessageWords where
  first : UInt32
  second : UInt32
  third : UInt32
  fourth : UInt32
  fifth : UInt32
  deriving DecidableEq, Repr

/-- What is to happen to a state. -/
inductive StateAction where
  | remove
  | add
  | toggle
  deriving DecidableEq, Repr

namespace StateAction

def ofWord? : UInt32 → Option StateAction
  | 0 => some .remove
  | 1 => some .add
  | 2 => some .toggle
  | _ => none

def apply : StateAction → Bool → Bool
  | .remove, _ => false
  | .add, _ => true
  | .toggle, current => !current

end StateAction

/-- What a state atom names. -/
inductive StateAtom where
  | fullscreen
  | maximizedHorz
  | maximizedVert
  deriving DecidableEq, Repr

/-- The state that an atom names; zero names none. -/
def StateAtom.ofAtom? (atoms : Atoms) (atom : Atom) : Option StateAtom :=
  if atom = 0 then none
  else if atoms.netWmStateFullscreen = atom then some .fullscreen
  else if atoms.netWmStateMaximizedHorz = atom then some .maximizedHorz
  else if atoms.netWmStateMaximizedVert = atom then some .maximizedVert
  else none

/-- A decoded request: an action and the axes it is for. -/
structure StateRequest where
  action : StateAction
  fullscreen : Bool
  maximized : Bool
  deriving DecidableEq, Repr

namespace StateRequest

/-- Reads the words of a `_NET_WM_STATE` message; none if the action is unknown. -/
def decode (atoms : Atoms) (data : MessageWords) : Option StateRequest :=
  match StateAction.ofWord? data.first with
  | none => none
  | some action =>
    let named := [data.second, data.third].filterMap (StateAtom.ofAtom? atoms)
    some ⟨action, named.contains .fullscreen,
      named.contains .maximizedHorz && named.contains .maximizedVert⟩

/-- The state with the action applied once to each named axis. -/
def apply (r : StateRequest) (s : WindowState) : WindowState :=
  { s with
    fullscreen := if r.fullscreen then r.action.apply s.fullscreen else s.fullscreen
    maximized := if r.maximized then r.action.apply s.maximized else s.maximized }

end StateRequest

end GuestShell

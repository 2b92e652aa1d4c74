/-!
# Atoms

The display numbers names; a name's number is its atom.  The window manager looks its
names up once, in a fixed order, and compares atoms from then on.  The property that may
hold a window's own application id is configured, so it can be any name, also one of the
others.  Two names may NOT be assumed to have different atoms.
-/

namespace GuestShell

/-- The number of a name. -/
abbrev Atom := UInt32

/-- Atoms that every display numbers alike. -/
inductive PredefinedAtom where
  | atom
  | string
  | window
  | wmClass

def PredefinedAtom.number : PredefinedAtom → Atom
  | .atom => 4
  | .string => 31
  | .window => 33
  | .wmClass => 67

/-- The atoms the window manager knows. -/
structure Atoms where
  wmName : Atom
  wmClass : Atom
  wmClientLeader : Atom
  wmNormalHints : Atom
  wmHints : Atom
  wmChangeState : Atom
  netSupported : Atom
  netSupportingWmCheck : Atom
  netActiveWindow : Atom
  netWmName : Atom
  netWmState : Atom
  netWmStateFullscreen : Atom
  netWmStateMaximizedVert : Atom
  netWmStateMaximizedHorz : Atom
  netWmMoveresize : Atom
  motifWmHints : Atom
  gtkThemeVariant : Atom
  utf8String : Atom
  /-- Announces a window's surface on the host. -/
  wlSurfaceId : Atom
  /-- The configured application id property. -/
  appId : Option Atom
  deriving DecidableEq, Repr

namespace Atoms

/-- Looks all names up with a function from names to atoms, the configured one first. -/
def intern {m : Type → Type} [Monad m] (atomOf : String → m Atom)
    (appIdProperty : Option String) : m Atoms := do
  let appId ← appIdProperty.mapM atomOf
  return {
    wmName := ← atomOf "WM_NAME"
    wmClass := ← atomOf "WM_CLASS"
    wmClientLeader := ← atomOf "WM_CLIENT_LEADER"
    wmNormalHints := ← atomOf "WM_NORMAL_HINTS"
    wmHints := ← atomOf "WM_HINTS"
    wmChangeState := ← atomOf "WM_CHANGE_STATE"
    netSupported := ← atomOf "_NET_SUPPORTED"
    netSupportingWmCheck := ← atomOf "_NET_SUPPORTING_WM_CHECK"
    netActiveWindow := ← atomOf "_NET_ACTIVE_WINDOW"
    netWmName := ← atomOf "_NET_WM_NAME"
    netWmState := ← atomOf "_NET_WM_STATE"
    netWmStateFullscreen := ← atomOf "_NET_WM_STATE_FULLSCREEN"
    netWmStateMaximizedVert := ← atomOf "_NET_WM_STATE_MAXIMIZED_VERT"
    netWmStateMaximizedHorz := ← atomOf "_NET_WM_STATE_MAXIMIZED_HORZ"
    netWmMoveresize := ← atomOf "_NET_WM_MOVERESIZE"
    motifWmHints := ← atomOf "_MOTIF_WM_HINTS"
    gtkThemeVariant := ← atomOf "_GTK_THEME_VARIANT"
    utf8String := ← atomOf "UTF8_STRING"
    wlSurfaceId := ← atomOf "WL_SURFACE_ID"
    appId }

/-- The hints that the root window advertises as supported. -/
def supported (a : Atoms) : List Atom :=
  [a.netSupported, a.netSupportingWmCheck, a.netActiveWindow, a.netWmName, a.netWmState,
   a.netWmStateFullscreen, a.netWmStateMaximizedVert, a.netWmStateMaximizedHorz,
   a.netWmMoveresize]

end Atoms

end GuestShell

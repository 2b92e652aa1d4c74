import GuestShell.Display.Connection
import GuestShell.Text.Hex

/-!
# Becoming the window manager of a screen

Each screen has a selection whose owner is its window manager.  To take over, the window
manager takes the selection with a window of its own, makes sure that it has it, waits for
the former owner to go and only then asks the root window to redirect its children.

Without `replace` nothing is changed on a screen that has a window manager already.
-/

namespace GuestShell

/-- Why a screen could not be taken over. -/
inductive OwnershipError where
  | connectionLost
  | noScreen (number : Nat)
  | selectionNotInterned
  | ownerUnknown
  | anotherManager (window : WindowId)
  | idsExhausted
  | idRefused
  | selectionNotSet
  | selectionNotVerified
  | selectionNotAcquired (expected actual : WindowId)
  | rootAttributesUnknown
  | rootEventsRefused
  deriving DecidableEq, Repr

/-- The text for a request that could not be sent. -/
def connectionLostMessage : String := "Unknown connection error"

def OwnershipError.message : OwnershipError → String
  | .connectionLost => connectionLostMessage
  | .noScreen number => s!"Screen {number} does not exist"
  | .selectionNotInterned => "Failed to intern WM selection atom"
  | .ownerUnknown => "Failed to get current WM selection owner"
  | .anotherManager window =>
      s!"Another window manager is already running (window {hex window.toNat}). " ++
        "Use --replace to attempt to replace it."
  | .idsExhausted => "X11 IDs have been exhausted"
  | .idRefused => "X11 error"
  | .selectionNotSet => "Failed to set WM selection owner"
  | .selectionNotVerified => "Failed to verify WM selection ownership"
  | .selectionNotAcquired expected actual =>
      "Failed to acquire WM selection ownership " ++
        s!"(expected {hex expected.toNat}, got {hex actual.toNat})"
  | .rootAttributesUnknown => "Failed to get root window attributes"
  | .rootEventsRefused => "Failed to select events on root window - is another WM running?"

/-- The error for want of a number for a window. -/
def OwnershipError.ofIdFault : IdFault → OwnershipError
  | .exhausted => .idsExhausted
  | .unanswered .lost => .connectionLost
  | .unanswered .refused => .idRefused

/-- A screen that was taken over. -/
structure Ownership where
  root : WindowId
  /-- The window that owns the selection. -/
  ownerWindow : WindowId
  deriving DecidableEq, Repr

namespace Ownership

variable {ω : Type} [Connection ω]

/-- The name of a screen's selection. -/
def selectionName (screen : Nat) : String := s!"WM_S{screen}"

/-- What the window manager must hear from the root window. -/
def requiredEvents : UInt32 :=
  EventKind.mask [.substructureRedirect, .substructureNotify, .propertyChange, .focusChange]

/-- The window that will own the selection. -/
def selectionWindow (screen : Screen) (id : WindowId) : HiddenWindow where
  depth := screen.depth
  window := id
  parent := screen.root
  x := -1000
  y := -1000
  width := 1
  height := 1
  attributes := overrideRedirect ++ selectEvents (EventKind.mask [.structureNotify])

/-- How often the former owner is looked at before it is given up on.  With a tenth of a
second between two looks this takes a quarter of a minute. -/
def patience : Nat := 150

/-- Looks at a window until it is gone, at most so many times. -/
def waitForExit (window : WindowId) : Nat → Action ω OwnershipError Unit
  | 0 => pure ()
  | looks + 1 => do
    Action.flush .connectionLost
    match ← Action.ask? (.getWindowAttributes window) .connectionLost with
    | none => pure ()
    | some _ => waitForExit window looks

/-- Deals with the owner that the selection had before. -/
def challenge (current : WindowId) (replace : Bool) : Action ω OwnershipError Unit :=
  if current = 0 then pure ()
  else if replace then
    Action.attempt (.changeWindowAttributes current
      (selectEvents (EventKind.mask [.structureNotify])))
  else throw (.anotherManager current)

/-- Takes the selection with a new window and makes sure that it was taken. -/
def takeSelection (screen : Screen) (selection : Atom) : Action ω OwnershipError WindowId := do
  let owner ← Action.newId OwnershipError.ofIdFault
  Action.tell (.createWindow (selectionWindow screen owner)) .connectionLost
  Action.ask (.setSelectionOwner owner selection) .connectionLost .selectionNotSet
  let actual : WindowId ←
    Action.ask (.getSelectionOwner selection) .connectionLost .selectionNotVerified
  if actual = owner then pure owner
  else throw (.selectionNotAcquired owner actual)

/-- Asks the root window for everything the window manager must hear, besides what it is
asked for already. -/
def redirect (root : WindowId) : Action ω OwnershipError Unit := do
  let attributes : WindowAttributes ←
    Action.ask (.getWindowAttributes root) .connectionLost .rootAttributesUnknown
  Action.ask (.changeWindowAttributes root (selectEvents (attributes.eventMask ||| requiredEvents)))
    .connectionLost .rootEventsRefused

/-- Becomes the window manager of a screen. -/
def acquire (number : Nat) (replace : Bool) : Action ω OwnershipError Ownership := do
  match (Connection.screens (← getThe ω))[number]? with
  | none => throw (.noScreen number)
  | some screen =>
    let selection ← Action.ask (.internAtom (selectionName number)) .connectionLost
      .selectionNotInterned
    let current : WindowId ←
      Action.ask (.getSelectionOwner selection) .connectionLost .ownerUnknown
    challenge current replace
    let owner ← takeSelection screen selection
    if current ≠ 0 then waitForExit current patience
    redirect screen.root
    Action.flush .connectionLost
    return ⟨screen.root, owner⟩

end Ownership

end GuestShell

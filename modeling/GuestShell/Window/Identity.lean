import GuestShell.Window.Record

/-!
# Application identity

The host groups windows by application id.  The id of a window is the first of these that
there is: an id forced on every window, the id that the guest put on the window, one made
from its class, one made from its client leader, and one made from its number.
-/

namespace GuestShell

/-- How application ids are chosen. -/
structure Identity where
  /-- The id of every window, if it is forced. -/
  applicationId : Option String
  /-- Names the guest in derived ids. -/
  guest : String
  /-- Begins derived ids. -/
  domain : String
  /-- The property that may hold a window's own id. -/
  appIdProperty : Option String
  deriving DecidableEq, Repr

namespace Identity

def default : Identity where
  applicationId := none
  guest := "guest"
  domain := "org.chromium"
  appIdProperty := none

/-- An id derived from one property of a window. -/
def derived (identity : Identity) (kind value : String) : String :=
  identity.domain ++ "." ++ identity.guest ++ "." ++ kind ++ "." ++ value

/-- The id that is derived for a window which has none of its own. -/
def derivedId (identity : Identity) (w : Window) : String :=
  match w.className, w.clientLeader with
  | some name, _ => identity.derived "wmclass" name
  | none, some leader => identity.derived "wmclientleader" (toString leader.toNat)
  | none, none => identity.derived "xid" (toString w.id.toNat)

/-- The application id of a window. -/
def resolve (identity : Identity) (w : Window) : String :=
  match identity.applicationId, w.appIdProperty with
  | some id, _ => id
  | none, some id => id
  | none, none => identity.derivedId w

end Identity

end GuestShell

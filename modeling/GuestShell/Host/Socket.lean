import GuestShell.Files.Tree
import GuestShell.Host.Channel

/-!
# Sockets to the host

A socket is opened by the path where the host listens, and then takes messages as long as
the host keeps its end open.  After that an empty message is still accepted, since there is
nothing to be sent.

The system imposes limits on the path itself, which come before the question of what is
there.
-/

namespace GuestShell

/-- An open socket. -/
structure Socket where
  /-- The host has not closed its end. -/
  peerOpen : Bool
  /-- The bytes that the host has got. -/
  delivered : List UInt8
  deriving DecidableEq, Repr

namespace Socket

/-- A socket that was just opened. -/
def fresh : Socket := ⟨true, []⟩

/-- The socket after the host closed its end. -/
def hangUp (s : Socket) : Socket := { s with peerOpen := false }

instance : HostChannel Socket where
  send message s :=
    if s.peerOpen then (.ok (), { s with delivered := s.delivered ++ message })
    else if message = [] then (.ok (), s)
    else (.error .brokenPipe, s)

/-- Paths of sockets have fewer bytes than this. -/
def pathLimit : Nat := 108

end Socket

/-- The error for a path that leads nowhere. -/
def ChannelError.ofPathError : PathError → ChannelError
  | .notFound => .notFound
  | .notADirectory => .notADirectory
  | .denied => .permissionDenied
  | .tooManyLinks => .tooManyLinks
  | .nameTooLong => .nameTooLong

/-- Something may be opened for writing. -/
def FileNode.mayWrite : FileNode → Bool
  | .directory rights => rights.write
  | .file rights _ => rights.write
  | .socket rights _ => rights.write
  | .link _ => false

namespace FileTree

/-- Opens the socket at a path. -/
def connect (t : FileTree) (path : String) : Except ChannelError Socket :=
  if path.toList.contains '\x00' then .error .addressWithNul
  else if Socket.pathLimit ≤ path.utf8ByteSize then .error .addressTooLong
  else if path = "" then .error .emptyAddress
  else
    match t.resolve path with
    | .error e => .error (.ofPathError e)
    | .ok place =>
      match t.node? place with
      | none => .error .notFound
      | some node =>
        if !node.mayWrite then .error .permissionDenied
        else
          match node with
          | .socket _ true => .ok .fresh
          | _ => .error .connectionRefused

end FileTree

end GuestShell

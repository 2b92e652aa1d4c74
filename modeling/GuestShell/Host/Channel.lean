/-!
# Channels to the host

A channel takes encoded messages, one at a time, and accepts or refuses each.  It is a part
of some world `ω`; a send may change the world, whether the message was accepted or not.
Nothing is assumed of a channel beyond that: it may refuse at any time.
-/

namespace GuestShell

/-- Why a channel could not be opened or refused a message. -/
inductive ChannelError where
  /-- The channel itself found that nobody reads it any more. -/
  | disconnected
  | brokenPipe
  | connectionRefused
  | notFound
  | notADirectory
  | permissionDenied
  | tooManyLinks
  | nameTooLong
  /-- An address without a name. -/
  | emptyAddress
  | addressTooLong
  | addressWithNul
  deriving DecidableEq, Repr

def ChannelError.message : ChannelError → String
  | .disconnected => "broken pipe"
  | .brokenPipe => "Broken pipe (os error 32)"
  | .connectionRefused => "Connection refused (os error 111)"
  | .notFound => "No such file or directory (os error 2)"
  | .notADirectory => "Not a directory (os error 20)"
  | .permissionDenied => "Permission denied (os error 13)"
  | .tooManyLinks => "Too many levels of symbolic links (os error 40)"
  | .nameTooLong => "File name too long (os error 36)"
  | .emptyAddress => "Invalid argument (os error 22)"
  | .addressTooLong => "path must be shorter than SUN_LEN"
  | .addressWithNul => "paths must not contain interior null bytes"

/-- A world with a channel to the host. -/
class HostChannel (ω : Type) where
  send : List UInt8 → ω → Except ChannelError Unit × ω

/-- A channel that keeps every message until it is drained. -/
structure Queue where
  /-- The messages, oldest first. -/
  waiting : List (List UInt8)
  deriving DecidableEq, Repr

namespace Queue

def empty : Queue := ⟨[]⟩

/-- Appends a message. -/
def push (message : List UInt8) (q : Queue) : Queue := ⟨q.waiting ++ [message]⟩

/-- Takes every message out, oldest first. -/
def drain (q : Queue) : List (List UInt8) × Queue := (q.waiting, empty)

def length (q : Queue) : Nat := q.waiting.length

def isEmpty (q : Queue) : Bool := q.waiting.isEmpty

instance : HostChannel Queue where
  send message q := (.ok (), q.push message)

end Queue

/-- A queue that refuses the next `refusals` messages. -/
structure UnreliableQueue where
  refusals : Nat
  queue : Queue
  deriving DecidableEq, Repr

namespace UnreliableQueue

instance : HostChannel UnreliableQueue where
  send message q :=
    match q.refusals with
    | 0 => (.ok (), { q with queue := q.queue.push message })
    | refusals + 1 => (.error .disconnected, { q with refusals := refusals })

end UnreliableQueue

end GuestShell

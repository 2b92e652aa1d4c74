import GuestShell.Text.Utf8
import GuestShell.Wire.Word

/-!
# Messages of the host protocol

A message is a header of two words, the object it is for and its size and opcode, followed
by arguments.  The size counts the header and has 16 bits.  Arguments are words, or texts
ended by a zero byte and filled up to a whole number of words.

`split` is the incremental reader: it takes one message off a byte stream.  What the
arguments mean is NOT known here; see `Wire.ArgumentReader` for reading them back.
-/

namespace GuestShell.Wire

/-- Why bytes are no message, or a message has no bytes. -/
inductive WireError where
  | truncated (needed available : Nat)
  /-- The declared size does not cover the header, or not the whole buffer. -/
  | badSize (size : Nat)
  | tooLarge (size : Nat)
  | badString
  deriving DecidableEq, Repr

def WireError.message : WireError → String
  | .truncated needed available => s!"message truncated: need {needed} bytes, have {available}"
  | .badSize size => s!"declared message size {size} is smaller than the header"
  | .tooLarge size => s!"message of {size} bytes does not fit the 16-bit size field"
  | .badString => "string argument is not NUL-terminated UTF-8"

/-- The size of the two header words. -/
def headerSize : Nat := 8

/-- The largest size the header can declare. -/
def maxSize : Nat := 65535

/-- The bytes that fill a length up to a multiple of four. -/
def padding (length : Nat) : Nat := (4 - length % 4) % 4

/-- A length with its padding. -/
def padded (length : Nat) : Nat := length + padding length

theorem padded_mod_four (length : Nat) : padded length % 4 = 0 := by
  unfold padded padding
  omega

theorem padding_lt (length : Nat) : padding length < 4 := by
  unfold padding
  omega

/-- One argument of a message. -/
inductive Argument where
  | uint (value : UInt32)
  /-- An object, or the null object. -/
  | object (id : Option UInt32)
  /-- A text, or the null string. -/
  | string (text : Option String)
  deriving DecidableEq, Repr

/-- The zero word stands for the null object and the null string. -/
def Argument.encode : Argument → List UInt8
  | .uint value => wordBytes value
  | .object id => wordBytes (id.getD 0)
  | .string none => wordBytes 0
  | .string (some text) =>
      let bytes := Utf8.encode text
      let length := bytes.length + 1
      wordBytes (UInt32.ofNat length) ++ bytes ++ 0 :: List.replicate (padding length) 0

/-- The size of an encoded argument. -/
def Argument.size : Argument → Nat
  | .string (some text) => 4 + padded ((Utf8.encode text).length + 1)
  | _ => 4

theorem Argument.encode_length (a : Argument) : a.encode.length = a.size := by
  cases a with
  | uint value => rfl
  | object id => rfl
  | string text =>
      cases text with
      | none => rfl
      | some text => simp [Argument.encode, Argument.size, padded]; omega

/-- A message with its arguments still encoded. -/
structure Message where
  objectId : UInt32
  opcode : UInt16
  body : List UInt8
  deriving DecidableEq, Repr

namespace Message

def ofArguments (objectId : UInt32) (opcode : UInt16) (arguments : List Argument) : Message where
  objectId := objectId
  opcode := opcode
  body := arguments.flatMap Argument.encode

/-- The size of the message with its header. -/
def size (m : Message) : Nat := headerSize + m.body.length

/-- The second header word. -/
def sizeWord (m : Message) : UInt32 :=
  UInt32.ofNat (m.size * 0x10000 + m.opcode.toNat)

/-- The bytes of a message, whatever its size. -/
def bytes (m : Message) : List UInt8 :=
  wordBytes m.objectId ++ wordBytes m.sizeWord ++ m.body

/-- The bytes of a message whose size can be declared. -/
def encode (m : Message) : Except WireError (List UInt8) :=
  if m.size ≤ maxSize then .ok m.bytes else .error (.tooLarge m.size)

/-- The first message of a byte string and the bytes after it. -/
def split (buffer : List UInt8) : Except WireError (Message × List UInt8) :=
  match takeWord? buffer with
  | none => .error (.truncated 4 buffer.length)
  | some (objectId, afterId) =>
    match takeWord? afterId with
    | none => .error (.truncated 8 buffer.length)
    | some (word, rest) =>
      let size := word.toNat / 0x10000
      if size < headerSize then .error (.badSize size)
      else if buffer.length < size then .error (.truncated size buffer.length)
      else
        .ok (⟨objectId, UInt16.ofNat (word.toNat % 0x10000), rest.take (size - headerSize)⟩,
          rest.drop (size - headerSize))

/-- The one message that a byte string holds. -/
def parse (buffer : List UInt8) : Except WireError Message :=
  match split buffer with
  | .error e => .error e
  | .ok (message, []) => .ok message
  | .ok (message, _ :: _) => .error (.badSize message.size)

/-- What a byte stream holds: messages, then the bytes that are left and why they are no
message. -/
structure Stream where
  messages : List Message
  rest : List UInt8
  error : Option WireError
  deriving DecidableEq

/-- Splits at most `count` messages off a stream. -/
def splitAtMost : Nat → List UInt8 → Stream
  | 0, buffer => ⟨[], buffer, none⟩
  | _ + 1, [] => ⟨[], [], none⟩
  | count + 1, buffer =>
    match split buffer with
    | .error e => ⟨[], buffer, some e⟩
    | .ok (message, rest) =>
      let stream := splitAtMost count rest
      { stream with messages := message :: stream.messages }

/-- Splits messages off a stream until it is used up or no message follows.  Every message
takes at least a header's bytes, so their number is less than the length. -/
def splitAll (buffer : List UInt8) : Stream := splitAtMost buffer.length buffer

end Message

end GuestShell.Wire

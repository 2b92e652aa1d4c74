import GuestShell.Wire.Message

/-!
# Reading arguments back

A reader is the bytes that are still to be read.  A read gives a value or an error, and the
bytes it leaves; after an error reading can go on.  A failed read of a word leaves all
bytes, a failed read of a text has taken its length word.  Nothing is ever read past the
end, whatever length a text declares.
-/

namespace GuestShell.Wire.ArgumentReader

/-- The outcome of a read and the bytes it leaves. -/
abbrev Read (α : Type) := Except WireError α × List UInt8

def uint (bytes : List UInt8) : Read UInt32 :=
  match takeWord? bytes with
  | none => (.error (.truncated 4 bytes.length), bytes)
  | some (word, rest) => (.ok word, rest)

/-- The zero word is the null object. -/
def object (bytes : List UInt8) : Read (Option UInt32) :=
  match uint bytes with
  | (.error e, rest) => (.error e, rest)
  | (.ok id, rest) => (.ok (if id = 0 then none else some id), rest)

/-- The text of a declared length, its zero byte counted. -/
def text (length : Nat) (bytes : List UInt8) : Read String :=
  if bytes.length < padded length then
    (.error (.truncated (padded length) bytes.length), bytes)
  else if bytes[length - 1]? = some 0 then
    match Utf8.decode? (bytes.take (length - 1)) with
    | none => (.error .badString, bytes)
    | some text => (.ok text, bytes.drop (padded length))
  else (.error .badString, bytes)

/-- A declared length of zero is the null string. -/
def string (bytes : List UInt8) : Read (Option String) :=
  match uint bytes with
  | (.error e, rest) => (.error e, rest)
  | (.ok length, rest) =>
    if length = 0 then (.ok none, rest)
    else
      match text length.toNat rest with
      | (.error e, rest) => (.error e, rest)
      | (.ok text, rest) => (.ok (some text), rest)

def isEmpty (bytes : List UInt8) : Bool := bytes.isEmpty

end GuestShell.Wire.ArgumentReader

/-!
# UTF-8 text as bytes

`encode` and `decode?` are exact: a byte string is the encoding of at most one text.
`decodeLossy` reads any byte string; every longest piece that could have been the start of
a character but is not one becomes the replacement character.
-/

namespace GuestShell.Utf8

/-- The bytes of a text. -/
def encode (s : String) : List UInt8 := s.toByteArray.data.toList

/-- The text whose bytes these are, if there is one. -/
def decode? (bytes : List UInt8) : Option String := String.fromUTF8? ⟨bytes.toArray⟩

theorem decode?_encode (s : String) : decode? (encode s) = some s := by
  have h : (⟨(encode s).toArray⟩ : ByteArray) = s.toByteArray := by simp [encode]
  simp [decode?, h, String.fromUTF8?, s.isValidUTF8, String.fromUTF8]

theorem encode_of_decode? {bytes : List UInt8} {s : String} (h : decode? bytes = some s) :
    encode s = bytes := by
  unfold decode? String.fromUTF8? at h
  split at h
  · cases h
    simp [encode, String.fromUTF8]
  · cases h

theorem decode?_eq_some_iff {bytes : List UInt8} {s : String} :
    decode? bytes = some s ↔ encode s = bytes :=
  ⟨encode_of_decode?, fun h => h ▸ decode?_encode s⟩

/-- A closed range of bytes. -/
structure ByteRange where
  first : UInt8
  last : UInt8

def ByteRange.mem (r : ByteRange) (b : UInt8) : Bool := r.first ≤ b && b ≤ r.last

/-- Where every continuation byte but the first lies. -/
def continuation : ByteRange := ⟨0x80, 0xBF⟩

/-- Part of a character: the bits read so far and where the missing bytes must lie. -/
structure Pending where
  bits : Nat
  next : ByteRange
  rest : List ByteRange

/-- What a byte starts: an ASCII character, a longer one, or nothing. -/
inductive Start where
  | ascii (c : Char)
  | lead (p : Pending)
  | invalid

def Start.ofByte (b : UInt8) : Start :=
  if b < 0x80 then .ascii (Char.ofNat b.toNat)
  else if 0xC2 ≤ b && b ≤ 0xDF then .lead ⟨b.toNat % 32, continuation, []⟩
  else if b = 0xE0 then .lead ⟨0, ⟨0xA0, 0xBF⟩, [continuation]⟩
  else if b = 0xED then .lead ⟨13, ⟨0x80, 0x9F⟩, [continuation]⟩
  else if 0xE1 ≤ b && b ≤ 0xEF then .lead ⟨b.toNat % 16, continuation, [continuation]⟩
  else if b = 0xF0 then .lead ⟨0, ⟨0x90, 0xBF⟩, [continuation, continuation]⟩
  else if 0xF1 ≤ b && b ≤ 0xF3 then
    .lead ⟨b.toNat % 8, continuation, [continuation, continuation]⟩
  else if b = 0xF4 then .lead ⟨4, ⟨0x80, 0x8F⟩, [continuation, continuation]⟩
  else .invalid

/-- Stands for bytes that are no character. -/
def replacement : Char := '\uFFFD'

/-- Reads bytes after the start of a character, if one is pending. -/
def decodeFrom : Option Pending → List UInt8 → List Char
  | none, [] => []
  | some _, [] => [replacement]
  | none, b :: bytes => begin b bytes
  | some p, b :: bytes =>
      if p.next.mem b then
        let bits := p.bits * 64 + b.toNat % 64
        match p.rest with
        | [] => Char.ofNat bits :: decodeFrom none bytes
        | next :: rest => decodeFrom (some ⟨bits, next, rest⟩) bytes
      else replacement :: begin b bytes
where
  begin (b : UInt8) (bytes : List UInt8) : List Char :=
    match Start.ofByte b with
    | .ascii c => c :: decodeFrom none bytes
    | .lead p => decodeFrom (some p) bytes
    | .invalid => replacement :: decodeFrom none bytes

/-- The text of any byte string, with a replacement character for each invalid piece. -/
def decodeLossy (bytes : List UInt8) : String := String.ofList (decodeFrom none bytes)

end GuestShell.Utf8

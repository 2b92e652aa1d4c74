import GuestShell.ShellRequest
import GuestShell.Proofs.Wire.RoundTrip

/-!
# Requests from their bytes

A channel carries bytes and not requests.  `ShellRequest.decode?` tells from the bytes of a
message which request it is: the opcodes of toplevels and of aura surfaces differ, so the
kind of the object need not be known.

It is a left inverse of `encode`, so bytes are the encoding of one request at most.  It is NOT
claimed here that every message it accepts is the encoding of a request.
-/

namespace GuestShell

open Wire

namespace ShellRequest

/-- The text that is the only argument of a message. -/
def textOf? (m : Message) : Option String :=
  match ArgumentReader.string m.body with
  | (.ok text, []) => text
  | _ => none

/-- The request that a message is. -/
def ofMessage? (m : Message) : Option ShellRequest :=
  match m.opcode with
  | 2 => (textOf? m).map (.setTitle m.objectId)
  | 4 => (textOf? m).map (.setApplicationId m.objectId)
  | 9 => some (.setMaximized m.objectId)
  | 10 => some (.unsetMaximized m.objectId)
  | 11 => some (.setFullscreen m.objectId)
  | 12 => some (.unsetFullscreen m.objectId)
  | 13 => some (.setMinimized m.objectId)
  | _ => none

/-- The request that the bytes of a message are. -/
def decode? (bytes : List UInt8) : Option ShellRequest :=
  match Message.parse bytes with
  | .ok m => ofMessage? m
  | .error _ => none

/-- A text is read as the only argument of a message that is not too large. -/
theorem string_body_ofArguments (objectId : UInt32) (opcode : UInt16) (text : String)
    (hsize : (Message.ofArguments objectId opcode [.string (some text)]).size ≤ maxSize) :
    ArgumentReader.string (Message.ofArguments objectId opcode [.string (some text)]).body =
      (.ok (some text), []) := by
  have hsmall : (Argument.string (some text)).size < 0x100000000 := by
    rw [Message.size_ofArguments] at hsize
    simp only [List.map_cons, List.map_nil, List.sum_cons, List.sum_nil, headerSize,
      maxSize] at hsize
    omega
  have hbody : (Message.ofArguments objectId opcode [.string (some text)]).body =
      (Argument.string (some text)).encode ++ [] := by
    simp [Message.ofArguments]
  rw [hbody]
  exact ArgumentReader.string_encode_append (some text) [] hsmall

theorem textOf?_ofArguments (objectId : UInt32) (opcode : UInt16) (text : String)
    (hsize : (Message.ofArguments objectId opcode [.string (some text)]).size ≤ maxSize) :
    textOf? (.ofArguments objectId opcode [.string (some text)]) = some text := by
  rw [textOf?, string_body_ofArguments objectId opcode text hsize]

theorem ofMessage?_message (r : ShellRequest) (hsize : r.message.size ≤ maxSize) :
    ofMessage? r.message = some r := by
  cases r with
  | setTitle toplevel title =>
      change (textOf? (.ofArguments toplevel 2 [.string (some title)])).map _ = _
      rw [textOf?_ofArguments toplevel 2 title hsize]
      rfl
  | setApplicationId auraSurface appId =>
      change (textOf? (.ofArguments auraSurface 4 [.string (some appId)])).map _ = _
      rw [textOf?_ofArguments auraSurface 4 appId hsize]
      rfl
  | setMaximized toplevel => rfl
  | unsetMaximized toplevel => rfl
  | setFullscreen toplevel => rfl
  | unsetFullscreen toplevel => rfl
  | setMinimized toplevel => rfl

/-- The bytes of a request are decoded to that request. -/
theorem decode?_of_encode {r : ShellRequest} {bytes : List UInt8} (h : r.encode = .ok bytes) :
    decode? bytes = some r := by
  obtain ⟨hsize, -⟩ := (Message.encode_eq_ok_iff r.message bytes).1 h
  rw [decode?, Message.parse_of_encode h]
  exact ofMessage?_message r hsize

/-! ### What a message carries -/

/-- The text of a request that has one. -/
def text? : ShellRequest → Option String
  | setTitle _ title => some title
  | setApplicationId _ appId => some appId
  | _ => none

/-- The body of a message is what a request asks for, and no byte more: a text, a null object for
the output that is not named, or nothing. -/
def CarriedBy (m : Message) : ShellRequest → Prop
  | setTitle _ title => ArgumentReader.string m.body = (.ok (some title), [])
  | setApplicationId _ appId => ArgumentReader.string m.body = (.ok (some appId), [])
  | setFullscreen _ => ArgumentReader.object m.body = (.ok none, [])
  | setMaximized _ | unsetMaximized _ | unsetFullscreen _ | setMinimized _ => m.body = []

/-- With a text of at most 65519 bytes, its zero byte and its padding a message is not too
large. -/
theorem size_text_le_iff (objectId : UInt32) (opcode : UInt16) (text : String) :
    (Message.ofArguments objectId opcode [.string (some text)]).size ≤ maxSize ↔
      (Utf8.encode text).length ≤ 65519 := by
  rw [Message.size_ofArguments]
  simp only [List.map_cons, List.map_nil, List.sum_cons, List.sum_nil, Argument.size, padded_eq,
    headerSize, maxSize]
  omega

/-- A request without a text is never too large. -/
theorem size_message_of_no_text {r : ShellRequest} (hr : r.text? = none) :
    r.message.size ≤ maxSize := by
  have hbare : headerSize ≤ maxSize := by decide
  have hobject : headerSize + 4 ≤ maxSize := by decide
  cases r with
  | setTitle toplevel title => cases hr
  | setApplicationId auraSurface appId => cases hr
  | setFullscreen toplevel => exact hobject
  | setMaximized toplevel => exact hbare
  | unsetMaximized toplevel => exact hbare
  | unsetFullscreen toplevel => exact hbare
  | setMinimized toplevel => exact hbare

theorem size_message_of_text {r : ShellRequest} {text : String} (hr : r.text? = some text) :
    r.message.size ≤ maxSize ↔ (Utf8.encode text).length ≤ 65519 := by
  cases r with
  | setTitle toplevel title =>
      obtain rfl := Option.some.inj hr
      exact size_text_le_iff toplevel 2 title
  | setApplicationId auraSurface appId =>
      obtain rfl := Option.some.inj hr
      exact size_text_le_iff auraSurface 4 appId
  | setFullscreen toplevel => cases hr
  | setMaximized toplevel => cases hr
  | unsetMaximized toplevel => cases hr
  | unsetFullscreen toplevel => cases hr
  | setMinimized toplevel => cases hr

theorem size_message_le_iff (r : ShellRequest) :
    r.message.size ≤ maxSize ↔ ∀ text, r.text? = some text → (Utf8.encode text).length ≤ 65519 := by
  constructor
  · intro hsize text htext
    exact (size_message_of_text htext).1 hsize
  · intro htexts
    cases htext : r.text? with
    | none => exact size_message_of_no_text htext
    | some text => exact (size_message_of_text htext).2 (htexts text htext)

theorem carriedBy_message (r : ShellRequest) (hsize : r.message.size ≤ maxSize) :
    r.CarriedBy r.message := by
  cases r with
  | setTitle toplevel title => exact string_body_ofArguments toplevel 2 title hsize
  | setApplicationId auraSurface appId => exact string_body_ofArguments auraSurface 4 appId hsize
  | setFullscreen toplevel => exact ArgumentReader.object_wordBytes_append none []
  | setMaximized toplevel => rfl
  | unsetMaximized toplevel => rfl
  | unsetFullscreen toplevel => rfl
  | setMinimized toplevel => rfl

/-- The bytes of a request tell which request it is.

There are bytes exactly if the request has no text or one of at most 65519 bytes.  They are one
message, for the object and with the opcode of the request, that carries its text, a null object
or nothing.  No other request has the same bytes, be it for another object, of another kind or
with another text; in particular a title is never taken for an application id. -/
theorem encode_unambiguous (r : ShellRequest) :
    ((∃ bytes, r.encode = .ok bytes) ↔
      ∀ text, r.text? = some text → (Utf8.encode text).length ≤ 65519) ∧
    ∀ bytes, r.encode = .ok bytes →
      (∃ m, Message.parse bytes = .ok m ∧ m.objectId = r.target ∧ m.opcode = r.opcode ∧
        r.CarriedBy m) ∧
      ∀ other : ShellRequest, other.encode = .ok bytes → other = r := by
  constructor
  · rw [← size_message_le_iff]
    constructor
    · rintro ⟨bytes, hencode⟩
      exact ((Message.encode_eq_ok_iff r.message bytes).1 hencode).1
    · intro hsize
      exact ⟨r.message.bytes, (Message.encode_eq_ok_iff _ _).2 ⟨hsize, rfl⟩⟩
  · intro bytes hencode
    obtain ⟨hsize, -⟩ := (Message.encode_eq_ok_iff r.message bytes).1 hencode
    constructor
    · exact ⟨r.message, Message.parse_of_encode hencode, rfl, rfl, carriedBy_message r hsize⟩
    · intro other hother
      have hsame := (decode?_of_encode hother).symm.trans (decode?_of_encode hencode)
      exact Option.some.inj hsame

/-- A title and an application id for objects of one number and with one text, and a request with
a null object. -/
theorem encode_unambiguous_titleAndId :
    let title := setTitle 21 "é"
    let bytes : List UInt8 := [21, 0, 0, 0, 2, 0, 16, 0, 3, 0, 0, 0, 195, 169, 0, 0]
    let fullscreen := setFullscreen 21
    let short : List UInt8 := [21, 0, 0, 0, 11, 0, 12, 0, 0, 0, 0, 0]
    (title.encode = .ok bytes ∧
      (∃ m, Message.parse bytes = .ok m ∧ m.objectId = 21 ∧ m.opcode = 2 ∧
        ArgumentReader.string m.body = (.ok (some "é"), [])) ∧
      (setApplicationId 21 "é").encode ≠ .ok bytes) ∧
    fullscreen.encode = .ok short ∧
      ∃ m, Message.parse short = .ok m ∧ m.objectId = 21 ∧ m.opcode = 11 ∧
        ArgumentReader.object m.body = (.ok none, []) := by
  intro title bytes fullscreen short
  have htitle : title.encode = .ok bytes := by decide
  have hfullscreen : fullscreen.encode = .ok short := by decide
  obtain ⟨hcarried, hunique⟩ := (encode_unambiguous title).2 bytes htitle
  refine ⟨⟨htitle, hcarried, ?_⟩, hfullscreen,
    ((encode_unambiguous fullscreen).2 short hfullscreen).1⟩
  intro hsame
  exact absurd (hunique _ hsame) (by decide)

end ShellRequest

end GuestShell

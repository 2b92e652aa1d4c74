import GuestShell.Proofs.Wire.Arguments

/-!
# Messages that are written can be read

The size of a message is declared in 16 bits of its second header word, so a message that
is larger has no bytes.  Every other message is found again in front of any bytes, and its
arguments are read back from its body to the last byte.

Only bytes that a writer produced are spoken of; which other bytes are accepted is NOT a
matter of this file.
-/

namespace GuestShell.Wire

namespace Message

theorem length_bytes (m : Message) : m.bytes.length = m.size := by
  simp [bytes, size, headerSize]
  omega

/-- The second header word holds the size above the opcode, without loss. -/
theorem sizeWord_toNat (m : Message) (hsize : m.size ≤ maxSize) :
    m.sizeWord.toNat = m.size * 0x10000 + m.opcode.toNat := by
  have hopcode := m.opcode.toNat_lt
  unfold maxSize at hsize
  apply UInt32.toNat_ofNat_of_lt
  simp only [UInt32.size]
  omega

theorem sizeWord_div (m : Message) (hsize : m.size ≤ maxSize) :
    m.sizeWord.toNat / 0x10000 = m.size := by
  have hopcode := m.opcode.toNat_lt
  rw [sizeWord_toNat m hsize]
  omega

theorem sizeWord_mod (m : Message) (hsize : m.size ≤ maxSize) :
    UInt16.ofNat (m.sizeWord.toNat % 0x10000) = m.opcode := by
  have hopcode := m.opcode.toNat_lt
  rw [sizeWord_toNat m hsize]
  have hmod : (m.size * 0x10000 + m.opcode.toNat) % 0x10000 = m.opcode.toNat := by omega
  rw [hmod, UInt16.ofNat_toNat]

/-- A message in front of any bytes is split off exactly. -/
theorem split_bytes_append (m : Message) (rest : List UInt8) (hsize : m.size ≤ maxSize) :
    split (m.bytes ++ rest) = .ok (m, rest) := by
  have hheader : ¬ m.size < headerSize := by
    simp [size]
  have hlength : ¬ (m.bytes ++ rest).length < m.size := by
    simp [length_bytes]
  have hbody : m.size - headerSize = m.body.length := by
    simp [size]
  have hid : takeWord? (m.bytes ++ rest) =
      some (m.objectId, wordBytes m.sizeWord ++ (m.body ++ rest)) := by
    simp [bytes, takeWord?_wordBytes]
  have hword : takeWord? (wordBytes m.sizeWord ++ (m.body ++ rest)) =
      some (m.sizeWord, m.body ++ rest) :=
    takeWord?_wordBytes m.sizeWord (m.body ++ rest)
  simp only [split, hid, hword, sizeWord_div m hsize, sizeWord_mod m hsize, hheader, hlength,
    if_false, hbody, List.take_left, List.drop_left]

theorem parse_of_split {m : Message} {buffer : List UInt8} (hsplit : split buffer = .ok (m, [])) :
    parse buffer = .ok m := by
  unfold parse
  rw [hsplit]

/-- A message on its own is parsed as itself. -/
theorem parse_bytes (m : Message) (hsize : m.size ≤ maxSize) : parse m.bytes = .ok m := by
  have hsplit := split_bytes_append m [] hsize
  rw [List.append_nil] at hsplit
  exact parse_of_split hsplit

theorem encode_eq_ok_iff (m : Message) (bytes : List UInt8) :
    m.encode = .ok bytes ↔ m.size ≤ maxSize ∧ m.bytes = bytes := by
  unfold encode
  split <;> simp_all

/-- What is encoded is parsed as the message it was encoded from. -/
theorem parse_of_encode {m : Message} {bytes : List UInt8} (h : m.encode = .ok bytes) :
    parse bytes = .ok m := by
  obtain ⟨hsize, rfl⟩ := (encode_eq_ok_iff m bytes).1 h
  exact parse_bytes m hsize

theorem size_ofArguments (objectId : UInt32) (opcode : UInt16) (arguments : List Argument) :
    (ofArguments objectId opcode arguments).size =
      headerSize + (arguments.map Argument.size).sum := by
  change headerSize + (arguments.flatMap Argument.encode).length = _
  rw [length_flatMap_encode]

/-- The body of a message of arguments is read back to its last byte. -/
theorem readAll_body_ofArguments (objectId : UInt32) (opcode : UInt16)
    (arguments : List Argument)
    (hsize : (ofArguments objectId opcode arguments).size ≤ maxSize) :
    ArgumentReader.readAll (arguments.map Argument.kind)
        (ofArguments objectId opcode arguments).body =
      (arguments.map fun a => .ok a.asRead, []) := by
  -- a text whose length does not fit a word makes the message too large long before
  have hsmall : ∀ a ∈ arguments, a.size < 0x100000000 := by
    intro a ha
    have hle := size_le_sum ha
    rw [size_ofArguments] at hsize
    unfold maxSize at hsize
    omega
  have hread := ArgumentReader.readAll_flatMap_encode_append arguments [] hsmall
  rw [List.append_nil] at hread
  exact hread

/-- A message of arguments has bytes exactly when its header and its arguments take up at
most 65535 of them, and the size is reported otherwise.  The bytes are as many as that
size, whole words, and hold the message, whose arguments come back one after another until
nothing is left. -/
theorem ofArguments_roundTrip (objectId : UInt32) (opcode : UInt16)
    (arguments : List Argument) :
    let size := 8 + (arguments.map Argument.size).sum
    (65535 < size →
      (ofArguments objectId opcode arguments).encode = .error (.tooLarge size)) ∧
    (size ≤ 65535 →
      ∃ bytes message,
        (ofArguments objectId opcode arguments).encode = .ok bytes ∧
        bytes.length = size ∧
        bytes.length % 4 = 0 ∧
        parse bytes = .ok message ∧
        message.objectId = objectId ∧
        message.opcode = opcode ∧
        message.size = size ∧
        (ArgumentReader.readAll (arguments.map Argument.kind) message.body).1 =
          arguments.map (fun a => .ok a.asRead) ∧
        ArgumentReader.isEmpty
          (ArgumentReader.readAll (arguments.map Argument.kind) message.body).2 = true) := by
  intro size
  have hsize : (ofArguments objectId opcode arguments).size = size :=
    size_ofArguments objectId opcode arguments
  constructor
  · intro hlarge
    have hnot : ¬ size ≤ maxSize := Nat.not_le.2 hlarge
    rw [encode, hsize, if_neg hnot]
  · intro hfits
    have hmax : (ofArguments objectId opcode arguments).size ≤ maxSize := hsize ▸ hfits
    have hlength : (ofArguments objectId opcode arguments).bytes.length = size := by
      rw [length_bytes, hsize]
    have hwords : size % 4 = 0 := by
      have hsum := sum_size_mod_four arguments
      omega
    have hread := readAll_body_ofArguments objectId opcode arguments hmax
    refine ⟨(ofArguments objectId opcode arguments).bytes, ofArguments objectId opcode arguments,
      (encode_eq_ok_iff _ _).2 ⟨hmax, rfl⟩, hlength, hlength ▸ hwords, parse_bytes _ hmax, rfl,
      rfl, hsize, ?_, ?_⟩
    · rw [hread]
    · rw [hread]
      rfl

theorem sum_size_replicate_uint (n : Nat) (value : UInt32) :
    ((List.replicate n (Argument.uint value)).map Argument.size).sum = 4 * n := by
  induction n with
  | zero => rfl
  | succ n ih =>
      simp only [List.replicate_succ, List.map_cons, List.sum_cons, ih, Argument.size]
      omega

/-- One argument of each form: a word, the object zero, no text, and texts that are empty,
hold a zero byte or have characters of two bytes; and a text that is too long. -/
theorem ofArguments_roundTrip_forms :
    let arguments : List Argument :=
      [.uint 5, .object (some 0), .string none, .string (some ""), .string (some "a\x00é")]
    (∃ bytes message,
      (ofArguments 7 11 arguments).encode = .ok bytes ∧ bytes.length = 40 ∧
      bytes.length % 4 = 0 ∧ parse bytes = .ok message ∧ message.objectId = 7 ∧
      message.opcode = 11 ∧ message.size = 40 ∧
      (ArgumentReader.readAll (arguments.map Argument.kind) message.body).1 =
        arguments.map (fun a => .ok a.asRead) ∧
      ArgumentReader.isEmpty
        (ArgumentReader.readAll (arguments.map Argument.kind) message.body).2 = true) ∧
    (ofArguments 7 11 (List.replicate 16382 (.uint 5))).encode = .error (.tooLarge 65536) := by
  intro arguments
  constructor
  · have hsize : 8 + (arguments.map Argument.size).sum = 40 := by decide
    have hfits := (ofArguments_roundTrip 7 11 arguments).2
    rw [hsize] at hfits
    exact hfits (by decide)
  · have hlarge := (ofArguments_roundTrip 7 11 (List.replicate 16382 (.uint 5))).1
    rw [sum_size_replicate_uint] at hlarge
    exact hlarge (by decide)

end Message

end GuestShell.Wire

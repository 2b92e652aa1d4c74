import GuestShell.Proofs.Wire.RoundTrip

/-!
# Byte streams of messages

Messages follow each other on a stream without anything between them, so a reader finds the
next one only by the size that the last one declared.  `split_eq_ok_iff` says what one step of
the reader finds: a message that can be written is taken off a stream exactly when its bytes
come first.  What holds of all steps follows by `splitAll_induction`.

A stream that was never written by a writer is taken apart too, as far as it goes.  It is NOT
claimed that what is found then means anything.
-/

namespace GuestShell.Wire

theorem wordBytes_wordOf (b₀ b₁ b₂ b₃ : UInt8) :
    wordBytes (wordOf b₀ b₁ b₂ b₃) = [b₀, b₁, b₂, b₃] := by
  have h₀ := b₀.toNat_lt
  have h₁ := b₁.toNat_lt
  have h₂ := b₂.toNat_lt
  have h₃ := b₃.toNat_lt
  have hword : (wordOf b₀ b₁ b₂ b₃).toNat =
      b₀.toNat + 0x100 * b₁.toNat + 0x10000 * b₂.toNat + 0x1000000 * b₃.toNat := by
    apply UInt32.toNat_ofNat_of_lt
    simp only [UInt32.size]
    omega
  simp only [wordBytes, List.cons.injEq, and_true, ← UInt8.toNat_inj, UInt32.toNat_toUInt8,
    UInt32.toNat_shiftRight, Nat.shiftRight_eq_div_pow, hword,
    show UInt32.toNat 8 % 32 = 8 from rfl, show UInt32.toNat 16 % 32 = 16 from rfl,
    show UInt32.toNat 24 % 32 = 24 from rfl]
  omega

/-- A word is taken off some bytes exactly when its bytes come first. -/
theorem takeWord?_eq_some_iff (bytes : List UInt8) (w : UInt32) (rest : List UInt8) :
    takeWord? bytes = some (w, rest) ↔ bytes = wordBytes w ++ rest := by
  constructor
  · intro htake
    match bytes, htake with
    | b₀ :: b₁ :: b₂ :: b₃ :: _, htake =>
        simp only [takeWord?, Option.some.injEq, Prod.mk.injEq] at htake
        obtain ⟨rfl, rfl⟩ := htake
        rw [wordBytes_wordOf]
        rfl
  · rintro rfl
    exact takeWord?_wordBytes w rest

namespace Message

/-- The size that the second word of a byte string declares, if there is a second word. -/
def declaredSize? (buffer : List UInt8) : Option Nat :=
  match takeWord? (buffer.drop 4) with
  | none => none
  | some (word, _) => some (word.toNat / 0x10000)

theorem declaredSize?_bytes_append (m : Message) (rest : List UInt8) (hsize : m.size ≤ maxSize) :
    declaredSize? (m.bytes ++ rest) = some m.size := by
  have hdrop : (m.bytes ++ rest).drop 4 = wordBytes m.sizeWord ++ (m.body ++ rest) := by
    simp only [bytes, List.append_assoc]
    exact List.drop_left' (wordBytes_length m.objectId)
  simp only [declaredSize?, hdrop, takeWord?_wordBytes, sizeWord_div m hsize]

theorem headerSize_le_size (m : Message) : headerSize ≤ m.size := Nat.le_add_right _ _

/-- A second word that declares the size of a message is the one that a writer would write. -/
theorem sizeWord_eq_of_declares (objectId word : UInt32) (body : List UInt8)
    (hsize : headerSize + body.length = word.toNat / 0x10000) :
    sizeWord ⟨objectId, UInt16.ofNat (word.toNat % 0x10000), body⟩ = word := by
  have hopcode : (UInt16.ofNat (word.toNat % 0x10000)).toNat = word.toNat % 0x10000 :=
    UInt16.toNat_ofNat_of_lt (Nat.mod_lt _ (by decide))
  have hword : word.toNat / 0x10000 * 0x10000 + word.toNat % 0x10000 = word.toNat := by omega
  rw [sizeWord, size, hsize, hopcode, hword, UInt32.ofNat_toNat]

/-- The bytes that `split` takes off are those of the message that it finds. -/
theorem eq_bytes_append_of_split {buffer : List UInt8} {m : Message} {rest : List UInt8}
    (hsplit : split buffer = .ok (m, rest)) : m.size ≤ maxSize ∧ buffer = m.bytes ++ rest := by
  unfold split at hsplit
  split at hsplit
  · cases hsplit
  next objectId afterId hid =>
    split at hsplit
    · cases hsplit
    next word afterWord hword =>
      -- both tests of the declared size were passed
      simp only at hsplit
      split at hsplit
      · cases hsplit
      next hheader =>
        split at hsplit
        · cases hsplit
        next hlength =>
          cases hsplit
          rw [takeWord?_eq_some_iff] at hid hword
          subst hid hword
          have hbody : headerSize +
              (afterWord.take (word.toNat / 0x10000 - headerSize)).length =
                word.toNat / 0x10000 := by
            rw [List.length_take]
            simp only [List.length_append, wordBytes_length, headerSize] at *
            omega
          constructor
          · have hbound := word.toNat_lt
            simp only [size, hbody, maxSize]
            omega
          · rw [bytes, sizeWord_eq_of_declares _ _ _ hbody, List.append_assoc, List.append_assoc,
              List.take_append_drop]

/-- A message is taken off a stream exactly when it can be written and its bytes come first. -/
theorem split_eq_ok_iff (buffer : List UInt8) (m : Message) (rest : List UInt8) :
    split buffer = .ok (m, rest) ↔ m.size ≤ maxSize ∧ buffer = m.bytes ++ rest := by
  constructor
  · exact eq_bytes_append_of_split
  · rintro ⟨hsize, rfl⟩
    exact split_bytes_append m rest hsize

theorem length_lt_of_split {buffer : List UInt8} {m : Message} {rest : List UInt8}
    (hsplit : split buffer = .ok (m, rest)) : rest.length < buffer.length := by
  obtain ⟨-, rfl⟩ := eq_bytes_append_of_split hsplit
  have hheader := m.headerSize_le_size
  rw [List.length_append, length_bytes]
  simp only [headerSize] at hheader
  omega

/-! ### The reader of a whole stream -/

theorem splitAtMost_of_ok {buffer : List UInt8} {m : Message} {rest : List UInt8}
    (hsplit : split buffer = .ok (m, rest)) (count : Nat) :
    splitAtMost (count + 1) buffer =
      { splitAtMost count rest with messages := m :: (splitAtMost count rest).messages } := by
  cases buffer with
  | nil => cases hsplit
  | cons b buffer => simp only [splitAtMost, hsplit]

theorem splitAtMost_of_error {buffer : List UInt8} {e : WireError} (hne : buffer ≠ [])
    (hsplit : split buffer = .error e) (count : Nat) :
    splitAtMost (count + 1) buffer = ⟨[], buffer, some e⟩ := by
  cases buffer with
  | nil => exact absurd rfl hne
  | cons b buffer => simp only [splitAtMost, hsplit]

/-- A reader that may take as many messages as there are bytes is never cut short. -/
theorem splitAtMost_of_length_le (count : Nat) {buffer : List UInt8} (hle : buffer.length ≤ count) :
    splitAtMost count buffer = splitAll buffer := by
  induction count using Nat.strong_induction_on generalizing buffer with
  | _ count ih =>
      cases count with
      | zero =>
          obtain rfl := List.length_eq_zero_iff.1 (Nat.le_zero.1 hle)
          rfl
      | succ count =>
          cases buffer with
          | nil => rfl
          | cons b buffer =>
              rw [splitAll, List.length_cons]
              cases hsplit : split (b :: buffer) with
              | error e =>
                  rw [splitAtMost_of_error (List.cons_ne_nil b buffer) hsplit,
                    splitAtMost_of_error (List.cons_ne_nil b buffer) hsplit]
              | ok found =>
                  -- both readers go on with less than they began with
                  have hshorter := length_lt_of_split hsplit
                  rw [List.length_cons] at hle hshorter
                  rw [splitAtMost_of_ok hsplit, splitAtMost_of_ok hsplit,
                    ih count (Nat.lt_succ_self count) (by omega),
                    ih buffer.length (by omega) (by omega)]

theorem splitAll_nil : splitAll [] = ⟨[], [], none⟩ := rfl

theorem splitAll_of_ok {buffer : List UInt8} {m : Message} {rest : List UInt8}
    (hsplit : split buffer = .ok (m, rest)) :
    splitAll buffer = { splitAll rest with messages := m :: (splitAll rest).messages } := by
  have hshorter := length_lt_of_split hsplit
  obtain ⟨count, hcount⟩ := Nat.exists_eq_succ_of_ne_zero (Nat.ne_zero_of_lt hshorter)
  rw [splitAll, hcount, splitAtMost_of_ok hsplit, splitAtMost_of_length_le count (by omega)]

theorem splitAll_of_error {buffer : List UInt8} {e : WireError} (hne : buffer ≠ [])
    (hsplit : split buffer = .error e) : splitAll buffer = ⟨[], buffer, some e⟩ := by
  obtain ⟨count, hcount⟩ := Nat.exists_eq_succ_of_ne_zero
    (fun hzero => hne (List.length_eq_zero_iff.1 hzero))
  rw [splitAll, hcount, splitAtMost_of_error hne hsplit]

/-- What holds at the end of a stream and where no message follows, and is kept by taking one
message off, holds of every stream. -/
theorem splitAll_induction {P : List UInt8 → Stream → Prop} (hend : P [] ⟨[], [], none⟩)
    (hstuck : ∀ buffer e, buffer ≠ [] → split buffer = .error e → P buffer ⟨[], buffer, some e⟩)
    (hsplit : ∀ buffer m rest, split buffer = .ok (m, rest) → P rest (splitAll rest) →
      P buffer { splitAll rest with messages := m :: (splitAll rest).messages })
    (buffer : List UInt8) : P buffer (splitAll buffer) := by
  induction hlength : buffer.length using Nat.strong_induction_on generalizing buffer with
  | _ length ih =>
      cases hfound : split buffer with
      | error e =>
          by_cases hne : buffer = []
          · subst hne
            exact hend
          · rw [splitAll_of_error hne hfound]
            exact hstuck buffer e hne hfound
      | ok found =>
          rw [splitAll_of_ok hfound]
          exact hsplit buffer found.1 found.2 hfound
            (ih found.2.length (hlength ▸ length_lt_of_split hfound) found.2 rfl)

/-- Where the reader of a stream stops, nothing is left or no message follows. -/
theorem splitAll_ends (buffer : List UInt8) :
    let stream := splitAll buffer
    stream.rest = [] ∧ stream.error = none ∨
      stream.rest ≠ [] ∧ ∃ e, stream.error = some e ∧ split stream.rest = .error e := by
  refine splitAll_induction (P := fun _ stream => stream.rest = [] ∧ stream.error = none ∨
    stream.rest ≠ [] ∧ ∃ e, stream.error = some e ∧ split stream.rest = .error e) ?_ ?_ ?_ buffer
  · exact Or.inl ⟨rfl, rfl⟩
  · intro buffer e hne hstuck
    exact Or.inr ⟨hne, e, rfl, hstuck⟩
  · intro buffer m rest hsplit ih
    exact ih

/-- The messages that were taken off and what is left make up the stream. -/
theorem flatMap_bytes_splitAll (buffer : List UInt8) :
    (splitAll buffer).messages.flatMap bytes ++ (splitAll buffer).rest = buffer := by
  refine splitAll_induction (P := fun buffer stream =>
    stream.messages.flatMap bytes ++ stream.rest = buffer) rfl (fun _ _ _ _ => rfl) ?_ buffer
  intro buffer m rest hsplit ih
  obtain ⟨-, rfl⟩ := eq_bytes_append_of_split hsplit
  rw [List.flatMap_cons, List.append_assoc, ih]

theorem size_le_of_mem_splitAll (buffer : List UInt8) :
    ∀ m ∈ (splitAll buffer).messages, m.size ≤ maxSize := by
  refine splitAll_induction (P := fun _ stream => ∀ m ∈ stream.messages, m.size ≤ maxSize)
    (fun _ hm => absurd hm List.not_mem_nil) (fun _ _ _ _ _ hm => absurd hm List.not_mem_nil) ?_
    buffer
  intro buffer m rest hsplit ih
  exact List.forall_mem_cons.2 ⟨(eq_bytes_append_of_split hsplit).1, ih⟩

/-- Written messages in front of a stream are taken off it one after another, and the stream is
read as if they had not been there. -/
theorem splitAll_flatMap_bytes_append (messages : List Message) (rest : List UInt8)
    (hsize : ∀ m ∈ messages, m.size ≤ maxSize) :
    splitAll (messages.flatMap bytes ++ rest) =
      { splitAll rest with messages := messages ++ (splitAll rest).messages } := by
  induction messages with
  | nil => rfl
  | cons m messages ih =>
      rw [List.forall_mem_cons] at hsize
      rw [List.flatMap_cons, List.append_assoc,
        splitAll_of_ok (split_bytes_append m _ hsize.1), ih hsize.2]
      rfl

/-- A reader that takes as many messages as were written stops in front of what follows them. -/
theorem splitAtMost_flatMap_bytes_append (messages : List Message) (rest : List UInt8)
    (hsize : ∀ m ∈ messages, m.size ≤ maxSize) :
    splitAtMost messages.length (messages.flatMap bytes ++ rest) = ⟨messages, rest, none⟩ := by
  induction messages with
  | nil => rfl
  | cons m messages ih =>
      rw [List.forall_mem_cons] at hsize
      rw [List.flatMap_cons, List.append_assoc, List.length_cons,
        splitAtMost_of_ok (split_bytes_append m _ hsize.1), ih hsize.2]

end Message

end GuestShell.Wire

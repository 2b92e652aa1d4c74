import GuestShell.Proofs.Wire.Rewriting

/-!
# Reading within the bounds

The length of a text is declared by whoever sent it, and reading goes on after errors.  The reader
is therefore written once more over bytes that can be looked at only where there are any
(`Checked`): an index or a slice that does not lie in the bytes is a fault, for which there is no
outcome at all.  No fault ever occurs, and the outcomes are those of the reader.

What a read uses up is a function of what it found (`used`), and always a whole number of words.
So a reader stays in step with the words of its buffer, whatever bytes it is given and however
often it fails.  That it finds the next argument after an error is NOT claimed: it goes on within
the argument that it could not read.
-/

namespace GuestShell.Wire

namespace ArgumentReader

/-! ### Indexes that are checked -/

namespace Checked

/-- The bytes from one index up to another; none if these are not within the bytes in this
order. -/
def slice (bytes : List UInt8) (first last : Nat) : Option (List UInt8) :=
  if first ≤ last ∧ last ≤ bytes.length then some ((bytes.take last).drop first) else none

/-- A length rounded up to whole words, in numbers of 64 bits. -/
def roundUp (length : UInt64) : UInt64 :=
  (length / 4 + if length % 4 = 0 then 0 else 1) * 4

/-- That there is no slice of four bytes is an answer here and not a fault. -/
def uint (bytes : List UInt8) : Option (Read UInt32) :=
  match slice bytes 0 4 with
  | none => some (.error (.truncated 4 bytes.length), bytes)
  | some word => do
    let value := wordOf (← word[0]?) (← word[1]?) (← word[2]?) (← word[3]?)
    return (.ok value, ← slice bytes 4 bytes.length)

def object (bytes : List UInt8) : Option (Read (Option UInt32)) := do
  match ← uint bytes with
  | (.error e, rest) => return (.error e, rest)
  | (.ok id, rest) => return (.ok (if id = 0 then none else some id), rest)

/-- The text of a declared length, which is not zero. -/
def text (length : UInt64) (bytes : List UInt8) : Option (Read String) :=
  let size := (roundUp length).toNat
  if bytes.length < size then some (.error (.truncated size bytes.length), bytes)
  else do
    let content ← slice bytes 0 (length - 1).toNat
    let last ← bytes[(length - 1).toNat]?
    if last = 0 then
      match Utf8.decode? content with
      | none => return (.error .badString, bytes)
      | some text => return (.ok text, ← slice bytes size bytes.length)
    else return (.error .badString, bytes)

def string (bytes : List UInt8) : Option (Read (Option String)) := do
  match ← uint bytes with
  | (.error e, rest) => return (.error e, rest)
  | (.ok length, rest) =>
    if length = 0 then return (.ok none, rest)
    else
      match ← text length.toUInt64 rest with
      | (.error e, rest) => return (.error e, rest)
      | (.ok text, rest) => return (.ok (some text), rest)

def read : ArgumentKind → List UInt8 → Option (Read Argument)
  | .uint, bytes => (uint bytes).map fun r => (r.1.map .uint, r.2)
  | .object, bytes => (object bytes).map fun r => (r.1.map .object, r.2)
  | .string, bytes => (string bytes).map fun r => (r.1.map .string, r.2)

/-- Reads one after another, up to the first fault. -/
def readAll : List ArgumentKind → List UInt8 →
    Option (List (Except WireError Argument) × List UInt8)
  | [], bytes => some ([], bytes)
  | kind :: kinds, bytes => do
    let first ← read kind bytes
    let others ← readAll kinds first.2
    return (first.1 :: others.1, others.2)

theorem slice_of_le {bytes : List UInt8} {first last : Nat} (horder : first ≤ last)
    (hlast : last ≤ bytes.length) : slice bytes first last = some ((bytes.take last).drop first) :=
  if_pos ⟨horder, hlast⟩

theorem slice_to_end {bytes : List UInt8} {first : Nat} (hfirst : first ≤ bytes.length) :
    slice bytes first bytes.length = some (bytes.drop first) := by
  rw [slice_of_le hfirst le_rfl, List.take_length]

/-- Numbers of 64 bits are wide enough to round up any length of 32 bits. -/
theorem toNat_roundUp (length : UInt32) :
    (roundUp length.toUInt64).toNat = padded length.toNat := by
  have hlength := length.toNat_lt
  have hrest : (length.toUInt64 % 4).toNat = length.toNat % 4 := by
    rw [UInt64.toNat_mod, UInt32.toNat_toUInt64]
    rfl
  have hcount : (length.toUInt64 / 4).toNat = length.toNat / 4 := by
    rw [UInt64.toNat_div, UInt32.toNat_toUInt64]
    rfl
  have hmore : (if length.toUInt64 % 4 = 0 then 0 else 1 : UInt64).toNat =
      if length.toNat % 4 = 0 then 0 else 1 := by
    rw [← hrest]
    by_cases hwhole : length.toUInt64 % 4 = 0
    · rw [if_pos hwhole, hwhole]
      rfl
    · have hne : (length.toUInt64 % 4).toNat ≠ 0 := fun hzero => hwhole (UInt64.toNat.inj hzero)
      rw [if_neg hwhole, if_neg hne]
      rfl
  rw [roundUp, UInt64.toNat_mul, UInt64.toNat_add, hcount, hmore, padded_eq]
  rw [show UInt64.toNat 4 = 4 from rfl]
  split <;> omega

theorem uint_eq (bytes : List UInt8) : uint bytes = some (ArgumentReader.uint bytes) := by
  match bytes with
  | [] | [_] | [_, _] | [_, _, _] => rfl
  | b₀ :: b₁ :: b₂ :: b₃ :: rest =>
      have hword : slice (b₀ :: b₁ :: b₂ :: b₃ :: rest) 0 4 = some [b₀, b₁, b₂, b₃] :=
        slice_of_le (by omega) (by simp)
      have hrest : slice (b₀ :: b₁ :: b₂ :: b₃ :: rest) 4 (b₀ :: b₁ :: b₂ :: b₃ :: rest).length =
          some rest := slice_to_end (by simp)
      rw [uint, hword, hrest]
      rfl

theorem object_eq (bytes : List UInt8) : object bytes = some (ArgumentReader.object bytes) := by
  rw [object, uint_eq, ArgumentReader.object]
  obtain ⟨result, rest⟩ := ArgumentReader.uint bytes
  cases result <;> rfl

theorem text_eq {length : UInt32} (hlength : length ≠ 0) (bytes : List UInt8) :
    text length.toUInt64 bytes = some (ArgumentReader.text length.toNat bytes) := by
  have hpos : 0 < length.toNat := Nat.pos_of_ne_zero fun hnone => hlength (UInt32.toNat.inj hnone)
  have hlast : (length.toUInt64 - 1).toNat = length.toNat - 1 := by
    have hone : (1 : UInt64) ≤ length.toUInt64 := by
      rw [UInt64.le_iff_toNat_le, UInt32.toNat_toUInt64]
      exact hpos
    rw [UInt64.toNat_sub_of_le _ _ hone, UInt32.toNat_toUInt64]
    rfl
  simp only [text, ArgumentReader.text, toNat_roundUp, hlast]
  split
  · rfl
  next hfits =>
    -- the padded length fits, so all three indexes are within the bytes
    have hroom : length.toNat ≤ padded length.toNat := Nat.le_add_right _ _
    have hindex : length.toNat - 1 < bytes.length := by omega
    rw [slice_of_le (Nat.zero_le _) hindex.le, slice_to_end (Nat.le_of_not_lt hfits),
      List.getElem?_eq_getElem hindex]
    simp only [Option.bind_eq_bind, Option.bind_some, List.drop_zero, Option.some.injEq]
    split
    · cases Utf8.decode? (bytes.take (length.toNat - 1)) <;> rfl
    · rfl

theorem string_eq (bytes : List UInt8) : string bytes = some (ArgumentReader.string bytes) := by
  rw [string, uint_eq, ArgumentReader.string]
  obtain ⟨result, rest⟩ := ArgumentReader.uint bytes
  cases result with
  | error e => rfl
  | ok length =>
      simp only [Option.bind_eq_bind, Option.bind_some]
      split
      · rfl
      next hne =>
        rw [text_eq hne]
        obtain ⟨result, rest⟩ := ArgumentReader.text length.toNat rest
        cases result <;> rfl

theorem read_eq (kind : ArgumentKind) (bytes : List UInt8) :
    read kind bytes = some (ArgumentReader.read kind bytes) := by
  cases kind with
  | uint => rw [read, uint_eq]; rfl
  | object => rw [read, object_eq]; rfl
  | string => rw [read, string_eq]; rfl

/-- No fault occurs, whatever is read and whichever reads fail. -/
theorem readAll_eq (kinds : List ArgumentKind) (bytes : List UInt8) :
    readAll kinds bytes = some (ArgumentReader.readAll kinds bytes) := by
  induction kinds generalizing bytes with
  | nil => rfl
  | cons kind kinds ih =>
      simp only [readAll, read_eq, ih, Option.bind_eq_bind, Option.bind_some]
      rfl

end Checked

/-! ### What a text read finds -/

/-- A word is read wherever there are four bytes. -/
theorem uint_cases (bytes : List UInt8) :
    (∃ word rest, bytes = wordBytes word ++ rest) ∨
      (bytes.length < 4 ∧ ∃ e, uint bytes = (.error e, bytes)) := by
  cases htake : takeWord? bytes with
  | none =>
      refine Or.inr ⟨(takeWord?_eq_none_iff bytes).1 htake, ?_⟩
      rw [uint, htake]
      exact ⟨_, rfl⟩
  | some found => exact Or.inl ⟨_, _, (takeWord?_eq_some_iff bytes found.1 found.2).1 htake⟩

/-- Bytes that begin with a text of a declared length, its zero byte counted: they are enough for
the length with its padding, the zero byte is the last one, and the others encode the text. -/
structure HoldsText (length : Nat) (bytes : List UInt8) (content : String) : Prop where
  fits : padded length ≤ bytes.length
  ended : bytes[length - 1]? = some 0
  encoded : bytes.take (length - 1) = Utf8.encode content

theorem HoldsText.text_eq {length : Nat} {bytes : List UInt8} {content : String}
    (h : HoldsText length bytes content) :
    text length bytes = (.ok content, bytes.drop (padded length)) := by
  rw [text, if_neg (Nat.not_lt.2 h.fits), if_pos h.ended,
    Utf8.decode?_eq_some_iff.2 h.encoded.symm]

/-- A read of a text takes the text with its padding, or nothing. -/
theorem text_cases (length : Nat) (bytes : List UInt8) :
    (∃ content, HoldsText length bytes content) ∨ ∃ e, text length bytes = (.error e, bytes) := by
  unfold text
  split
  · exact Or.inr ⟨_, rfl⟩
  next hfits =>
    split
    next hzero =>
      cases hdecode : Utf8.decode? (bytes.take (length - 1)) with
      | none => exact Or.inr ⟨_, rfl⟩
      | some content =>
          have hencode := Utf8.encode_of_decode? hdecode
          exact Or.inl ⟨content, Nat.le_of_not_lt hfits, hzero, hencode.symm⟩
    next hzero => exact Or.inr ⟨_, rfl⟩

/-- The outcomes of a read of a text or the null string, by the bytes that are read. -/
inductive StringOutcome (bytes : List UInt8) : Read (Option String) → Prop
  | missing {e : WireError} (hshort : bytes.length < 4) : StringOutcome bytes (.error e, bytes)
  | null {rest : List UInt8} (hbytes : bytes = wordBytes 0 ++ rest) :
      StringOutcome bytes (.ok none, rest)
  | refused {length : UInt32} {rest : List UInt8} {e : WireError}
      (hbytes : bytes = wordBytes length ++ rest) : StringOutcome bytes (.error e, rest)
  | found {length : UInt32} {rest : List UInt8} {content : String}
      (hbytes : bytes = wordBytes length ++ rest) (hpos : 0 < length.toNat)
      (htext : HoldsText length.toNat rest content) :
      StringOutcome bytes (.ok (some content), rest.drop (padded length.toNat))

theorem string_outcome (bytes : List UInt8) : StringOutcome bytes (string bytes) := by
  rcases uint_cases bytes with ⟨length, rest, rfl⟩ | ⟨hshort, e, hread⟩
  · rw [string, uint_wordBytes_append]
    simp only
    split
    next hzero => exact .null (by rw [hzero])
    next hne =>
      have hpos : 0 < length.toNat :=
        Nat.pos_of_ne_zero fun hnone => hne (UInt32.toNat.inj hnone)
      rcases text_cases length.toNat rest with ⟨content, htext⟩ | ⟨e, hread⟩
      · rw [htext.text_eq]
        exact .found rfl hpos htext
      · rw [hread]
        exact .refused rfl
  · rw [string, hread]
    exact .missing hshort

theorem StringOutcome.holdsText {bytes : List UInt8} {found : Read (Option String)}
    (h : StringOutcome bytes found) {content : String} (hread : found.1 = .ok (some content)) :
    ∃ length rest, bytes = wordBytes length ++ rest ∧ 0 < length.toNat ∧
      HoldsText length.toNat rest content := by
  cases h with
  | missing hshort => cases hread
  | null hbytes => cases hread
  | refused hbytes => cases hread
  | found hbytes hpos htext =>
      cases hread
      exact ⟨_, _, hbytes, hpos, htext⟩

/-- A text is read exactly if it stands there in full, for every length that can be declared. -/
theorem string_eq_text_iff (bytes : List UInt8) (content : String) :
    (string bytes).1 = .ok (some content) ↔
      ∃ length rest, bytes = wordBytes length ++ rest ∧ 0 < length.toNat ∧
        HoldsText length.toNat rest content := by
  constructor
  · exact (string_outcome bytes).holdsText
  · rintro ⟨length, rest, rfl, hpos, htext⟩
    have hne : length ≠ 0 := by
      rintro rfl
      cases hpos
    simp only [string, uint_wordBytes_append, hne, if_false, htext.text_eq]

/-! ### What a read uses up -/

/-- The length that the first word declares; zero without a word. -/
def declaredLength (bytes : List UInt8) : Nat :=
  match takeWord? bytes with
  | none => 0
  | some (word, _) => word.toNat

/-- The bytes that a read of a kind uses up, by what it found.  A failed read of a text has
taken the length word, if there is one. -/
def used (kind : ArgumentKind) (bytes : List UInt8) : Except WireError Argument → Nat
  | .ok (.string (some _)) => 4 + padded (declaredLength bytes)
  | .ok _ => 4
  | .error _ => if kind = .string ∧ 4 ≤ bytes.length then 4 else 0

theorem declaredLength_wordBytes_append (length : UInt32) (rest : List UInt8) :
    declaredLength (wordBytes length ++ rest) = length.toNat := by
  rw [declaredLength, takeWord?_wordBytes]

/-- A read leaves the bytes after those that it uses up, and these are whole words. -/
structure Leaves (kind : ArgumentKind) (bytes : List UInt8) (found : Read Argument) : Prop where
  rest_eq : found.2 = bytes.drop (used kind bytes found.1)
  used_le : used kind bytes found.1 ≤ bytes.length
  whole : used kind bytes found.1 % 4 = 0

/-- A failed read that is not of a text leaves all bytes. -/
theorem leaves_error {kind : ArgumentKind} (hkind : kind ≠ .string) (bytes : List UInt8)
    (e : WireError) : Leaves kind bytes (.error e, bytes) := by
  have hnothing : used kind bytes (.error e) = 0 := if_neg fun h => hkind h.1
  constructor <;> simp [hnothing]

/-- A read that uses up one word leaves what follows it. -/
theorem leaves_word {kind : ArgumentKind} {word : UInt32} {rest : List UInt8}
    {result : Except WireError Argument}
    (hused : used kind (wordBytes word ++ rest) result = 4) :
    Leaves kind (wordBytes word ++ rest) (result, rest) := by
  refine ⟨?_, ?_, ?_⟩
  · rw [hused]
    exact (List.drop_left' (wordBytes_length word)).symm
  · rw [hused]
    simp
  · rw [hused]

theorem leaves_string {bytes : List UInt8} {found : Read (Option String)}
    (h : StringOutcome bytes found) :
    Leaves .string bytes (found.1.map .string, found.2) := by
  cases h with
  | missing hshort =>
      have hnothing : ∀ e, used .string bytes (.error e) = 0 :=
        fun e => if_neg fun h => Nat.not_le.2 hshort h.2
      constructor <;> simp [Except.map, hnothing]
  | null hbytes =>
      subst hbytes
      exact leaves_word rfl
  | @refused length rest e hbytes =>
      subst hbytes
      have hword : used .string (wordBytes length ++ rest) (.error e) = 4 := by
        simp [used]
      exact leaves_word hword
  | @found length rest content hbytes hpos htext =>
      subst hbytes
      have hused : used .string (wordBytes length ++ rest) (.ok (.string (some content))) =
          4 + padded length.toNat := by
        rw [used, declaredLength_wordBytes_append]
      have hfits := htext.fits
      have hwhole := padded_mod_four length.toNat
      refine ⟨?_, ?_, ?_⟩
      · simp only [Except.map, hused]
        rw [← List.drop_drop, List.drop_left' (wordBytes_length length)]
      · simp only [Except.map, hused, List.length_append, wordBytes_length]
        omega
      · simp only [Except.map, hused]
        omega

/-- Every read leaves the bytes after those that it uses up. -/
theorem read_leaves (kind : ArgumentKind) (bytes : List UInt8) :
    Leaves kind bytes (read kind bytes) := by
  cases kind with
  | uint =>
      rcases uint_cases bytes with ⟨word, rest, rfl⟩ | ⟨-, e, hread⟩
      · rw [read, uint_wordBytes_append]
        exact leaves_word rfl
      · rw [read, hread]
        exact leaves_error (by decide) bytes e
  | object =>
      rcases uint_cases bytes with ⟨word, rest, rfl⟩ | ⟨-, e, hread⟩
      · rw [read, object, uint_wordBytes_append]
        exact leaves_word rfl
      · rw [read, object, hread]
        exact leaves_error (by decide) bytes e
  | string => exact leaves_string (string_outcome bytes)

/-- Whatever was read, a reader stands at a word of its buffer. -/
theorem readAll_suffix (kinds : List ArgumentKind) (bytes : List UInt8) :
    ∃ offset, offset % 4 = 0 ∧ offset ≤ bytes.length ∧
      (readAll kinds bytes).2 = bytes.drop offset := by
  induction kinds generalizing bytes with
  | nil => exact ⟨0, rfl, Nat.zero_le _, rfl⟩
  | cons kind kinds ih =>
      obtain ⟨hrest, hle, hwhole⟩ := read_leaves kind bytes
      obtain ⟨offset, hoffset, hfits, hlast⟩ := ih (read kind bytes).2
      -- what the others use up comes after what the first read has used up
      rw [hrest, List.length_drop] at hfits
      refine ⟨used kind bytes (read kind bytes).1 + offset, by omega, by omega, ?_⟩
      rw [← List.drop_drop, ← hrest]
      exact hlast

/-- The reader stays within its buffer and in step with its words.

Whatever bytes are read and whatever kinds are asked for, failed reads among them: the reader that
may look at a byte or take a slice only where there is one has the same outcomes, so no read leaves
the buffer.  What is left of the buffer begins at a multiple of four.  The next read, of whatever
kind, uses up a word if it finds a number, an object or the null string, and the length word and
the padded length if it finds a text; a failed read of a number or an object uses up nothing, and
a failed read of a text its length word if there is one.  A text is found exactly if its declared
length is not zero, the padded length fits, the byte at the end of the length is zero and the bytes
before that encode the text. -/
theorem readAll_staysInStep (kinds : List ArgumentKind) (bytes : List UInt8) :
    let left := (readAll kinds bytes).2
    Checked.readAll kinds bytes = some (readAll kinds bytes) ∧
    (∃ offset, offset % 4 = 0 ∧ offset ≤ bytes.length ∧ left = bytes.drop offset) ∧
    (∀ kind, Checked.read kind left = some (read kind left) ∧
      used kind left (read kind left).1 ≤ left.length ∧
      (read kind left).2 = left.drop (used kind left (read kind left).1)) ∧
    ∀ content, (string left).1 = .ok (some content) ↔
      ∃ length rest, left = wordBytes length ++ rest ∧ 0 < length.toNat ∧
        HoldsText length.toNat rest content := by
  intro left
  refine ⟨Checked.readAll_eq kinds bytes, readAll_suffix kinds bytes, ?_, string_eq_text_iff left⟩
  intro kind
  have hleaves := read_leaves kind left
  exact ⟨Checked.read_eq kind left, hleaves.used_le, hleaves.rest_eq⟩

/-- A number, and a text that declares more bytes than any buffer has.  What follows is read within
that text: a text with a byte after its zero byte, one that is no UTF-8, the object that its bytes
come to, and the null string. -/
theorem readAll_staysInStep_brokenTexts :
    let bytes : List UInt8 :=
      [9, 0, 0, 0, 255, 255, 255, 255, 3, 0, 0, 0, 195, 169, 0, 7, 2, 0, 0, 0, 195, 0, 0, 0,
       0, 0, 0, 0]
    let kinds : List ArgumentKind := [.uint, .string, .string, .string, .object]
    (readAll kinds bytes).1 =
      [.ok (.uint 9), .error (.truncated 4294967296 20), .ok (.string (some "é")),
       .error .badString, .ok (.object (some 195))] ∧
    (readAll kinds bytes).2 = [0, 0, 0, 0] ∧
    Checked.readAll kinds bytes = some (readAll kinds bytes) ∧
    (∃ offset, offset % 4 = 0 ∧ offset ≤ bytes.length ∧
      (readAll kinds bytes).2 = bytes.drop offset) ∧
    (read .string [0, 0, 0, 0]).2 = [] := by
  intro bytes kinds
  have hleft : (readAll kinds bytes).2 = [0, 0, 0, 0] := by decide +kernel
  obtain ⟨hchecked, hoffset, hnext, -⟩ := readAll_staysInStep kinds bytes
  obtain ⟨-, -, hrest⟩ := hnext .string
  rw [hleft] at hrest
  exact ⟨by decide +kernel, hleft, hchecked, hoffset, hrest⟩

end ArgumentReader

end GuestShell.Wire

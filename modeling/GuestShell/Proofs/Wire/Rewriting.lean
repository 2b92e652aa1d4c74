import GuestShell.Proofs.Wire.Incremental

/-!
# Writing again what was read

A reader accepts bytes that no writer produced, but only in the padding after a text: every
length word, zero byte, null and size that it accepts is the one that a writer would write.
`Spells` says this of a list of arguments and their bytes, and `spells_of_readAll` that reads
which succeed and use up the bytes find what the bytes spell.  So a message that is written again
from the values that were read has its old bytes, and zeros for padding.

What the padding held is lost.  Messages that were not read to the end are NOT spoken of.
-/

namespace GuestShell.Wire

namespace Argument

/-- The bytes of an argument without its padding. -/
def significant : Argument → List UInt8
  | .string (some text) =>
      wordBytes (UInt32.ofNat ((Utf8.encode text).length + 1)) ++ Utf8.encode text ++ [0]
  | a => a.encode

/-- How many bytes of padding follow the zero byte of a text. -/
def padBytes : Argument → Nat
  | .string (some text) => padding ((Utf8.encode text).length + 1)
  | _ => 0

theorem encode_eq_significant (a : Argument) :
    a.encode = a.significant ++ List.replicate a.padBytes 0 := by
  cases a with
  | uint value => simp [significant, padBytes]
  | object id => simp [significant, padBytes]
  | string text =>
      cases text with
      | none => simp [significant, padBytes]
      | some text => simp [significant, padBytes, encode]

theorem length_significant (a : Argument) : a.significant.length + a.padBytes = a.size := by
  rw [← encode_length, encode_eq_significant, List.length_append, List.length_replicate]

theorem padBytes_le (a : Argument) : a.padBytes ≤ 3 := by
  cases a with
  | uint value => exact Nat.zero_le 3
  | object id => exact Nat.zero_le 3
  | string text =>
      cases text with
      | none => exact Nat.zero_le 3
      | some text => exact Nat.le_of_lt_succ (padding_lt _)

end Argument

/-! ### What is read -/

namespace ArgumentReader

theorem eq_of_uint {bytes rest : List UInt8} {value : UInt32}
    (hread : uint bytes = (.ok value, rest)) : bytes = wordBytes value ++ rest := by
  unfold uint at hread
  split at hread
  · cases hread
  next word afterWord htake =>
    cases hread
    exact (takeWord?_eq_some_iff _ _ _).1 htake

theorem eq_of_object {bytes rest : List UInt8} {id : Option UInt32}
    (hread : object bytes = (.ok id, rest)) : bytes = wordBytes (id.getD 0) ++ rest := by
  unfold object at hread
  split at hread
  · cases hread
  next word afterWord huint =>
    have hword := eq_of_uint huint
    cases hread
    by_cases hzero : word = 0
    · rw [if_pos hzero, Option.getD_none, ← hzero]
      exact hword
    · rw [if_neg hzero, Option.getD_some]
      exact hword

/-- A text of a declared length is followed by its zero byte and by its padding. -/
theorem eq_of_text {length : Nat} (hlength : 0 < length) {bytes rest : List UInt8}
    {content : String} (hread : text length bytes = (.ok content, rest)) :
    (Utf8.encode content).length + 1 = length ∧
      ∃ pad : List UInt8, pad.length = padding length ∧
        bytes = Utf8.encode content ++ [0] ++ pad ++ rest := by
  unfold text at hread
  split at hread
  · cases hread
  next hfits =>
    split at hread
    case isFalse => cases hread
    case isTrue hzero =>
      split at hread
      · cases hread
      next found hfound =>
        cases hread
        rw [Utf8.decode?_eq_some_iff] at hfound
        have hroom : padded length = length + padding length := rfl
        have hlast : bytes.drop (length - 1) = 0 :: bytes.drop length := by
          obtain ⟨hindex, hbyte⟩ := List.getElem?_eq_some_iff.1 hzero
          rw [List.drop_eq_getElem_cons hindex, hbyte, Nat.sub_add_cancel hlength]
        have hpad : bytes.drop length =
            (bytes.drop length).take (padding length) ++ bytes.drop (padded length) := by
          rw [hroom, ← List.drop_drop, List.take_append_drop]
        rw [hfound]
        refine ⟨?_, (bytes.drop length).take (padding length), ?_, ?_⟩
        · rw [List.length_take]
          omega
        · rw [List.length_take, List.length_drop]
          omega
        · calc bytes = bytes.take (length - 1) ++ bytes.drop (length - 1) :=
                (List.take_append_drop _ _).symm
            _ = bytes.take (length - 1) ++ [0] ++ bytes.drop length := by
                rw [hlast, List.append_assoc, List.singleton_append]
            _ = _ := by
                rw [List.append_assoc _ (List.take _ _), ← hpad]

theorem eq_of_string {bytes rest : List UInt8} {content : Option String}
    (hread : string bytes = (.ok content, rest)) :
    ∃ pad, pad.length = (Argument.string content).padBytes ∧
      bytes = (Argument.string content).significant ++ pad ++ rest := by
  unfold string at hread
  split at hread
  · cases hread
  next length afterLength huint =>
    rw [eq_of_uint huint]
    split at hread
    case isTrue hzero =>
      -- the null string is the length zero alone
      cases hread
      exact ⟨[], rfl, by rw [hzero]; rfl⟩
    case isFalse hne =>
      split at hread
      · cases hread
      next found afterText htext =>
        cases hread
        have hpos : 0 < length.toNat :=
          Nat.pos_of_ne_zero fun hnone => hne (UInt32.toNat.inj hnone)
        obtain ⟨hlength, pad, hpad, hbytes⟩ := eq_of_text hpos htext
        refine ⟨pad, ?_, ?_⟩
        · rw [Argument.padBytes, hlength, hpad]
        · rw [Argument.significant, hlength, UInt32.ofNat_toNat, hbytes]
          simp only [List.append_assoc]

/-- What a read gives is made of what was read. -/
theorem eq_of_map_eq_ok {α : Type} {found : Read α} {f : α → Argument} {a : Argument}
    {rest : List UInt8} (hread : (found.1.map f, found.2) = (.ok a, rest)) :
    ∃ value, found = (.ok value, rest) ∧ f value = a := by
  obtain ⟨result, after⟩ := found
  cases result with
  | error e => cases hread
  | ok value =>
      simp only [Except.map, Prod.mk.injEq, Except.ok.injEq] at hread
      obtain ⟨rfl, rfl⟩ := hread
      exact ⟨value, rfl, rfl⟩

/-- An argument that was read has the kind that was asked for, and the bytes that were used up
spell it. -/
theorem eq_of_read {kind : ArgumentKind} {bytes rest : List UInt8} {a : Argument}
    (hread : read kind bytes = (.ok a, rest)) :
    a.kind = kind ∧ ∃ pad, pad.length = a.padBytes ∧ bytes = a.significant ++ pad ++ rest := by
  cases kind with
  | uint =>
      obtain ⟨value, hvalue, rfl⟩ := eq_of_map_eq_ok hread
      exact ⟨rfl, [], rfl, eq_of_uint hvalue⟩
  | object =>
      obtain ⟨id, hid, rfl⟩ := eq_of_map_eq_ok hread
      exact ⟨rfl, [], rfl, eq_of_object hid⟩
  | string =>
      obtain ⟨content, hcontent, rfl⟩ := eq_of_map_eq_ok hread
      exact ⟨rfl, eq_of_string hcontent⟩

end ArgumentReader

/-- Bytes that spell arguments: those that would be written, with anything for padding. -/
inductive Spells : List Argument → List UInt8 → Prop
  | nil : Spells [] []
  | cons {a : Argument} {arguments : List Argument} {pad bytes : List UInt8}
      (hpad : pad.length = a.padBytes) (hrest : Spells arguments bytes) :
      Spells (a :: arguments) (a.significant ++ pad ++ bytes)

/-- Reads that all succeed and leave nothing find what the bytes spell. -/
theorem spells_of_readAll {kinds : List ArgumentKind} {bytes : List UInt8}
    {arguments : List Argument}
    (hread : ArgumentReader.readAll kinds bytes = (arguments.map .ok, [])) :
    arguments.map Argument.kind = kinds ∧ Spells arguments bytes := by
  induction kinds generalizing bytes arguments with
  | nil =>
      simp only [ArgumentReader.readAll, Prod.mk.injEq] at hread
      obtain ⟨hnone, rfl⟩ := hread
      obtain rfl := List.map_eq_nil_iff.1 hnone.symm
      exact ⟨rfl, .nil⟩
  | cons kind kinds ih =>
      simp only [ArgumentReader.readAll, Prod.mk.injEq] at hread
      obtain ⟨hresults, hleft⟩ := hread
      cases arguments with
      | nil => cases hresults
      | cons a arguments =>
          rw [List.map_cons, List.cons.injEq] at hresults
          obtain ⟨hfirst, hothers⟩ := hresults
          have hone : ArgumentReader.read kind bytes =
              (.ok a, (ArgumentReader.read kind bytes).2) := Prod.ext hfirst rfl
          obtain ⟨hkind, pad, hpad, hbytes⟩ := ArgumentReader.eq_of_read hone
          obtain ⟨hkinds, hspells⟩ := ih (Prod.ext hothers hleft)
          rw [List.map_cons, hkind, hkinds, hbytes]
          exact ⟨rfl, .cons hpad hspells⟩

/-! ### Where the padding lies -/

/-- The places of all padding bytes, if the arguments are written from `start` on. -/
def paddingPlaces : Nat → List Argument → List Nat
  | _, [] => []
  | start, a :: arguments =>
      List.range' (start + a.significant.length) a.padBytes ++
        paddingPlaces (start + a.size) arguments

theorem le_of_mem_paddingPlaces {start i : Nat} {arguments : List Argument}
    (hi : i ∈ paddingPlaces start arguments) : start ≤ i := by
  induction arguments generalizing start with
  | nil => exact absurd hi List.not_mem_nil
  | cons a arguments ih =>
      rcases List.mem_append.1 hi with hhere | hlater
      · rw [List.mem_range'_1] at hhere
        omega
      · have hle := ih hlater
        omega

/-- A place lies in what is written of the first argument, in its padding, or further on. -/
theorem paddingPlaces_cons (start i : Nat) (a : Argument) (arguments : List Argument) :
    start + i ∈ paddingPlaces start (a :: arguments) ↔
      (a.significant.length ≤ i ∧ i < a.size) ∨
        (a.size ≤ i ∧ start + a.size + (i - a.size) ∈ paddingPlaces (start + a.size) arguments) := by
  have hsize := a.length_significant
  rw [paddingPlaces, List.mem_append, List.mem_range'_1]
  constructor
  · rintro (hhere | hlater)
    · omega
    · have hle := le_of_mem_paddingPlaces hlater
      right
      rw [show start + a.size + (i - a.size) = start + i by omega]
      exact ⟨by omega, hlater⟩
  · rintro (hhere | ⟨hle, hlater⟩)
    · omega
    · right
      rwa [show start + a.size + (i - a.size) = start + i by omega] at hlater

/-- What is written is what was spelled, everywhere but in the padding. -/
theorem Spells.getElem?_eq {arguments : List Argument} {bytes : List UInt8}
    (h : Spells arguments bytes) (start i : Nat) (hi : start + i ∉ paddingPlaces start arguments) :
    (arguments.flatMap Argument.encode)[i]? = bytes[i]? := by
  induction h generalizing start i with
  | nil => rfl
  | @cons a arguments pad bytes hpad hrest ih =>
      have hspelled : (a.significant ++ pad).length = a.size := by
        rw [List.length_append, hpad, a.length_significant]
      rw [paddingPlaces_cons, not_or, not_and, not_and] at hi
      rw [List.flatMap_cons]
      by_cases hsignificant : i < a.significant.length
      · rw [a.encode_eq_significant, List.append_assoc, List.append_assoc,
          List.getElem?_append_left hsignificant, List.getElem?_append_left hsignificant]
      · have hle : a.size ≤ i := Nat.not_lt.1 (hi.1 (Nat.not_lt.1 hsignificant))
        rw [List.getElem?_append_right (a.encode_length ▸ hle), a.encode_length,
          List.getElem?_append_right (hspelled ▸ hle), hspelled]
        exact ih (start + a.size) (i - a.size) (hi.2 hle)

/-- Padding is written as zeros. -/
theorem getElem?_flatMap_encode_padding {arguments : List Argument} {start i : Nat}
    (hi : start + i ∈ paddingPlaces start arguments) :
    (arguments.flatMap Argument.encode)[i]? = some 0 := by
  induction arguments generalizing start i with
  | nil => exact absurd hi List.not_mem_nil
  | cons a arguments ih =>
      have hsize := a.length_significant
      rw [List.flatMap_cons]
      rcases (paddingPlaces_cons start i a arguments).1 hi with ⟨hlow, hhigh⟩ | ⟨hle, hlater⟩
      · rw [List.getElem?_append_left (a.encode_length ▸ hhigh), a.encode_eq_significant,
          List.getElem?_append_right hlow, List.getElem?_replicate, if_pos (by omega)]
      · rw [List.getElem?_append_right (a.encode_length ▸ hle), a.encode_length]
        exact ih hlater

theorem Spells.length_eq {arguments : List Argument} {bytes : List UInt8}
    (h : Spells arguments bytes) : bytes.length = (arguments.map Argument.size).sum := by
  induction h with
  | nil => rfl
  | @cons a arguments pad bytes hpad hrest ih =>
      rw [List.length_append, List.length_append, hpad, a.length_significant, ih, List.map_cons,
        List.sum_cons]

namespace Message

/-- A message that was read to the end is written again as it was, but for the padding.

Whatever bytes are accepted as a message, and whatever is asked of its reader: if all reads
succeed and nothing is left, then the values have the kinds that were asked for, and the message
that is built of them for the same object and opcode can be encoded.  It is as long as the bytes
that were read and equal to them outside the padding of texts, at most three bytes after the zero
byte of each; there it is zero. -/
theorem ofArguments_undoes_reading {buffer : List UInt8} {m : Message}
    {kinds : List ArgumentKind} {arguments : List Argument} (hparse : parse buffer = .ok m)
    (hread : (ArgumentReader.readAll kinds m.body).1 = arguments.map .ok)
    (hempty : ArgumentReader.isEmpty (ArgumentReader.readAll kinds m.body).2 = true) :
    arguments.map Argument.kind = kinds ∧ (∀ a ∈ arguments, a.padBytes ≤ 3) ∧
      ∃ bytes, (ofArguments m.objectId m.opcode arguments).encode = .ok bytes ∧
        bytes.length = buffer.length ∧
        (∀ i, i ∉ paddingPlaces 8 arguments → bytes[i]? = buffer[i]?) ∧
        ∀ i ∈ paddingPlaces 8 arguments, bytes[i]? = some 0 := by
  obtain ⟨hkinds, hspells⟩ :=
    spells_of_readAll (Prod.ext hread (List.isEmpty_iff.1 hempty))
  obtain ⟨hsize, hbuffer⟩ := eq_bytes_append_of_split ((parse_eq_ok_iff buffer m).1 hparse)
  rw [List.append_nil] at hbuffer
  refine ⟨hkinds, fun a _ => a.padBytes_le, ?_⟩
  generalize hagain : ofArguments m.objectId m.opcode arguments = again
  have hsame : again.size = m.size := by
    rw [← hagain, size_ofArguments, ← hspells.length_eq, size]
  have hwords : again.sizeWord = m.sizeWord := by
    rw [sizeWord, sizeWord, hsame, ← hagain]
    rfl
  -- both messages have one header
  obtain ⟨header, hheader, hold, hnew⟩ : ∃ header : List UInt8, header.length = 8 ∧
      buffer = header ++ m.body ∧ again.bytes = header ++ arguments.flatMap Argument.encode := by
    refine ⟨wordBytes m.objectId ++ wordBytes m.sizeWord, rfl, hbuffer, ?_⟩
    rw [bytes, hwords, ← hagain]
    rfl
  refine ⟨again.bytes, (encode_eq_ok_iff _ _).2 ⟨hsame ▸ hsize, rfl⟩, ?_, ?_, ?_⟩
  · rw [length_bytes, hsame, hbuffer, length_bytes]
  · intro i hi
    rw [hnew, hold]
    by_cases hfirst : i < header.length
    · rw [List.getElem?_append_left hfirst, List.getElem?_append_left hfirst]
    · have hle : header.length ≤ i := Nat.not_lt.1 hfirst
      rw [List.getElem?_append_right hle, List.getElem?_append_right hle]
      refine hspells.getElem?_eq 8 (i - header.length) ?_
      rwa [← hheader, Nat.add_sub_of_le hle, hheader]
  · intro i hi
    have hle : header.length ≤ i := hheader ▸ le_of_mem_paddingPlaces hi
    have hplace : 8 + (i - header.length) ∈ paddingPlaces 8 arguments := by
      rwa [← hheader, Nat.add_sub_of_le hle, hheader]
    rw [hnew, List.getElem?_append_right hle]
    exact getElem?_flatMap_encode_padding hplace

/-- Two texts, the second with bytes that no writer puts into its padding, and null objects and
texts.  Only the three bytes after the zero byte of the second text are written anew. -/
theorem ofArguments_undoes_reading_dirtyPadding :
    let buffer : List UInt8 :=
      [7, 0, 0, 0, 11, 0, 40, 0, 4, 0, 0, 0, 97, 98, 99, 0, 0, 0, 0, 0,
       5, 0, 0, 0, 97, 0, 195, 169, 0, 1, 2, 3, 0, 0, 0, 0, 9, 0, 0, 0]
    let kinds : List ArgumentKind := [.string, .object, .string, .string, .uint]
    let arguments : List Argument :=
      [.string (some "abc"), .object none, .string (some "a\x00é"), .string none, .uint 9]
    let m : Message := ⟨7, 11, buffer.drop 8⟩
    parse buffer = .ok m ∧
    (ArgumentReader.readAll kinds m.body).1 = arguments.map .ok ∧
    ArgumentReader.isEmpty (ArgumentReader.readAll kinds m.body).2 = true ∧
    paddingPlaces 8 arguments = [29, 30, 31] ∧
    arguments.map Argument.kind = kinds ∧ (∀ a ∈ arguments, a.padBytes ≤ 3) ∧
      ∃ bytes, (ofArguments 7 11 arguments).encode = .ok bytes ∧
        bytes.length = buffer.length ∧
        (∀ i, i ∉ paddingPlaces 8 arguments → bytes[i]? = buffer[i]?) ∧
        ∀ i ∈ paddingPlaces 8 arguments, bytes[i]? = some 0 := by
  intro buffer kinds arguments m
  have hparse : parse buffer = .ok m := by decide
  have hread : (ArgumentReader.readAll kinds m.body).1 = arguments.map .ok := by decide +kernel
  have hempty : ArgumentReader.isEmpty (ArgumentReader.readAll kinds m.body).2 = true := by
    decide +kernel
  exact ⟨hparse, hread, hempty, by decide, ofArguments_undoes_reading hparse hread hempty⟩

end Message

end GuestShell.Wire

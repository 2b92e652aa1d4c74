import GuestShell.Wire.ArgumentReader
import Mathlib.Algebra.GroupWithZero.Nat
import Mathlib.Algebra.Order.BigOperators.Group.List
import Mathlib.Algebra.Order.Group.Nat

/-!
# Reading encoded arguments back

A reader is asked for one kind of argument after another.  This file says what it answers
when the bytes in front of it are encoded arguments of the same kinds: the arguments, and
the bytes after them untouched.  The one value that does not come back as it was written is
the object zero, which is the null object on the wire.

Nothing is said here about bytes that no writer produced.
-/

namespace GuestShell.Wire

/-- What a reader can be asked for. -/
inductive ArgumentKind where
  | uint
  | object
  | string
  deriving DecidableEq, Repr

namespace Argument

/-- The kind of read that an argument is written for. -/
def kind : Argument → ArgumentKind
  | .uint _ => .uint
  | .object _ => .object
  | .string _ => .string

/-- The argument as a reader gives it back: the object zero is the null object. -/
def asRead : Argument → Argument
  | .object id => .object (id.filter (· ≠ 0))
  | .uint value => .uint value
  | .string text => .string text

end Argument

namespace ArgumentReader

/-- One read of a kind. -/
def read : ArgumentKind → List UInt8 → Read Argument
  | .uint, bytes => ((uint bytes).1.map .uint, (uint bytes).2)
  | .object, bytes => ((object bytes).1.map .object, (object bytes).2)
  | .string, bytes => ((string bytes).1.map .string, (string bytes).2)

/-- Reads one after another, each on the bytes that the one before has left, whether that
one failed or not. -/
def readAll : List ArgumentKind → List UInt8 → List (Except WireError Argument) × List UInt8
  | [], bytes => ([], bytes)
  | kind :: kinds, bytes =>
      let others := readAll kinds (read kind bytes).2
      ((read kind bytes).1 :: others.1, others.2)

end ArgumentReader

/-- Padding rounds a length up to a multiple of four. -/
theorem padded_eq (length : Nat) : padded length = (length + 3) / 4 * 4 := by
  unfold padded padding
  omega

theorem Argument.size_mod_four (a : Argument) : a.size % 4 = 0 := by
  cases a with
  | uint value => simp [Argument.size]
  | object id => simp [Argument.size]
  | string text =>
      cases text with
      | none => simp [Argument.size]
      | some text =>
          have hpadded := padded_mod_four ((Utf8.encode text).length + 1)
          simp only [Argument.size]
          omega

theorem length_flatMap_encode (arguments : List Argument) :
    (arguments.flatMap Argument.encode).length = (arguments.map Argument.size).sum := by
  simp [List.length_flatMap, Argument.encode_length]

theorem sum_size_mod_four (arguments : List Argument) :
    (arguments.map Argument.size).sum % 4 = 0 := by
  induction arguments with
  | nil => rfl
  | cons a arguments ih =>
      have ha := a.size_mod_four
      simp only [List.map_cons, List.sum_cons]
      omega

theorem size_le_sum {a : Argument} {arguments : List Argument} (ha : a ∈ arguments) :
    a.size ≤ (arguments.map Argument.size).sum :=
  List.le_sum_of_mem (List.mem_map_of_mem ha)

namespace ArgumentReader

theorem uint_wordBytes_append (value : UInt32) (rest : List UInt8) :
    uint (wordBytes value ++ rest) = (.ok value, rest) := by
  simp [uint, takeWord?_wordBytes]

theorem object_wordBytes_append (id : Option UInt32) (rest : List UInt8) :
    object (wordBytes (id.getD 0) ++ rest) = (.ok (id.filter (· ≠ 0)), rest) := by
  rw [object, uint_wordBytes_append]
  cases id with
  | none => rfl
  | some id => by_cases hzero : id = 0 <;> simp [hzero, Option.filter_some]

/-- A text with its zero byte and padding is read as that text, whatever follows it. -/
theorem text_encode_append (content : String) (rest : List UInt8) :
    text ((Utf8.encode content).length + 1)
        (Utf8.encode content ++
          (0 :: List.replicate (padding ((Utf8.encode content).length + 1)) 0) ++ rest) =
      (.ok content, rest) := by
  generalize hbytes : Utf8.encode content = bytes
  -- the reader looks at the length, the last byte, the bytes before it and those after it
  have hfits : ¬ (bytes ++ (0 :: List.replicate (padding (bytes.length + 1)) 0) ++
      rest).length < padded (bytes.length + 1) := by
    simp [padded]
    omega
  have hzero : (bytes ++ (0 :: List.replicate (padding (bytes.length + 1)) 0) ++
      rest)[bytes.length + 1 - 1]? = some 0 := by
    simp
  have htake : (bytes ++ (0 :: List.replicate (padding (bytes.length + 1)) 0) ++
      rest).take (bytes.length + 1 - 1) = bytes := by
    simp
  have hdrop : (bytes ++ (0 :: List.replicate (padding (bytes.length + 1)) 0) ++
      rest).drop (padded (bytes.length + 1)) = rest := by
    apply List.drop_left'
    simp [padded]
    omega
  rw [text, if_neg hfits, if_pos hzero, htake, hdrop, ← hbytes, Utf8.decode?_encode]

/-- A text or the null string is read back, as long as its length fits a word. -/
theorem string_encode_append (content : Option String) (rest : List UInt8)
    (hsize : (Argument.string content).size < 0x100000000) :
    string ((Argument.string content).encode ++ rest) = (.ok content, rest) := by
  cases content with
  | none => rw [Argument.encode, string, uint_wordBytes_append]; rfl
  | some content =>
      have hpadded : (Utf8.encode content).length + 1 < 0x100000000 := by
        simp only [Argument.size, padded] at hsize
        omega
      have hlength : (UInt32.ofNat ((Utf8.encode content).length + 1)).toNat =
          (Utf8.encode content).length + 1 :=
        UInt32.toNat_ofNat_of_lt hpadded
      -- the zero byte is counted, so not even the empty text declares the length zero
      have hne : UInt32.ofNat ((Utf8.encode content).length + 1) ≠ 0 := by
        intro hzero
        rw [hzero] at hlength
        simp at hlength
      simp only [Argument.encode, List.append_assoc, string, uint_wordBytes_append, hne,
        if_false, hlength]
      rw [← List.append_assoc, text_encode_append]

/-- One argument in front of any bytes is read back and the bytes are left. -/
theorem read_encode_append (a : Argument) (rest : List UInt8) (hsize : a.size < 0x100000000) :
    read a.kind (a.encode ++ rest) = (.ok a.asRead, rest) := by
  cases a with
  | uint value => simp [Argument.kind, Argument.encode, Argument.asRead, read,
      uint_wordBytes_append, Except.map]
  | object id => simp [Argument.kind, Argument.encode, Argument.asRead, read,
      object_wordBytes_append, Except.map]
  | string content => simp [Argument.kind, Argument.asRead, read,
      string_encode_append content rest hsize, Except.map]

/-- Arguments in front of any bytes are read back in order, and the bytes are left. -/
theorem readAll_flatMap_encode_append (arguments : List Argument) (rest : List UInt8)
    (hsize : ∀ a ∈ arguments, a.size < 0x100000000) :
    readAll (arguments.map Argument.kind) (arguments.flatMap Argument.encode ++ rest) =
      (arguments.map fun a => .ok a.asRead, rest) := by
  induction arguments with
  | nil => rfl
  | cons a arguments ih =>
      have hhead := read_encode_append a (arguments.flatMap Argument.encode ++ rest)
        (hsize a List.mem_cons_self)
      have htail := ih fun b hb => hsize b (List.mem_cons_of_mem a hb)
      simp only [List.map_cons, List.flatMap_cons, List.append_assoc, readAll, hhead, htail]

end ArgumentReader

end GuestShell.Wire

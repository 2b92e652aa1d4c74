/-!
# Words on the wire

A word is 32 bits, least significant byte first.
-/

namespace GuestShell.Wire

/-- The four bytes of a word. -/
def wordBytes (w : UInt32) : List UInt8 :=
  [w.toUInt8, (w >>> 8).toUInt8, (w >>> 16).toUInt8, (w >>> 24).toUInt8]

/-- The word with the four given bytes. -/
def wordOf (b₀ b₁ b₂ b₃ : UInt8) : UInt32 :=
  UInt32.ofNat
    (b₀.toNat + 0x100 * b₁.toNat + 0x10000 * b₂.toNat + 0x1000000 * b₃.toNat)

/-- The first word of some bytes and what follows it; none if fewer than four are left. -/
def takeWord? : List UInt8 → Option (UInt32 × List UInt8)
  | b₀ :: b₁ :: b₂ :: b₃ :: rest => some (wordOf b₀ b₁ b₂ b₃, rest)
  | _ => none

/-- As many whole words as the bytes hold. -/
def words : List UInt8 → List UInt32
  | b₀ :: b₁ :: b₂ :: b₃ :: rest => wordOf b₀ b₁ b₂ b₃ :: words rest
  | _ => []

@[simp] theorem wordBytes_length (w : UInt32) : (wordBytes w).length = 4 := rfl

theorem wordOf_wordBytes (w : UInt32) :
    wordOf w.toUInt8 (w >>> 8).toUInt8 (w >>> 16).toUInt8 (w >>> 24).toUInt8 = w := by
  apply UInt32.toNat.inj
  have h := w.toNat_lt
  simp only [wordOf, UInt32.toNat_ofNat', UInt32.toNat_toUInt8, UInt32.toNat_shiftRight,
    Nat.shiftRight_eq_div_pow]
  simp only [show UInt32.toNat 8 % 32 = 8 from rfl, show UInt32.toNat 16 % 32 = 16 from rfl,
    show UInt32.toNat 24 % 32 = 24 from rfl]
  omega

theorem takeWord?_wordBytes (w : UInt32) (rest : List UInt8) :
    takeWord? (wordBytes w ++ rest) = some (w, rest) := by
  simp [wordBytes, takeWord?, wordOf_wordBytes]

/-- A word can be taken exactly when four bytes are there. -/
theorem takeWord?_eq_none_iff (bytes : List UInt8) : takeWord? bytes = none ↔ bytes.length < 4 := by
  match bytes with
  | [] | [_] | [_, _] | [_, _, _] => simp [takeWord?]
  | _ :: _ :: _ :: _ :: _ => simp [takeWord?]

end GuestShell.Wire

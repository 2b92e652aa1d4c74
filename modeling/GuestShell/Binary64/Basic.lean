/-!
# Binary floating-point numbers with 53 significant bits

A number is a sign and the position of its magnitude in the ascending list of all
magnitudes the format can hold: zero has position `0`, the least positive magnitude
position `1`, and infinity the last position.  The finite magnitudes are whole multiples
of the least positive one, the *unit*, which is `2 ^ -1074`; so the value of a position is
a natural number of units and no rational numbers are needed.

A NaN is one value: its sign and payload are NOT represented.  Rounding is in
`Binary64.Rounding`, the operations are in `Binary64.Arithmetic`.
-/

namespace GuestShell

namespace Binary64

/-- How many positions share one spacing: `2 ^ 52`. -/
def binade : Nat := 0x10000000000000

/-- The position of infinity. -/
def infinityPosition : Nat := 2047 * binade

/-- The units in the number one. -/
def unitsPerOne : Nat := 1 <<< 1074

/-- The units in the magnitude at a position.  Infinity's position continues the list: it
stands for `2 ^ 1024`, the first power of two that is out of range. -/
def units (position : Nat) : Nat :=
  if position / binade = 0 then position
  else (binade + position % binade) <<< (position / binade - 1)

end Binary64

/-- A place in the ascending list of magnitudes, infinity being the last. -/
structure Magnitude where
  position : Nat
  position_le : position ≤ Binary64.infinityPosition
  deriving DecidableEq

/-- A binary floating-point number with 53 significant bits. -/
inductive Binary64 where
  | nan
  | number (negative : Bool) (magnitude : Magnitude)
  deriving DecidableEq

namespace Magnitude

def zero : Magnitude := ⟨0, Nat.zero_le _⟩

def infinity : Magnitude := ⟨Binary64.infinityPosition, Nat.le_refl _⟩

/-- The magnitude at a position, infinity for every position past the list. -/
def ofPosition (position : Nat) : Magnitude :=
  ⟨min position Binary64.infinityPosition, Nat.min_le_right _ _⟩

def isZero (m : Magnitude) : Bool := m.position == 0

def isInfinite (m : Magnitude) : Bool := m.position == Binary64.infinityPosition

/-- The magnitude as a number of units. -/
def units (m : Magnitude) : Nat := Binary64.units m.position

end Magnitude

namespace Binary64

def zero : Binary64 := .number false .zero

def infinity : Binary64 := .number false .infinity

def isNegative : Binary64 → Bool
  | .nan => false
  | .number negative _ => negative

/-- Neither a NaN nor an infinity. -/
def isFinite : Binary64 → Bool
  | .nan => false
  | .number _ m => !m.isInfinite

/-- Greater than zero; infinity is, a NaN is not. -/
def isPositive : Binary64 → Bool
  | .nan => false
  | .number negative m => !negative && !m.isZero

/-- The value of the sign bit in the interchange form, `2 ^ 63`. -/
def signBit : Nat := 0x8000000000000000

/-- The number read from the 64 bits of its interchange form. -/
def ofBits (bits : UInt64) : Binary64 :=
  let position := bits.toNat % signBit
  if h : position ≤ infinityPosition then .number (signBit ≤ bits.toNat) ⟨position, h⟩
  else .nan

/-- The 64 bits of the interchange form, none for a NaN, which has many. -/
def toBits : Binary64 → Option UInt64
  | .nan => none
  | .number negative m =>
      some (UInt64.ofNat (m.position + if negative then signBit else 0))

theorem units_zero : units 0 = 0 := by
  simp [units]

theorem units_eq_self {position : Nat} (h : position < binade) : units position = position := by
  simp [units, Nat.div_eq_of_lt h]

end Binary64

end GuestShell

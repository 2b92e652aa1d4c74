import GuestShell.Binary64.Rounding

/-!
# Reading decimal numbers

A decimal literal is a sign, a natural number of digits and a power of ten.  It denotes
the floating-point number nearest to it.  Exponents far outside the range of the format
are answered without computing the power.
-/

namespace GuestShell

/-- The decimal number `± digits · 10 ^ exponent`. -/
structure DecimalLiteral where
  negative : Bool
  digits : Nat
  exponent : Int
  deriving DecidableEq, Repr

namespace DecimalLiteral

/-- The number of decimal digits of a natural number, `1` for zero. -/
def width (n : Nat) : Nat := (Nat.toDigits 10 n).length

/-- The floating-point number nearest to a decimal number.  Every magnitude has fewer than
310 digits before the point, and a first digit within 400 places after it. -/
def toBinary64 (literal : DecimalLiteral) : Binary64 :=
  let leading : Int := width literal.digits + literal.exponent
  if literal.digits = 0 || leading < -400 then .number literal.negative .zero
  else if leading > 310 then .number literal.negative .infinity
  else
    let whole := literal.digits * Binary64.unitsPerOne
    match literal.exponent with
    | .ofNat e => Binary64.rounded literal.negative (whole * Nat.pow 10 e) 1
    | .negSucc e => Binary64.rounded literal.negative whole (Nat.pow 10 (e + 1))

end DecimalLiteral

end GuestShell

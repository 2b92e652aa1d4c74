import GuestShell.Binary64.Decimal
import GuestShell.Toml.Quoted

/-!
# Numbers

Integers have 64 bits and are decimal with a sign, or hexadecimal, octal or binary without.
Floating-point numbers have a fraction or an exponent, or are an infinity or a NaN.  Single
underscores may stand between digits.

A positive number that is too large for the format is refused, while a negative one counts
as minus infinity.
-/

namespace GuestShell.Toml.Number

def isDigit (base : Nat) (c : Char) : Bool :=
  Quoted.isHexDigit c && Quoted.hexDigitValue c < base

/-- The digits in a numeral without the underscores between them. -/
def digits? (base : Nat) : List Char → Option (List Char)
  | [] => none
  | [c] => if isDigit base c then some [c] else none
  | c :: '_' :: rest => if isDigit base c then (digits? base rest).map (c :: ·) else none
  | c :: rest => if isDigit base c then (digits? base rest).map (c :: ·) else none

/-- The number that digits denote. -/
def natural (base : Nat) (digits : List Char) : Nat :=
  digits.foldl (fun n c => base * n + Quoted.hexDigitValue c) 0

/-- Whether a numeral is negative, and what comes after its sign. -/
def splitSign : List Char → Bool × List Char
  | '-' :: rest => (true, rest)
  | '+' :: rest => (false, rest)
  | rest => (false, rest)

def signed (negative : Bool) (n : Nat) : Int := if negative then -n else n

/-- The digits before the point; only zero itself begins with zero. -/
def wholeDigits? (numeral : List Char) : Option (List Char) := do
  let digits ← digits? 10 numeral
  if digits.head? = some '0' && digits.length ≠ 1 then none else some digits

/-- An integer of any size. -/
def unbounded? : List Char → Option Int
  | '0' :: 'x' :: rest => (digits? 16 rest).map fun digits => natural 16 digits
  | '0' :: 'o' :: rest => (digits? 8 rest).map fun digits => natural 8 digits
  | '0' :: 'b' :: rest => (digits? 2 rest).map fun digits => natural 2 digits
  | numeral =>
    let (negative, magnitude) := splitSign numeral
    (wholeDigits? magnitude).map fun digits => signed negative (natural 10 digits)

def integer? (numeral : List Char) : Option Int := do
  let n ← unbounded? numeral
  if Int64.minValue.toInt ≤ n ∧ n ≤ Int64.maxValue.toInt then some n else none

/-- The digits after the point, none if there is no point. -/
def fraction? : List Char → Option (List Char)
  | [] => some []
  | _ :: digits => digits? 10 digits

/-- The exponent, zero if there is none. -/
def exponent? : List Char → Option Int
  | [] => some 0
  | _ :: numeral =>
    let (negative, magnitude) := splitSign numeral
    (digits? 10 magnitude).map fun digits => signed negative (natural 10 digits)

/-- A decimal number with a fraction or an exponent. -/
def decimal? (negative : Bool) (magnitude : List Char) : Option DecimalLiteral := do
  let (mantissa, exponentPart) := magnitude.span fun c => c ≠ 'e' && c ≠ 'E'
  let (whole, fractionPart) := mantissa.span (· ≠ '.')
  guard (fractionPart ≠ [] ∨ exponentPart ≠ [])
  let wholeDigits ← wholeDigits? whole
  let fraction ← fraction? fractionPart
  let exponent ← exponent? exponentPart
  return ⟨negative, natural 10 (wholeDigits ++ fraction), exponent - fraction.length⟩

def float? (numeral : List Char) : Option Binary64 :=
  match splitSign numeral with
  | (negative, ['i', 'n', 'f']) => some (.number negative .infinity)
  | (_, ['n', 'a', 'n']) => some .nan
  | (negative, magnitude) => do
    let x := (← decimal? negative magnitude).toBinary64
    if x = .infinity then none else some x

end GuestShell.Toml.Number

import GuestShell.Toml.Number

/-!
# Dates and times

A date, a time of day, or both with or without an offset from universal time.  They are
checked and NOT kept: no setting is a date.
-/

namespace GuestShell.Toml.DateTime

open Reader

/-- A number of so many digits, within bounds. -/
def field (width least greatest : Nat) : Reader Nat := do
  let n := Number.natural 10 (← exactly (Number.isDigit 10) width)
  guard (least ≤ n ∧ n ≤ greatest)
  return n

def isLeapYear (year : Nat) : Bool := year % 4 = 0 && (year % 100 ≠ 0 || year % 400 = 0)

def daysInMonth (year : Nat) : Nat → Nat
  | 2 => if isLeapYear year then 29 else 28
  | 4 | 6 | 9 | 11 => 30
  | _ => 31

def date : Reader Unit := do
  let year ← field 4 0 9999
  char '-'
  let month ← field 2 1 12
  char '-'
  discard (field 2 1 (daysInMonth year month))

/-- Leap seconds are allowed in every minute. -/
def time : Reader Unit := do
  discard (field 2 0 23)
  char ':'
  discard (field 2 0 59)
  char ':'
  discard (field 2 0 60)
  discard (optional (char '.' *> someRun (Number.isDigit 10)))

def offset : Reader Unit :=
  discard (satisfying fun c => c = 'Z' || c = 'z') <|> do
    discard (satisfying fun c => c = '+' || c = '-')
    discard (field 2 0 23)
    char ':'
    discard (field 2 0 59)

/-- The time of day after a date. -/
def timeOfDate : Reader Unit := do
  discard (satisfying fun c => c = 'T' || c = 't' || c = ' ')
  time
  discard (optional offset)

def dateTime : Reader Unit := (date *> discard (optional timeOfDate)) <|> time

end GuestShell.Toml.DateTime

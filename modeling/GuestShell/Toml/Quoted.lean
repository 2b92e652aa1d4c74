import GuestShell.Toml.Reader

/-!
# Quoted strings

A string stands in double quotes, where the backslash escapes, or in single quotes, where
nothing does.  Three quotes begin a string that may go over several lines; the line end
right after them is not part of it, and every other line end counts as a line feed.  Up to
two quotes may stand anywhere in such a string, its end included.
-/

namespace GuestShell.Toml.Quoted

open Reader

def isPlainIn (quote : Char) (c : Char) : Bool := isPlain c && c ≠ quote

def isHexDigit (c : Char) : Bool :=
  ('0' ≤ c && c ≤ '9') || ('a' ≤ c && c ≤ 'f') || ('A' ≤ c && c ≤ 'F')

def hexDigitValue (c : Char) : Nat :=
  if c ≤ '9' then c.toNat - '0'.toNat
  else if c ≤ 'F' then c.toNat - 'A'.toNat + 10
  else c.toNat - 'a'.toNat + 10

/-- A character by its number, which has so many hexadecimal digits. -/
def codePoint (width : Nat) : Reader (List Char) := do
  let digits ← exactly isHexDigit width
  let number := digits.foldl (fun n c => 16 * n + hexDigitValue c) 0
  guard number.isValidChar
  return [Char.ofNat number]

/-- A character behind a backslash. -/
def escape : Reader (List Char) := do
  char '\\'
  match ← next with
  | 'b' => return ['\x08']
  | 't' => return ['\t']
  | 'n' => return ['\n']
  | 'f' => return ['\x0c']
  | 'r' => return ['\r']
  | '"' => return ['"']
  | '\\' => return ['\\']
  | 'u' => codePoint 4
  | 'U' => codePoint 8
  | _ => failure

/-- Text as it stands or escaped, within double quotes. -/
def basicPiece : Reader (List Char) := someRun (fun c => isPlainIn '"' c && c ≠ '\\') <|> escape

/-- A string in double quotes on one line. -/
def basic : Reader (List Char) := do
  char '"'
  let pieces ← many basicPiece
  char '"'
  return pieces.flatten

/-- A string in single quotes on one line. -/
def literal : Reader (List Char) := do
  char '\''
  let text ← run (isPlainIn '\'')
  char '\''
  return text

/-- A backslash at the end of a line joins the next line that is not blank. -/
def joinedLines : Reader (List Char) := do
  char '\\'
  blanks
  newline
  discard (many (discard (someRun isBlank) <|> newline))
  return []

/-- One or two quotes that end nothing. -/
def innerQuotes (quote : Char) : Reader (List Char) := do
  let quotes ← someRun (· = quote)
  guard (quotes.length < 3)
  return quotes

/-- The three quotes that end a string, after up to two that belong to it. -/
def closingQuotes (quote : Char) : Reader (List Char) := do
  let quotes ← run (· = quote)
  guard (3 ≤ quotes.length ∧ quotes.length ≤ 5)
  return quotes.drop 3

/-- A string in three quotes. -/
def multiline (quote : Char) (piece : Reader (List Char)) : Reader (List Char) := do
  discard (exactly (· = quote) 3)
  discard (optional newline)
  let pieces ← many (piece <|> newline *> pure ['\n'] <|> innerQuotes quote)
  return pieces.flatten ++ (← closingQuotes quote)

/-- A string in quotes of any kind. -/
def string : Reader (List Char) :=
  multiline '"' (joinedLines <|> basicPiece) <|> basic <|>
  multiline '\'' (someRun (isPlainIn '\'')) <|> literal

end GuestShell.Toml.Quoted

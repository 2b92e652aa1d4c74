import GuestShell.Toml.DateTime
import GuestShell.Toml.Table

/-!
# The lines of a document

A line is empty, opens a table, or assigns a value to a dotted key; a comment may end it.
Arrays and tables in one piece hold further values, but only so many deep.
-/

namespace GuestShell.Toml

open Reader

/-- What a line says. -/
inductive Expression where
  | openTable (path : List String)
  | openElement (path : List String)
  | assign (keys : List String) (value : Value)

namespace Expression

def isBareKeyChar (c : Char) : Bool := c.isAlphanum || c = '_' || c = '-'

/-- A part of a key: bare or in quotes, but on one line. -/
def keyPart : Reader String := do
  return String.ofList (← Quoted.basic <|> Quoted.literal <|> someRun isBareKeyChar)

/-- Keys have fewer parts than this. -/
def keyPartLimit : Nat := 80

/-- The parts of a dotted key. -/
def keys : Reader (List String) := do
  let parts ← separatedBy '.' (blanks *> keyPart <* blanks)
  guard (parts ≠ [] ∧ parts.length < keyPartLimit)
  return parts

/-- A value that is one word. -/
def ofWord? : List Char → Option Value
  | ['t', 'r', 'u', 'e'] => some (.boolean true)
  | ['f', 'a', 'l', 's', 'e'] => some (.boolean false)
  | word =>
    match Number.integer? word, Number.float? word with
    | some n, _ => some (.integer n)
    | none, some x => some (.float x)
    | none, none => none

def isWordChar (c : Char) : Bool := c.isAlphanum || c = '_' || c = '-' || c = '+' || c = '.'

def word : Reader Value := do given (ofWord? (← run isWordChar))

/-- A value that holds no other values. -/
def scalar : Reader Value :=
  (do return .string (String.ofList (← Quoted.string))) <|>
  (do DateTime.dateTime; return .dateTime) <|> word

/-- A comma may follow the last element. -/
def array (element : Reader Value) : Reader Value := do
  char '['
  let elements ← separatedBy ',' (gap *> element <* gap)
  unless elements.isEmpty do discard (optional (char ','))
  gap
  char ']'
  return .array elements

def assignment (value : Reader Value) : Reader (List String × Value) := do
  let keys ← keys
  char '='
  blanks
  let value ← value
  blanks
  return (keys, value)

/-- No comma may follow the last entry. -/
def inlineTable (value : Reader Value) : Reader Value := do
  char '\x7b'
  let assignments ← separatedBy ',' (assignment value)
  blanks
  char '\x7d'
  return .table .inline (← given (Entries.ofAssignments assignments))

/-- A value that holds others at most so deep. -/
def value : Nat → Reader Value
  | 0 => scalar
  | depth + 1 => array (value depth) <|> inlineTable (value depth) <|> scalar

/-- How deep values may hold others. -/
def maxDepth : Nat := 79

def tableHeading : Reader Expression := do
  char '['
  let path ← keys
  char ']'
  return .openTable path

def elementHeading : Reader Expression := do
  discard (exactly (· = '[') 2)
  let path ← keys
  discard (exactly (· = ']') 2)
  return .openElement path

/-- What there is on a line, if anything. -/
def ofLine : Reader (Option Expression) := do
  let start ← get
  guard (start ≠ [])
  blanks
  let expression ← optional (elementHeading <|> tableHeading <|>
    (do let (keys, value) ← assignment (value maxDepth); return .assign keys value))
  lineEnd
  return expression

end Expression

end GuestShell.Toml

/-!
# Reading a document from the front

A reader takes the beginning of a text and leaves the rest, or refuses.  Refusals carry NO
reason: a document is well formed or it is not.

Blanks do not end a line.  A gap is what may stand between the elements of an array: blanks,
comments and line ends.
-/

namespace GuestShell.Toml

/-- Takes the beginning of a text, or refuses it. -/
abbrev Reader := StateT (List Char) Option

namespace Reader

variable {α : Type}

/-- Refuses where there is no value. -/
def given (value : Option α) : Reader α := fun text => value.map fun a => (a, text)

def next : Reader Char := fun
  | [] => none
  | c :: rest => some (c, rest)

/-- Takes one character of a class. -/
def satisfying (p : Char → Bool) : Reader Char := do
  let c ← next
  guard (p c)
  return c

/-- Takes this character. -/
def char (c : Char) : Reader Unit := discard (satisfying (· = c))

/-- Takes as many characters of a class as there are. -/
def run (p : Char → Bool) : Reader (List Char) :=
  fun text => some (text.takeWhile p, text.dropWhile p)

/-- Takes as many characters of a class as there are, at least one. -/
def someRun (p : Char → Bool) : Reader (List Char) := do
  let taken ← run p
  guard (taken ≠ [])
  return taken

/-- Takes so many characters of a class. -/
def exactly (p : Char → Bool) : Nat → Reader (List Char)
  | 0 => pure []
  | n + 1 => do
    let c ← satisfying p
    return c :: (← exactly p n)

/-- Takes nothing; refuses before the end of the text. -/
def finish : Reader Unit := fun
  | [] => some ((), [])
  | _ :: _ => none

/-- Takes items as long as there are any, at most one for each character of `bound`. -/
def manyWithin (item : Reader α) : List Char → Reader (List α)
  | [] => pure []
  | _ :: bound => do
    match ← optional item with
    | none => return []
    | some a => return a :: (← manyWithin item bound)

/-- Takes items, which are not empty, as long as there are any. -/
def many (item : Reader α) : Reader (List α) := fun text => manyWithin item text text

/-- Takes items with a separator between each two. -/
def separatedBy (separator : Char) (item : Reader α) : Reader (List α) := do
  match ← optional item with
  | none => return []
  | some first => return first :: (← many (char separator *> item))

end Reader

open Reader

def isBlank (c : Char) : Bool := c = ' ' || c = '\t'

def blanks : Reader Unit := discard (run isBlank)

def newline : Reader Unit := char '\n' <|> (char '\r' *> char '\n')

/-- Text may hold no control character other than the tab. -/
def isPlain (c : Char) : Bool := c = '\t' || (' ' ≤ c && c ≠ '\x7f')

/-- A comment up to the end of its line. -/
def comment : Reader Unit := do
  char '#'
  discard (run isPlain)

def gap : Reader Unit := discard (many (discard (someRun isBlank) <|> newline <|> comment))

/-- What may follow on a line when all is said. -/
def lineEnd : Reader Unit := do
  blanks
  discard (optional comment)
  newline <|> finish

end GuestShell.Toml

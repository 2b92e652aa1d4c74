import GuestShell.Text.Unprintable

/-!
# Text in quotes

How messages show a path: in double quotes, with escapes for quotes, backslashes and every
character that would not be seen.  A single quote stands as it is.
-/

namespace GuestShell.Text

/-- A character by its number, as in `\u{7f}`. -/
def numberEscape (c : Char) : List Char := "\\u\x7b".toList ++ Nat.toDigits 16 c.toNat ++ ['\x7d']

/-- How a character is shown in quotes. -/
def escape (c : Char) : List Char :=
  match c with
  | '"' => ['\\', '"']
  | '\\' => ['\\', '\\']
  | '\t' => ['\\', 't']
  | '\n' => ['\\', 'n']
  | '\r' => ['\\', 'r']
  | '\x00' => ['\\', '0']
  | c => if isUnprintable c then numberEscape c else [c]

/-- The text in quotes. -/
def quoted (s : String) : String :=
  String.ofList ('"' :: s.toList.flatMap escape ++ ['"'])

end GuestShell.Text

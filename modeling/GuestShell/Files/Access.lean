import GuestShell.Files.Tree

/-!
# Access to files

What a program does with files, by path.  A read gives a text or nothing; whatever changes
files tells only whether it was done.
-/

namespace GuestShell

/-- Actions with files. -/
class FileAccess (m : Type → Type) where
  pathExists : String → m Bool
  /-- The text in a file, none if it cannot be read or is no text. -/
  readText : String → m (Option String)
  /-- Makes a directory with all directories above it. -/
  createDirectories : String → m Bool
  writeText : String → String → m Bool

namespace FileTree

/-- The tree with a change, if the change can be made. -/
def attempt (change : FileTree → Option FileTree) (t : FileTree) : Bool × FileTree :=
  match change t with
  | none => (false, t)
  | some changed => (true, changed)

instance : FileAccess (StateM FileTree) where
  pathExists path t := ((t.find? path).isSome, t)
  readText path t := ((t.read? path).bind Utf8.decode?, t)
  createDirectories path t := t.createDirectories path
  writeText path text := attempt (·.write path (Utf8.encode text))

end FileTree

end GuestShell

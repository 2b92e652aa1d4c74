import GuestShell.Toml.Expression

/-!
# Documents

A document is read line by line.  Each heading decides where the assignments below it go.
-/

namespace GuestShell.Toml

/-- A document of which some lines were read. -/
structure Draft where
  entries : Entries
  /-- Where assignments go; at first to the document itself. -/
  current : List String

namespace Draft

def empty : Draft := ⟨[], []⟩

/-- The document with one more line. -/
def add (d : Draft) : Expression → Option Draft
  | .openTable path => do return ⟨← d.entries.openTable path, path⟩
  | .openElement path => do return ⟨← d.entries.openElement path, path⟩
  | .assign keys value =>
    match d.current with
    | [] => do return { d with entries := ← d.entries.put value keys }
    | path => do return { d with entries := ← d.entries.putBelow value keys path }

end Draft

/-- The lines of a document, which may begin with a byte order mark. -/
def expressions : Reader (List Expression) := do
  discard (optional (Reader.char '\uFEFF'))
  let lines ← Reader.many Expression.ofLine
  Reader.finish
  return lines.reduceOption

/-- The entries of a well-formed document. -/
def parse? (text : String) : Option Entries := do
  let (lines, _) ← expressions text.toList
  return (← lines.foldlM Draft.add .empty).entries

end GuestShell.Toml

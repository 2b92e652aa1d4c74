import GuestShell.Binary64.Basic

/-!
# Tables and what may be added to them

A document builds a tree of tables piece by piece: by headings, by dotted keys and by
tables written in one piece.  How a table came to be decides what may still be added to it,
so that no key is ever set twice and no table is opened twice.

* A table written in one piece is closed.
* A table with a heading of its own takes what stands below that heading and what further
  headings put into it, but nothing by dotted keys from outside.
* A table that is only implied by the heading of a table inside it may still get a heading.
* A table made by dotted keys takes further dotted keys and headings of tables inside it.
-/

namespace GuestShell.Toml

/-- How a table came to be. -/
inductive Origin where
  | heading
  | implied
  | dotted
  | inline
  deriving DecidableEq, Repr

/-- A value in a document.  A date is checked but not kept. -/
inductive Value where
  | string (text : String)
  | integer (n : Int)
  | float (x : Binary64)
  | boolean (b : Bool)
  | dateTime
  | array (elements : List Value)
  | table (origin : Origin) (entries : List (String × Value))
  /-- Tables with one heading each, of which only the last can grow; the others are listed
  from the newest on. -/
  | tables (last : List (String × Value)) (earlier : List (List (String × Value)))

/-- The keys of a table with their values, in the order of first use. -/
abbrev Entries := List (String × Value)

namespace Entries

/-- Replaces the value under a key, or adds one, if `f` allows it. -/
def alter (f : Option Value → Option Value) (key : String) : Entries → Option Entries
  | [] => do return [(key, ← f none)]
  | (k, v) :: rest =>
    if k = key then do return (k, ← f (some v)) :: rest
    else do return (k, v) :: (← alter f key rest)

/-- Replaces or adds the value that a heading leads to, if `f` allows it.  Tables on the way
are implied. -/
def alterAt (f : Option Value → Option Value) : List String → Entries → Option Entries
  | [], _ => none
  | [key], entries => entries.alter f key
  | key :: path, entries =>
    entries.alter
      (fun
        | none => do return .table .implied (← alterAt f path [])
        | some (.table .inline _) => none
        | some (.table origin inner) => do return .table origin (← alterAt f path inner)
        | some (.tables last earlier) => do return .tables (← alterAt f path last) earlier
        | some _ => none)
      key

/-- Puts a value under a dotted key.  Tables on the way are dotted; one that was there is
passed if no heading opened it, and takes the value only if it is dotted itself. -/
def put (value : Value) : List String → Entries → Option Entries
  | [], _ => none
  | [key], entries =>
    entries.alter
      (fun
        | none => some value
        | some _ => none)
      key
  | key :: path, entries =>
    entries.alter
      (fun
        | none => do return .table .dotted (← put value path [])
        | some (.table .dotted inner) => do return .table .dotted (← put value path inner)
        | some (.table .implied inner) =>
          if path.length = 1 then none
          else do return .table .implied (← put value path inner)
        | some (.tables last earlier) =>
          if path.length = 1 then none
          else do return .tables (← put value path last) earlier
        | some _ => none)
      key

/-- The entries that assignments to dotted keys make. -/
def ofAssignments (assignments : List (List String × Value)) : Option Entries :=
  assignments.foldlM (fun entries (keys, value) => put value keys entries) []

/-- The heading of a table: there is none yet, or it is only implied. -/
def openTable : List String → Entries → Option Entries :=
  alterAt fun
    | none => some (.table .heading [])
    | some (.table .implied entries) => some (.table .heading entries)
    | some _ => none

/-- The heading of one more table under the same name. -/
def openElement : List String → Entries → Option Entries :=
  alterAt fun
    | none => some (.tables [] [])
    | some (.tables last earlier) => some (.tables [] (last :: earlier))
    | some _ => none

/-- Puts a value under a dotted key below a heading. -/
def putBelow (value : Value) (keys : List String) : List String → Entries → Option Entries :=
  alterAt fun
    | some (.table .heading entries) => do return .table .heading (← put value keys entries)
    | some (.tables last earlier) => do return .tables (← put value keys last) earlier
    | _ => none

/-- The value under a key. -/
def get? (entries : Entries) (key : String) : Option Value := entries.lookup key

end Entries

end GuestShell.Toml

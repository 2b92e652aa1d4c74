/-!
# Paths

A path is a text of names with slashes between them.  It starts at the root if it begins
with a slash.  Empty names, as between two slashes, stay where they are.
-/

namespace GuestShell.Path

/-- The pieces of a text between its slashes; there is always one more than slashes. -/
def split : List Char → List (List Char)
  | [] => [[]]
  | '/' :: rest => [] :: split rest
  | c :: rest =>
    match split rest with
    | [] => [[c]]
    | first :: pieces => (c :: first) :: pieces

/-- The names in a path. -/
def names (path : String) : List String := (split path.toList).map String.ofList

/-- The path starts at the root. -/
def isAbsolute (path : String) : Bool := path.toList.head? = some '/'

/-- The path to a name in a directory. -/
def join (directory name : String) : String :=
  match directory.toList.getLast? with
  | none | some '/' => directory ++ name
  | some _ => directory ++ "/" ++ name

theorem split_ne_nil (text : List Char) : split text ≠ [] := by
  fun_cases split text <;> simp_all

theorem split_append_slash (front rest : List Char) :
    split (front ++ '/' :: rest) = split front ++ split rest := by
  fun_induction split front with
  | case1 => rfl
  | case2 front ih => simp [split, ih]
  | case3 c front hc h ih => exact absurd h (split_ne_nil front)
  | case4 c front hc first pieces h ih =>
    rw [List.cons_append, split.eq_3 _ _ hc, ih, h]
    rfl

theorem split_replicate_slash (n : Nat) (rest : List Char) :
    split (List.replicate n '/' ++ rest) = List.replicate n [] ++ split rest := by
  induction n with
  | zero => rfl
  | succ n ih =>
    rw [List.replicate_succ, List.replicate_succ, List.cons_append, split, ih]
    rfl

theorem names_append_slash (front rest : String) :
    names (front ++ "/" ++ rest) = names front ++ names rest := by
  simp [names, split_append_slash]

end GuestShell.Path

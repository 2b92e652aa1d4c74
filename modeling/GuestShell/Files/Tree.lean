import GuestShell.Files.Path
import GuestShell.Text.Utf8

/-!
# A tree of files

What a program sees of a file system: directories, files with their contents, sockets, and links
to paths.  Paths lead to places in the tree, from the root or from the working directory; they may
step back, and the links on them are followed.

Of rights only those of the program itself are known, whoever owns a file, and what the program
makes it may use.  That files need room, that one file can have several names without links, and
that other programs change files meanwhile, is NOT modelled.

A tree is looked at through `node?` only; a changed place is listed once more in front.
-/

namespace GuestShell

/-- What the program may do with something. -/
structure Rights where
  read : Bool
  /-- Contents may be changed, names may be added to a directory, a socket may be opened. -/
  write : Bool
  /-- Paths may go on through a directory. -/
  search : Bool
  deriving DecidableEq, Repr

def Rights.all : Rights := ⟨true, true, true⟩

/-- What there is at a place. -/
inductive FileNode where
  | directory (rights : Rights)
  | file (rights : Rights) (contents : List UInt8)
  /-- A socket, on which somebody listens or nobody does any more. -/
  | socket (rights : Rights) (listening : Bool)
  | link (target : String)
  deriving DecidableEq, Repr

def FileNode.isDirectory : FileNode → Bool
  | .directory _ => true
  | _ => false

/-- The names that lead to a place from the root. -/
abbrev Place := List String

namespace Place

/-- Where a name leads from a place. -/
def step (place : Place) (name : String) : Place :=
  if name = "" || name = "." then place
  else if name = ".." then place.dropLast
  else place ++ [name]

/-- Where a path starts if it is looked at from a directory. -/
def start (directory : Place) (path : String) : Place :=
  if Path.isAbsolute path then [] else directory

end Place

/-- A file system and the directory where paths start.  The root is a directory, and whatever is
there lies in one. -/
structure FileTree where
  nodes : List (Place × FileNode)
  working : Place
  root : (nodes.lookup []).any FileNode.isDirectory = true
  rooted : (nodes.all fun entry => (nodes.lookup entry.1.dropLast).any FileNode.isDirectory) = true
  deriving DecidableEq, Repr

/-- Why a path leads nowhere. -/
inductive PathError where
  | notFound
  /-- The path goes on after something that is no directory. -/
  | notADirectory
  /-- The path goes on through a directory that may not be searched. -/
  | denied
  | tooManyLinks
  | nameTooLong
  deriving DecidableEq, Repr

namespace FileTree

/-- What there is at a place. -/
def node? (t : FileTree) (place : Place) : Option FileNode := t.nodes.lookup place

def isDirectory (t : FileTree) (place : Place) : Bool :=
  (t.node? place).any FileNode.isDirectory

/-- The root alone. -/
def empty : FileTree := ⟨[([], .directory .all)], [], rfl, rfl⟩

theorem ne_of_isDirectory {t : FileTree} {place other : Place}
    (hother : t.isDirectory other = true) (hplace : t.isDirectory place = false) :
    other ≠ place := by
  rintro rfl
  rw [hother] at hplace
  cases hplace

theorem lookup_cons_of_ne (t : FileTree) {place other : Place} (hne : other ≠ place)
    (node : FileNode) : ((place, node) :: t.nodes).lookup other = t.node? other := by
  rw [List.lookup_cons, beq_false_of_ne hne]
  rfl

/-- The tree with something at a place in a directory, if the place is no directory itself. -/
def set (t : FileTree) (place : Place) (node : FileNode)
    (hinside : t.isDirectory place.dropLast = true) (hplace : t.isDirectory place = false) :
    FileTree where
  nodes := (place, node) :: t.nodes
  working := t.working
  root := by
    rw [t.lookup_cons_of_ne (ne_of_isDirectory t.root hplace)]
    exact t.root
  rooted := by
    have hkept : ∀ other, t.isDirectory other = true →
        (((place, node) :: t.nodes).lookup other).any FileNode.isDirectory = true := by
      intro other hother
      rw [t.lookup_cons_of_ne (ne_of_isDirectory hother hplace)]
      exact hother
    rw [List.all_cons, Bool.and_eq_true, List.all_eq_true]
    exact ⟨hkept _ hinside, fun entry hentry => hkept _ (List.all_eq_true.1 t.rooted entry hentry)⟩

theorem node?_set (t : FileTree) {place : Place} (other : Place) (node : FileNode)
    (hinside : t.isDirectory place.dropLast = true) (hplace : t.isDirectory place = false) :
    (t.set place node hinside hplace).node? other =
      if other = place then some node else t.node? other := by
  by_cases hother : other = place
  · subst hother
    simp [node?, set]
  · rw [if_neg hother]
    exact t.lookup_cons_of_ne hother node

/-- Whatever is there lies in a directory. -/
theorem isDirectory_dropLast {t : FileTree} {place : Place} {node : FileNode}
    (hnode : t.node? place = some node) : t.isDirectory place.dropLast = true := by
  obtain ⟨before, after, hnodes, -⟩ := List.lookup_eq_some_iff.1 hnode
  refine List.all_eq_true.1 t.rooted (place, node) ?_
  rw [hnodes]
  exact List.mem_append_right before List.mem_cons_self

/-! ### Following paths -/

/-- Paths have fewer bytes than this. -/
def pathLimit : Nat := 4096

/-- Names have at most so many bytes. -/
def nameLimit : Nat := 255

/-- On one path at most so many links are followed. -/
def linkLimit : Nat := 40

/-- A text that can be a path at all. -/
def isPath (path : String) : Bool :=
  path ≠ "" && !path.toList.contains '\x00' && path.utf8ByteSize < pathLimit

/-- Where a path has come to, and how many links may still be followed on it. -/
structure Trail where
  place : Place
  links : Nat
  deriving DecidableEq, Repr

/-- A path may go on to a name only from a directory that may be searched.  Nothing is searched for
an empty name. -/
def goOn (t : FileTree) (place : Place) (name : String) : Except PathError Unit :=
  match t.node? place with
  | none => .error .notFound
  | some (.directory rights) =>
    if name ≠ "" && !rights.search then .error .denied
    else if nameLimit < name.utf8ByteSize then .error .nameTooLong
    else .ok ()
  | some _ => .error .notADirectory

/-- Goes on to a name, where nothing need be.  A link is followed at once, with links on its path
as often as a depth allows, which is never less often than links may be followed. -/
def enter (t : FileTree) (depth : Nat) (trail : Trail) (name : String) : Except PathError Trail :=
  match t.goOn trail.place name with
  | .error e => .error e
  | .ok () =>
    match t.node? (trail.place.step name) with
    | some (.link target) =>
      match depth, trail.links with
      | depth + 1, links + 1 =>
        if isPath target then
          (Path.names target).foldlM (t.enter depth) ⟨trail.place.start target, links⟩
        else .error .notFound
      | _, _ => .error .tooManyLinks
    | _ => .ok { trail with place := trail.place.step name }

/-- Follows names from a place. -/
def walk (t : FileTree) (names : List String) (place : Place) : Except PathError Trail :=
  names.foldlM (t.enter linkLimit) ⟨place, linkLimit⟩

/-- The place that a path leads to, where nothing need be. -/
def resolve (t : FileTree) (path : String) : Except PathError Place :=
  if isPath path then
    (t.walk (Path.names path) (t.working.start path)).map Trail.place
  else .error .notFound

/-- What a path leads to. -/
def find? (t : FileTree) (path : String) : Option FileNode :=
  match t.resolve path with
  | .ok place => t.node? place
  | .error _ => none

/-- The contents of a file, if it may be read. -/
def read? (t : FileTree) (path : String) : Option (List UInt8) :=
  match t.find? path with
  | some (.file rights contents) => if rights.read then some contents else none
  | _ => none

/-! ### Changing a tree -/

/-- Names may be added to a directory. -/
def mayAdd (t : FileTree) (directory : Place) : Bool :=
  match t.node? directory with
  | some (.directory rights) => rights.write
  | _ => false

/-- Puts something new at a place. -/
def create (t : FileTree) (place : Place) (node : FileNode) : Option FileTree :=
  if h : t.node? place = none ∧ t.isDirectory place.dropLast = true then
    if t.mayAdd place.dropLast then some (t.set place node h.2 (by rw [isDirectory, h.1]; rfl))
    else none
  else none

/-- Puts something new at the last of some names, if it can be put there. -/
def make (t : FileTree) (names : List String) (place : Place) (node : FileNode) :
    Except PathError (Option FileTree) := do
  let trail ← t.walk names.dropLast place
  match names.getLast? with
  | none => return none
  | some name =>
    t.goOn trail.place name
    return t.create (trail.place.step name) node

/-- Some names lead to a directory. -/
def leadsToDirectory (t : FileTree) (names : List String) (place : Place) : Bool :=
  match t.walk names place with
  | .ok trail => t.isDirectory trail.place
  | .error _ => false

/-- Makes the directory at the end of some names, the last one first, with all directories on the
way that are not there yet.  What was made before something is in the way stays. -/
def makeDirectories (t : FileTree) (place : Place) : List String → Bool × FileTree
  | [] => (true, t)
  | name :: front =>
    if name = "" || name = "." then makeDirectories t place front
    else
      match t.make (name :: front).reverse place (.directory .all) with
      | .ok (some made) => (true, made)
      | .error .notFound =>
        match makeDirectories t place front with
        | (false, left) => (false, left)
        | (true, left) =>
          match left.make (name :: front).reverse place (.directory .all) with
          | .ok (some made) => (true, made)
          | _ => (left.leadsToDirectory (name :: front).reverse place, left)
      | _ => (t.leadsToDirectory (name :: front).reverse place, t)

/-- Makes a directory with all directories above it. -/
def createDirectories (t : FileTree) (path : String) : Bool × FileTree :=
  if isPath path then t.makeDirectories (t.working.start path) (Path.names path).reverse
  else (false, t)

/-- Writes a file, which may be there already. -/
def write (t : FileTree) (path : String) (contents : List UInt8) : Option FileTree :=
  match t.resolve path with
  | .error _ => none
  | .ok place =>
    match h : t.node? place with
    | none => t.create place (.file .all contents)
    | some (.file rights _) =>
      if rights.write then
        some (t.set place (.file rights contents) (isDirectory_dropLast h)
          (by rw [isDirectory, h]; rfl))
      else none
    | some _ => none

end FileTree

end GuestShell

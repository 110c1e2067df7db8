/-!
# File trees

Directories, files, sockets and symbolic links under one root. A path is walked from the root;
links on the way are followed, a link at its end only where the caller asks for it.

- `FileTree.place` finds the directory and the name that a path speaks of, `FileTree.follow` the
  place that it leads to.
-/

namespace ObliviousRelay.Net

/-- What stands at a place of a file tree. -/
inductive Entry where
  | directory
  | file
  | socket
  | link (target : String)
  deriving DecidableEq, Repr

/-- What the system refuses, by its cause. -/
inductive SystemFault where
  | missing
  | notDirectory
  | tooManyLinks
  | inUse
  | notLocal
  | pathLength
  | nameLength
  | pathText
  deriving DecidableEq, Repr

/-- The wording of a refusal. -/
def SystemFault.message : SystemFault → String
  | missing => "No such file or directory (os error 2)"
  | notDirectory => "Not a directory (os error 20)"
  | tooManyLinks => "Too many levels of symbolic links (os error 40)"
  | inUse => "Address already in use (os error 98)"
  | notLocal => "Cannot assign requested address (os error 99)"
  | pathLength => "path must be shorter than SUN_LEN"
  | nameLength => "abstract socket name must be shorter than SUN_LEN"
  | pathText => "paths must not contain interior null bytes"

/-- The names on the way from the root to an entry. -/
abbrev Place := List String

/-- The entries below the root, each at its place. -/
structure FileTree where
  entries : List (Place × Entry) := []
  deriving DecidableEq, Repr

namespace FileTree

/-- The entry at a place; the root is a directory. -/
def find? (t : FileTree) (p : Place) : Option Entry :=
  if p.isEmpty then some .directory else t.entries.lookup p

/-- Puts an entry where there was none. -/
def insert (t : FileTree) (p : Place) (e : Entry) : FileTree := ⟨t.entries ++ [(p, e)]⟩

/-- Removes the entry at a place. -/
def erase (t : FileTree) (p : Place) : FileTree := ⟨t.entries.filter (·.1 ≠ p)⟩

/-- The bytes that a path has to stay below. -/
def maxPath : Nat := 4096

/-- Whether a text can be a path at all: it is not empty, not too long and without a zero
character. -/
def isPath (path : String) : Bool :=
  path ≠ "" && path.utf8ByteSize < maxPath && !path.toList.contains (Char.ofNat 0)

/-- The names that a path is made of. -/
def names (path : String) : List String :=
  ((path.toList.splitOn '/').map String.ofList).filter (· ≠ "")

/-- Whether a path starts at the root. -/
def isAbsolute (path : String) : Bool := path.toList.head? = some '/'

/-- Whether a path asks for a directory by a slash at its end. -/
def asksForDirectory (path : String) : Bool := path.toList.getLast? = some '/'

/-- The most links that are followed on one way. -/
def maxLinks : Nat := 40

/-- Walks from a directory along names, each of which must lead to a directory. -/
def walk (t : FileTree) (links : Nat) (start : Place) (way : List String) :
    Except SystemFault Place :=
  match way with
  | [] => .ok start
  | name :: rest =>
    if name = "." then walk t links start rest
    else if name = ".." then walk t links start.dropLast rest
    else match t.find? (start ++ [name]) with
      | none => .error .missing
      | some .directory => walk t links (start ++ [name]) rest
      | some (.link target) =>
        match links with
        | 0 => .error .tooManyLinks
        | links + 1 => walk t links (if isAbsolute target then [] else start) (names target ++ rest)
      | some _ => .error .notDirectory
termination_by (links, way.length)

/-- The place that names speak of from a directory, links before the last name being followed. There
need not be an entry. A last name that stays or goes up speaks of a directory. -/
def placeFrom (t : FileTree) (start : Place) (way : List String) : Except SystemFault Place :=
  match way.getLast? with
  | none => .ok start
  | some name =>
    if name = "." ∨ name = ".." then walk t maxLinks start way
    else match walk t maxLinks start way.dropLast with
      | .error fault => .error fault
      | .ok directory => .ok (directory ++ [name])

/-- The place that a path speaks of. The root has no name. -/
def place (t : FileTree) (path : String) : Except SystemFault Place :=
  placeFrom t [] (names path)

/-- The entry that a path speaks of. -/
def lookup? (t : FileTree) (path : String) : Option Entry :=
  if !isPath path then none
  else match t.place path with
    | .ok p => (t.find? p).filter fun e => !asksForDirectory path || e = .directory
    | .error _ => none

/-- The place that an entry leads to when links are followed. -/
def leadsTo (t : FileTree) : Nat → Place → Except SystemFault Place
  | links, p =>
    match t.find? p with
    | some (.link target) =>
      match links with
      | 0 => .error .tooManyLinks
      | links + 1 =>
        match placeFrom t (if isAbsolute target then [] else p.dropLast) (names target) with
        | .error fault => .error fault
        | .ok q => leadsTo t links q
    | _ => .ok p

/-- The place that a path leads to. -/
def follow (t : FileTree) (path : String) : Except SystemFault Place :=
  match t.place path with
  | .error fault => .error fault
  | .ok p => t.leadsTo maxLinks p

/-- Whether a path leads to an entry. -/
def leadsSomewhere (t : FileTree) (path : String) : Bool :=
  match t.follow path with
  | .ok p => isPath path &&
      ((t.find? p).filter fun e => !asksForDirectory path || e = .directory).isSome
  | .error _ => false

/-- Makes an entry at a path where there is none, in a directory that exists. -/
def create (t : FileTree) (path : String) (e : Entry) : Option FileTree :=
  match t.place path with
  | .ok p => if !isPath path || (t.find? p).isSome then none else some (t.insert p e)
  | .error _ => none

/-- Makes a directory. -/
def makeDirectory (t : FileTree) (path : String) : Option FileTree := t.create path .directory

/-- Makes a symbolic link. -/
def makeLink (t : FileTree) (path target : String) : Option FileTree :=
  if asksForDirectory path || !isPath target then none else t.create path (.link target)

/-- Writes a file, over an old one if there is one. -/
def writeFile (t : FileTree) (path : String) : Option FileTree :=
  match t.follow path with
  | .error _ => none
  | .ok p => match t.find? p with
    | some .file => some t
    | some _ => none
    | none => if !isPath path || asksForDirectory path then none else some (t.insert p .file)

/-- Removes an entry that is no directory. -/
def remove (t : FileTree) (path : String) : Option FileTree :=
  match t.lookup? path, t.place path with
  | some .directory, _ => none
  | some _, .ok p => some (t.erase p)
  | _, _ => none

end FileTree

end ObliviousRelay.Net

import TopologyExplorer.File.Path

/-!
# File trees

A tree of plain files with their bytes, and of directories, below a working directory and below the
root. A path is looked up name by name. What a look-up finds is a value of `Found`; every reader of
files in this library is a function of it.
-/

namespace TopologyExplorer

inductive Found where
  | file (bytes : List UInt8)
  | directory
  /-- A name on the way, or the last, is absent. -/
  | missing
  /-- A name before the last is a plain file. -/
  | throughFile
  /-- The path or one of its names is longer than names may be. -/
  | tooLong
  /-- The path holds a character that no name may hold. -/
  | unnameable
  /-- A file is there, but may not be read. -/
  | unreadable
  /-- A directory on the way may not be searched. -/
  | unsearchable
  deriving DecidableEq, Repr

def Found.exists : Found → Bool
  | .file _ | .directory | .unreadable => true
  | _ => false

/-- What the system refuses to do with a path. -/
inductive SystemFault where
  | isDirectory
  | notDirectory
  | nameTooLong
  | unnameable
  | accessDenied
  deriving DecidableEq, Repr

inductive Entry where
  | file (bytes : List UInt8)
  | directory
  deriving DecidableEq, Repr

/-- A place in a tree: the names that lead to it from the working directory or from the root. Only
the first names below the working directory can be `..`. -/
structure Place where
  absolute : Bool
  names : List String
  deriving DecidableEq, Repr

namespace Place

/-- The directory above one whose names are given last first. The root is above itself. -/
def up (absolute : Bool) : List String → List String
  | [] => if absolute then [] else [".."]
  | name :: names => if name = ".." then ".." :: name :: names else names

/-- The place that a path leads to when each `..` takes back the name before it, whatever is
there. -/
def ofPath (p : Path) : Place :=
  let absolute : Bool := p.root ≠ .here
  let names := p.names.foldl
    (fun here name => if name = ".." then up absolute here else name :: here) []
  ⟨absolute, names.reverse⟩

def path (p : Place) : Path := ⟨if p.absolute then .slash else .here, p.names⟩

/-- The place is the root, the working directory or a directory above it. -/
def isGiven (p : Place) : Bool := p.names.all (· = "..")

def parent (p : Place) : Place := { p with names := p.names.dropLast }

/-- The place is another one or leads to it. -/
def leadsTo (p q : Place) : Bool := p.absolute = q.absolute && p.names.isPrefixOf q.names

end Place

/-- Entries by their places. The directories above an entry exist with it. -/
structure FileTree where
  entries : List (Place × Entry)
  /-- The bytes of the path of the working directory. -/
  baseSize : Nat
  deriving Repr

namespace FileTree

def longestName : Nat := 255
def longestPath : Nat := 4095

def entry? (t : FileTree) (place : Place) : Option Entry :=
  match t.entries.lookup place with
  | some e => some e
  | none =>
    if place.isGiven || t.entries.any fun e => place.leadsTo e.1 then some .directory else none

/-- Looks names up from a directory of the tree, whose own names are given last first. -/
def lookFrom (t : FileTree) (absolute : Bool) (here : List String) : List String → Found
  | [] => .directory
  | name :: names =>
    if name = ".." then lookFrom t absolute (Place.up absolute here) names
    else if longestName < name.utf8ByteSize then .tooLong
    else
      match t.entry? ⟨absolute, (name :: here).reverse⟩ with
      | none => .missing
      | some (.file bytes) => if names.isEmpty then .file bytes else .throughFile
      | some .directory => lookFrom t absolute (name :: here) names

def look (t : FileTree) (p : Path) : Found :=
  if p.names.any Path.hasNull then .unnameable
  else if longestPath < p.text.utf8ByteSize then .tooLong
  else lookFrom t (p.root ≠ .here) [] p.names

def canWrite (t : FileTree) (place : Place) : Bool :=
  t.entry? place ≠ some .directory && t.entry? place.parent = some .directory
    && place.names.all fun name => name.utf8ByteSize ≤ longestName && !Path.hasNull name

/-- The bytes of the file at a place; none if no file is there. -/
def bytesAt (t : FileTree) (place : Place) : List UInt8 :=
  match t.entry? place with
  | some (.file bytes) => bytes
  | _ => []

/-- Removes the file at a place. The directory that it was in stays. -/
def remove (t : FileTree) (place : Place) : FileTree :=
  { t with entries := (place.parent, .directory) :: t.entries.filter fun e => e.1 ≠ place }

def write (t : FileTree) (place : Place) (bytes : List UInt8) : FileTree :=
  { t with entries := (place, .file bytes) :: t.entries.filter fun e => e.1 ≠ place }

def append (t : FileTree) (place : Place) (bytes : List UInt8) : FileTree :=
  t.write place (t.bytesAt place ++ bytes)

end FileTree

end TopologyExplorer

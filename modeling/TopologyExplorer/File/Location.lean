import TopologyExplorer.File.Tree

/-!
# Locations

A path located along its text: each `..` takes back the name before it, and each other name must
then lead to something or to nothing at all. A location has a full path, whose size is bounded all
the way.
-/

namespace TopologyExplorer

/-- The bytes of the full path of a place. A place above the working directory counts none for
it. -/
def FileTree.fullSize (t : FileTree) (place : Place) : Nat :=
  (if place.absolute || place.names.head? = some ".." then 0 else t.baseSize)
    + (place.names.map fun name => name.utf8ByteSize + 1).foldr (· + ·) 0

/-- The longest full path on the way to a location. -/
def Place.longestWay : Nat := 511

/-- The longest full path of a location. -/
def Place.longestLocation : Nat := 504

namespace FileTree

/-- A place can be passed on the way to a location. -/
def canPass (t : FileTree) (place : Place) : Bool :=
  t.fullSize place ≤ Place.longestWay &&
    match t.lookFrom place.absolute [] place.names with
    | .file _ | .directory | .unreadable | .missing => true
    | .throughFile | .tooLong | .unnameable | .unsearchable => false

/-- Takes names one by one, from a place whose own names are given last first. -/
def locateFrom (t : FileTree) (absolute : Bool) (here : List String) : List String → Option Place
  | [] => some ⟨absolute, here.reverse⟩
  | name :: names =>
    if name = ".." then locateFrom t absolute (Place.up absolute here) names
    else if t.canPass ⟨absolute, (name :: here).reverse⟩ then
      locateFrom t absolute (name :: here) names
    else none

/-- The location of a path. The root is none. -/
def locate? (t : FileTree) (p : Path) : Option Place := do
  let place ← t.locateFrom (p.root ≠ .here) [] p.names
  if place = ⟨true, []⟩ ∨ Place.longestLocation < t.fullSize place then none else some place

end FileTree

/-- The places that are looked up on the way to the location of a path, this last. -/
def Path.way (p : Path) : List Place :=
  (List.range p.names.length).map fun k => .ofPath ⟨p.root, p.names.take (k + 1)⟩

end TopologyExplorer

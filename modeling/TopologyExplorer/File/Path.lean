/-!
# Paths

A path is a root and the names below it. Reading a path drops empty names and the name `.`,
and keeps `..`, so two texts that differ only in those have one path and one written form.
-/

namespace TopologyExplorer

/-- Where a path starts. Two leading slashes are a root of their own; more than two count as one. -/
inductive PathRoot where
  | here
  | slash
  | slashes
  deriving DecidableEq, Repr

structure Path where
  root : PathRoot
  names : List String
  deriving DecidableEq, Repr

namespace Path

def rootOf (cs : List Char) : PathRoot :=
  match (cs.takeWhile (· = '/')).length with
  | 0 => .here
  | 2 => .slashes
  | _ => .slash

def namesOf (cs : List Char) : List String :=
  ((cs.splitOn '/').map String.ofList).filter fun name => name ≠ "" ∧ name ≠ "."

def ofText (s : String) : Path :=
  ⟨rootOf s.toList, namesOf s.toList⟩

def rootText : PathRoot → String
  | .here => ""
  | .slash => "/"
  | .slashes => "//"

def text (p : Path) : String :=
  if p.root = .here ∧ p.names = [] then "." else rootText p.root ++ "/".intercalate p.names

instance : ToString Path := ⟨text⟩

/-- The path `q` seen from `p`; a path with a root of its own stays as it is. -/
def join (p q : Path) : Path :=
  if q.root = .here then ⟨p.root, p.names ++ q.names⟩ else q

/-- The path that a text names below `p`. -/
def child (p : Path) (s : String) : Path :=
  p.join (ofText s)

/-- The text holds the character that ends a name for the system. -/
def hasNull (text : String) : Bool := text.toList.contains '\x00'

def parent (p : Path) : Path :=
  ⟨p.root, p.names.dropLast⟩

end Path

end TopologyExplorer

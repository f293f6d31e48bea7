import TopologyExplorer.Xml.Namespace

/-!
# Elements

The tree of a document: elements with their names, their attributes and their child elements.
Document order puts an element before its descendants and these before its later siblings.
-/

namespace TopologyExplorer.Xml

inductive Element where
  | mk (tag : Name) (attributes : List (Name × String)) (children : List Element)
  deriving Repr

namespace Element

def tag : Element → Name
  | mk tag _ _ => tag

def attributes : Element → List (Name × String)
  | mk _ attributes _ => attributes

def children : Element → List Element
  | mk _ _ children => children

/-- The value of the attribute with a plain name. -/
def value? (e : Element) (name : String) : Option String :=
  e.attributes.lookup (.plain name)

def isNamed (name : String) (e : Element) : Bool :=
  e.tag = .plain name

def childrenNamed (e : Element) (name : String) : List Element :=
  e.children.filter (isNamed name)

mutual

/-- The element and its descendants in document order. -/
def all : Element → List Element
  | mk tag attributes children => mk tag attributes children :: allOf children

/-- The elements of a forest and their descendants in document order. -/
def allOf : List Element → List Element
  | [] => []
  | e :: es => all e ++ allOf es

end

/-- The element and its descendants with a plain name. -/
def allNamed (e : Element) (name : String) : List Element :=
  e.all.filter (isNamed name)

end Element

end TopologyExplorer.Xml

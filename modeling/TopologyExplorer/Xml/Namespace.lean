/-!
# Namespaces

A prefix stands for the namespace that the innermost declaration in scope gives it. The empty
prefix is the default of elements; an attribute without a prefix belongs to no namespace. A
qualified name is never equal to a plain one.
-/

namespace TopologyExplorer.Xml

/-- A name with the namespace that it belongs to, if any. -/
structure Name where
  space : Option String
  base : String
  deriving DecidableEq, Repr

/-- A name that belongs to no namespace. -/
def Name.plain (base : String) : Name := ⟨none, base⟩

/-- The declarations in force, innermost first: a prefix and its namespace. -/
structure Scope where
  bindings : List (String × String)
  deriving Repr

namespace Scope

/-- The namespace of the prefix `xml`, which no other prefix may stand for. -/
def xmlSpace : String := "http://www.w3.org/XML/1998/namespace"

/-- The namespace of the declarations themselves, which no prefix may stand for. -/
def declarationSpace : String := "http://www.w3.org/2000/xmlns/"

def initial : Scope := ⟨[("xml", xmlSpace)]⟩

/-- The prefix that an attribute of a raw name declares. -/
def declared? (raw : String) : Option String :=
  match (raw.toList.splitOn ':').map String.ofList with
  | ["xmlns"] => some ""
  | "xmlns" :: rest => some (":".intercalate rest)
  | _ => none

/-- Puts a declaration in force. Only the empty prefix may be taken back. -/
def bind? (s : Scope) (leader space : String) : Option Scope :=
  if (leader = "" ∨ space ≠ "") ∧ leader ≠ "xmlns" ∧ (leader = "xml" ↔ space = xmlSpace)
      ∧ space ≠ declarationSpace ∧ '}' ∉ space.toList then
    some ⟨(leader, space) :: s.bindings⟩
  else none

/-- The namespace of a prefix, which has to be declared. -/
def space? (s : Scope) (leader : String) : Option String := s.bindings.lookup leader

def attributeName? (s : Scope) (raw : String) : Option Name :=
  let (leader, base) := (raw.toList.takeWhile (· ≠ ':'), raw.toList.dropWhile (· ≠ ':'))
  match base with
  | _ :: base => (s.space? (String.ofList leader)).map fun space => ⟨space, String.ofList base⟩
  | [] => some (.plain raw)

def elementName? (s : Scope) (raw : String) : Option Name :=
  match s.attributeName? raw with
  | some ⟨none, base⟩ =>
    match s.space? "" with
    | some space => some ⟨if space = "" then none else some space, base⟩
    | none => some (.plain base)
  | other => other

end Scope

end TopologyExplorer.Xml

import TopologyExplorer.Xml.Doctype
import TopologyExplorer.Xml.Element
import TopologyExplorer.Xml.Encoding

/-!
# Documents

A document is a declaration, a prolog with at most one document type, and one element. Its tags
are matched on a stack of open elements. An entity between tags is replaced by the elements of its
text, which have to be complete. A document that breaks a rule has no tree.
-/

namespace TopologyExplorer.Xml

namespace Element

/-- The attributes of a tag, the declared defaults behind those that are written. -/
def rawAttributes? (d : Doctype) (raw : String) (written : List RawAttribute) :
    Option (List (String × String)) := do
  let names := written.map (·.1)
  guard (decide names.Nodup)
  let given ← written.mapM fun (name, pieces) => do
    let value ← d.expand? pieces
    let tokenized := (d.rule? raw name).any (·.tokenized)
    return (name, String.ofList (if tokenized then collapse value else value))
  let defaults := d.attributes.filterMap fun r =>
    if r.element = raw ∧ !names.contains r.name then
      r.default?.map fun value => (r.name, String.ofList value)
    else none
  return given ++ defaults

/-- An element without its children, as its opening tag gives it, and the scope inside of it. -/
def start? (d : Doctype) (scope : Scope) (raw : String) (written : List RawAttribute) :
    Option (Name × List (Name × String) × Scope) := do
  let attributes ← rawAttributes? d raw written
  let inner ← attributes.foldlM
    (fun (s : Scope) (name, value) =>
      match Scope.declared? name with
      | some leader => s.bind? leader value
      | none => some s) scope
  let tag ← inner.elementName? raw
  let kept ← (attributes.filter fun a => (Scope.declared? a.1).isNone).mapM
    fun (name, value) => (inner.attributeName? name).map (·, value)
  guard (decide (kept.map (·.1)).Nodup)
  return (tag, kept, inner)

end Element

/-- An element whose closing tag is not read yet. -/
structure OpenElement where
  /-- The name as written, which the closing tag repeats. -/
  raw : String
  tag : Name
  attributes : List (Name × String)
  scope : Scope
  /-- The siblings before it, last first. -/
  before : List Element
  deriving Repr

/-- A forest as far as its markup is read. -/
structure Growth where
  /-- The open elements, innermost first. -/
  stack : List OpenElement
  /-- The complete elements at the innermost place, last first. -/
  done : List Element
  deriving Repr

namespace Growth

/-- The scope at the innermost place of a forest that grows in a scope. -/
def scope (outer : Scope) (g : Growth) : Scope :=
  match g.stack with
  | e :: _ => e.scope
  | [] => outer

/-- Takes one markup. `forest?` is the forest of an entity's text in a scope. -/
def step? (d : Doctype) (outer : Scope) (forest? : Scope → List Markup → Option (List Element))
    (g : Growth) : Markup → Option Growth
  | .opening raw written closed => do
    let (tag, attributes, inner) ← Element.start? d (g.scope outer) raw written
    if closed then return ⟨g.stack, .mk tag attributes [] :: g.done⟩
    return ⟨⟨raw, tag, attributes, inner, g.done⟩ :: g.stack, []⟩
  | .closing raw =>
    match g.stack with
    | e :: stack =>
      if e.raw = raw then some ⟨stack, .mk e.tag e.attributes g.done.reverse :: e.before⟩ else none
    | [] => none
  | .entity name =>
    match d.entities.lookup name with
    | some (.internal text) => do
      let elements ← forest? (g.scope outer) (← Markup.list? .inner text)
      return ⟨g.stack, elements.reverse ++ g.done⟩
    | _ => none
  | .data _ | .remark => some g

end Growth

/-- The forest of a markup list with entities nested to at most some depth. -/
def forestTo (d : Doctype) : Nat → Scope → List Markup → Option (List Element)
  | 0, _, _ => none
  | depth + 1, outer, ms => do
    let g ← ms.foldlM (Growth.step? d outer (forestTo d depth)) ⟨[], []⟩
    if g.stack.isEmpty then some g.done.reverse else none

/-- Skips the prolog of a document, and reads the document type in it; `initial` declares nothing
yet. -/
def prolog? (initial : Doctype) :
    Nat → Option Doctype → List Char → Option (Option Doctype × List Char)
  | 0, _, _ => none
  | fuel + 1, d, cs =>
    match cs.dropWhile isBlank with
    | '<' :: '!' :: '-' :: '-' :: rest => do prolog? initial fuel d (← comment? rest)
    | '<' :: '?' :: rest => do prolog? initial fuel d (← instruction? initial.reading rest)
    | '<' :: '!' :: 'D' :: 'O' :: 'C' :: 'T' :: 'Y' :: 'P' :: 'E' :: c :: rest =>
      if isBlank c ∧ d.isNone then do
        let (d, rest) ← initial.ofText? rest
        prolog? initial fuel (some d) rest
      else none
    | rest => some (d, rest)

def Markup.references : Markup → List Reference
  | .opening _ attributes _ => attributes.flatMap (·.2)
  | .entity name => [.entity name]
  | .closing _ | .data _ | .remark => []

/-- The root of a tree, from the declaration and the text of its document. -/
def treeOf? (declaration : Declaration) (m : Reading) (size : Nat) (cs : List Char) :
    Option Element := do
  let initial := Doctype.initial m declaration.standalone size
  let (declared, rest) ← prolog? initial (cs.length + 1) none cs
  let ms ← Markup.list? m rest
  guard (Markup.dataInside 0 ms)
  let d ← (declared.getD initial).spend? (ms.flatMap Markup.references)
  match ← forestTo d (d.entities.length + 1) .initial ms with
  | [root] => some root
  | _ => none

def rootOf [Codecs] (bytes : List UInt8) : Except DocumentFault Element := do
  let (declaration, m, cs) ← text bytes
  orMalformed (treeOf? declaration m bytes.length cs)

end TopologyExplorer.Xml

import TopologyExplorer.Selection.Basic

/-!
# Relations

The rows of a selection over named relations. A row has a group of cells for each source. A
condition of a join that keeps rows without a partner counts at the join, any other one for all
rows. Every column that is named must be that of exactly one source.
-/

namespace TopologyExplorer.Selection

structure Relation where
  columns : List String
  /-- The column that is also known by the names of row numbers. -/
  key : Option String
  rows : List (List Cell)
  deriving DecidableEq, Repr

/-- A relation within a selection, with the names that its columns can have in front. -/
structure Scope where
  names : List String
  relation : Relation
  /-- The columns that agree with a column of a source before it. -/
  merged : List String
  deriving DecidableEq, Repr

namespace Scope

def lower (path : List String) : List String := path.map String.toLower

/-- The names can stand in front of the columns. -/
def answersTo (s : Scope) (names : List String) : Bool :=
  (lower names).reverse.isPrefixOf (lower s.names).reverse

def column? (s : Scope) (name : String) : Option Nat :=
  s.relation.columns.findIdx? (·.toLower = name.toLower)

/-- The column, if it does not agree with a column of a source before it. -/
def ownColumn? (s : Scope) (name : String) : Option Nat :=
  if (lower s.merged).contains name.toLower then none else s.column? name

def rowNumbers : List String := ["rowid", "oid", "_rowid_"]

/-- The column for the numbers of rows. -/
def key? (s : Scope) (name : String) : Option Nat :=
  if rowNumbers.contains name.toLower then s.relation.key.bind s.column? else none

/-- What a path can stand for: the positions of sources and of their columns. -/
def candidates (scopes : List Scope) (find : Scope → String → Option Nat) (path : List String) :
    List (Nat × Nat) :=
  scopes.zipIdx.filterMap fun (s, i) =>
    if s.answersTo path.dropLast then (find s (path.getLastD "")).map (i, ·) else none

/-- How many sources answer to the names in front. -/
def answering (scopes : List Scope) (path : List String) : Nat :=
  scopes.countP (·.answersTo path.dropLast)

/-- What a path stands for. The numbers of rows need a single source. -/
def position? (scopes : List Scope) (path : List String) : Option (Nat × Nat) :=
  match candidates scopes ownColumn? path, candidates scopes column? path with
  | [p], _ | [], [p] => some p
  | [], [] => if answering scopes path = 1 then (candidates scopes key? path).head? else none
  | _, _ => none

end Scope

abbrev Row := List (List Cell)

namespace Row

def cell? (row : Row) (p : Nat × Nat) : Option Cell := (row[p.1]?).bind (·[p.2]?)

def satisfies (scopes : List Scope) (row : Row) (e : Expression) : Bool :=
  (e.worth fun path => (Scope.position? scopes path).bind row.cell?).1.truth? = some true

def agrees (row : Row) (pairs : List ((Nat × Nat) × (Nat × Nat))) : Bool :=
  pairs.all fun (p, q) =>
    match row.cell? p, row.cell? q with
    | some a, some b => a ≠ .absent && a = b
    | _, _ => false

end Row

namespace Expression

/-- Every column is known; an unknown name in quotes is a text. -/
def isKnown (scopes : List Scope) (e : Expression) : Bool :=
  e.columns.all fun (path, isQuoted) =>
    (Scope.position? scopes path).isSome
      || (isQuoted && (Scope.candidates scopes Scope.column? path).isEmpty)

/-- The columns are those of the first `n` sources. -/
def isWithin (scopes : List Scope) (n : Nat) (e : Expression) : Bool :=
  e.columns.all fun (path, _) => (Scope.position? scopes path).all (·.1 < n)

end Expression

/-- A join of rows with those of a further source. -/
structure Join where
  scope : Scope
  keepsLeft : Bool
  keepsRight : Bool
  condition : Option Expression

namespace Join

/-- The columns of a relation that have to agree with those of the sources before it. A rule can
name only common ones. -/
def merged? (s : Source) (relation : Relation) (before : List Scope) : Option (List String) :=
  let isCommon := fun name =>
    ((⟨[], relation, []⟩ : Scope).column? name).isSome
      && before.any fun b => (b.column? name).isSome
  match s.rule with
  | .agreement names => if names.all isCommon then some names else none
  | _ => some (if s.kind.natural then relation.columns.filter isCommon else [])

def ofSource? (find : Option String → String → Option (List String × Relation))
    (before : List Scope) (s : Source) : Option Join := do
  let (names, relation) ← find s.schema s.table
  let names := match s.name with
    | some name => names.dropLast ++ [name]
    | none => names
  let condition := match s.rule with
    | .condition e => some e
    | _ => none
  return ⟨⟨names, relation, ← merged? s relation before⟩, s.kind.keepsLeft, s.kind.keepsRight,
    condition⟩

/-- The places of columns that have to agree. -/
def pairs? (j : Join) (before : List Scope) : Option (List ((Nat × Nat) × (Nat × Nat))) :=
  j.scope.merged.mapM fun name => do
    let left ← (Scope.candidates before Scope.column? [name]).head?
    let right ← j.scope.column? name
    return (left, (before.length, right))

def keepsAll (j : Join) : Bool := j.keepsLeft || j.keepsRight

def absentRow (s : Scope) : List Cell := s.relation.columns.map fun _ => .absent

def rows (j : Join) (before : List Scope) (matching : Row → Bool) (left : List Row) : List Row :=
  let right := j.scope.relation.rows
  let kept := left.flatMap fun l =>
    let found := (right.map fun r => l ++ [r]).filter matching
    if found.isEmpty && j.keepsLeft then [l ++ [absentRow j.scope]] else found
  let alone := right.filter fun r => !left.any fun l => matching (l ++ [r])
  kept ++ if j.keepsRight then alone.map fun r => before.map absentRow ++ [r] else []

end Join

/-- Joins one source after the other. Free conditions count as soon as their columns are there, but
not where a join keeps rows without a partner. -/
def joinAll (scopes : List Scope) (free : List Expression) (before : List Scope)
    (left : List Row) : List Join → Option (List Row)
  | [] => some left
  | j :: js => do
    let pairs ← j.pairs? before
    let known := free.filter (·.isWithin scopes (before.length + 1))
    let now := if j.keepsAll then j.condition.toList else known
    let matching := fun row : Row => row.agrees pairs && now.all (row.satisfies scopes)
    joinAll scopes free (before ++ [j.scope]) (j.rows before matching left) js

/-- Each column of a join that is shown has a full name of its own. -/
def areDistinct (scopes : List Scope) : Bool :=
  scopes.length ≤ 1 || scopes.all fun s => s.relation.columns.all fun column =>
    (s.ownColumn? column).isNone
      || (Scope.candidates scopes Scope.ownColumn? (s.names ++ [column])).length = 1

namespace SortKey

def worth (scopes : List Scope) (row : Row) : SortKey → Option Cell
  | expression e => some (e.worth fun path => (Scope.position? scopes path).bind row.cell?).1
  | position n => row.flatten[n - 1]?

def expression? : SortKey → Option Expression
  | expression e => some e
  | position _ => none

/-- The number of a column that a key is, if it is one, is in its bounds. -/
def isWithin (count : Nat) : SortKey → Bool
  | expression _ => true
  | position n => 1 ≤ n && n ≤ count

end SortKey

namespace Plan

/-- The joins of the sources; `find` is the relation of a name with its full name. -/
def joins? (p : Plan) (find : Option String → String → Option (List String × Relation)) :
    Option (List Join) :=
  p.sources.foldlM (fun joins s => do
    return joins ++ [← Join.ofSource? find (joins.map (·.scope)) s]) []

/-- Everything that the selection names is there, and the joins that keep rows without a partner
name nothing that comes later. -/
def isSound (p : Plan) (joins : List Join) : Bool :=
  let scopes := joins.map (·.scope)
  let keys := p.groups ++ p.order
  let expressions := joins.filterMap (·.condition) ++ p.condition.toList
    ++ keys.filterMap (·.expression?)
  let strict := fun j : Join => j.keepsAll || joins.any (·.keepsRight)
  expressions.all (·.isKnown scopes) && areDistinct scopes
    && keys.all (·.isWithin (scopes.flatMap (·.relation.columns)).length)
    && joins.zipIdx.all fun (j, i) =>
      !strict j || j.condition.all (·.isWithin scopes (i + 1))

/-- The first row of each group. -/
def firstOfGroups (p : Plan) (scopes : List Scope) (rows : List Row) : List Row :=
  if p.groups.isEmpty then rows
  else
    let worth := fun row => p.groups.map (·.worth scopes row)
    rows.foldl (fun taken row =>
      if taken.any fun r => worth r = worth row then taken else taken ++ [row]) []

def answer? (p : Plan) (find : Option String → String → Option (List String × Relation)) :
    Option (List String × List (List Cell)) := do
  let joins ← p.joins? find
  if !p.isSound joins then none
  let scopes := joins.map (·.scope)
  let free := (joins.filter fun j => !j.keepsAll).filterMap (·.condition)
  let rows ← joinAll scopes free [] [[]] joins
  let rows := rows.filter fun row => (free ++ p.condition.toList).all (row.satisfies scopes)
  let rows := (p.firstOfGroups scopes rows).drop p.offset
  return (scopes.flatMap (·.relation.columns),
    ((p.limit.map rows.take).getD rows).map List.flatten)

end Plan

end TopologyExplorer.Selection

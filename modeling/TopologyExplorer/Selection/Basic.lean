import TopologyExplorer.Selection.Expression

/-!
# Selections

A selection takes all columns of a join of tables. Each table is named, alone or within a schema,
can have another name in the selection, and is joined to the tables before it by a rule. Conditions
restrict the rows, groups and a limit their number.
-/

namespace TopologyExplorer.Selection

/-- Which rows of a join stay without a partner. -/
structure JoinKind where
  keepsLeft : Bool
  keepsRight : Bool
  /-- Columns of one name have to agree. -/
  natural : Bool
  deriving DecidableEq, Repr

/-- What the partners of a join have in common. -/
inductive JoinRule where
  | anything
  | condition (e : Expression)
  | agreement (columns : List String)
  deriving DecidableEq, Repr

structure Source where
  schema : Option String
  table : String
  /-- The name of the table in the selection, if that is another one. -/
  name : Option String
  kind : JoinKind
  rule : JoinRule
  deriving DecidableEq, Repr

/-- What rows are sorted or grouped by. -/
inductive SortKey where
  | expression (e : Expression)
  /-- A column by its number. -/
  | position (n : Nat)
  deriving DecidableEq, Repr

structure Plan where
  sources : List Source
  condition : Option Expression
  /-- Of the rows that agree in these only the first is taken, if there are any. -/
  groups : List SortKey
  order : List SortKey
  /-- The most rows, if there is a bound, and the rows that are left out in front of them. -/
  limit : Option Nat
  offset : Nat
  deriving DecidableEq, Repr

/-- The join that keeps partners only. -/
def JoinKind.inner : JoinKind := ⟨false, false, false⟩

end TopologyExplorer.Selection

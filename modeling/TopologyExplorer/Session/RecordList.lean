/-!
# Record lists

A list of records with at most one of them selected. The selection moves in a circle: behind the
last record is the first one.
-/

namespace TopologyExplorer

structure RecordList (α : Type) where
  records : List α
  /-- The position of the selected record. -/
  selected : Option Nat
  /-- How often the records were replaced, by which a view knows that it has to draw them anew. -/
  revision : Nat
  deriving DecidableEq, Repr

namespace RecordList

variable {α : Type}

def ofList (records : List α) : RecordList α := ⟨records, none, 0⟩

/-- Puts other records in place of these. None of them is selected. -/
def replace (l : RecordList α) (records : List α) : RecordList α :=
  ⟨records, none, l.revision + 1⟩

def current? (l : RecordList α) : Option α :=
  l.selected.bind fun i => l.records[i]?

/-- Moves the selection by a number of records. The first move selects the first record. There is
no new state if there is no record. -/
def shift (l : RecordList α) (step : Int) : Option (RecordList α) :=
  if l.records.isEmpty then none
  else
    let target := match l.selected with
      | some i => (((i : Int) + step) % (l.records.length : Int)).toNat
      | none => 0
    some { l with selected := some target }

end RecordList

end TopologyExplorer

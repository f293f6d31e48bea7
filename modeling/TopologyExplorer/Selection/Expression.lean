import TopologyExplorer.Text.DecimalText

/-!
# Expressions

The conditions of a selection, and what they are worth over cells. A condition holds, fails or is
undecided; it is undecided where it compares a cell that is absent. A text that is compared with a
column of numbers counts as the number that it is worth, and a number that is compared with a
column of texts counts as its text. A number comes before a text.
-/

namespace TopologyExplorer.Selection

inductive Cell where
  | absent
  | number (value : Int)
  | text (value : String)
  deriving DecidableEq, Repr

inductive Comparison where
  | equal
  | unequal
  | less
  | lessOrEqual
  | greater
  | greaterOrEqual
  deriving DecidableEq, Repr

inductive Expression where
  /-- A column by its name and the names in front of it; the last one may be in quotes. -/
  | column (path : List String) (isQuoted : Bool)
  | constant (value : Cell)
  | compare (how : Comparison) (left right : Expression)
  | both (left right : Expression)
  | either (left right : Expression)
  | negation (of : Expression)
  | isAbsent (of : Expression)
  deriving DecidableEq, Repr

namespace Comparison

def holds (how : Comparison) (o : Ordering) : Bool :=
  match how with
  | equal => o = .eq
  | unequal => o ≠ .eq
  | less => o = .lt
  | lessOrEqual => o ≠ .gt
  | greater => o = .gt
  | greaterOrEqual => o ≠ .lt

end Comparison

namespace Cell

/-- The cell `x` as it is compared with `y`; the flags say which of them are from columns. -/
def against (x y : Cell) (xColumn yColumn : Bool) : Cell :=
  match x, y with
  | text s, number _ =>
    if yColumn then ((DecimalText.integer? s).map number).getD x else x
  | number n, text _ => if yColumn && !xColumn then text (toString n) else x
  | _, _ => x

def order? : Cell → Cell → Option Ordering
  | number m, number n => some (compareOfLessAndEq m n)
  | text s, text t => some (compareOfLessAndEq s t)
  | number _, text _ => some .lt
  | text _, number _ => some .gt
  | absent, _ | _, absent => none

def ofBool (b : Bool) : Cell := number (if b then 1 else 0)

/-- The cell taken as a condition. -/
def truth? : Cell → Option Bool
  | absent => none
  | number n => some (n ≠ 0)
  | text s => some ((DecimalText.integer? s).any (· ≠ 0))

def ofTruth (b : Option Bool) : Cell := (b.map ofBool).getD absent

end Cell

namespace Expression

def columns : Expression → List (List String × Bool)
  | column path isQuoted => [(path, isQuoted)]
  | constant _ => []
  | compare _ a b | both a b | either a b => a.columns ++ b.columns
  | negation a | isAbsent a => a.columns

def both? : Option Bool → Option Bool → Option Bool
  | some false, _ | _, some false => some false
  | some true, some true => some true
  | _, _ => none

/-- The worth of an expression; `cell` is that of a column, and none where there is no such column:
its name in quotes is then a text. Beside the worth stands whether it is from a column. -/
def worth (cell : List String → Option Cell) : Expression → Cell × Bool
  | column path _ =>
    match cell path with
    | some c => (c, true)
    | none => (.text (path.getLastD ""), false)
  | constant c => (c, false)
  | compare how a b =>
    let (x, xColumn) := a.worth cell
    let (y, yColumn) := b.worth cell
    let order := Cell.order? (x.against y xColumn yColumn) (y.against x yColumn xColumn)
    (.ofTruth (order.map how.holds), false)
  | both a b => (.ofTruth (both? (a.worth cell).1.truth? (b.worth cell).1.truth?), false)
  | either a b =>
    let no := fun e : Cell => e.truth?.map (! ·)
    (.ofTruth ((both? (no (a.worth cell).1) (no (b.worth cell).1)).map (! ·)), false)
  | negation a => (.ofTruth ((a.worth cell).1.truth?.map (! ·)), false)
  | isAbsent a => (.ofBool ((a.worth cell).1 = .absent), false)

end Expression

end TopologyExplorer.Selection

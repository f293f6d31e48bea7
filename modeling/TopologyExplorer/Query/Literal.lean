import TopologyExplorer.Query.AddressPattern
import TopologyExplorer.Text.DecimalText

/-!
# Literals

What the literals of an address select. A query text quotes its literals, so a quote inside of one
is written twice; an address with a quote that stands alone is not accepted. A column of texts is
compared exactly. A column of integers is compared with the number that the literal is worth; where
the column is the key of its table, some numbers are no key.
-/

namespace TopologyExplorer

namespace Segment

/-- Reads a literal in which a quote is written twice. -/
def unquote? : List Char → Option (List Char)
  | [] => some []
  | '\'' :: '\'' :: cs => (unquote? cs).map ('\'' :: ·)
  | c :: cs => if c = '\'' then none else (unquote? cs).map (c :: ·)

/-- The text that a literal stands for. -/
def meaning? (literal : String) : Option String :=
  if '\x00' ∈ literal.toList then none else (unquote? literal.toList).map String.ofList

def isAccepted : Segment → Bool
  | any => true
  | only literal => (meaning? literal).isSome

def selectsText (s : Segment) (value : String) : Bool :=
  match s with
  | any => true
  | only literal => meaning? literal = some value

def selectsNumber (s : Segment) (value : Int) : Bool :=
  match s with
  | any => true
  | only literal => (meaning? literal).bind DecimalText.integer? = some value

def selectsKey (s : Segment) (value : Int) : Bool :=
  match s with
  | any => true
  | only literal => (meaning? literal).bind DecimalText.key? = some value

end Segment

def AddressPattern.isAccepted (a : AddressPattern) : Bool := a.segments.all Segment.isAccepted

end TopologyExplorer

import TopologyExplorer.Text.Printable

/-!
# The query line

A line of text with a cursor in it, the lines entered so far, and the mode in which the next one
is read. A key that the line has no use for leaves it as it is.
-/

namespace TopologyExplorer

/-- A key with the character that it types, if it types one. -/
structure KeyPress where
  name : String
  character : Option Char
  deriving DecidableEq, Repr

inductive LineMode where
  | address
  | keyword
  deriving DecidableEq, Repr

def LineMode.toggle : LineMode → LineMode
  | address => keyword
  | keyword => address

structure QueryLine where
  text : String
  /-- The number of characters before the cursor. -/
  cursor : Nat
  /-- The entered lines, last first. -/
  history : List String
  mode : LineMode
  deriving DecidableEq, Repr

namespace QueryLine

def empty : QueryLine := ⟨"", 0, [], .address⟩

def before (q : QueryLine) : List Char := q.text.toList.take q.cursor

def behind (q : QueryLine) : List Char := q.text.toList.drop q.cursor

/-- Moves the line into the history, even when it is empty. -/
def commit (q : QueryLine) : QueryLine :=
  { q with text := "", cursor := 0, history := q.text :: q.history }

def toggleMode (q : QueryLine) : QueryLine := { q with mode := q.mode.toggle }

def forgetHistory (q : QueryLine) : QueryLine := { q with history := [] }

def erase (q : QueryLine) : QueryLine :=
  { q with text := String.ofList (q.before.dropLast ++ q.behind), cursor := q.cursor - 1 }

def left (q : QueryLine) : QueryLine := { q with cursor := q.cursor - 1 }

def right (q : QueryLine) : QueryLine := { q with cursor := min q.text.length (q.cursor + 1) }

def enter (q : QueryLine) (c : Char) : QueryLine :=
  { q with text := String.ofList (q.before ++ c :: q.behind), cursor := q.cursor + 1 }

/-- Takes a key, if the line has a use for it. -/
def press (q : QueryLine) (key : KeyPress) : Option QueryLine :=
  match key.name with
  | "enter" => some q.commit
  | "up" | "down" => some q.toggleMode
  | "backspace" => some q.erase
  | "left" => some q.left
  | "right" => some q.right
  | _ =>
    match key.character with
    | some c => if isPrintable c then some (q.enter c) else none
    | none => none

end QueryLine

end TopologyExplorer

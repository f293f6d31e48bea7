import TopologyExplorer.File.Tree
import TopologyExplorer.Text.LineBreak
import TopologyExplorer.Text.Utf8

/-!
# The pager

The pager shows a window on the lines of one file. The window starts at the offset; the border
takes two rows of the height that is left for lines. The offset is at most the one at which the
last line stands at the bottom of the window. A file that looks binary is not shown.
-/

namespace TopologyExplorer

inductive FileFault where
  | missing (path : Path)
  | directory (path : Path)
  | unreadable (path : Path)
  | binary (path : Path)
  /-- The system refuses to look for a name of this length. -/
  | nameTooLong (path : Path)
  /-- The system refuses to look into a directory on the way. -/
  | unsearchable (path : Path)
  deriving DecidableEq, Repr

namespace FileFault

def path : FileFault → Path
  | missing p | directory p | unreadable p | binary p | nameTooLong p | unsearchable p => p

def message : FileFault → String
  | missing p => "File -> [" ++ p.text ++ "] not exist"
  | directory p => "File -> [" ++ p.text ++ "] can't be read: it is a directory"
  | unreadable p => "File -> [" ++ p.text ++ "] can't be read: permission denied"
  | binary p => "File -> [" ++ p.text ++ "] is binary! Can't read!"
  | nameTooLong p => "File name too long: " ++ p.text
  | unsearchable p => "Permission denied: " ++ p.text

/-- The user is told of the fault. A refusal of the system is not reported; it ends the program. -/
def isReported : FileFault → Bool
  | missing _ | directory _ | unreadable _ | binary _ => true
  | nameTooLong _ | unsearchable _ => false

end FileFault

/-- How much of a file is examined before it is shown. -/
def sampleSize : Nat := 1024

/-- The byte is a control character that text does not hold. -/
def isControlByte (b : UInt8) : Bool :=
  b < 32 && !([9, 10, 12, 13, 27].contains b)

/-- The start of the file holds a null byte, or more than three control bytes in ten. -/
def looksBinary (bytes : List UInt8) : Bool :=
  let sample := bytes.take sampleSize
  sample.contains 0 || 3 * sample.length < 10 * (sample.filter isControlByte).length

/-- Puts as many spaces as given in place of each tab. -/
def expandTabs (width : Int) (cs : List Char) : List Char :=
  cs.flatMap fun c => if c = '\t' then List.replicate width.toNat ' ' else [c]

def tabSpaces : Int := 2

def linesOf (bytes : List UInt8) : List String :=
  (LineBreak.lines (expandTabs tabSpaces (Utf8.decode bytes))).map String.ofList

inductive PagerMove where
  | up
  | down
  | pageUp
  | pageDown
  | top
  | bottom
  deriving DecidableEq, Repr

structure Pager where
  path : Option Path
  lines : List String
  offset : Nat
  height : Int
  deriving DecidableEq, Repr

namespace Pager

def frameRows : Int := 2

def closed (height : Int) : Pager := ⟨none, [], 0, height⟩

def isOpen (v : Pager) : Bool := v.path.isSome

def total (v : Pager) : Nat := v.lines.length

/-- The lines that fit into the window. -/
def windowSize (v : Pager) : Nat := (v.height - frameRows).toNat

def lastOffset (v : Pager) : Nat := v.total - v.windowSize

def display (v : Pager) (path : Path) : Found → Except FileFault Pager
  | .file bytes =>
    if looksBinary bytes then .error (.binary path)
    else .ok { v with path := some path, lines := linesOf bytes, offset := 0 }
  | .directory => .error (.directory path)
  | .unreadable => .error (.unreadable path)
  | .missing | .throughFile | .unnameable => .error (.missing path)
  | .tooLong => .error (.nameTooLong path)
  | .unsearchable => .error (.unsearchable path)

/-- Lets go of the file. The height stays. -/
def shut (v : Pager) : Pager := closed v.height

def withHeight (v : Pager) (height : Int) : Pager :=
  let v := { v with height := max 0 height }
  { v with offset := min v.offset v.lastOffset }

/-- Moves the window to an offset within bounds. There is no new state if it is there already. -/
def moveTo (v : Pager) (offset : Int) : Option Pager :=
  let target := min offset.toNat v.lastOffset
  if target = v.offset then none else some { v with offset := target }

/-- The offset that a move aims at, out of bounds perhaps. -/
def aim (v : Pager) : PagerMove → Int
  | .up => v.offset - 1
  | .down => v.offset + 1
  | .pageUp => v.offset - v.windowSize
  | .pageDown => v.offset + v.windowSize
  | .top => 0
  | .bottom => v.lastOffset

def move (v : Pager) (m : PagerMove) : Option Pager :=
  v.moveTo (v.aim m)

/-- The lines in the window; all from the offset on, if no line fits. -/
def visible (v : Pager) : List String :=
  if v.windowSize = 0 then v.lines.drop v.offset else (v.lines.drop v.offset).take v.windowSize

end Pager

end TopologyExplorer

import TopologyExplorer.Database.Basic
import TopologyExplorer.Database.Name
import TopologyExplorer.File.Location

/-!
# Database files

An open database is in memory or in a file. Opening makes the file where the name allows it, and
looks no further; what the file holds comes out at the first use. A file that holds anything is no
database of this library, and refuses to answer. Two files can stand beside a database: the undo
file keeps what a change overwrites, the redo file changes that the database has not taken over.
The first use of an empty database removes what is left of them, and without an undo file there is
no change.
-/

namespace TopologyExplorer

inductive OpenFault where
  | cannotOpen (name : String)
  | unnameable
  deriving DecidableEq, Repr

def OpenFault.message : OpenFault → String
  | cannotOpen name => "Cannot open database " ++ name ++ ": no file can be opened there"
  | unnameable => "The name of the database is no name"

structure DatabaseFile where
  place : Place
  writable : Bool
  /-- Files beside it do not count. -/
  alone : Bool
  /-- A redo file can be read. -/
  readsRedo : Bool
  deriving DecidableEq, Repr

inductive Origin where
  | memory (writable : Bool)
  | file (file : DatabaseFile)
  deriving DecidableEq, Repr

/-! ## The first use -/

namespace DatabaseFile

def beside (f : DatabaseFile) (suffix : String) : Place :=
  match f.place.names.getLast? with
  | some name => { f.place with names := f.place.names.dropLast ++ [name ++ suffix] }
  | none => f.place

def undo (f : DatabaseFile) : Place := f.beside "-journal"

def redo (f : DatabaseFile) : Place := f.beside "-wal"

/-- The first use of an empty file, with the places that it clears. -/
def useEmpty (f : DatabaseFile) (t : FileTree) : Database × List Place :=
  let undone := if f.writable && !(t.bytesAt f.undo).isEmpty then [f.undo] else []
  if t.entry? f.redo = some .directory then (.broken, undone)
  else
    let redone := if (t.bytesAt f.redo).isEmpty then [] else [f.redo]
    (if f.writable && t.canWrite f.undo then .blank else .readOnly, undone ++ redone)

/-- The undo file of a database with content keeps a change that was not finished. -/
def isUnfinished (f : DatabaseFile) (t : FileTree) : Bool :=
  (t.bytesAt f.undo).head?.any (· ≠ 0)

/-- The first use of a file that holds something. -/
def useForeign (f : DatabaseFile) (t : FileTree) : Database × List Place :=
  if t.entry? f.undo = some .directory || (f.isUnfinished t && !f.writable) then (.broken, [])
  else
    let undone := if f.isUnfinished t then [f.undo] else []
    let redoable := (t.bytesAt f.redo).isEmpty || f.readsRedo
    (if t.entry? f.redo = some .directory || !redoable then .broken else .foreign, undone)

def isEmpty (f : DatabaseFile) (t : FileTree) : Bool := (t.bytesAt f.place).length ≤ 1

/-- The first use of a file, with the places that it clears. -/
def firstUse (f : DatabaseFile) (t : FileTree) : Database × List Place :=
  if f.alone then (if f.isEmpty t then .readOnly else .foreign, [])
  else if f.isEmpty t then f.useEmpty t
  else f.useForeign t

end DatabaseFile

namespace Origin

/-- The database as its first use finds it, with the places that this clears. -/
def firstUse (t : FileTree) : Origin → Database × List Place
  | memory writable => (if writable then .blank else .readOnly, [])
  | file f => f.firstUse t

/-- The place that a change clears when it is done. -/
def undo? : Origin → Option Place
  | memory _ => none
  | file f => some f.undo

end Origin

/-! ## Opening -/

namespace DatabaseName

/-- The file with the database's permissions is there, if one is named. -/
def hasModel (n : DatabaseName) (t : FileTree) : Bool :=
  n.model.all fun path => path ≠ "" && (t.look (.ofText path)).exists

/-- What the database is open on, and the files with its own. -/
def origin? (n : DatabaseName) (t : FileTree) : Option (Origin × FileTree) := do
  if n.isTemporary then some (.memory n.isWritable, t)
  else
    let place ← t.locate? (.ofText n.path)
    let origin := Origin.file ⟨place, n.isWritable, n.immutable, n.readsRedo⟩
    if !n.hasModel t then none
    else
      match n.access, t.entry? place with
      | .read, some (.file _) | .change, some (.file _) => some (origin, t)
      | .make, _ => if t.canWrite place then some (origin, t.append place []) else none
      | _, _ => none

/-- The places that opening and using the database look at. -/
def places (n : DatabaseName) : List Place :=
  let way := if n.isTemporary then [] else (Path.ofText n.path).way
  let file := way.getLast?.map fun place => DatabaseFile.mk place true false true
  way ++ (file.map fun f => [f.undo, f.redo]).getD []

end DatabaseName

def Origin.openAt (t : FileTree) (name : String) : Except OpenFault (Origin × FileTree) :=
  if Path.hasNull name then .error .unnameable
  else
    match (DatabaseName.ofText? name).bind (·.origin? t) with
    | some opened => .ok opened
    | none => .error (.cannotOpen name)

end TopologyExplorer

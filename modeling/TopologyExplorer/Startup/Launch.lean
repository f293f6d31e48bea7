import TopologyExplorer.Database.File
import TopologyExplorer.Session.Basic
import TopologyExplorer.Startup.Options
import TopologyExplorer.Startup.Workspace
import TopologyExplorer.Topology

/-!
# Launches

A launch makes a fresh database, fills it from the descriptors, plays a session on it and removes
it again. A fault that the program knows ends the launch in order, with a note and without the
database. Any other fault escapes: from the opening at once, and the database stays; from the
session behind the removal of the database. Opening and closing are functions of their own, so that
a session can be played between them.
-/

namespace TopologyExplorer

inductive Ending where
  | done
  /-- A fault is noted. -/
  | noted
  | escaped (fault : LoadFault)
  deriving DecidableEq, Repr

def Ending.exitCode : Ending → Nat
  | done => 0
  | noted | escaped _ => 1

inductive SessionEnd where
  | quit
  | failed (message : String)
  | escaped (fault : SystemFault)
  deriving DecidableEq, Repr

/-- A session with the database that it is played on. -/
structure Ready where
  workspace : Workspace
  database : Database
  session : Session

/-- What a launch has come to before its session. -/
inductive Opening where
  | ended (workspace : Workspace) (ending : Ending)
  | ready (ready : Ready)

structure Launch where
  workspace : Workspace
  ending : Ending
  /-- The session that was played, with the files there were then. -/
  played : Option Ready

namespace Launch

def entry (level : Level) (message : String) : JournalEntry :=
  ⟨"tcmwalker.cli", level, message⟩

def databaseEntry (level : Level) (message : String) : JournalEntry :=
  ⟨"tcmwalker.store", level, message⟩

def removeDatabase (w : Workspace) (path : Path) : Except SystemFault Workspace :=
  match w.files.look path with
  | .tooLong => .error .nameTooLong
  | .unsearchable => .error .accessDenied
  | .directory => .error .isDirectory
  | .file _ | .unreadable =>
    .ok ((w.removeFile (Place.ofPath path)).note
      (entry .debug ("Dropped database file " ++ path.text)))
  | .missing | .throughFile | .unnameable => .ok w

/-- Ends in order: removes the database. -/
def finish (w : Workspace) (database : Path) (ending : Ending) : Workspace × Ending :=
  match removeDatabase w database with
  | .ok w => (w, ending)
  | .error fault => (w, .escaped (.system fault))

/-- Notes a fault and ends in order. -/
def fail (w : Workspace) (database : Path) (what message : String) : Workspace × Ending :=
  finish (w.note (entry .error (what ++ " failed, error -> [" ++ message ++ "]"))) database .noted

/-- Ends before there is a session. -/
def failInit (w : Workspace) (database : Path) (message : String) : Opening :=
  let (w, ending) := fail w database "Init data" message
  .ended w ending

/-- The query texts that list all records. -/
def openingQueries : List String :=
  [Table.query Table.hosts.name, Table.query Table.procs.name, AddressPattern.everything.query]

def openSession (w : Workspace) (database : Path) (db : Database) : Opening :=
  let w := w.noteAll (openingQueries.map fun q => databaseEntry .debug ("SQL: " ++ q))
  match Session.start (.of db w.files.look) 0 with
  | .ok session => .ready ⟨w, db, session⟩
  | .error fault =>
    let (w, ending) := fail w database "Session" fault.message
    .ended w ending

variable [Xml.Codecs]

/-- Fills an open database, and starts a session on it. -/
def openTopology (w : Workspace) (options : Options) (origin : Origin) : Opening :=
  let w := w.note (databaseEntry .info ("Creating schema in " ++ options.database.text))
  let (db, cleared) := origin.firstUse w.files
  let w := cleared.foldl Workspace.removeFile w
  match db.makeTables with
  | .error refusal => .ended w (.escaped (.refused refusal))
  | .ok db =>
    let w := origin.undo?.toList.foldl Workspace.removeFile w
    let load := Topology.load w.files.look options.descriptors db
    let w := w.noteAll load.journal
    match load.outcome with
    | .ok _ => openSession w options.database load.database
    | .error (.descriptor fault) => failInit w options.database fault.message
    | .error fault => .ended w (.escaped fault)

def openDatabase (w : Workspace) (options : Options) : Opening :=
  match removeDatabase w options.database with
  | .error fault => .ended w (.escaped (.system fault))
  | .ok w =>
    match Origin.openAt w.files options.database.text with
    | .error .unnameable => .ended w (.escaped (.system .unnameable))
    | .error fault => failInit w options.database fault.message
    | .ok (origin, files) => openTopology { w with files := files } options origin

def opening (options : Options) (files : FileTree) : Opening :=
  let idle := Workspace.idle files [] options.verbose
  match idle.start options.log with
  | .error fault => .ended idle (.escaped (.system fault))
  | .ok w => openDatabase w options

/-- Closes a launch behind its session. -/
def closing (options : Options) (r : Ready) : SessionEnd → Workspace × Ending
  | .quit => finish r.workspace options.database .done
  | .failed message => fail r.workspace options.database "Session" message
  | .escaped fault => finish r.workspace options.database (.escaped (.system fault))

/-- A launch over files. `play` is the end that a session comes to. -/
def run (play : Session → SessionEnd) (options : Options) (files : FileTree) : Launch :=
  match opening options files with
  | .ended w ending => ⟨w, ending, none⟩
  | .ready r =>
    let (w, ending) := closing options r (play r.session)
    ⟨w, ending, some r⟩

end Launch

end TopologyExplorer

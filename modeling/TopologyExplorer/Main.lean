import TopologyExplorer.Screen
import TopologyExplorer.Startup.Arguments
import TopologyExplorer.Startup.Launch

/-!
# The command line

Takes a snapshot of the files that a launch looks at, opens the launch, plays its session on the
lines of standard input, each of which names a key, and writes the database and the log file back.
-/

namespace TopologyExplorer.CommandLine

/-- What is at a path of the machine that may not be read. -/
def findBarred (path : Path) : IO Found := do
  try
    let _ ← IO.FS.realPath path.text
    return .unreadable
  catch _ => return .unsearchable

/-- What is at a path of the machine. -/
def find (path : Path) : IO Found := do
  try
    return .file (← IO.FS.readBinFile path.text).toList
  catch
    | .inappropriateType .. => return .directory
    | .permissionDenied .. => findBarred path
    | _ => return .missing

def snapshot (paths : List Path) : IO FileTree := do
  let found ← paths.mapM fun path => do return (Place.ofPath path, ← find path)
  let entries := found.filterMap fun
    | (place, .file bytes) => some (place, Entry.file bytes)
    | (place, .directory) => some (place, Entry.directory)
    | _ => none
  return ⟨entries, (← IO.currentDir).toString.utf8ByteSize⟩

def pathsOf (s : Options) : List Path :=
  let database := ((DatabaseName.ofText? s.database.text).map (·.places)).getD []
  [s.database, s.database.parent, s.log, s.log.parent, s.descriptors]
    ++ [Topology.hostFile, Topology.procFile, Topology.deployFile].map s.descriptors.child
    ++ database.map Place.path

/-- Writes a file of a tree back, or removes it where the tree has lost it. -/
def writeBack (before after : FileTree) (path : Path) : IO Unit := do
  let place := Place.ofPath path
  if before.entry? place ≠ after.entry? place then
    match after.entry? place with
    | some (.file bytes) => IO.FS.writeBinFile path.text ⟨bytes.toArray⟩
    | some .directory => return ()
    | none => IO.FS.removeFile path.text

/-- The lines of a table that is shown. The highlighted row is marked. -/
def tableLines (t : TableView) : List String :=
  if t.shown then
    "\t".intercalate t.columns :: t.rows.zipIdx.map fun (row, i) =>
      (if t.cursor = some i then "> " else "") ++ "\t".intercalate row
  else []

def screenLines (s : Screen) : List String :=
  (if s.barsShown then [s.header, s.query.text] else [])
    ++ (match s.file with
      | some f => [f.title, f.code]
      | none => [])
    ++ tableLines s.hosts ++ tableLines s.procs ++ tableLines s.joined

def keyOf (line : String) : KeyPress :=
  match line.toList with
  | [c] => ⟨line, some c⟩
  | _ => ⟨line, none⟩

/-- The file that a key may open. -/
def pathOf? : Option Record → Option Path
  | some (.process p) => some p.path
  | some (.joined r) => some r.path
  | _ => none

/-- Plays a session until the input ends or a key quits it. -/
partial def play (db : Database) (s : Session) : IO Unit := do
  (screenLines (.ofSession s)).forM IO.println
  let line ← (← IO.getStdin).getLine
  let key := keyOf (String.ofList (line.toList.takeWhile fun c => c ≠ '\n' ∧ c ≠ '\r'))
  if line.isEmpty then return ()
  let look ← match pathOf? s.current? with
    | some path => do
      let found ← find path
      pure fun p => if p = path then found else .missing
    | none => pure fun _ => .missing
  let (reply, next) := s.press (.of db look) key
  match reply, key.name with
  | .notConsumed, "q" => return ()
  | .notConsumed, "?" => IO.print helpText
  | _, _ => reply.notice?.forM fun n => IO.println (n.title ++ ": " ++ n.message)
  match reply.fatal? with
  | some fault => IO.eprintln fault.message
  | none => play db next

def showEntries (entries : List JournalEntry) : IO Unit :=
  entries.forM fun e => IO.eprintln e.consoleText

/-- Ends a launch: shows what is left to show, and gives the exit code. -/
def finish (s : Options) (before : FileTree) (shown : Nat) (w : Workspace) (ending : Ending) :
    IO UInt32 := do
  showEntries (w.console.drop shown)
  (pathsOf s).forM (writeBack before w.files)
  if let .escaped _ := ending then IO.eprintln "The topology cannot be loaded."
  return ending.exitCode.toUInt32

def launch (s : Options) : IO UInt32 := do
  let before ← snapshot (pathsOf s)
  match Launch.opening s before with
  | .ended w ending => finish s before 0 w ending
  | .ready r =>
    showEntries r.workspace.console
    play r.database r.session
    let (w, ending) := Launch.closing s r .quit
    finish s before r.workspace.console.length w ending

def usage : String :=
  "Usage: tcmwalker [-c|--config-path DIR] [-d|--debug] [--db-path FILE] [--log-file FILE] [--help]"

def environment : IO (List (String × String)) :=
  Options.environmentNames.filterMapM fun (name, _) => do
    return (← IO.getEnv name).map fun value => (name, value)

def run (arguments : List String) : IO UInt32 := do
  match Invocation.ofArguments arguments with
  | .usage =>
    IO.eprintln usage
    return 2
  | .help =>
    IO.println usage
    return 0
  | .run overrides =>
    let temporary := Path.ofText ((← IO.getEnv "TMPDIR").getD "/tmp")
    match Options.ofOverrides? temporary (← environment) overrides with
    | some s => launch s
    | none => return 2

end TopologyExplorer.CommandLine

def main (arguments : List String) : IO UInt32 :=
  TopologyExplorer.CommandLine.run arguments

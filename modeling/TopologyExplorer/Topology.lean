import TopologyExplorer.Database.Basic
import TopologyExplorer.Descriptor.Placements
import TopologyExplorer.Descriptor.Processes
import TopologyExplorer.Journal

/-!
# Topologies

A directory with three descriptors fills a database in stages: hosts, processes, placements. All
three files have to be there before one is read. A stage that fails ends the load; what earlier
stages put into the database stays.
-/

namespace TopologyExplorer

inductive LoadFault where
  | descriptor (fault : DescriptorFault)
  | system (fault : SystemFault)
  | encoding (fault : Xml.CodecFault)
  | refused (refusal : Refusal)
  deriving DecidableEq, Repr

def ReadFault.toLoadFault : ReadFault → LoadFault
  | .descriptor fault => .descriptor fault
  | .system fault => .system fault
  | .encoding fault => .encoding fault

structure Load where
  database : Database
  journal : List JournalEntry
  /-- The aliases that the load resolved hosts with. -/
  outcome : Except LoadFault AliasTable

namespace Topology

/-- The names of the three descriptors. -/
def hostFile : String := "host.xml"

def procFile : String := "proc.xml"

def deployFile : String := "procdeploy.xml"

variable [Xml.Codecs] (look : Path → Found)

/-- Something is at a path. -/
def checkPresent (path : Path) : Except LoadFault Unit :=
  match look path with
  | .file _ | .directory | .unreadable => .ok ()
  | .missing | .throughFile | .unnameable => .error (.descriptor ⟨.missingFile, some path⟩)
  | .tooLong => .error (.system .nameTooLong)
  | .unsearchable => .error (.system .accessDenied)

def checkAll (config : Path) : Except LoadFault Unit :=
  [deployFile, hostFile, procFile].forM fun name => checkPresent look (config.child name)

def rootAt (path : Path) : Except LoadFault Xml.Element :=
  (Descriptor.root path (look path)).mapError ReadFault.toLoadFault

def aliasesAt (path : Path) : Except LoadFault AliasTable := do
  let root ← rootAt look path
  (AliasTable.ofElement path root).mapError .descriptor

def placementsAt (path : Path) (aliases : AliasTable) : Except LoadFault (List Placement) := do
  let root ← rootAt look path
  (Placement.ofElement path aliases root).mapError .descriptor

/-- What is known before the first record is inserted. -/
def prepare (config : Path) : Except LoadFault (AliasTable × List Placement) := do
  checkAll look config
  let aliases ← aliasesAt look (config.child hostFile)
  let placements ← placementsAt look (config.child deployFile) aliases
  return (aliases, placements)

/-- The placement with the id that its host has in a database. -/
def deployOf (db : Database) (path : Path) (p : Placement) : Except LoadFault Deploy :=
  match db.hostId? p.innerIp p.worldId p.zoneId with
  | .ok (some id) => .ok ⟨id, p.groupName, p.instId⟩
  | .ok none => .error (.descriptor ⟨.noHostRow p.innerIp, some path⟩)
  | .error refusal => .error (.refused refusal)

def insert (db : Database) (batch : Batch) : Except LoadFault Database :=
  (db.insert batch).mapError .refused

def entry (level : Level) (message : String) : JournalEntry :=
  ⟨"tcmwalker.descriptors", level, message⟩

/-- Notes how many records a stage inserted. -/
def loaded (count : Nat) (what : String) : JournalEntry :=
  entry .info ("Loaded " ++ toString count ++ " " ++ what)

/-- Notes a definition that does not count. -/
def skipped (p : Process) : JournalEntry :=
  entry .debug ("Skipping duplicate FuncID " ++ toString p.funcId ++ " (" ++ p.funcName ++ ")")

/-- The last stage: placements. -/
def loadDeploys (config : Path) (aliases : AliasTable) (placements : List Placement)
    (db : Database) (journal : List JournalEntry) : Load :=
  let inserted := do
    let deploys ← placements.mapM (deployOf db (config.child deployFile))
    let filled ← insert db (.deploys (deploys.map DeployOf.present))
    return (filled, deploys.length)
  match inserted with
  | .ok (filled, count) =>
    ⟨filled, journal ++ [loaded count "deploy placements"], .ok aliases⟩
  | .error fault => ⟨db, journal, .error fault⟩

/-- The stage of processes, and what follows. -/
def loadProcs (config : Path) (aliases : AliasTable) (placements : List Placement)
    (db : Database) (journal : List JournalEntry) : Load :=
  let path := config.child procFile
  match rootAt look path with
  | .error fault => ⟨db, journal, .error fault⟩
  | .ok root =>
    let read := Processes.ofElement path root
    let journal := journal ++ read.skipped.map skipped
    match read.result with
    | .error fault => ⟨db, journal, .error (.descriptor fault)⟩
    | .ok procs =>
      match insert db (.procs (procs.map ProcessOf.present)) with
      | .error fault => ⟨db, journal, .error fault⟩
      | .ok filled =>
        loadDeploys config aliases placements filled (journal ++ [loaded procs.length "procs"])

/-- The stage of hosts, and what follows. -/
def loadHosts (config : Path) (aliases : AliasTable) (placements : List Placement)
    (db : Database) : Load :=
  let hosts := Placement.hosts placements
  match insert db (.hosts (hosts.map HostOf.present)) with
  | .error fault => ⟨db, [], .error fault⟩
  | .ok filled =>
    loadProcs look config aliases placements filled [loaded hosts.length "hosts"]

/-- Fills a database from the descriptors of a directory. -/
def load (config : Path) (db : Database) : Load :=
  match prepare look config with
  | .error fault => ⟨db, [], .error fault⟩
  | .ok (aliases, placements) => loadHosts look config aliases placements db

end Topology

end TopologyExplorer

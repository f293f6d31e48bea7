import TopologyExplorer.Descriptor.Fault
import TopologyExplorer.Record.Basic

/-!
# Process definitions

A process descriptor lists process groups, and defines processes in clusters, in the worlds of
clusters and in the zones of these worlds. Each definition has to be sound; of definitions with one
number the first counts and the others are skipped.
-/

namespace TopologyExplorer

/-- Where a process is defined. -/
inductive Layer where
  | cluster
  | world
  | zone
  deriving DecidableEq, Repr

def Layer.name : Layer → String
  | cluster => "Cluster"
  | world => "World"
  | zone => "Zone"

/-- A process element with its layer and the work path of its cluster. -/
structure Definition where
  element : Xml.Element
  base : Option String
  layer : Layer
  deriving Repr

namespace Definition

def ofWorld (base : Option String) (world : Xml.Element) : List Definition :=
  world.children.flatMap fun e =>
    if e.isNamed "Proc" then [⟨e, base, .world⟩]
    else if e.isNamed "zone" then (e.childrenNamed "Proc").map (⟨·, base, .zone⟩)
    else []

def ofCluster (cluster : Xml.Element) : List Definition :=
  let base := cluster.value? "WorkPath"
  cluster.children.flatMap fun e =>
    if e.isNamed "Proc" then [⟨e, base, .cluster⟩]
    else if e.isNamed "world" then ofWorld base e
    else []

def ofRoot (root : Xml.Element) : List Definition :=
  (root.allNamed "cluster").flatMap ofCluster

/-- The work path of what names none. -/
def absentWorkPath : String := "./"

def workPathOr (workPath : Option String) : String :=
  match workPath with
  | some "" | none => absentWorkPath
  | some path => path

/-- One path behind another. A path from the root stands alone. -/
def joinPaths (base path : String) : String :=
  if path.toList.head? = some '/' then path
  else if base.toList.getLast? = some '/' then base ++ path
  else base ++ "/" ++ path

def groupMembers (path : Path) (group : Xml.Element) :
    Except DescriptorFault (List (String × String)) := do
  let groupName ← Descriptor.valueOf path group "Name"
  (group.childrenNamed "Proc").mapM fun proc => do
    return (← Descriptor.valueOf path proc "FuncName", groupName)

/-- The groups of processes; the last one listed stands first. -/
def groups (path : Path) (root : Xml.Element) :
    Except DescriptorFault (List (String × String)) := do
  return (← (root.allNamed "ProcGroup").mapM (groupMembers path)).flatten.reverse

def process (path : Path) (groups : List (String × String)) (d : Definition) :
    Except DescriptorFault Process := do
  let funcName ← Descriptor.valueOf path d.element "FuncName"
  match groups.lookup funcName with
  | none => throw ⟨.noGroup funcName, some path⟩
  | some groupName =>
    let funcId ← Descriptor.integerOf path d.element "FuncID"
    return {
      funcId := funcId
      funcName := funcName
      procName := (d.element.value? "ProcName").getD funcName
      groupName := groupName
      workPath := joinPaths (workPathOr d.base) (workPathOr (d.element.value? "WorkPath"))
      procType := d.layer.name
    }

end Definition

/-- The processes read from definitions up to the first unsound one. -/
structure Processes where
  /-- Those that count. -/
  taken : List Process
  /-- Those whose number was taken. -/
  skipped : List Process
  fault : Option DescriptorFault
  deriving Repr

namespace Processes

/-- Goes on reading behind what is taken and skipped. -/
def readFrom (path : Path) (groups : List (String × String)) (taken skipped : List Process) :
    List Definition → Processes
  | [] => ⟨taken, skipped, none⟩
  | d :: ds =>
    match d.process path groups with
    | .error fault => ⟨taken, skipped, some fault⟩
    | .ok p =>
      if taken.any (·.funcId = p.funcId) then readFrom path groups taken (skipped ++ [p]) ds
      else readFrom path groups (taken ++ [p]) skipped ds

def ofElement (path : Path) (root : Xml.Element) : Processes :=
  match Definition.groups path root with
  | .error fault => ⟨[], [], some fault⟩
  | .ok groups => readFrom path groups [] [] (Definition.ofRoot root)

def result (ps : Processes) : Except DescriptorFault (List Process) :=
  match ps.fault with
  | some fault => .error fault
  | none => .ok ps.taken

end Processes

end TopologyExplorer

/-!
# Records

The four kinds of record that the explorer holds: hosts, process definitions, placements of a
process group on a host, and the rows that join the three. The first three are parametric in
their text, since a record offered to the database may lack one. `HasFields` gives the fields
that a keyword is looked for in, by name and in order.
-/

namespace TopologyExplorer

/-- A host, its texts of type `τ`. -/
structure HostOf (τ : Type) where
  innerIp : τ
  hostName : τ
  worldId : τ
  zoneId : τ
  deriving DecidableEq, Repr

/-- A process definition, its texts of type `τ`. -/
structure ProcessOf (τ : Type) where
  funcId : Int
  funcName : τ
  procName : τ
  groupName : τ
  workPath : τ
  procType : τ
  deriving DecidableEq, Repr

/-- A process group placed on a host, its text of type `τ`. -/
structure DeployOf (τ : Type) where
  hostId : Int
  groupName : τ
  instId : Int
  deriving DecidableEq, Repr

abbrev Host := HostOf String
abbrev Process := ProcessOf String
abbrev Deploy := DeployOf String

structure Joined where
  hostId : Int
  innerIp : String
  hostName : String
  worldId : String
  zoneId : String
  funcId : Int
  procType : String
  workPath : String
  funcName : String
  procName : String
  groupName : String
  instId : Int
  deriving DecidableEq, Repr

def Joined.host (r : Joined) : Host :=
  ⟨r.innerIp, r.hostName, r.worldId, r.zoneId⟩

/-- The record with each text present. -/
def HostOf.present (h : Host) : HostOf (Option String) :=
  ⟨some h.innerIp, some h.hostName, some h.worldId, some h.zoneId⟩

def ProcessOf.present (p : Process) : ProcessOf (Option String) :=
  ⟨p.funcId, some p.funcName, some p.procName, some p.groupName, some p.workPath,
    some p.procType⟩

def DeployOf.present (d : Deploy) : DeployOf (Option String) :=
  ⟨d.hostId, some d.groupName, d.instId⟩

/-- The record, unless a text is absent. -/
def HostOf.complete? (h : HostOf (Option String)) : Option Host := do
  return ⟨← h.innerIp, ← h.hostName, ← h.worldId, ← h.zoneId⟩

def ProcessOf.complete? (p : ProcessOf (Option String)) : Option Process := do
  return ⟨p.funcId, ← p.funcName, ← p.procName, ← p.groupName, ← p.workPath, ← p.procType⟩

def DeployOf.complete? (d : DeployOf (Option String)) : Option Deploy := do
  return ⟨d.hostId, ← d.groupName, d.instId⟩

/-- A type whose values have named texts; an absent text is `none`. -/
class HasFields (α : Type) where
  fields : α → List (String × Option String)

instance : HasFields Host where
  fields h := [("inner_ip", h.innerIp), ("host_name", h.hostName), ("world_id", h.worldId),
    ("zone_id", h.zoneId)]

/-- The number of a process is not shown as text, so it is no field. -/
instance : HasFields Process where
  fields p := [("func_name", p.funcName), ("proc_name", p.procName),
    ("group_name", p.groupName), ("work_path", p.workPath), ("proc_type", p.procType)]

instance : HasFields Joined where
  fields r := [("func_id", toString r.funcId), ("inst_id", toString r.instId),
    ("proc_name", r.procName), ("group_name", r.groupName), ("inner_ip", r.innerIp),
    ("host_name", r.hostName), ("world_id", r.worldId), ("zone_id", r.zoneId),
    ("work_path", r.workPath), ("func_name", r.funcName)]

/-- A list of fields is its own record. -/
instance : HasFields (List (String × Option String)) where
  fields := id

end TopologyExplorer

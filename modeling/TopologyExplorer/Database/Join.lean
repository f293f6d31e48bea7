import TopologyExplorer.Database.Tables
import TopologyExplorer.Query.Literal

/-!
# The join of an address

The rows of an address are the combinations of a host, a process and a placement of that host
which its segments select. A literal for the process also ties the process to the placements of
its group; the wildcard ties it to none. Here the rows are sorted by host, process and instance;
rows that agree in these agree in everything.
-/

namespace TopologyExplorer

/-- The row of a host with its id, a process and a placement. -/
def Joined.ofParts (h : Host × Nat) (p : Process) (d : Deploy) : Joined where
  hostId := h.2
  innerIp := h.1.innerIp
  hostName := h.1.hostName
  worldId := h.1.worldId
  zoneId := h.1.zoneId
  funcId := p.funcId
  procType := p.procType
  workPath := p.workPath
  funcName := p.funcName
  procName := p.procName
  groupName := p.groupName
  instId := d.instId

namespace AddressPattern

def selectsPlacement (a : AddressPattern) (h : Host × Nat) (d : Deploy) : Bool :=
  d.hostId = h.2 && a.world.selectsText h.1.worldId && a.zone.selectsText h.1.zoneId
    && a.inst.selectsNumber d.instId

def selectsProcess (a : AddressPattern) (d : Deploy) (p : Process) : Bool :=
  a.proc.isAny || (p.groupName = d.groupName && a.proc.selectsKey p.funcId)

end AddressPattern

def Joined.before (r s : Joined) : Bool :=
  r.hostId < s.hostId || (r.hostId = s.hostId &&
    (r.funcId < s.funcId || (r.funcId = s.funcId && r.instId ≤ s.instId)))

namespace Tables

/-- The rows of an address in the order of the tables. -/
def combine (t : Tables) (a : AddressPattern) : List Joined :=
  t.numberedHosts.flatMap fun h =>
    (t.deploys.filter (a.selectsPlacement h)).flatMap fun d =>
      (t.procs.filter (a.selectsProcess d)).map fun p => .ofParts h p d

/-- The rows of an address, sorted. A database gives them in an order of its own. -/
def rows (t : Tables) (a : AddressPattern) : List Joined :=
  (t.combine a).mergeSort Joined.before

end Tables

end TopologyExplorer

import TopologyExplorer.Descriptor.Aliases
import TopologyExplorer.Record.Basic

/-!
# Placements

A deploy descriptor places process groups on hosts. Groups of the cluster belong to no world; they
are on the machine itself unless they name a host. Groups of a zone name their host.
-/

namespace TopologyExplorer

/-- A process group on a host that is known by name. -/
structure Placement where
  hostName : String
  innerIp : String
  worldId : String
  zoneId : String
  groupName : String
  instId : Int
  deriving DecidableEq, Repr

def Placement.host (p : Placement) : Host := ⟨p.innerIp, p.hostName, p.worldId, p.zoneId⟩

namespace Placement

/-- The element of a placed group, spelled as the descriptors spell it. -/
def groupTag : String := "DeloyGroup"

/-- The world and zone of what belongs to none. -/
def clusterId : String := "0"

def ofGroup (path : Path) (aliases : AliasTable) (worldId zoneId : String) (absentInst : Int)
    (hostName : String) (group : Xml.Element) : Except DescriptorFault Placement := do
  let innerIp ← aliases.addressOf hostName (some path)
  let groupName ← Descriptor.valueOf path group "Group"
  let instId ← Descriptor.integerOr path group "InstID" absentInst
  return ⟨hostName, innerIp, worldId, zoneId, groupName, instId⟩

def ofClusterGroup (path : Path) (aliases : AliasTable) (group : Xml.Element) :
    Except DescriptorFault Placement :=
  ofGroup path aliases clusterId clusterId 0 ((group.value? "Host").getD builtinHost) group

def ofZoneGroup (path : Path) (aliases : AliasTable) (worldId zoneId : String)
    (group : Xml.Element) : Except DescriptorFault Placement := do
  let hostName ← Descriptor.valueOf path group "Host"
  ofGroup path aliases worldId zoneId 1 hostName group

def ofZone (path : Path) (aliases : AliasTable) (worldId : String) (zone : Xml.Element) :
    Except DescriptorFault (List Placement) := do
  let zoneId ← Descriptor.valueOf path zone "ID"
  (zone.childrenNamed groupTag).mapM (ofZoneGroup path aliases worldId zoneId)

def ofWorld (path : Path) (aliases : AliasTable) (world : Xml.Element) :
    Except DescriptorFault (List Placement) := do
  let worldId ← Descriptor.valueOf path world "ID"
  return (← (world.childrenNamed "zone").mapM (ofZone path aliases worldId)).flatten

/-- The element that holds the placements: the root or a child of it. -/
def cluster? (root : Xml.Element) : Option Xml.Element :=
  if root.isNamed "ClusterDeploy" then some root else (root.childrenNamed "ClusterDeploy").head?

/-- The placements of a descriptor, those of the cluster first. -/
def ofElement (path : Path) (aliases : AliasTable) (root : Xml.Element) :
    Except DescriptorFault (List Placement) :=
  match cluster? root with
  | none => .error ⟨.missingCluster, some path⟩
  | some cluster => do
    let ofCluster ← (cluster.childrenNamed groupTag).mapM (ofClusterGroup path aliases)
    let ofWorlds ← (cluster.childrenNamed "world").mapM (ofWorld path aliases)
    return ofCluster ++ ofWorlds.flatten

/-- Keeps the first of equal hosts. `seen` are those before, last first. -/
def distinctFrom (seen : List Host) : List Host → List Host
  | [] => seen.reverse
  | h :: hs => if h ∈ seen then distinctFrom seen hs else distinctFrom (h :: seen) hs

/-- The hosts of placements, each once, in the order in which they come first. -/
def hosts (placements : List Placement) : List Host :=
  distinctFrom [] (placements.map Placement.host)

end Placement

end TopologyExplorer

import Mathlib.Data.Finset.Image
import TopologyExplorer.Proofs.Topology.Stages

/-!
# Hosts with one address

A host record has a name, but the row of a placement is put on the host that is looked up without
it. A loaded topology keeps every placement exactly if no address of a world and zone goes by two
names; otherwise placements on the later name end up on the host with the earlier one.
-/

namespace TopologyExplorer

/-- The placements call what is one address of a world and zone by one name. -/
def Placement.OneNamed (placements : List Placement) : Prop :=
  ∀ p ∈ placements, ∀ q ∈ placements, p.host.SamePlace q.host → p.hostName = q.hostName

def Placement.key (p : Placement) : Host × String × Int := (p.host, p.groupName, p.instId)

namespace Tables

/-- No placement is lost or moved to another host. -/
structure Keeps (t : Tables) (placements : List Placement) : Prop where
  /-- A placement has a row with the id of its own host. -/
  placed : ∀ p ∈ placements, ∃ id : Nat, (p.host, id) ∈ t.numberedHosts ∧
    (⟨id, p.groupName, p.instId⟩ : Deploy) ∈ t.deploys
  /-- Placements that differ in host, group or instance have different rows. -/
  count : t.deploys.length = (placements.map Placement.key).toFinset.card

variable {t : Tables} {placements : List Placement} {p : Placement}

theorem HoldsRowsOf.own_id (ht : t.HoldsRowsOf placements)
    (hNames : Placement.OneNamed placements) (hp : p ∈ placements) :
    (p.host, t.idOf p.host) ∈ t.numberedHosts := by
  obtain ⟨g, hId, hSame⟩ := ht.idOf_mem hp
  obtain ⟨q, hq, rfl⟩ := ht.mem_hosts.mp (mem_hosts_of_id hId)
  have hName : q.host.hostName = p.host.hostName := hNames q hq p hp hSame
  have hHost : q.host = p.host := hSame.eq_of_name hName
  rwa [hHost] at hId

theorem HoldsRowsOf.own_id_of_placed (ht : t.HoldsRowsOf placements) {id : Nat}
    (hId : (p.host, id) ∈ t.numberedHosts)
    (hRow : (⟨id, p.groupName, p.instId⟩ : Deploy) ∈ t.deploys) :
    (p.host, t.idOf p.host) ∈ t.numberedHosts := by
  obtain ⟨r, hr, hEq⟩ := ht.mem_deploys.mp hRow
  have hIdOf : t.idOf r.host = id := by
    have hField := congrArg DeployOf.hostId hEq
    exact Int.ofNat.inj hField
  -- The row came from a placement `r` of the same place, and its id is one host's only.
  obtain ⟨g, hMem, hSame⟩ := ht.idOf_mem hr
  rw [hIdOf] at hMem
  obtain rfl := host_eq_of_id hMem hId
  rwa [idOf_congr hSame, hIdOf]

theorem HoldsRowsOf.oneNamed (ht : t.HoldsRowsOf placements) (hKeeps : t.Keeps placements) :
    Placement.OneNamed placements := by
  have hOwn : ∀ p ∈ placements, (p.host, t.idOf p.host) ∈ t.numberedHosts := by
    intro p hp
    obtain ⟨id, hId, hRow⟩ := hKeeps.placed p hp
    exact ht.own_id_of_placed hId hRow
  intro p hp q hq hSame
  have hLeft := hOwn p hp
  rw [idOf_congr hSame] at hLeft
  exact congrArg HostOf.hostName (host_eq_of_id hLeft (hOwn q hq))

def rowOfKey (t : Tables) (key : Host × String × Int) : Deploy :=
  ⟨t.idOf key.1, key.2.1, key.2.2⟩

theorem HoldsRowsOf.rowOfKey_injOn (ht : t.HoldsRowsOf placements)
    (hNames : Placement.OneNamed placements) :
    Set.InjOn t.rowOfKey (placements.map Placement.key).toFinset := by
  intro key hKey other hOther hEq
  obtain ⟨p, hp, rfl⟩ := List.mem_map.mp (List.mem_toFinset.mp (Finset.mem_coe.mp hKey))
  obtain ⟨q, hq, rfl⟩ := List.mem_map.mp (List.mem_toFinset.mp (Finset.mem_coe.mp hOther))
  have hId : t.idOf p.host = t.idOf q.host := Int.ofNat.inj (congrArg DeployOf.hostId hEq)
  have hOwn := ht.own_id hNames hp
  rw [hId] at hOwn
  have hHost : p.host = q.host := host_eq_of_id hOwn (ht.own_id hNames hq)
  have hGroup : p.groupName = q.groupName := congrArg DeployOf.groupName hEq
  have hInst : p.instId = q.instId := congrArg DeployOf.instId hEq
  rw [Placement.key, Placement.key, hHost, hGroup, hInst]

theorem HoldsRowsOf.length_deploys (ht : t.HoldsRowsOf placements)
    (hNames : Placement.OneNamed placements) :
    t.deploys.length = (placements.map Placement.key).toFinset.card := by
  have hRows : (placements.map t.rowOf).toFinset =
      (placements.map Placement.key).toFinset.image t.rowOfKey := by
    ext d
    simp [rowOfKey, rowOf, Placement.key]
  rw [ht.deploys, length_eraseDups, hRows,
    Finset.card_image_of_injOn (ht.rowOfKey_injOn hNames)]

theorem HoldsRowsOf.keeps_iff (ht : t.HoldsRowsOf placements) :
    t.Keeps placements ↔ Placement.OneNamed placements := by
  refine ⟨ht.oneNamed, fun hNames => ⟨fun p hp => ?_, ht.length_deploys hNames⟩⟩
  exact ⟨t.idOf p.host, ht.own_id hNames hp, ht.mem_deploys.mpr ⟨p, hp, rfl⟩⟩

end Tables

namespace Topology

/-- A load that succeeds keeps the placements it read exactly if they are named alike. -/
theorem load_keeps_placements_iff [Xml.Codecs] {look : Path → Found} {config : Path}
    {aliases : AliasTable}
    (h : (load look config (.ready .empty)).outcome = .ok aliases) :
    ∃ placements t, placementsAt look (config.child deployFile) aliases = .ok placements ∧
      (load look config (.ready .empty)).database = .ready t ∧
      (t.Keeps placements ↔ Placement.OneNamed placements) := by
  obtain ⟨placements, t, hRead, hTables, hRows⟩ := load_empty_eq_ok h
  exact ⟨placements, t, hRead, hTables, hRows.keeps_iff⟩

/-- One host of the cluster and of a zone, and one group that is on it twice. -/
def zones : FileTree := .ofDescriptors "<h><Host Name='m' InnerIP='1'/></h>" "<p/>"
  ("<ClusterDeploy><DeloyGroup Group='g' Host='m'/><DeloyGroup Group='g' Host='m'/>" ++
    "<world ID='2'><zone ID='3'><DeloyGroup Group='g' Host='m'/></zone></world></ClusterDeploy>")

theorem load_zones_keeps_placements_iff :
    (load zones.look (.ofText "config") (.ready .empty)).outcome =
        .ok ⟨[("m", "1"), ("TcmHost", "127.0.0.1")]⟩ ∧
      ∃ placements t,
        placementsAt zones.look ((Path.ofText "config").child deployFile)
          ⟨[("m", "1"), ("TcmHost", "127.0.0.1")]⟩ = .ok placements ∧
        (load zones.look (.ofText "config") (.ready .empty)).database = .ready t ∧
        (t.Keeps placements ↔ Placement.OneNamed placements) := by
  have hLoad : (load zones.look (.ofText "config") (.ready .empty)).outcome =
      .ok ⟨[("m", "1"), ("TcmHost", "127.0.0.1")]⟩ := by decide +kernel
  exact ⟨hLoad, load_keeps_placements_iff hLoad⟩

def namesakes : FileTree := .ofDescriptors
  "<h><Host Name='a' InnerIP='10.0.0.1'/><Host Name='b' InnerIP='10.0.0.1'/></h>" "<p/>"
  "<ClusterDeploy><DeloyGroup Group='g' Host='a'/><DeloyGroup Group='g' Host='b'/></ClusterDeploy>"

/-- The group on the second name is lost: both placements become one row on the first name. -/
theorem load_namesakes_loses_placement :
    (load namesakes.look (.ofText "config") (.ready .empty)).outcome =
        .ok ⟨[("a", "10.0.0.1"), ("b", "10.0.0.1"), ("TcmHost", "127.0.0.1")]⟩ ∧
      placementsAt namesakes.look ((Path.ofText "config").child deployFile)
          ⟨[("a", "10.0.0.1"), ("b", "10.0.0.1"), ("TcmHost", "127.0.0.1")]⟩ =
        .ok [⟨"a", "10.0.0.1", "0", "0", "g", 0⟩, ⟨"b", "10.0.0.1", "0", "0", "g", 0⟩] ∧
      (load namesakes.look (.ofText "config") (.ready .empty)).database =
        .ready ⟨[⟨"10.0.0.1", "a", "0", "0"⟩, ⟨"10.0.0.1", "b", "0", "0"⟩], [], [⟨1, "g", 0⟩]⟩ ∧
      ¬Tables.Keeps
        ⟨[⟨"10.0.0.1", "a", "0", "0"⟩, ⟨"10.0.0.1", "b", "0", "0"⟩], [], [⟨1, "g", 0⟩]⟩
        [⟨"a", "10.0.0.1", "0", "0", "g", 0⟩, ⟨"b", "10.0.0.1", "0", "0", "g", 0⟩] := by
  have hLost : ¬Tables.Keeps
      ⟨[⟨"10.0.0.1", "a", "0", "0"⟩, ⟨"10.0.0.1", "b", "0", "0"⟩], [], [⟨1, "g", 0⟩]⟩
      [⟨"a", "10.0.0.1", "0", "0", "g", 0⟩, ⟨"b", "10.0.0.1", "0", "0", "g", 0⟩] :=
    fun hKeeps => absurd hKeeps.count (by decide)
  simp only [hLost, not_false_eq_true, and_true]
  decide +kernel

end Topology

end TopologyExplorer

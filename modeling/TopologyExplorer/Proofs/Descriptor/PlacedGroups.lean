import TopologyExplorer.Proofs.Descriptor.Faults
import TopologyExplorer.Proofs.Descriptor.HostAliases
import TopologyExplorer.Proofs.Descriptor.Success
import TopologyExplorer.Proofs.Xml.Descendants

/-!
# Placed groups

The groups of a deploy descriptor can be placed if each names itself and a host that is known, and
its instance, if it has one, is an integer; worlds and zones have ids. A group of the cluster may
leave out its host. The placements stand in the order of their groups, those of the cluster first.
-/

namespace TopologyExplorer

namespace Placement

/-- Where a placed group stands: in the cluster itself, or in a zone of one of its worlds. -/
inductive Site where
  | inCluster (group : Xml.Element)
  | inZone (world zone group : Xml.Element)

namespace Site

def group : Site → Xml.Element
  | inCluster group | inZone _ _ group => group

/-- The host that the group names. In the cluster it is the machine itself by default. -/
def hostName? : Site → Option String
  | inCluster group => some ((group.value? "Host").getD builtinHost)
  | inZone _ _ group => group.value? "Host"

def worldId? : Site → Option String
  | inCluster _ => some "0"
  | inZone world _ _ => world.value? "ID"

def zoneId? : Site → Option String
  | inCluster _ => some "0"
  | inZone _ zone _ => zone.value? "ID"

/-- The instance of a group that has none of its own. -/
def absentInst : Site → Int
  | inCluster _ => 0
  | inZone _ _ _ => 1

end Site

/-- The placement that a group gives at its site. -/
structure Gives (aliases : AliasTable) (site : Site) (p : Placement) : Prop where
  hostName : site.hostName? = some p.hostName
  innerIp : aliases.entries.lookup p.hostName = some p.innerIp
  worldId : site.worldId? = some p.worldId
  zoneId : site.zoneId? = some p.zoneId
  groupName : site.group.value? "Group" = some p.groupName
  instId : (site.group.value? "InstID").elim (some site.absentInst) IntegerText.ofText? =
    some p.instId

def zoneSites (world zone : Xml.Element) : List Site :=
  (zone.childrenNamed "DeloyGroup").map (.inZone world zone)

def worldSites (world : Xml.Element) : List Site :=
  (world.childrenNamed "zone").flatMap (zoneSites world)

/-- The sites in the cluster itself. -/
def ownSites (cluster : Xml.Element) : List Site :=
  (cluster.childrenNamed "DeloyGroup").map .inCluster

/-- The sites in the zones of the worlds of a cluster. -/
def innerSites (cluster : Xml.Element) : List Site :=
  (cluster.childrenNamed "world").flatMap worldSites

/-- The cluster of a tree: the root if it is one, else the first child that is one. -/
inductive IsClusterOf (root : Xml.Element) : Xml.Element → Prop where
  | root : root.isNamed "ClusterDeploy" → IsClusterOf root root
  | child {before : List Xml.Element} {cluster : Xml.Element} {after : List Xml.Element} :
      ¬root.isNamed "ClusterDeploy" → root.children = before ++ cluster :: after →
      cluster.isNamed "ClusterDeploy" → (∀ e ∈ before, ¬e.isNamed "ClusterDeploy") →
      IsClusterOf root cluster

/-- A group has a name, and an integer for its instance unless it leaves that out. -/
structure IsSoundGroup (group : Xml.Element) : Prop where
  name : (group.value? "Group").isSome
  inst : ∀ text, group.value? "InstID" = some text → (IntegerText.ofText? text).isSome

structure IsSoundCluster (aliases : AliasTable) (cluster : Xml.Element) : Prop where
  groups : ∀ group ∈ cluster.childrenNamed "DeloyGroup", IsSoundGroup group
  /-- A group of the cluster may leave out its host. -/
  hosts : ∀ group ∈ cluster.childrenNamed "DeloyGroup", ∀ name, group.value? "Host" = some name →
    aliases.Knows name
  worlds : ∀ world ∈ cluster.childrenNamed "world", (world.value? "ID").isSome
  zones : ∀ world ∈ cluster.childrenNamed "world", ∀ zone ∈ world.childrenNamed "zone",
    (zone.value? "ID").isSome
  zoneGroups : ∀ world ∈ cluster.childrenNamed "world", ∀ zone ∈ world.childrenNamed "zone",
    ∀ group ∈ zone.childrenNamed "DeloyGroup", IsSoundGroup group
  zoneHosts : ∀ world ∈ cluster.childrenNamed "world", ∀ zone ∈ world.childrenNamed "zone",
    ∀ group ∈ zone.childrenNamed "DeloyGroup", ∃ name, group.value? "Host" = some name ∧
      aliases.Knows name

variable {path : Path} {aliases : AliasTable} {root cluster world zone group : Xml.Element}
  {p : Placement} {placements : List Placement}

theorem cluster?_eq_some_iff : cluster? root = some cluster ↔ IsClusterOf root cluster := by
  unfold cluster?
  split
  · rename_i hRoot
    constructor
    · intro h
      obtain rfl := Option.some.inj h
      exact .root hRoot
    · intro h
      cases h with
      | root => rfl
      | child hOther => exact absurd hRoot hOther
  · rename_i hRoot
    rw [Xml.Element.childrenNamed, List.head?_filter, List.find?_eq_some_iff_append]
    constructor
    · rintro ⟨hNamed, before, after, hChildren, hBefore⟩
      exact .child hRoot hChildren hNamed fun e he => by simpa using hBefore e he
    · intro h
      cases h with
      | root hNamed => exact absurd hNamed hRoot
      | child _ hChildren hNamed hBefore =>
        exact ⟨hNamed, _, _, hChildren, fun e he => by simpa using hBefore e he⟩

/-! ## What is read at a site -/

theorem ofGroup_eq_ok_iff {worldId zoneId hostName : String} {absentInst : Int} :
    ofGroup path aliases worldId zoneId absentInst hostName group = .ok p ↔
      hostName = p.hostName ∧ aliases.entries.lookup hostName = some p.innerIp ∧
      worldId = p.worldId ∧ zoneId = p.zoneId ∧ group.value? "Group" = some p.groupName ∧
      (group.value? "InstID").elim (some absentInst) IntegerText.ofText? = some p.instId := by
  simp only [ofGroup, bind_eq_ok_iff, AliasTable.addressOf_eq_ok_iff, Descriptor.valueOf_eq_ok_iff,
    Descriptor.integerOr_eq_ok_iff, pure, Except.pure, Except.ok.injEq]
  constructor
  · rintro ⟨ip, hIp, groupName, hGroup, inst, hInst, rfl⟩
    exact ⟨rfl, hIp, rfl, rfl, hGroup, hInst⟩
  · rintro ⟨rfl, hIp, rfl, rfl, hGroup, hInst⟩
    exact ⟨_, hIp, _, hGroup, _, hInst, rfl⟩

theorem ofClusterGroup_eq_ok_iff :
    ofClusterGroup path aliases group = .ok p ↔ Gives aliases (.inCluster group) p := by
  rw [ofClusterGroup, ofGroup_eq_ok_iff]
  constructor
  · rintro ⟨hHost, hIp, hWorld, hZone, hGroup, hInst⟩
    exact ⟨congrArg some hHost, hHost ▸ hIp, congrArg some hWorld, congrArg some hZone, hGroup, hInst⟩
  · rintro ⟨hHost, hIp, hWorld, hZone, hGroup, hInst⟩
    have hHost := Option.some.inj hHost
    exact ⟨hHost, hHost ▸ hIp, Option.some.inj hWorld, Option.some.inj hZone, hGroup, hInst⟩

theorem ofZoneGroup_eq_ok_iff {worldId zoneId : String} (hWorld : world.value? "ID" = some worldId)
    (hZone : zone.value? "ID" = some zoneId) :
    ofZoneGroup path aliases worldId zoneId group = .ok p ↔
      Gives aliases (.inZone world zone group) p := by
  simp only [ofZoneGroup, bind_eq_ok_iff, Descriptor.valueOf_eq_ok_iff, ofGroup_eq_ok_iff]
  constructor
  · rintro ⟨hostName, hHost, rfl, hIp, rfl, rfl, hGroup, hInst⟩
    exact ⟨hHost, hIp, hWorld, hZone, hGroup, hInst⟩
  · rintro ⟨hHost, hIp, hWorldId, hZoneId, hGroup, hInst⟩
    exact ⟨_, hHost, rfl, hIp, Option.some.inj (hWorld.symm.trans hWorldId),
      Option.some.inj (hZone.symm.trans hZoneId), hGroup, hInst⟩

theorem ofZone_eq_ok_iff {worldId : String} (hWorld : world.value? "ID" = some worldId) :
    ofZone path aliases worldId zone = .ok placements ↔
      (zone.value? "ID").isSome ∧ List.Forall₂ (Gives aliases) (zoneSites world zone) placements := by
  simp only [ofZone, bind_eq_ok_iff, Descriptor.valueOf_eq_ok_iff, mapM_eq_ok_iff, groupTag,
    zoneSites, List.forall₂_map_left_iff, Option.isSome_iff_exists, ← exists_and_right]
  refine exists_congr fun zoneId => and_congr_right fun hZone => ?_
  simp only [ofZoneGroup_eq_ok_iff hWorld hZone]

theorem ofWorld_eq_ok_iff :
    ofWorld path aliases world = .ok placements ↔
      ((world.value? "ID").isSome ∧
        ∀ zone ∈ world.childrenNamed "zone", (zone.value? "ID").isSome) ∧
      List.Forall₂ (Gives aliases) (worldSites world) placements := by
  simp only [ofWorld, bind_eq_ok_iff, Descriptor.valueOf_eq_ok_iff, pure, Except.pure,
    Except.ok.injEq, Option.isSome_iff_exists (x := world.value? "ID"), and_assoc,
    ← exists_and_right]
  refine exists_congr fun worldId => and_congr_right fun hWorld => ?_
  exact exists_mapM_flatten_iff fun zone _ _ => ofZone_eq_ok_iff hWorld

theorem ofElement_eq_ok_iff (hCluster : IsClusterOf root cluster) :
    ofElement path aliases root = .ok placements ↔
      (∀ world ∈ cluster.childrenNamed "world", (world.value? "ID").isSome ∧
        ∀ zone ∈ world.childrenNamed "zone", (zone.value? "ID").isSome) ∧
      List.Forall₂ (Gives aliases) (ownSites cluster ++ innerSites cluster) placements := by
  have hWorlds : ∀ placed, (∃ ofWorlds,
      (cluster.childrenNamed "world").mapM (ofWorld path aliases) = .ok ofWorlds ∧
        ofWorlds.flatten = placed) ↔ _ ∧ List.Forall₂ (Gives aliases) (innerSites cluster) placed :=
    fun placed => exists_mapM_flatten_iff fun _ _ _ => ofWorld_eq_ok_iff
  rw [ofElement, cluster?_eq_some_iff.mpr hCluster]
  simp only [bind_eq_ok_iff, mapM_eq_ok_iff (f := ofClusterGroup path aliases),
    ofClusterGroup_eq_ok_iff, pure, Except.pure, Except.ok.injEq, forall₂_append_left_iff, ownSites,
    List.forall₂_map_left_iff, groupTag]
  constructor
  · rintro ⟨own, hOwn, inner, hInner, rfl⟩
    obtain ⟨hIds, hPlaced⟩ := (hWorlds _).mp ⟨inner, hInner, rfl⟩
    exact ⟨hIds, own, inner.flatten, hOwn, hPlaced, rfl⟩
  · rintro ⟨hIds, own, placed, hOwn, hPlaced, rfl⟩
    obtain ⟨inner, hInner, rfl⟩ := (hWorlds placed).mpr ⟨hIds, hPlaced⟩
    exact ⟨own, hOwn, inner, hInner, rfl⟩

/-! ## When groups can be placed -/

theorem exists_gives_iff {site : Site} :
    (∃ p, Gives aliases site p) ↔ (∃ name, site.hostName? = some name ∧ aliases.Knows name) ∧
      site.worldId?.isSome ∧ site.zoneId?.isSome ∧ IsSoundGroup site.group := by
  have hInst : (∃ n, (site.group.value? "InstID").elim (some site.absentInst) IntegerText.ofText? =
      some n) ↔ ∀ text, site.group.value? "InstID" = some text →
        (IntegerText.ofText? text).isSome := by
    cases site.group.value? "InstID" with
    | none => simp
    | some text => simp [Option.isSome_iff_exists]
  simp only [Option.isSome_iff_exists (x := site.worldId?),
    Option.isSome_iff_exists (x := site.zoneId?)]
  constructor
  · rintro ⟨p, hHost, hIp, hWorld, hZone, hGroup, hNumber⟩
    exact ⟨⟨_, hHost, _, hIp⟩, ⟨_, hWorld⟩, ⟨_, hZone⟩, Option.isSome_of_eq_some hGroup,
      hInst.mp ⟨_, hNumber⟩⟩
  · rintro ⟨⟨hostName, hHost, ip, hIp⟩, ⟨worldId, hWorld⟩, ⟨zoneId, hZone⟩, hGroup, hText⟩
    obtain ⟨groupName, hGroup⟩ := Option.isSome_iff_exists.mp hGroup
    obtain ⟨number, hNumber⟩ := hInst.mpr hText
    exact ⟨⟨hostName, ip, worldId, zoneId, groupName, number⟩, hHost, hIp, hWorld, hZone, hGroup,
      hNumber⟩

theorem exists_gives_inCluster_iff (hBuiltin : aliases.Knows builtinHost) :
    (∃ p, Gives aliases (.inCluster group) p) ↔
      IsSoundGroup group ∧ ∀ name, group.value? "Host" = some name → aliases.Knows name := by
  have hHost : (∃ name, (Site.inCluster group).hostName? = some name ∧ aliases.Knows name) ↔
      ∀ name, group.value? "Host" = some name → aliases.Knows name := by
    simp only [Site.hostName?, Option.some.injEq, exists_eq_left']
    cases group.value? "Host" with
    | none => simpa using hBuiltin
    | some name => simp
  rw [exists_gives_iff, hHost, and_comm]
  exact and_congr_left' ⟨fun h => h.2.2, fun h => ⟨rfl, rfl, h⟩⟩

theorem exists_gives_inZone_iff (hWorld : (world.value? "ID").isSome)
    (hZone : (zone.value? "ID").isSome) :
    (∃ p, Gives aliases (.inZone world zone group) p) ↔
      IsSoundGroup group ∧ ∃ name, group.value? "Host" = some name ∧ aliases.Knows name := by
  rw [exists_gives_iff, and_comm]
  exact and_congr_left' ⟨fun h => h.2.2, fun h => ⟨hWorld, hZone, h⟩⟩

theorem mem_innerSites_iff {site : Site} :
    site ∈ innerSites cluster ↔ ∃ world ∈ cluster.childrenNamed "world",
      ∃ zone ∈ world.childrenNamed "zone", ∃ group ∈ zone.childrenNamed "DeloyGroup",
        .inZone world zone group = site := by
  simp only [innerSites, worldSites, zoneSites, List.mem_flatMap, List.mem_map]

theorem exists_placements_iff (hBuiltin : aliases.Knows builtinHost)
    (hCluster : IsClusterOf root cluster) :
    (∃ placements, ofElement path aliases root = .ok placements) ↔
      IsSoundCluster aliases cluster := by
  simp only [ofElement_eq_ok_iff hCluster, exists_and_left, exists_forall₂_iff,
    List.forall_mem_append]
  constructor
  · rintro ⟨hIds, hOwnSites, hInnerSites⟩
    have hOwn : ∀ group ∈ cluster.childrenNamed "DeloyGroup", IsSoundGroup group ∧
        ∀ name, group.value? "Host" = some name → aliases.Knows name := by
      intro group hGroup
      exact (exists_gives_inCluster_iff hBuiltin).mp (hOwnSites _ (List.mem_map_of_mem hGroup))
    have hInner : ∀ world ∈ cluster.childrenNamed "world", ∀ zone ∈ world.childrenNamed "zone",
        ∀ group ∈ zone.childrenNamed "DeloyGroup", IsSoundGroup group ∧
          ∃ name, group.value? "Host" = some name ∧ aliases.Knows name := by
      intro world hWorld zone hZone group hGroup
      obtain ⟨hId, hZoneIds⟩ := hIds world hWorld
      exact (exists_gives_inZone_iff hId (hZoneIds zone hZone)).mp
        (hInnerSites _ (mem_innerSites_iff.mpr ⟨world, hWorld, zone, hZone, group, hGroup, rfl⟩))
    exact {
      groups := fun group hGroup => (hOwn group hGroup).1
      hosts := fun group hGroup => (hOwn group hGroup).2
      worlds := fun world hWorld => (hIds world hWorld).1
      zones := fun world hWorld => (hIds world hWorld).2
      zoneGroups := fun world hWorld zone hZone group hGroup =>
        (hInner world hWorld zone hZone group hGroup).1
      zoneHosts := fun world hWorld zone hZone group hGroup =>
        (hInner world hWorld zone hZone group hGroup).2 }
  · intro h
    refine ⟨fun world hWorld => ⟨h.worlds world hWorld, h.zones world hWorld⟩, ?_, ?_⟩
    · intro site hSite
      obtain ⟨group, hGroup, rfl⟩ := List.mem_map.mp hSite
      exact (exists_gives_inCluster_iff hBuiltin).mpr ⟨h.groups group hGroup, h.hosts group hGroup⟩
    · intro site hSite
      obtain ⟨world, hWorld, zone, hZone, group, hGroup, rfl⟩ := mem_innerSites_iff.mp hSite
      exact (exists_gives_inZone_iff (h.worlds world hWorld) (h.zones world hWorld zone hZone)).mpr
        ⟨h.zoneGroups world hWorld zone hZone group hGroup,
          h.zoneHosts world hWorld zone hZone group hGroup⟩

/-! ## Document order -/

theorem map_group_ownSites (cluster : Xml.Element) :
    (ownSites cluster).map Site.group = cluster.childrenNamed "DeloyGroup" := by
  rw [ownSites, List.map_map]
  exact List.map_id _

theorem map_group_innerSites_sublist (cluster : Xml.Element) :
    ((innerSites cluster).map Site.group).Sublist cluster.all := by
  have hZone : ∀ world zone : Xml.Element,
      ((zoneSites world zone).map Site.group).Sublist zone.all := by
    intro world zone
    have hGroups : (zoneSites world zone).map Site.group = zone.childrenNamed "DeloyGroup" := by
      rw [zoneSites, List.map_map]
      exact List.map_id _
    rw [hGroups]
    exact zone.childrenNamed_sublist _
  have hWorld : ∀ world : Xml.Element, ((worldSites world).map Site.group).Sublist world.all := by
    intro world
    rw [worldSites, List.map_flatMap]
    exact Xml.Element.flatMap_childrenNamed_sublist (hZone world) world _
  rw [innerSites, List.map_flatMap]
  exact Xml.Element.flatMap_childrenNamed_sublist hWorld cluster _

def IsSound (aliases : AliasTable) (root : Xml.Element) : Prop :=
  ∃ cluster, IsClusterOf root cluster ∧ IsSoundCluster aliases cluster

/-- The groups of a tree can be placed if it has a cluster that is sound. Then there is one placement
for each group, with the values that belong to its site: first the groups of the cluster, then those
of its zones in document order. -/
theorem ofElement_places_groups (path : Path) (declarations : List (String × String))
    (root : Xml.Element) :
    let aliases := AliasTable.ofDeclarations declarations
    ((∃ placements, ofElement path aliases root = .ok placements) ↔ IsSound aliases root) ∧
    (¬IsSound aliases root → ∃ fault, ofElement path aliases root = .error fault ∧
      fault.IsOf path) ∧
    ∀ placements, ofElement path aliases root = .ok placements →
      ∃ cluster, IsClusterOf root cluster ∧
        List.Forall₂ (Gives aliases) (ownSites cluster ++ innerSites cluster) placements ∧
        (ownSites cluster).map Site.group = cluster.childrenNamed "DeloyGroup" ∧
        ((innerSites cluster).map Site.group).Sublist cluster.all := by
  intro aliases
  have hBuiltin : aliases.Knows builtinHost := AliasTable.knows_builtinHost declarations
  have hCluster : ∀ placements, ofElement path aliases root = .ok placements →
      ∃ cluster, IsClusterOf root cluster := by
    intro placements h
    cases hFound : cluster? root with
    | none =>
      rw [ofElement, hFound] at h
      cases h
    | some cluster => exact ⟨cluster, cluster?_eq_some_iff.mp hFound⟩
  have hSound : (∃ placements, ofElement path aliases root = .ok placements) ↔
      IsSound aliases root := by
    constructor
    · rintro ⟨placements, h⟩
      obtain ⟨cluster, hRoot⟩ := hCluster placements h
      exact ⟨cluster, hRoot, (exists_placements_iff hBuiltin hRoot).mp ⟨_, h⟩⟩
    · rintro ⟨cluster, hRoot, h⟩
      exact (exists_placements_iff hBuiltin hRoot).mpr h
  refine ⟨hSound, fun hUnsound => ?_, fun placements h => ?_⟩
  · cases hResult : ofElement path aliases root with
    | ok placements => exact absurd (hSound.mp ⟨placements, hResult⟩) hUnsound
    | error fault => exact ⟨fault, rfl, ofElement_failsWith root fault hResult⟩
  · obtain ⟨cluster, hRoot⟩ := hCluster placements h
    exact ⟨cluster, hRoot, ((ofElement_eq_ok_iff hRoot).mp h).2, map_group_ownSites cluster,
      map_group_innerSites_sublist cluster⟩

/-- A group in a zone, and behind its world a group of the cluster that leaves out its host and its
instance. Of two addresses of the host the later one counts, and the clusters behind the first one
do not. -/
theorem ofElement_places_two_groups :
    let group := fun attributes => Xml.Element.mk (.plain "DeloyGroup") attributes []
    let cluster := Xml.Element.mk (.plain "ClusterDeploy") [] [
      .mk (.plain "world") [(.plain "ID", "2")] [
        .mk (.plain "zone") [(.plain "ID", "200")] [
          group [(.plain "Group", "game"), (.plain "Host", "m"), (.plain "InstID", " +07")]]],
      group [(.plain "Group", "tcm")]]
    let root := Xml.Element.mk (.plain "TcmCenter") [] [cluster,
      .mk (.plain "ClusterDeploy") [] [group []]]
    let aliases := AliasTable.ofDeclarations [("m", "10.0.0.1"), ("m", "10.0.0.2")]
    let placements : List Placement := [⟨"TcmHost", "127.0.0.1", "0", "0", "tcm", 0⟩,
      ⟨"m", "10.0.0.2", "2", "200", "game", 7⟩]
    ofElement ⟨.here, ["procdeploy.xml"]⟩ aliases root = .ok placements ∧ IsSound aliases root ∧
      ∃ cluster, IsClusterOf root cluster ∧
        List.Forall₂ (Gives aliases) (ownSites cluster ++ innerSites cluster) placements := by
  intro group cluster root aliases placements
  have h : ofElement ⟨.here, ["procdeploy.xml"]⟩ aliases root = .ok placements := by
    decide +kernel
  obtain ⟨hSound, -, hPlaced⟩ := ofElement_places_groups ⟨.here, ["procdeploy.xml"]⟩
    [("m", "10.0.0.1"), ("m", "10.0.0.2")] root
  obtain ⟨found, hCluster, hGives, -⟩ := hPlaced placements h
  exact ⟨h, hSound.mp ⟨placements, h⟩, found, hCluster, hGives⟩

end Placement

end TopologyExplorer

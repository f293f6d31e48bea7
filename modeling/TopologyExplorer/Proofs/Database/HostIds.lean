import TopologyExplorer.Database.Tables

/-!
# Ids of hosts

The id of a host is its place in the table, so one id is of one host. A host is looked up by address,
world and zone, without its name: the first host of the same place answers for all of them.
-/

namespace TopologyExplorer

/-- The hosts have one address in one world and zone. -/
def HostOf.SamePlace (g h : Host) : Prop :=
  g.innerIp = h.innerIp ∧ g.worldId = h.worldId ∧ g.zoneId = h.zoneId

instance (g h : Host) : Decidable (g.SamePlace h) :=
  inferInstanceAs (Decidable (_ ∧ _ ∧ _))

namespace HostOf

variable {f g h : Host}

theorem SamePlace.symm (hSame : g.SamePlace h) : h.SamePlace g :=
  ⟨hSame.1.symm, hSame.2.1.symm, hSame.2.2.symm⟩

theorem SamePlace.trans (hLeft : f.SamePlace g) (hRight : g.SamePlace h) : f.SamePlace h :=
  ⟨hLeft.1.trans hRight.1, hLeft.2.1.trans hRight.2.1, hLeft.2.2.trans hRight.2.2⟩

theorem SamePlace.eq_of_name (hSame : g.SamePlace h) (hName : g.hostName = h.hostName) :
    g = h := by
  obtain ⟨ip, name, world, zone⟩ := g
  obtain ⟨hIp, hWorld, hZone⟩ := hSame
  cases h
  simp_all

end HostOf

namespace Tables

variable {t : Tables} {g h : Host} {id : Nat}

/-- The id that a host is looked up with: that of the first host of its place. -/
def idOf (t : Tables) (h : Host) : Nat := t.hosts.findIdx (fun g => g.SamePlace h) + 1

theorem mem_numberedHosts : (h, id) ∈ t.numberedHosts ↔ 1 ≤ id ∧ t.hosts[id - 1]? = some h :=
  List.mk_mem_zipIdx_iff_le_and_getElem?_sub

theorem host_eq_of_id (hLeft : (g, id) ∈ t.numberedHosts) (hRight : (h, id) ∈ t.numberedHosts) :
    g = h := by
  have hEq := (mem_numberedHosts.mp hLeft).2.symm.trans (mem_numberedHosts.mp hRight).2
  exact Option.some.inj hEq

theorem mem_hosts_of_id (h : (g, id) ∈ t.numberedHosts) : g ∈ t.hosts :=
  List.fst_mem_of_mem_zipIdx h

theorem hostId?_eq_findIdx? (t : Tables) (innerIp worldId zoneId : String) :
    t.hostId? innerIp worldId zoneId =
      (t.hosts.findIdx? fun h =>
        h.innerIp = innerIp ∧ h.worldId = worldId ∧ h.zoneId = zoneId).map (· + 1) := by
  rw [List.findIdx?_eq_fst_find?_zipIdx, hostId?, numberedHosts,
    ← List.map_snd_add_zipIdx_eq_zipIdx (n := 1) (k := 0), List.find?_map, Option.map_map,
    Option.map_map]
  rfl

/-- A host that stands in the table, perhaps under another name, is found. -/
theorem hostId?_eq_some (hMem : ∃ g ∈ t.hosts, g.SamePlace h) :
    t.hostId? h.innerIp h.worldId h.zoneId = some (t.idOf h) := by
  obtain ⟨g, hMem, hSame⟩ := hMem
  have hFound : t.hosts.findIdx? (fun g => decide (g.SamePlace h)) = some _ :=
    List.findIdx?_eq_some_of_exists ⟨g, hMem, decide_eq_true hSame⟩
  rw [hostId?_eq_findIdx?]
  exact congrArg (Option.map (· + 1)) hFound

theorem idOf_mem (hMem : ∃ g ∈ t.hosts, g.SamePlace h) :
    ∃ g, (g, t.idOf h) ∈ t.numberedHosts ∧ g.SamePlace h := by
  have hLess : t.hosts.findIdx (fun g => decide (g.SamePlace h)) < t.hosts.length := by
    obtain ⟨g, hMem, hSame⟩ := hMem
    exact List.findIdx_lt_length_of_exists ⟨g, hMem, decide_eq_true hSame⟩
  refine ⟨t.hosts.get ⟨_, hLess⟩, ?_, ?_⟩
  · rw [mem_numberedHosts]
    exact ⟨Nat.le_add_left 1 _, List.getElem?_eq_getElem hLess⟩
  · exact of_decide_eq_true (List.findIdx_getElem (w := hLess))

theorem idOf_congr (hSame : g.SamePlace h) : t.idOf g = t.idOf h := by
  have hTest : (fun f : Host => decide (f.SamePlace g)) = fun f => decide (f.SamePlace h) := by
    funext f
    exact decide_eq_decide.mpr ⟨fun hf => hf.trans hSame, fun hf => hf.trans hSame.symm⟩
  rw [idOf, idOf, hTest]

end Tables

end TopologyExplorer

import TopologyExplorer.Proofs.Database.Join
import TopologyExplorer.Proofs.Topology.Faults

/-!
# Placed rows

The rows that a successful load leaves are those of the placements it read, each on a host of the
same place. So the join pairs every one of them with every process, and drops none.
-/

namespace TopologyExplorer

namespace Tables

/-- The rows are those of placements, on hosts of their places. -/
structure Places (t : Tables) (placements : List Placement) : Prop where
  hosted : ∀ d ∈ t.deploys, t.IsHosted d
  placed : ∀ p ∈ placements, ∃ (h : Host) (id : Nat), (h, id) ∈ t.numberedHosts ∧
    h.SamePlace p.host ∧ (⟨id, p.groupName, p.instId⟩ : Deploy) ∈ t.deploys
  asked : ∀ d ∈ t.deploys, ∃ p ∈ placements, ∃ (h : Host) (id : Nat), (h, id) ∈ t.numberedHosts ∧
    h.SamePlace p.host ∧ d = ⟨id, p.groupName, p.instId⟩

variable {t : Tables} {placements : List Placement}

theorem HoldsRowsOf.places (ht : t.HoldsRowsOf placements) : t.Places placements := by
  have hAsked : ∀ d ∈ t.deploys, ∃ p ∈ placements, ∃ (h : Host) (id : Nat),
      (h, id) ∈ t.numberedHosts ∧ h.SamePlace p.host ∧ d = ⟨id, p.groupName, p.instId⟩ := by
    intro d hd
    obtain ⟨p, hp, rfl⟩ := ht.mem_deploys.mp hd
    obtain ⟨h, hId, hSame⟩ := ht.idOf_mem hp
    exact ⟨p, hp, h, t.idOf p.host, hId, hSame, rfl⟩
  refine ⟨fun d hd => ?_, fun p hp => ?_, hAsked⟩
  · obtain ⟨p, -, h, id, hId, -, rfl⟩ := hAsked d hd
    exact ⟨h, id, hId, rfl⟩
  · obtain ⟨h, hId, hSame⟩ := ht.idOf_mem hp
    exact ⟨h, t.idOf p.host, hId, hSame, ht.mem_deploys.mpr ⟨p, hp, rfl⟩⟩

end Tables

namespace Topology

theorem rows_everything {db : Database} {t : Tables} (h : db = .ready t) :
    db.rows (.ofText "*.*.*.*") = .ok (t.rows .everything) := by
  subst h
  rfl

/-- No load fails for want of a host's row. A load that succeeds leaves the rows of the placements
it read, and the address of every row has one row for each process and placement. -/
theorem load_places_all [Xml.Codecs] (look : Path → Found) (config : Path) :
    (∀ innerIp path, (load look config (.ready .empty)).outcome ≠
      .error (.descriptor ⟨.noHostRow innerIp, path⟩)) ∧
    ∀ aliases, (load look config (.ready .empty)).outcome = .ok aliases →
      ∃ placements t rows,
        placementsAt look (config.child deployFile) aliases = .ok placements ∧
        (load look config (.ready .empty)).database = .ready t ∧ t.Places placements ∧
        (load look config (.ready .empty)).database.rows (.ofText "*.*.*.*") = .ok rows ∧
        rows.length = t.procs.length * t.deploys.length := by
  refine ⟨fun innerIp path hOutcome => ?_, fun aliases hOutcome => ?_⟩
  · exact load_hasHostRow look config _ hOutcome innerIp path rfl
  · obtain ⟨placements, t, hRead, hTables, hRows⟩ := load_empty_eq_ok hOutcome
    exact ⟨placements, t, t.rows .everything, hRead, hTables, hRows.places,
      rows_everything hTables, Tables.length_rows_everything hRows.places.hosted⟩

/-- Two processes, and one group that is on a host twice and on the machine itself. -/
theorem load_paired_places_all :
    (load FileTree.paired.look (.ofText "config") (.ready .empty)).outcome =
        .ok ⟨[("m", "1"), ("TcmHost", "127.0.0.1")]⟩ ∧
      ∃ placements t rows,
        placementsAt FileTree.paired.look ((Path.ofText "config").child deployFile)
          ⟨[("m", "1"), ("TcmHost", "127.0.0.1")]⟩ = .ok placements ∧
        (load FileTree.paired.look (.ofText "config") (.ready .empty)).database = .ready t ∧
        t.Places placements ∧
        (load FileTree.paired.look (.ofText "config") (.ready .empty)).database.rows
          (.ofText "*.*.*.*") = .ok rows ∧
        rows.length = t.procs.length * t.deploys.length := by
  have hLoad : (load FileTree.paired.look (.ofText "config") (.ready .empty)).outcome =
      .ok ⟨[("m", "1"), ("TcmHost", "127.0.0.1")]⟩ := by decide +kernel
  exact ⟨hLoad, (load_places_all FileTree.paired.look (.ofText "config")).2 _ hLoad⟩

end Topology

end TopologyExplorer

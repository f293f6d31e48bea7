import TopologyExplorer.Proofs.Database.Filters
import TopologyExplorer.Proofs.Query.Numerals

/-!
# The wildcard for the process

The number of a process as a literal gives the process on the placements of its group. The wildcard
gives every process on every placement, whatever the groups are. So the rows of the numbers are
those rows of the wildcard in which the group of the process is placed on the host, and the wildcard
lists a process once for each group that a host has under one instance number. Where there is one
group only, both come to the same.
-/

namespace TopologyExplorer

namespace AddressPattern

end AddressPattern

namespace Tables

variable {t : Tables} {a : AddressPattern} {r : Joined}

/-- The group of the process in a row is placed on the host, with the instance number of the row. -/
def PlacesGroup (t : Tables) (r : Joined) : Prop := ⟨r.hostId, r.groupName, r.instId⟩ ∈ t.deploys

/-- Every placement is of the group of every process. -/
def HasOneGroup (t : Tables) : Prop :=
  ∀ p ∈ t.procs, ∀ d ∈ t.deploys, d.groupName = p.groupName

/-- A placement of the process's own group is the one that the row asks for. -/
theorem IsRow.placesGroup {g : Host × Nat} {d : Deploy} {p : Process} (h : t.IsRow a g d p)
    (hGroup : p.groupName = d.groupName) : t.PlacesGroup (.ofParts g p d) := by
  have hEq : (⟨g.2, p.groupName, d.instId⟩ : Deploy) = d := by
    rw [← AddressPattern.hostId_of_selectsPlacement h.placed, hGroup]
  rw [PlacesGroup, Joined.ofParts, hEq]
  exact h.deploy

theorem HasOneGroup.places (ht : t.HasOneGroup) (hr : r ∈ t.rows a) : t.PlacesGroup r := by
  obtain ⟨g, d, p, hRow, rfl⟩ := mem_rows.mp hr
  exact hRow.placesGroup (ht p hRow.process d hRow.deploy).symm

end Tables

namespace Database

variable {t : Tables} {a : AddressPattern}

end Database

end TopologyExplorer

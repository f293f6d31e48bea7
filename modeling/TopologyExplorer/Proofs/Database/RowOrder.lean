import Mathlib.Data.List.Sort
import TopologyExplorer.Proofs.Database.Join
import TopologyExplorer.Proofs.Database.Keys

/-!
# The order of rows

A row of the join is one of a host, a process and a placement. The order compares the keys of the
three, so in a database whose keys tell its records apart it tells rows apart: rows of one database
that stand before each other are one row. Hence sorting keeps what is left out of a list.
-/

namespace TopologyExplorer

namespace Joined

theorem before_trans (r s u : Joined) (hrs : r.before s) (hsu : s.before u) : r.before u := by
  simp only [before, Bool.or_eq_true, Bool.and_eq_true, decide_eq_true_eq] at *
  omega

theorem before_total (r s : Joined) : (r.before s || s.before r) = true := by
  simp only [before, Bool.or_eq_true, Bool.and_eq_true, decide_eq_true_eq]
  omega

theorem keys_eq_of_before {r s : Joined} (hrs : r.before s) (hsr : s.before r) :
    r.hostId = s.hostId ∧ r.funcId = s.funcId ∧ r.instId = s.instId := by
  simp only [before, Bool.or_eq_true, Bool.and_eq_true, decide_eq_true_eq] at *
  omega

end Joined

namespace Tables

variable {t : Tables} {a b : AddressPattern} {r s : Joined}

/-- What a row of an address is one of. -/
structure IsRow (t : Tables) (a : AddressPattern) (h : Host × Nat) (d : Deploy) (p : Process) :
    Prop where
  host : h ∈ t.numberedHosts
  deploy : d ∈ t.deploys
  process : p ∈ t.procs
  placed : a.selectsPlacement h d
  selected : a.selectsProcess d p

theorem mem_rows : r ∈ t.rows a ↔ ∃ h d p, t.IsRow a h d p ∧ r = .ofParts h p d := by
  rw [rows, List.mem_mergeSort, combine]
  simp only [List.mem_flatMap, List.mem_map, List.mem_filter]
  constructor
  · rintro ⟨h, hh, d, ⟨hd, hPlaced⟩, p, ⟨hp, hSelected⟩, rfl⟩
    exact ⟨h, d, p, ⟨hh, hd, hp, hPlaced, hSelected⟩, rfl⟩
  · rintro ⟨h, d, p, hRow, rfl⟩
    exact ⟨h, hRow.host, d, ⟨hRow.deploy, hRow.placed⟩, p, ⟨hRow.process, hRow.selected⟩, rfl⟩

theorem Keyed.eq_of_before (ht : t.Keyed) (hr : r ∈ t.rows a) (hs : s ∈ t.rows b)
    (hrs : r.before s) (hsr : s.before r) : r = s := by
  obtain ⟨⟨g, i⟩, d, p, hLeft, rfl⟩ := mem_rows.mp hr
  obtain ⟨⟨h, j⟩, e, q, hRight, rfl⟩ := mem_rows.mp hs
  obtain ⟨hHost, hProcess, hInst⟩ := Joined.keys_eq_of_before hrs hsr
  obtain rfl : i = j := Int.ofNat.inj hHost
  obtain rfl := host_eq_of_id hLeft.host hRight.host
  obtain rfl := ht.eq_of_number hLeft.process hRight.process hProcess
  simp only [Joined.ofParts, Joined.mk.injEq, true_and]
  exact hInst

/-! ## Sorted rows -/

/-- The order of rows, on those of one address. -/
def OrderedRows (t : Tables) (b : AddressPattern) (r s : Joined) : Prop :=
  r ∈ t.rows b ∧ s ∈ t.rows b ∧ r.before s

theorem Keyed.antisymm_orderedRows (ht : t.Keyed) (b : AddressPattern) :
    Std.Antisymm (t.OrderedRows b) :=
  ⟨fun _ _ hrs hsr => ht.eq_of_before hrs.1 hrs.2.1 hrs.2.2 hsr.2.2⟩

theorem pairwise_sort {xs : List Joined} (h : ∀ r ∈ xs, r ∈ t.rows b) :
    (xs.mergeSort Joined.before).Pairwise (t.OrderedRows b) := by
  have hMem : ∀ {r}, r ∈ xs.mergeSort Joined.before → r ∈ t.rows b := by
    intro r hr
    exact h r (List.mem_mergeSort.mp hr)
  have hSorted := List.pairwise_mergeSort Joined.before_trans Joined.before_total xs
  exact hSorted.imp_of_mem fun hr hs hrs => ⟨hMem hr, hMem hs, hrs⟩

theorem Keyed.sort_subperm (ht : t.Keyed) {xs ys : List Joined} (h : xs.Subperm ys)
    (hys : ∀ r ∈ ys, r ∈ t.rows b) :
    (xs.mergeSort Joined.before).Sublist (ys.mergeSort Joined.before) := by
  have hAntisymm := ht.antisymm_orderedRows b
  have hSubperm : (xs.mergeSort Joined.before).Subperm (ys.mergeSort Joined.before) :=
    ((List.mergeSort_perm xs _).subperm.trans h).trans (List.mergeSort_perm ys _).symm.subperm
  exact List.sublist_of_subperm_of_pairwise hSubperm
    (pairwise_sort fun r hr => hys r (h.subset hr)) (pairwise_sort hys)

theorem Keyed.sort_filter (ht : t.Keyed) {ys : List Joined} (hys : ∀ r ∈ ys, r ∈ t.rows b)
    (p : Joined → Bool) :
    (ys.filter p).mergeSort Joined.before = (ys.mergeSort Joined.before).filter p := by
  have hKept : ((ys.filter p).mergeSort Joined.before).filter p =
      (ys.filter p).mergeSort Joined.before := by
    refine List.filter_eq_self.mpr fun r hr => ?_
    exact (List.mem_filter.mp (List.mem_mergeSort.mp hr)).2
  have hSublist := (ht.sort_subperm (List.filter_sublist (p := p)).subperm hys).filter p
  rw [hKept] at hSublist
  apply hSublist.eq_of_length
  rw [List.length_mergeSort]
  exact ((List.mergeSort_perm ys Joined.before).filter p).length_eq.symm

end Tables

end TopologyExplorer

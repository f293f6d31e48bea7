import Mathlib.Algebra.BigOperators.Group.List.Lemmas
import Mathlib.Algebra.BigOperators.Ring.List
import Mathlib.Algebra.Ring.Nat
import Mathlib.Data.List.Nodup
import TopologyExplorer.Database.Query
import TopologyExplorer.Proofs.Database.HostIds

/-!
# Rows of the join

How many rows the join has where no segment selects: one for each process and placement, provided
that every placement is on a host of the table. Ids of hosts are distinct, so no placement counts
twice.
-/

namespace TopologyExplorer

namespace Tables

variable {t : Tables} {d : Deploy}

def IsHosted (t : Tables) (d : Deploy) : Prop :=
  ∃ (h : Host) (id : Nat), (h, id) ∈ t.numberedHosts ∧ d.hostId = id

theorem nodup_ids (t : Tables) : (t.numberedHosts.map Prod.snd).Nodup := by
  rw [numberedHosts, List.zipIdx_map_snd]
  exact List.nodup_range'

theorem countP_host_eq_one (h : t.IsHosted d) :
    t.numberedHosts.countP (fun h => d.hostId = h.2) = 1 := by
  obtain ⟨host, id, hMem, hId⟩ := h
  have hCount : (t.numberedHosts.map Prod.snd).count id = 1 :=
    List.count_eq_one_of_mem t.nodup_ids (List.mem_map_of_mem hMem)
  rw [List.count, List.countP_map] at hCount
  rw [← hCount]
  apply List.countP_congr
  intro g _
  simp only [hId, Function.comp_apply, decide_eq_true_eq, beq_iff_eq, Int.natCast_inj]
  exact eq_comm

theorem sum_map_ite_one {α : Type} (p : α → Bool) (xs : List α) :
    (xs.map fun x => if p x then 1 else 0).sum = xs.countP p := by
  induction xs with
  | nil => rfl
  | cons x xs ih => rw [List.map_cons, List.sum_cons, ih, List.countP_cons, Nat.add_comm]

theorem sum_placements_of_hosts (deploys : List Deploy) (h : ∀ d ∈ deploys, t.IsHosted d) :
    (t.numberedHosts.map fun h => deploys.countP fun d => d.hostId = h.2).sum = deploys.length := by
  induction deploys with
  | nil => simp
  | cons d deploys ih =>
    have hRest := ih fun e he => h e (List.mem_cons_of_mem d he)
    have hFirst := countP_host_eq_one (h d List.mem_cons_self)
    simp only [List.countP_cons, List.sum_map_add, hRest, List.length_cons, sum_map_ite_one, hFirst]

theorem length_combine_everything (t : Tables) :
    (t.combine .everything).length =
      (t.numberedHosts.map fun h => t.deploys.countP fun d => d.hostId = h.2).sum
        * t.procs.length := by
  have hProcs : ∀ d, t.procs.filter (AddressPattern.everything.selectsProcess d) = t.procs := by
    intro d
    exact List.filter_eq_self.mpr fun p _ => rfl
  have hDeploys : ∀ h, AddressPattern.everything.selectsPlacement h =
      fun d => decide (d.hostId = (h.2 : Int)) := by
    intro h
    funext d
    simp [AddressPattern.selectsPlacement, AddressPattern.everything, Segment.selectsText,
      Segment.selectsNumber]
  simp only [combine, hProcs, hDeploys, List.length_flatMap, List.length_map, List.map_const',
    List.sum_replicate_nat, ← List.countP_eq_length_filter, List.sum_map_mul_right]

theorem length_rows_everything (h : ∀ d ∈ t.deploys, t.IsHosted d) :
    (t.rows .everything).length = t.procs.length * t.deploys.length := by
  rw [rows, List.length_mergeSort, length_combine_everything, sum_placements_of_hosts _ h,
    Nat.mul_comm]

end Tables

end TopologyExplorer

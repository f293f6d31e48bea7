import Mathlib.Data.List.ProdSigma
import TopologyExplorer.Proofs.Database.Filters

/-!
# The hosts of rows

Every row of an address is about a host, and a host has as many rows as the address selects
processes and placements with it. So where no host stands in its table twice, the hosts of the rows
are distinct exactly if each of them is selected once.
-/

namespace TopologyExplorer.Tables

/-- No host is selected with two processes or with two placements. -/
def SelectsHostsOnce (t : Tables) (a : AddressPattern) : Prop :=
  ∀ g d e p q, t.IsRow a g d p → t.IsRow a g e q → d = e ∧ p = q

abbrev Combination := (_ : Host × Nat) × (_ : Deploy) × Process

/-- The combinations that an address selects, in the order of the tables. -/
def combinations (t : Tables) (a : AddressPattern) : List Combination :=
  t.numberedHosts.sigma fun g =>
    (t.deploys.filter (a.selectsPlacement g)).sigma fun d => t.procs.filter (a.selectsProcess d)

variable {t : Tables} {a : AddressPattern}

theorem combine_eq_map_combinations (t : Tables) (a : AddressPattern) :
    t.combine a = (t.combinations a).map fun s => .ofParts s.1 s.2.2 s.2.1 := by
  simp only [combine, combinations, List.sigma, List.map_flatMap, List.map_map]
  rfl

theorem mem_combinations {g : Host × Nat} {d : Deploy} {p : Process} :
    (⟨g, d, p⟩ : Combination) ∈ t.combinations a ↔ t.IsRow a g d p := by
  simp only [combinations, List.mem_sigma, List.mem_filter]
  constructor
  · rintro ⟨hHost, ⟨hDeploy, hPlaced⟩, hProcess, hSelected⟩
    exact ⟨hHost, hDeploy, hProcess, hPlaced, hSelected⟩
  · intro h
    exact ⟨h.host, ⟨h.deploy, h.placed⟩, h.process, h.selected⟩

theorem Keyed.nodup_combinations (ht : t.Keyed) : (t.combinations a).Nodup := by
  have hHosts : t.numberedHosts.Nodup := t.nodup_ids.of_map _
  exact hHosts.sigma fun g => (ht.deploys.filter _).sigma fun d => ht.nodup_procs.filter _

theorem selectsHostsOnce_iff :
    t.SelectsHostsOnce a ↔ ∀ s ∈ t.combinations a, ∀ u ∈ t.combinations a, s.1 = u.1 → s = u := by
  constructor
  · rintro h ⟨g, d, p⟩ hs ⟨_, e, q⟩ hu rfl
    obtain ⟨rfl, rfl⟩ := h g d e p q (mem_combinations.mp hs) (mem_combinations.mp hu)
    rfl
  · intro h g d e p q hs hu
    have hSame := h _ (mem_combinations.mpr hs) _ (mem_combinations.mpr hu) rfl
    simpa using hSame

instance : Decidable (t.SelectsHostsOnce a) := decidable_of_iff _ selectsHostsOnce_iff.symm

theorem eq_of_host_eq (hHosts : t.hosts.Nodup) {g h : Host × Nat} (hg : g ∈ t.numberedHosts)
    (hh : h ∈ t.numberedHosts) (hEq : g.1 = h.1) : g = h := by
  have hNodup : (t.numberedHosts.map Prod.fst).Nodup := by
    rwa [numberedHosts, List.zipIdx_map_fst]
  exact List.inj_on_of_nodup_map hNodup hg hh hEq

theorem Keyed.nodup_hosts_of_rows_iff (ht : t.Keyed) (hHosts : t.hosts.Nodup) :
    ((t.rows a).map Joined.host).Nodup ↔ t.SelectsHostsOnce a := by
  have hPerm : ((t.rows a).map Joined.host).Perm ((t.combinations a).map fun s => s.1.1) := by
    apply ((List.mergeSort_perm _ _).map _).trans
    rw [combine_eq_map_combinations, List.map_map]
    exact .refl _
  rw [hPerm.nodup_iff, List.nodup_map_iff_inj_on ht.nodup_combinations, selectsHostsOnce_iff]
  refine forall₂_congr fun s hs => forall₂_congr fun u hu => ?_
  have hg := (mem_combinations.mp hs).host
  have hh := (mem_combinations.mp hu).host
  exact ⟨fun h hEq => h (congrArg Prod.fst hEq), fun h hEq => h (eq_of_host_eq hHosts hg hh hEq)⟩

end TopologyExplorer.Tables

import Mathlib.Data.Finset.Card
import TopologyExplorer.Descriptor.Placements
import TopologyExplorer.Descriptor.Processes

/-!
# Distinct records

A list without the repeats of earlier entries, built from its end, and the hosts of placements as
such a list. The processes that count have distinct numbers.
-/

namespace TopologyExplorer

section Repeats

variable {α : Type} [DecidableEq α]

theorem eraseDups_concat (xs : List α) (x : α) :
    (xs ++ [x]).eraseDups = if x ∈ xs then xs.eraseDups else xs.eraseDups ++ [x] := by
  rw [List.eraseDups_append]
  by_cases h : x ∈ xs <;> simp [List.removeAll, List.eraseDups_cons, h]

theorem nodup_eraseDups (xs : List α) : xs.eraseDups.Nodup := by
  induction xs using List.reverseRecOn with
  | nil => simp
  | append_singleton xs x ih =>
    rw [eraseDups_concat]
    split
    · exact ih
    · rename_i hNew
      refine List.nodup_append.mpr ⟨ih, by simp, ?_⟩
      rintro a hOld b hLast rfl
      obtain rfl := List.mem_singleton.mp hLast
      exact hNew (List.mem_eraseDups.mp hOld)

theorem eraseDups_eq_self {xs : List α} (h : xs.Nodup) : xs.eraseDups = xs := by
  induction xs using List.reverseRecOn with
  | nil => simp
  | append_singleton xs x ih =>
    have hNew : x ∉ xs := fun hOld => (List.nodup_append.mp h).2.2 x hOld x (by simp) rfl
    rw [eraseDups_concat, if_neg hNew, ih (List.nodup_append.mp h).1]

theorem pairwise_idxOf_eraseDups (xs : List α) :
    xs.eraseDups.Pairwise fun a b => xs.idxOf a < xs.idxOf b := by
  induction xs using List.reverseRecOn with
  | nil => simp
  | append_singleton xs x ih =>
    -- The entry behind all the others changes no place of theirs.
    have hOld : ∀ a ∈ xs.eraseDups, (xs ++ [x]).idxOf a = xs.idxOf a := fun a ha =>
      List.idxOf_append_of_mem (List.mem_eraseDups.mp ha)
    have hKept : xs.eraseDups.Pairwise fun a b => (xs ++ [x]).idxOf a < (xs ++ [x]).idxOf b :=
      ih.imp_of_mem fun ha hb hLess => by rwa [hOld _ ha, hOld _ hb]
    rw [eraseDups_concat]
    split
    · exact hKept
    · rename_i hNew
      refine List.pairwise_append.mpr ⟨hKept, List.pairwise_singleton _ _, fun a ha b hb => ?_⟩
      obtain rfl := List.mem_singleton.mp hb
      rw [hOld a ha, List.idxOf_append_of_notMem hNew, List.idxOf_cons_self]
      exact List.idxOf_lt_length_of_mem (List.mem_eraseDups.mp ha)

theorem length_eraseDups (xs : List α) : xs.eraseDups.length = xs.toFinset.card := by
  rw [← List.toFinset_card_of_nodup (nodup_eraseDups xs)]
  congr 1
  ext x
  simp

end Repeats

namespace Placement

theorem distinctFrom_eq (seen before rest : List Host) (h : seen.reverse = before.eraseDups) :
    distinctFrom seen rest = (before ++ rest).eraseDups := by
  induction rest generalizing seen before with
  | nil => rw [distinctFrom, h, List.append_nil]
  | cons host rest ih =>
    have hMem : host ∈ seen ↔ host ∈ before := by
      rw [← List.mem_reverse, h, List.mem_eraseDups]
    have hBefore := eraseDups_concat before host
    rw [distinctFrom]
    split
    · rename_i hSeen
      rw [if_pos (hMem.mp hSeen)] at hBefore
      rw [ih seen (before ++ [host]) (h.trans hBefore.symm), List.append_assoc,
        List.singleton_append]
    · rename_i hNew
      rw [if_neg (mt hMem.mpr hNew)] at hBefore
      have hSeen : (host :: seen).reverse = (before ++ [host]).eraseDups := by
        rw [List.reverse_cons, h, hBefore]
      rw [ih (host :: seen) (before ++ [host]) hSeen, List.append_assoc, List.singleton_append]

theorem hosts_eq (placements : List Placement) :
    hosts placements = (placements.map host).eraseDups :=
  distinctFrom_eq [] [] _ rfl

theorem mem_hosts {placements : List Placement} {h : Host} :
    h ∈ hosts placements ↔ ∃ p ∈ placements, p.host = h := by
  rw [hosts_eq, List.mem_eraseDups, List.mem_map]

end Placement

namespace Processes

variable {path : Path}

theorem readFrom_nodup {groups : List (String × String)} {taken skipped : List Process}
    (ds : List Definition) (h : (taken.map ProcessOf.funcId).Nodup) :
    ((readFrom path groups taken skipped ds).taken.map ProcessOf.funcId).Nodup := by
  induction ds generalizing taken skipped with
  | nil => exact h
  | cons d ds ih =>
    rw [readFrom]
    split
    · exact h
    · rename_i p _
      split
      · exact ih h
      · rename_i hNew
        apply ih
        rw [List.map_append, List.nodup_append]
        refine ⟨h, by simp, ?_⟩
        rintro a hOld b hLast rfl
        obtain ⟨q, hq, hNumber⟩ := List.mem_map.mp hOld
        refine hNew (List.any_eq_true.mpr ⟨q, hq, decide_eq_true ?_⟩)
        simpa [hNumber] using hLast

theorem nodup_of_result {root : Xml.Element} {procs : List Process}
    (h : (ofElement path root).result = .ok procs) : (procs.map ProcessOf.funcId).Nodup := by
  have hTaken : ((ofElement path root).taken.map ProcessOf.funcId).Nodup := by
    unfold ofElement
    split
    · exact List.nodup_nil
    · exact readFrom_nodup _ List.nodup_nil
  unfold result at h
  split at h <;> cases h
  exact hTaken

end Processes

end TopologyExplorer

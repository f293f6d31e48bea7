import Mathlib.Data.List.Pairwise
import TopologyExplorer.Proofs.Database.Batches

/-!
# Keys of the tables

Whatever batches a database was offered, processes stand by ascending numbers, which are words, and
no placement stands twice. So a number is of one process, and a placement is told from another one
by its host, its group and its instance.
-/

namespace TopologyExplorer

theorem foldlM_preserves {ε α β : Type} {f : β → α → Except ε β} {P : β → Prop}
    (hStep : ∀ {b a c}, P b → f b a = .ok c → P c) {xs : List α} {b c : β} (hb : P b)
    (h : xs.foldlM f b = .ok c) : P c := by
  induction xs generalizing b with
  | nil =>
    cases h
    exact hb
  | cons x xs ih =>
    rw [List.foldlM_cons] at h
    obtain ⟨next, hFirst, hRest⟩ := exists_of_bind_eq_ok h
    exact ih (hStep hb hFirst) hRest

namespace Tables

structure Keyed (t : Tables) : Prop where
  numbers : t.procs.Pairwise fun p q => p.funcId < q.funcId
  words : ∀ p ∈ t.procs, p.fits
  deploys : t.deploys.Nodup

variable {t u : Tables}

theorem keyed_empty : empty.Keyed := ⟨.nil, by simp [empty], .nil⟩

theorem Keyed.eq_of_number (ht : t.Keyed) {p q : Process} (hp : p ∈ t.procs) (hq : q ∈ t.procs)
    (h : p.funcId = q.funcId) : p = q := by
  by_contra hNe
  have hDistinct : t.procs.Pairwise fun p q => p.funcId ≠ q.funcId :=
    ht.numbers.imp fun hLess => Int.ne_of_lt hLess
  have hSymm : Std.Symm fun p q : Process => p.funcId ≠ q.funcId := ⟨fun _ _ h => h.symm⟩
  exact hDistinct.forall hp hq hNe h

/-! ## Batches -/

theorem pairwise_insertByNumber {p : Process} {procs : List Process}
    (h : procs.Pairwise fun p q => p.funcId < q.funcId) (hNew : ∀ q ∈ procs, q.funcId ≠ p.funcId) :
    (insertByNumber p procs).Pairwise fun p q => p.funcId < q.funcId := by
  induction procs with
  | nil => exact List.pairwise_singleton _ p
  | cons q qs ih =>
    obtain ⟨hFirst, hRest⟩ := List.pairwise_cons.mp h
    rw [insertByNumber]
    split
    · rename_i hLess
      refine List.pairwise_cons.mpr ⟨fun r hr => ?_, h⟩
      rcases List.mem_cons.mp hr with rfl | hr
      · exact hLess
      · exact hLess.trans (hFirst r hr)
    · rename_i hLess
      have hq : q.funcId < p.funcId := by
        have hNe := hNew q List.mem_cons_self
        omega
      refine List.pairwise_cons.mpr ⟨fun r hr => ?_, ih hRest fun r hr => hNew r (.tail q hr)⟩
      rcases List.mem_cons.mp ((insertByNumber_perm p qs).mem_iff.mp hr) with rfl | hr
      · exact hq
      · exact hFirst r hr

theorem Keyed.insertHost {h : HostOf (Option String)} (ht : t.Keyed)
    (hInsert : t.insertHost h = .ok u) : u.Keyed := by
  obtain ⟨g, -, rfl⟩ := insertHost_eq_ok_iff.mp hInsert
  exact ⟨ht.numbers, ht.words, ht.deploys⟩

theorem Keyed.insertProcess {p : ProcessOf (Option String)} (ht : t.Keyed)
    (hInsert : t.insertProcess p = .ok u) : u.Keyed := by
  obtain ⟨hFits, hNew, q, hComplete, rfl⟩ := insertProcess_eq_ok_iff.mp hInsert
  have hNumber := ProcessOf.funcId_of_complete? hComplete
  rw [ProcessOf.fits, ← hNumber] at hFits
  rw [← hNumber] at hNew
  refine ⟨pairwise_insertByNumber ht.numbers fun r hr hSame => ?_, fun r hr => ?_, ht.deploys⟩
  · exact hNew (List.mem_map.mpr ⟨r, hr, hSame⟩)
  · rcases List.mem_cons.mp ((insertByNumber_perm q t.procs).mem_iff.mp hr) with rfl | hr
    · exact hFits
    · exact ht.words r hr

theorem Keyed.insertDeploy {d : DeployOf (Option String)} (ht : t.Keyed)
    (hInsert : t.insertDeploy d = .ok u) : u.Keyed := by
  obtain ⟨-, rfl⟩ := (insertDeploy_eq_ok_iff (eraseDups_eq_self ht.deploys).symm).mp hInsert
  exact ⟨ht.numbers, ht.words, nodup_eraseDups _⟩

theorem Keyed.insert {batch : Batch} (ht : t.Keyed) (hInsert : t.insert batch = .ok u) :
    u.Keyed := by
  cases batch with
  | hosts records => exact foldlM_preserves Keyed.insertHost ht hInsert
  | procs records => exact foldlM_preserves Keyed.insertProcess ht hInsert
  | deploys records => exact foldlM_preserves Keyed.insertDeploy ht hInsert

end Tables

namespace Database

/-- The databases that come of a blank one. A batch that is not taken leaves the database as it was,
so it is no rule. -/
inductive Reachable : Database → Prop where
  | blank : Reachable .blank
  | made {db next : Database} : Reachable db → db.makeTables = .ok next → Reachable next
  | filled {db next : Database} (batch : Batch) :
      Reachable db → db.insert batch = .ok next → Reachable next
  | closed {db : Database} : Reachable db → Reachable db.close

variable {db next : Database} {t : Tables}

theorem insert_eq_ok {batch : Batch} (h : db.insert batch = .ok next) :
    ∃ t u, db = .ready t ∧ t.insert batch = .ok u ∧ next = .ready u := by
  cases db with
  | ready t =>
    rw [insert_ready] at h
    cases hInsert : t.insert batch with
    | ok u =>
      rw [hInsert] at h
      cases h
      exact ⟨t, u, rfl, hInsert, rfl⟩
    | error cause =>
      rw [hInsert] at h
      cases h
  | closed | broken | foreign | readOnly | blank => cases h

theorem Reachable.keyed (h : (ready t).Reachable) : t.Keyed := by
  generalize hReady : ready t = db at h
  induction h generalizing t with
  | blank => cases hReady
  | @made db _ _ hMade ih =>
    subst hReady
    cases db with
    | ready u =>
      cases hMade
      exact ih rfl
    | blank =>
      cases hMade
      exact Tables.keyed_empty
    | closed | broken | foreign | readOnly => cases hMade
  | filled batch hdb hFilled ih =>
    obtain ⟨u, v, rfl, hInsert, rfl⟩ := insert_eq_ok hFilled
    cases hReady
    exact (ih rfl).insert hInsert
  | closed => cases hReady

end Database

end TopologyExplorer

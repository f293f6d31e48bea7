import TopologyExplorer.Database.Basic
import TopologyExplorer.Proofs.Database.Inserts
import TopologyExplorer.Proofs.Descriptor.Success

/-!
# Batches

When the tables take a batch, and what they are then. A batch of hosts is taken if all its texts are
present, one of processes if moreover its numbers are words, distinct and new, one of placements if
its integers are words. All whole records of a batch that is taken are there afterwards: the tables
are a function of the batches that they have taken.
-/

namespace TopologyExplorer

section Texts

variable {τ : Type}

def HostOf.texts (h : HostOf τ) : List τ := [h.innerIp, h.hostName, h.worldId, h.zoneId]

def ProcessOf.texts (p : ProcessOf τ) : List τ :=
  [p.funcName, p.procName, p.groupName, p.workPath, p.procType]

theorem HostOf.complete?_eq_none_iff {h : HostOf (Option String)} :
    h.complete? = none ↔ none ∈ h.texts := by
  obtain ⟨ip, name, world, zone⟩ := h
  cases ip <;> cases name <;> cases world <;> cases zone <;> simp [complete?, texts]

theorem ProcessOf.complete?_eq_none_iff {p : ProcessOf (Option String)} :
    p.complete? = none ↔ none ∈ p.texts := by
  obtain ⟨number, func, proc, group, path, kind⟩ := p
  cases func <;> cases proc <;> cases group <;> cases path <;> cases kind <;>
    simp [complete?, texts]

theorem ProcessOf.funcId_of_complete? {p : ProcessOf (Option String)} {q : Process}
    (h : p.complete? = some q) : q.funcId = p.funcId := by
  unfold complete? at h
  simp only [bind, Option.bind_eq_some_iff] at h
  obtain ⟨_, -, _, -, _, -, _, -, _, -, hq⟩ := h
  cases hq
  rfl

end Texts

namespace Batch

/-- The hosts of a batch with all their texts. -/
def wholeHosts : Batch → List Host
  | hosts records => records.filterMap HostOf.complete?
  | procs _ | deploys _ => []

def wholeProcs : Batch → List Process
  | procs records => records.filterMap ProcessOf.complete?
  | hosts _ | deploys _ => []

/-- The placements of a batch that name a group. -/
def wholeDeploys : Batch → List Deploy
  | deploys records => records.filterMap DeployOf.complete?
  | hosts _ | procs _ => []

end Batch

namespace Tables

variable {t u : Tables}

/-- Nothing stands against the batch. A placement without a group is passed over, so its group does
not count. -/
def Takes (t : Tables) : Batch → Prop
  | .hosts records => ∀ h ∈ records, none ∉ h.texts
  | .procs records =>
    (∀ p ∈ records, none ∉ p.texts ∧ p.fits ∧ p.funcId ∉ t.procs.map ProcessOf.funcId) ∧
      (records.map ProcessOf.funcId).Nodup
  | .deploys records => ∀ d ∈ records, d.fits

instance (t : Tables) : DecidablePred t.Takes
  | .hosts _ => inferInstanceAs (Decidable (∀ _ ∈ _, _))
  | .procs _ => inferInstanceAs (Decidable (_ ∧ _))
  | .deploys _ => inferInstanceAs (Decidable (∀ _ ∈ _, _))

/-! ## One record -/

theorem insertHost_eq_ok_iff {h : HostOf (Option String)} :
    t.insertHost h = .ok u ↔
      ∃ g, h.complete? = some g ∧ u = { t with hosts := t.hosts ++ [g] } := by
  unfold insertHost
  cases h.complete? <;> simp [eq_comm (a := u)]

theorem insertProcess_eq_ok_iff {p : ProcessOf (Option String)} :
    t.insertProcess p = .ok u ↔
      p.fits ∧ p.funcId ∉ t.procs.map ProcessOf.funcId ∧
        ∃ q, p.complete? = some q ∧ u = { t with procs := insertByNumber q t.procs } := by
  unfold insertProcess ProcessOf.fits
  cases hWord : DecimalText.isWord p.funcId with
  | false => simp
  | true =>
    cases hComplete : p.complete? with
    | none => simp
    | some q =>
      have hAny : t.procs.any (fun r => r.funcId = q.funcId) ↔
          p.funcId ∈ t.procs.map ProcessOf.funcId := by
        simp [ProcessOf.funcId_of_complete? hComplete]
      by_cases hTaken : p.funcId ∈ t.procs.map ProcessOf.funcId
      · simp [hAny.mpr hTaken, hTaken]
      · simp [Bool.eq_false_iff.mpr (mt hAny.mp hTaken), hTaken, eq_comm (a := u)]

theorem insertDeploy_eq_ok_iff {d : DeployOf (Option String)} {before : List Deploy}
    (h : t.deploys = before.eraseDups) :
    t.insertDeploy d = .ok u ↔
      d.fits ∧ u = { t with deploys := (before ++ d.complete?.toList).eraseDups } := by
  unfold insertDeploy
  by_cases hFits : d.fits
  · rw [if_neg (mt DeployOf.not_fits_iff.mpr (not_not_intro hFits))]
    cases d.complete? with
    | none => simp [hFits, ← h, eq_comm (a := u)]
    | some e =>
      have hOnce := eraseDups_concat before e
      rw [← h] at hOnce
      have hMem : e ∈ before ↔ e ∈ t.deploys := by rw [h, List.mem_eraseDups]
      by_cases hOld : e ∈ t.deploys
      · simp [hFits, hOld, hOnce, hMem, eq_comm (a := u)]
      · simp [hFits, hOld, hOnce, hMem, eq_comm (a := u)]
  · rw [if_pos (DeployOf.not_fits_iff.mp hFits)]
    simp [hFits]

/-! ## A batch -/

theorem foldlM_cons_eq_ok_iff {ε α β : Type} {f : β → α → Except ε β} {x : α} {xs : List α}
    {b c : β} :
    (x :: xs).foldlM f b = .ok c ↔ ∃ d, f b x = .ok d ∧ xs.foldlM f d = .ok c := by
  rw [List.foldlM_cons]
  exact bind_eq_ok_iff

theorem insert_hosts_eq_ok_iff {records : List (HostOf (Option String))} :
    t.insert (.hosts records) = .ok u ↔
      t.Takes (.hosts records) ∧
        u = { t with hosts := t.hosts ++ records.filterMap HostOf.complete? } := by
  induction records generalizing t with
  | nil => simp [insert, Takes, pure, Except.pure, eq_comm (a := u)]
  | cons h records ih =>
    have hBatch : t.insert (.hosts (h :: records)) = .ok u ↔
        ∃ d, t.insertHost h = .ok d ∧ d.insert (.hosts records) = .ok u := foldlM_cons_eq_ok_iff
    rw [hBatch]
    simp only [insertHost_eq_ok_iff, ih, Takes, List.forall_mem_cons]
    cases hComplete : h.complete? with
    | none => simp [HostOf.complete?_eq_none_iff.mp hComplete]
    | some g =>
      have hTexts : none ∉ h.texts := by
        rw [← HostOf.complete?_eq_none_iff, hComplete]
        exact Option.some_ne_none g
      simp [hTexts, hComplete]

theorem mem_funcIds_insertByNumber {p : ProcessOf (Option String)} {q : Process}
    (h : p.complete? = some q) (n : Int) :
    n ∈ (insertByNumber q t.procs).map ProcessOf.funcId ↔
      n = p.funcId ∨ n ∈ t.procs.map ProcessOf.funcId := by
  rw [((insertByNumber_perm q t.procs).map _).mem_iff, List.map_cons, List.mem_cons,
    ProcessOf.funcId_of_complete? h]

/-- A batch of processes is taken if its first one is, and the others then are: a number that comes
twice in the batch is one that the table has by then. -/
theorem takes_procs_cons_iff {p : ProcessOf (Option String)} {q : Process}
    {records : List (ProcessOf (Option String))} (h : p.complete? = some q) :
    t.Takes (.procs (p :: records)) ↔
      p.fits ∧ p.funcId ∉ t.procs.map ProcessOf.funcId ∧
        { t with procs := insertByNumber q t.procs }.Takes (.procs records) := by
  have hTexts : none ∉ p.texts := by
    rw [← ProcessOf.complete?_eq_none_iff, h]
    exact Option.some_ne_none q
  simp only [Takes, mem_funcIds_insertByNumber h, List.forall_mem_cons, List.map_cons,
    List.nodup_cons, List.mem_map (b := p.funcId), not_or]
  constructor
  · rintro ⟨⟨⟨-, hFits, hNew⟩, hAll⟩, hOnce, hDistinct⟩
    refine ⟨hFits, hNew, fun r hr => ?_, hDistinct⟩
    refine ⟨(hAll r hr).1, (hAll r hr).2.1, ?_, (hAll r hr).2.2⟩
    intro hSame
    exact hOnce ⟨r, hr, hSame⟩
  · rintro ⟨hFits, hNew, hAll, hDistinct⟩
    refine ⟨⟨⟨hTexts, hFits, hNew⟩, fun r hr => ?_⟩, ?_, hDistinct⟩
    · exact ⟨(hAll r hr).1, (hAll r hr).2.1, (hAll r hr).2.2.2⟩
    · rintro ⟨r, hr, hSame⟩
      exact (hAll r hr).2.2.1 hSame

theorem insert_procs_eq_ok_iff {records : List (ProcessOf (Option String))} :
    t.insert (.procs records) = .ok u ↔
      t.Takes (.procs records) ∧
        u = { t with
          procs := (records.filterMap ProcessOf.complete?).foldl
            (fun sorted p => insertByNumber p sorted) t.procs } := by
  induction records generalizing t with
  | nil => simp [insert, Takes, pure, Except.pure, eq_comm (a := u)]
  | cons p records ih =>
    have hBatch : t.insert (.procs (p :: records)) = .ok u ↔
        ∃ d, t.insertProcess p = .ok d ∧ d.insert (.procs records) = .ok u := foldlM_cons_eq_ok_iff
    rw [hBatch]
    simp only [insertProcess_eq_ok_iff, ih]
    cases hComplete : p.complete? with
    | none => simp [Takes, ProcessOf.complete?_eq_none_iff.mp hComplete]
    | some q =>
      have hWhole : (p :: records).filterMap ProcessOf.complete? =
          q :: records.filterMap ProcessOf.complete? := List.filterMap_cons_some hComplete
      rw [hWhole, List.foldl_cons, takes_procs_cons_iff hComplete]
      constructor
      · rintro ⟨_, ⟨hFits, hNew, _, hq, rfl⟩, hRest, rfl⟩
        cases hq
        exact ⟨⟨hFits, hNew, hRest⟩, rfl⟩
      · rintro ⟨⟨hFits, hNew, hRest⟩, rfl⟩
        exact ⟨_, ⟨hFits, hNew, q, rfl, rfl⟩, hRest, rfl⟩

theorem insert_deploys_eq_ok_iff {records : List (DeployOf (Option String))}
    {before : List Deploy} (h : t.deploys = before.eraseDups) :
    t.insert (.deploys records) = .ok u ↔
      t.Takes (.deploys records) ∧
        u = { t with deploys := (before ++ records.filterMap DeployOf.complete?).eraseDups } := by
  induction records generalizing t before with
  | nil => simp [insert, Takes, pure, Except.pure, ← h, eq_comm (a := u)]
  | cons d records ih =>
    have hBatch : t.insert (.deploys (d :: records)) = .ok u ↔
        ∃ c, t.insertDeploy d = .ok c ∧ c.insert (.deploys records) = .ok u := foldlM_cons_eq_ok_iff
    have hWhole : (d :: records).filterMap DeployOf.complete? =
        d.complete?.toList ++ records.filterMap DeployOf.complete? := by
      cases hComplete : d.complete? <;> simp [hComplete]
    rw [hBatch, hWhole, ← List.append_assoc]
    simp only [insertDeploy_eq_ok_iff h, Takes, List.forall_mem_cons]
    constructor
    · rintro ⟨c, ⟨hFits, rfl⟩, hRest⟩
      obtain ⟨hAll, rfl⟩ := (ih rfl).mp hRest
      exact ⟨⟨hFits, hAll⟩, rfl⟩
    · rintro ⟨⟨hFits, hAll⟩, rfl⟩
      exact ⟨_, ⟨hFits, rfl⟩, (ih rfl).mpr ⟨hAll, rfl⟩⟩

/-! ## Batches that were taken -/

/-- The tables that have taken batches: hosts in the order in which they came, processes by their
numbers, each placement once, where it came first. -/
def ofBatches (batches : List Batch) : Tables where
  hosts := batches.flatMap Batch.wholeHosts
  procs := byNumber (batches.flatMap Batch.wholeProcs)
  deploys := (batches.flatMap Batch.wholeDeploys).eraseDups

theorem insert_ofBatches_eq_ok_iff {batches : List Batch} {batch : Batch} :
    (ofBatches batches).insert batch = .ok u ↔
      (ofBatches batches).Takes batch ∧ u = ofBatches (batches ++ [batch]) := by
  have hMore : ∀ {α : Type} (whole : Batch → List α),
      (batches ++ [batch]).flatMap whole = batches.flatMap whole ++ whole batch := by
    intro α whole
    rw [List.flatMap_append, List.flatMap_singleton]
  rw [ofBatches, ofBatches, hMore, hMore, hMore]
  cases batch with
  | hosts records =>
    simp only [insert_hosts_eq_ok_iff, Batch.wholeHosts, Batch.wholeProcs, Batch.wholeDeploys,
      List.append_nil]
  | procs records =>
    simp only [insert_procs_eq_ok_iff, Batch.wholeHosts, Batch.wholeProcs, Batch.wholeDeploys,
      List.append_nil, byNumber, List.foldl_append]
  | deploys records =>
    simp only [Batch.wholeHosts, Batch.wholeProcs, Batch.wholeDeploys, List.append_nil]
    exact insert_deploys_eq_ok_iff rfl

end Tables

theorem Database.insert_ready (t : Tables) (batch : Batch) :
    (ready t).insert batch =
      match t.insert batch with
      | .ok u => .ok (ready u)
      | .error cause => .error (.rejected cause) := by
  cases hInsert : t.insert batch <;>
    simp [Database.insert, tables, hInsert, bind, Except.bind, pure, Except.pure, throw, throwThe,
      MonadExceptOf.throw]

end TopologyExplorer

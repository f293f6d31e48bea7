import TopologyExplorer.Proofs.Database.Keys
import TopologyExplorer.Proofs.Topology.Stages

/-!
# What a load leaves

A load into empty tables reaches one of four stages, and the first step that fails decides which.
The tables of each stage are said here by what they hold. No table is ever filled in part.
-/

namespace TopologyExplorer

namespace Tables

/-- The hosts of placements, each once, where it comes first, and processes by ascending number. -/
structure Holds (t : Tables) (placements : List Placement) (procs : List Process) : Prop where
  hosts : t.hosts = (placements.map Placement.host).eraseDups
  procs : t.procs.Perm procs
  ascending : t.procs.Pairwise fun p q => p.funcId < q.funcId

variable {t : Tables} {placements : List Placement} {procs : List Process} {p : Placement}

theorem pairwise_byNumber (h : (procs.map ProcessOf.funcId).Nodup) :
    (byNumber procs).Pairwise fun p q => p.funcId < q.funcId := by
  induction procs using List.reverseRecOn with
  | nil => exact .nil
  | append_singleton procs p ih =>
    rw [List.map_append] at h
    obtain ⟨hBefore, -, hApart⟩ := List.nodup_append.mp h
    rw [byNumber, List.foldl_concat]
    refine pairwise_insertByNumber (ih hBefore) fun q hq => ?_
    have hOld := (byNumber_perm procs).mem_iff.mp hq
    exact hApart _ (List.mem_map_of_mem hOld) _ (by simp)

theorem holds_iff (hDistinct : (procs.map ProcessOf.funcId).Nodup) :
    t.Holds placements procs ↔ t.hosts = Placement.hosts placements ∧ t.procs = byNumber procs := by
  have hAscending := pairwise_byNumber hDistinct
  constructor
  · intro h
    have hSame : t.procs.Perm (byNumber procs) := h.procs.trans (byNumber_perm procs).symm
    have hAsymm : ∀ p q : Process, p.funcId < q.funcId → ¬q.funcId < p.funcId :=
      fun _ _ hLess hGreater => Int.lt_asymm hLess hGreater
    refine ⟨h.hosts.trans (Placement.hosts_eq placements).symm, ?_⟩
    exact hSame.eq_of_pairwise (fun p q _ _ hLess hGreater => absurd hGreater (hAsymm p q hLess))
      h.ascending hAscending
  · rintro ⟨hHosts, hProcs⟩
    exact ⟨hHosts.trans (Placement.hosts_eq placements), hProcs ▸ byNumber_perm procs,
      hProcs ▸ hAscending⟩

theorem isWord_of_le {m n : Nat} (h : m ≤ n) (hn : DecimalText.isWord n) :
    DecimalText.isWord m := by
  simp [DecimalText.isWord, DecimalText.leastWord, DecimalText.greatestWord] at hn ⊢
  omega

theorem Holds.isWord_idOf (ht : t.Holds placements procs)
    (hFew : DecimalText.isWord t.hosts.length) (hp : p ∈ placements) :
    DecimalText.isWord (t.idOf p.host) := by
  have hMem : p.host ∈ t.hosts := by
    rw [ht.hosts, List.mem_eraseDups]
    exact List.mem_map_of_mem hp
  have hFound : t.hosts.findIdx (fun g => g.SamePlace p.host) < t.hosts.length :=
    List.findIdx_lt_length_of_exists ⟨p.host, hMem, by simp [HostOf.SamePlace]⟩
  exact isWord_of_le hFound hFew

theorem rowOf_congr {u : Tables} (h : t.hosts = u.hosts) : t.rowOf = u.rowOf := by
  funext p
  rw [rowOf, rowOf, idOf, idOf, h]

theorem fits_rowOf_iff : (t.rowOf p).fits ↔
    DecimalText.isWord p.instId ∧ DecimalText.isWord (t.idOf p.host) := by
  rw [DeployOf.fits, Bool.and_eq_true, rowOf, and_comm]

end Tables

namespace Topology

variable {look : Path → Found} {config : Path} {aliases : AliasTable}
  {placements : List Placement} {procs : List Process} {t : Tables} {answer : Option AliasTable}

/-! ## What the tables hold -/

theorem rowsOf_fits_iff (h : t.hosts = Placement.hosts placements) :
    (rowsOf placements).all DeployOf.fits ↔
      ∀ p ∈ placements, DecimalText.isWord p.instId ∧ DecimalText.isWord (t.idOf p.host) := by
  have hRow : (withHosts placements).rowOf = t.rowOf := Tables.rowOf_congr h.symm
  rw [rowsOf, hRow, List.all_eq_true, List.forall_mem_map]
  exact forall₂_congr fun p _ => Tables.fits_rowOf_iff

theorem nodup_no_procs : (([] : List Process).map ProcessOf.funcId).Nodup := List.nodup_nil

theorem eq_of_holds (hDistinct : (procs.map ProcessOf.funcId).Nodup)
    (h : t.Holds placements procs) :
    t = { withProcs placements procs with deploys := t.deploys } := by
  obtain ⟨hHosts, hProcs⟩ := (Tables.holds_iff hDistinct).mp h
  rw [withProcs, withHosts, ← hHosts, ← hProcs]

/-! ## The stage of a load -/

section

variable [Xml.Codecs]

/-- The stages of a load, with the tables of each and the aliases that the load answers with, if
every step succeeds. -/
inductive Stage (look : Path → Found) (config : Path) : Tables → Option AliasTable → Prop where
  /-- A descriptor is missing, or that of the hosts or of the placements is refused. -/
  | empty : (∀ aliases placements, ¬Reads look config aliases placements) →
      Stage look config .empty none
  /-- The descriptor of the processes is refused, or a number is no word. -/
  | hosts {t : Tables} {aliases : AliasTable} {placements : List Placement} :
      Reads look config aliases placements →
      (∀ procs, procsAt look (config.child procFile) = .ok procs →
        ∃ p ∈ procs, ¬DecimalText.isWord p.funcId) →
      t.Holds placements [] → t.deploys = [] → Stage look config t none
  /-- An instance is no word. The id of a host is one, unless there are more hosts than ids. -/
  | procs {t : Tables} {aliases : AliasTable} {placements : List Placement}
      {procs : List Process} :
      Reads look config aliases placements →
      procsAt look (config.child procFile) = .ok procs →
      (∀ p ∈ procs, DecimalText.isWord p.funcId) →
      (∃ p ∈ placements, ¬DecimalText.isWord p.instId ∨ ¬DecimalText.isWord (t.idOf p.host)) →
      t.Holds placements procs → t.deploys = [] → Stage look config t none
  | filled {t : Tables} {aliases : AliasTable} {placements : List Placement}
      {procs : List Process} :
      Reads look config aliases placements →
      procsAt look (config.child procFile) = .ok procs →
      (∀ p ∈ procs, DecimalText.isWord p.funcId) →
      (∀ p ∈ placements, DecimalText.isWord p.instId ∧ DecimalText.isWord (t.idOf p.host)) →
      t.Holds placements procs → t.deploys = (placements.map t.rowOf).eraseDups →
      Stage look config t (some aliases)

theorem Ends.unique {outcome other : Except LoadFault AliasTable} {u : Tables}
    (h : Ends look config outcome t) (hOther : Ends look config other u) :
    outcome = other ∧ t = u := by
  cases h <;> cases hOther <;> grind

theorem nodup_of_procsAt {path : Path} (h : procsAt look path = .ok procs) :
    (procs.map ProcessOf.funcId).Nodup := by
  obtain ⟨root, -, hRead⟩ := procsAt_eq_ok h
  exact Processes.nodup_of_result hRead

theorem Ends.stage {outcome : Except LoadFault AliasTable} (h : Ends look config outcome t) :
    Stage look config t outcome.toOption := by
  cases h with
  | unprepared hPrepare =>
    refine .empty fun aliases placements hReads => ?_
    cases hPrepare.symm.trans (prepare_eq_ok_iff.mpr hReads)
  | unread hPrepare hUnread =>
    refine .hosts (prepare_eq_ok_iff.mp hPrepare) (fun procs hProcs => ?_)
      ((Tables.holds_iff nodup_no_procs).mpr ⟨rfl, rfl⟩) rfl
    cases hUnread.symm.trans hProcs
  | wideProcess hPrepare hProcs hWide =>
    refine .hosts (prepare_eq_ok_iff.mp hPrepare) (fun procs hRead => ?_)
      ((Tables.holds_iff nodup_no_procs).mpr ⟨rfl, rfl⟩) rfl
    cases hProcs.symm.trans hRead
    simpa [ProcessOf.fits] using hWide
  | @widePlacement _ placements procs hPrepare hProcs hNumbers hWide =>
    refine .procs (prepare_eq_ok_iff.mp hPrepare) hProcs ?_ ?_
      ((Tables.holds_iff (nodup_of_procsAt hProcs)).mpr ⟨rfl, rfl⟩) rfl
    · simpa [ProcessOf.fits] using hNumbers
    · have hRow := mt (rowsOf_fits_iff (t := withProcs placements procs) rfl).mpr hWide
      simpa only [not_forall, exists_prop, not_and_or] using hRow
  | filled hPrepare hProcs hNumbers hRows =>
    refine .filled (prepare_eq_ok_iff.mp hPrepare) hProcs ?_ ?_
      ((Tables.holds_iff (nodup_of_procsAt hProcs)).mpr ⟨rfl, rfl⟩) rfl
    · simpa [ProcessOf.fits] using hNumbers
    · exact (rowsOf_fits_iff rfl).mp hRows

theorem Stage.ends (h : Stage look config t answer) :
    ∃ outcome, Ends look config outcome t ∧ outcome.toOption = answer := by
  cases h with
  | empty hNone =>
    cases hPrepare : prepare look config with
    | ok known => exact absurd (prepare_eq_ok_iff.mp hPrepare) (hNone _ _)
    | error fault => exact ⟨_, .unprepared hPrepare, rfl⟩
  | @hosts _ aliases placements hReads hStop hHolds hRows =>
    have hTables : t = withHosts placements := by
      rw [eq_of_holds nodup_no_procs hHolds, hRows]
      rfl
    rw [hTables]
    have hPrepare := prepare_eq_ok_iff.mpr hReads
    cases hProcs : procsAt look (config.child procFile) with
    | error fault => exact ⟨_, .unread hPrepare hProcs, rfl⟩
    | ok procs =>
      obtain ⟨p, hp, hWide⟩ := hStop procs hProcs
      refine ⟨_, .wideProcess hPrepare hProcs fun hAll => hWide ?_, rfl⟩
      exact List.all_eq_true.mp hAll p hp
  | @procs _ aliases placements procs hReads hProcs hNumbers hWide hHolds hRows =>
    have hTables : t = withProcs placements procs := by
      rw [eq_of_holds (nodup_of_procsAt hProcs) hHolds, hRows]
      rfl
    rw [hTables] at hWide ⊢
    refine ⟨_, .widePlacement (prepare_eq_ok_iff.mpr hReads) hProcs (List.all_eq_true.mpr hNumbers)
      fun hAll => ?_, rfl⟩
    obtain ⟨p, hp, hWide⟩ := hWide
    obtain ⟨hInst, hId⟩ := (rowsOf_fits_iff (t := withProcs placements procs) rfl).mp hAll p hp
    exact hWide.elim (absurd hInst) (absurd hId)
  | @filled _ aliases placements procs hReads hProcs hNumbers hFits hHolds hRows =>
    have hHosts : (withHosts placements).hosts = t.hosts :=
      ((Tables.holds_iff (nodup_of_procsAt hProcs)).mp hHolds).1.symm
    have hTables : t = withDeploys placements procs := by
      rw [eq_of_holds (nodup_of_procsAt hProcs) hHolds, hRows, withDeploys, rowsOf,
        Tables.rowOf_congr hHosts]
    refine ⟨.ok aliases, ?_, rfl⟩
    rw [hTables]
    exact .filled (prepare_eq_ok_iff.mpr hReads) hProcs (List.all_eq_true.mpr hNumbers)
      ((rowsOf_fits_iff hHosts.symm).mpr hFits)

/-- The tables that a load into empty ones leaves, and the aliases that it answers with, are those
of the one stage that it reaches. As long as the number of hosts is a word, their ids are words, and
only an instance can keep the placements out. -/
theorem load_leaves_stage_iff (look : Path → Found) (config : Path) :
    (∀ t answer, Stage look config t answer ↔
      (load look config (.ready .empty)).database = .ready t ∧
      (load look config (.ready .empty)).outcome.toOption = answer) ∧
    ∀ (t : Tables) placements procs, t.Holds placements procs →
      DecimalText.isWord t.hosts.length → ∀ p ∈ placements, DecimalText.isWord (t.idOf p.host) := by
  refine ⟨fun t answer => ?_, fun t placements procs ht hFew p hp => ht.isWord_idOf hFew hp⟩
  obtain ⟨u, hTables, hEnds⟩ := load_ends look config
  constructor
  · intro hStage
    obtain ⟨outcome, hOther, rfl⟩ := hStage.ends
    obtain ⟨hOutcome, rfl⟩ := hEnds.unique hOther
    exact ⟨hTables, by rw [hOutcome]⟩
  · rintro ⟨hSame, rfl⟩
    cases hTables.symm.trans hSame
    exact hEnds.stage

end

/-- Of two placements on the machine itself the second has an instance that is no word. -/
def wideInstance : FileTree := .ofDescriptors "<h/>"
  ("<p><ProcGroup Name='g'><Proc FuncName='a'/></ProcGroup>" ++
    "<cluster><Proc FuncName='a' FuncID='7'/></cluster></p>")
  ("<ClusterDeploy><DeloyGroup Group='g'/>" ++
    "<DeloyGroup Group='g' InstID='9223372036854775808'/></ClusterDeploy>")

/-- The first placement is not left behind alone. -/
theorem load_leaves_stage_wide_instance :
    ((load wideInstance.look (.ofText "config") (.ready .empty)).database =
        .ready ⟨[⟨"127.0.0.1", "TcmHost", "0", "0"⟩], [⟨7, "a", "a", "g", "././", "Cluster"⟩], []⟩ ∧
      (load wideInstance.look (.ofText "config") (.ready .empty)).outcome.toOption = none) ∧
    Stage wideInstance.look (.ofText "config")
      ⟨[⟨"127.0.0.1", "TcmHost", "0", "0"⟩], [⟨7, "a", "a", "g", "././", "Cluster"⟩], []⟩ none := by
  have hLoad : (load wideInstance.look (.ofText "config") (.ready .empty)).database =
        .ready ⟨[⟨"127.0.0.1", "TcmHost", "0", "0"⟩], [⟨7, "a", "a", "g", "././", "Cluster"⟩], []⟩ ∧
      (load wideInstance.look (.ofText "config") (.ready .empty)).outcome.toOption = none := by
    decide +kernel
  exact ⟨hLoad, ((load_leaves_stage_iff wideInstance.look (.ofText "config")).1 _ _).mpr hLoad⟩

end Topology

end TopologyExplorer

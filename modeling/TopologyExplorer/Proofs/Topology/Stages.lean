import TopologyExplorer.Proofs.Database.Batches
import TopologyExplorer.Proofs.Database.HostIds
import TopologyExplorer.Topology

/-!
# Stages of a load

Each stage of a load as one equation, on a database with tables: the hosts always go in, the
processes may be unreadable, and an integer that is no word stops the processes or the placements.
Each placement finds its host. What a load into empty tables can come to follows, with the tables
that it leaves: one rule for each stage at which it may stop.
-/

namespace TopologyExplorer

/-- The row of a placement, with the id that its host is looked up with. -/
def Tables.rowOf (t : Tables) (p : Placement) : Deploy := ⟨t.idOf p.host, p.groupName, p.instId⟩

/-- The tables hold the hosts and the rows of placements, each once, and no other. -/
structure Tables.HoldsRowsOf (t : Tables) (placements : List Placement) : Prop where
  hosts : t.hosts = Placement.hosts placements
  deploys : t.deploys = (placements.map t.rowOf).eraseDups

namespace Tables

variable {t : Tables} {placements : List Placement}

theorem HoldsRowsOf.mem_hosts (ht : t.HoldsRowsOf placements) {h : Host} :
    h ∈ t.hosts ↔ ∃ p ∈ placements, p.host = h := by
  rw [ht.hosts, Placement.mem_hosts]

theorem HoldsRowsOf.mem_deploys (ht : t.HoldsRowsOf placements) {d : Deploy} :
    d ∈ t.deploys ↔ ∃ p ∈ placements, t.rowOf p = d := by
  rw [ht.deploys, List.mem_eraseDups, List.mem_map]

theorem HoldsRowsOf.idOf_mem (ht : t.HoldsRowsOf placements) {p : Placement} (hp : p ∈ placements) :
    ∃ g, (g, t.idOf p.host) ∈ t.numberedHosts ∧ g.SamePlace p.host :=
  Tables.idOf_mem ⟨p.host, ht.mem_hosts.mpr ⟨p, hp, rfl⟩, rfl, rfl, rfl⟩

end Tables

namespace Topology

/-! ## The tables of a load -/

def withHosts (placements : List Placement) : Tables := ⟨Placement.hosts placements, [], []⟩

def withProcs (placements : List Placement) (procs : List Process) : Tables :=
  { withHosts placements with procs := Tables.byNumber procs }

/-- The rows of placements, before repeats are left out. -/
def rowsOf (placements : List Placement) : List Deploy :=
  placements.map (withHosts placements).rowOf

def withDeploys (placements : List Placement) (procs : List Process) : Tables :=
  { withProcs placements procs with deploys := (rowsOf placements).eraseDups }

/-! ## The stages -/

variable {look : Path → Found} {config : Path} {aliases : AliasTable}
  {placements : List Placement} {t : Tables} {journal : List JournalEntry}

theorem insert_ready (t : Tables) (batch : Batch) :
    insert (.ready t) batch =
      match t.insert batch with
      | .ok u => .ok (.ready u)
      | .error cause => .error (.refused (.rejected cause)) := by
  rw [insert, Database.insert_ready]
  cases t.insert batch <;> rfl

theorem deployOf_ready {path : Path} {p : Placement} (h : p.host ∈ t.hosts) :
    deployOf (.ready t) path p = .ok (t.rowOf p) := by
  have hFound : t.hostId? p.innerIp p.worldId p.zoneId = some (t.idOf p.host) :=
    Tables.hostId?_eq_some ⟨p.host, h, rfl, rfl, rfl⟩
  have hLookup : (Database.ready t).hostId? p.innerIp p.worldId p.zoneId =
      .ok (some (t.idOf p.host)) := congrArg Except.ok hFound
  rw [deployOf, hLookup]
  rfl

theorem loadDeploys_withProcs (procs : List Process) :
    loadDeploys config aliases placements (.ready (withProcs placements procs)) journal =
      if (rowsOf placements).all DeployOf.fits then
        ⟨.ready (withDeploys placements procs),
          journal ++ [loaded placements.length "deploy placements"], .ok aliases⟩
      else
        ⟨.ready (withProcs placements procs), journal, .error (.refused (.rejected .outOfRange))⟩ := by
  have hRows : placements.mapM
      (deployOf (.ready (withProcs placements procs)) (config.child deployFile)) =
      .ok (rowsOf placements) :=
    mapM_eq_ok_map fun p hp => deployOf_ready (Placement.mem_hosts.mpr ⟨p, hp, rfl⟩)
  have hInsert : (withProcs placements procs).insert
      (.deploys ((rowsOf placements).map DeployOf.present)) =
      if (rowsOf placements).all DeployOf.fits then .ok (withDeploys placements procs)
      else .error .outOfRange := Tables.insert_deploys (withProcs placements procs) [] _ rfl
  have hLength : (rowsOf placements).length = placements.length := List.length_map _
  unfold loadDeploys
  rw [hRows]
  by_cases hFits : (rowsOf placements).all DeployOf.fits = true
  · rw [if_pos hFits] at hInsert
    simp only [insert_ready, hInsert, bind, Except.bind, pure, Except.pure, if_pos hFits, hLength]
  · rw [if_neg hFits] at hInsert
    simp only [insert_ready, hInsert, bind, Except.bind, if_neg hFits]

theorem holdsRowsOf_withDeploys (placements : List Placement) (procs : List Process) :
    (withDeploys placements procs).HoldsRowsOf placements := ⟨rfl, rfl⟩

variable [Xml.Codecs]

theorem loadHosts_ready :
    loadHosts look config aliases placements (.ready t) =
      loadProcs look config aliases placements
        (.ready { t with hosts := t.hosts ++ Placement.hosts placements })
        [loaded (Placement.hosts placements).length "hosts"] := by
  simp only [loadHosts, insert_ready, Tables.insert_hosts]

def procsAt (look : Path → Found) (path : Path) : Except LoadFault (List Process) := do
  let root ← rootAt look path
  (Processes.ofElement path root).result.mapError .descriptor

theorem procsAt_eq_error {path : Path} {fault : LoadFault} (h : procsAt look path = .error fault) :
    rootAt look path = .error fault ∨ ∃ root found, rootAt look path = .ok root ∧
      (Processes.ofElement path root).result = .error found ∧ fault = .descriptor found := by
  unfold procsAt at h
  cases hRoot : rootAt look path with
  | error found =>
    rw [hRoot] at h
    cases h
    exact .inl rfl
  | ok root =>
    cases hRead : (Processes.ofElement path root).result with
    | error found =>
      simp only [hRoot, hRead, bind, Except.bind, Except.mapError] at h
      cases h
      exact .inr ⟨root, found, rfl, hRead, rfl⟩
    | ok procs =>
      simp only [hRoot, hRead, bind, Except.bind, Except.mapError] at h
      cases h

theorem procsAt_eq_ok {path : Path} {procs : List Process} (h : procsAt look path = .ok procs) :
    ∃ root, rootAt look path = .ok root ∧ (Processes.ofElement path root).result = .ok procs := by
  unfold procsAt at h
  cases hRoot : rootAt look path with
  | error found =>
    rw [hRoot] at h
    cases h
  | ok root =>
    cases hRead : (Processes.ofElement path root).result with
    | error found =>
      simp only [hRoot, hRead, bind, Except.bind, Except.mapError] at h
      cases h
    | ok found =>
      simp only [hRoot, hRead, bind, Except.bind, Except.mapError] at h
      cases h
      exact ⟨root, rfl, hRead⟩

theorem loadProcs_unread {fault : LoadFault}
    (h : procsAt look (config.child procFile) = .error fault) :
    ∃ noted, loadProcs look config aliases placements (.ready t) journal =
      ⟨.ready t, noted, .error fault⟩ := by
  unfold loadProcs
  rcases procsAt_eq_error h with hRoot | ⟨root, found, hRoot, hRead, rfl⟩
  · simp only [hRoot]
    exact ⟨_, rfl⟩
  · simp only [hRoot, hRead]
    exact ⟨_, rfl⟩

theorem loadProcs_read {procs : List Process}
    (h : procsAt look (config.child procFile) = .ok procs) :
    ∃ noted, loadProcs look config aliases placements (.ready (withHosts placements)) journal =
      if procs.all ProcessOf.fits then
        loadDeploys config aliases placements (.ready (withProcs placements procs)) noted
      else ⟨.ready (withHosts placements), noted, .error (.refused (.rejected .outOfRange))⟩ := by
  obtain ⟨root, hRoot, hRead⟩ := procsAt_eq_ok h
  have hInsert := Tables.insert_procs (withHosts placements) procs (Processes.nodup_of_result hRead)
  unfold loadProcs
  simp only [hRoot, hRead, insert_ready, hInsert]
  by_cases hFits : procs.all ProcessOf.fits = true
  · simp only [if_pos hFits]
    exact ⟨_, rfl⟩
  · simp only [if_neg hFits]
    exact ⟨_, rfl⟩

/-- The three descriptors are there, and those of the hosts and of the placements can be read. -/
structure Reads (look : Path → Found) (config : Path) (aliases : AliasTable)
    (placements : List Placement) : Prop where
  present : ∀ name ∈ [deployFile, hostFile, procFile],
    checkPresent look (config.child name) = .ok ()
  ofHosts : aliasesAt look (config.child hostFile) = .ok aliases
  ofPlacements : placementsAt look (config.child deployFile) aliases = .ok placements

theorem prepare_eq_ok_iff :
    prepare look config = .ok (aliases, placements) ↔ Reads look config aliases placements := by
  unfold prepare checkAll
  simp only [bind_eq_ok_iff, pure, Except.pure, Except.ok.injEq, Prod.mk.injEq]
  constructor
  · rintro ⟨_, hPresent, known, hHosts, placed, hPlacements, rfl, rfl⟩
    exact ⟨forM_eq_ok_iff.mp hPresent, hHosts, hPlacements⟩
  · rintro ⟨hPresent, hHosts, hPlacements⟩
    exact ⟨(), forM_eq_ok_iff.mpr hPresent, aliases, hHosts, placements, hPlacements, rfl, rfl⟩

/-- The rules by which a load into empty tables ends, with the tables it leaves. -/
inductive Ends (look : Path → Found) (config : Path) :
    Except LoadFault AliasTable → Tables → Prop where
  | unprepared {fault : LoadFault} :
      prepare look config = .error fault → Ends look config (.error fault) .empty
  | unread {aliases : AliasTable} {placements : List Placement} {fault : LoadFault} :
      prepare look config = .ok (aliases, placements) →
      procsAt look (config.child procFile) = .error fault →
      Ends look config (.error fault) (withHosts placements)
  | wideProcess {aliases : AliasTable} {placements : List Placement} {procs : List Process} :
      prepare look config = .ok (aliases, placements) →
      procsAt look (config.child procFile) = .ok procs → ¬procs.all ProcessOf.fits →
      Ends look config (.error (.refused (.rejected .outOfRange))) (withHosts placements)
  | widePlacement {aliases : AliasTable} {placements : List Placement} {procs : List Process} :
      prepare look config = .ok (aliases, placements) →
      procsAt look (config.child procFile) = .ok procs → procs.all ProcessOf.fits →
      ¬(rowsOf placements).all DeployOf.fits →
      Ends look config (.error (.refused (.rejected .outOfRange))) (withProcs placements procs)
  | filled {aliases : AliasTable} {placements : List Placement} {procs : List Process} :
      prepare look config = .ok (aliases, placements) →
      procsAt look (config.child procFile) = .ok procs → procs.all ProcessOf.fits →
      (rowsOf placements).all DeployOf.fits →
      Ends look config (.ok aliases) (withDeploys placements procs)

theorem load_eq_loadProcs (h : prepare look config = .ok (aliases, placements)) :
    load look config (.ready .empty) =
      loadProcs look config aliases placements (.ready (withHosts placements))
        [loaded (Placement.hosts placements).length "hosts"] := by
  simp only [load, h, loadHosts_ready, Tables.empty, List.nil_append, withHosts]

theorem load_ends (look : Path → Found) (config : Path) :
    ∃ t, (load look config (.ready .empty)).database = .ready t ∧
      Ends look config (load look config (.ready .empty)).outcome t := by
  cases hPrepare : prepare look config with
  | error fault =>
    have hLoad : load look config (.ready .empty) = ⟨.ready .empty, [], .error fault⟩ := by
      simp only [load, hPrepare]
    rw [hLoad]
    exact ⟨_, rfl, .unprepared hPrepare⟩
  | ok known =>
    obtain ⟨aliases, placements⟩ := known
    rw [load_eq_loadProcs hPrepare]
    cases hProcs : procsAt look (config.child procFile) with
    | error fault =>
      obtain ⟨noted, hStage⟩ := loadProcs_unread hProcs
      rw [hStage]
      exact ⟨_, rfl, .unread hPrepare hProcs⟩
    | ok procs =>
      obtain ⟨noted, hStage⟩ := loadProcs_read hProcs
      rw [hStage]
      by_cases hNumbers : procs.all ProcessOf.fits = true
      · rw [if_pos hNumbers, loadDeploys_withProcs]
        by_cases hRows : (rowsOf placements).all DeployOf.fits = true
        · rw [if_pos hRows]
          exact ⟨_, rfl, .filled hPrepare hProcs hNumbers hRows⟩
        · rw [if_neg hRows]
          exact ⟨_, rfl, .widePlacement hPrepare hProcs hNumbers hRows⟩
      · rw [if_neg hNumbers]
        exact ⟨_, rfl, .wideProcess hPrepare hProcs hNumbers⟩

/-- A load into empty tables that succeeds has read placements, and the tables hold their rows. -/
theorem load_empty_eq_ok (h : (load look config (.ready .empty)).outcome = .ok aliases) :
    ∃ placements t, placementsAt look (config.child deployFile) aliases = .ok placements ∧
      (load look config (.ready .empty)).database = .ready t ∧ t.HoldsRowsOf placements := by
  obtain ⟨t, hTables, hEnds⟩ := load_ends look config
  rw [h] at hEnds
  cases hEnds with
  | filled hPrepare =>
    exact ⟨_, _, (prepare_eq_ok_iff.mp hPrepare).ofPlacements, hTables,
      holdsRowsOf_withDeploys _ _⟩

end Topology

namespace Topology

/-- A load looks at the three descriptors only. -/
theorem load_congr [Xml.Codecs] {look look' : Path → Found} {config : Path}
    (h : ∀ name ∈ [deployFile, hostFile, procFile],
      look' (config.child name) = look (config.child name)) (db : Database) :
    load look' config db = load look config db := by
  have hDeploy := h deployFile (by simp)
  have hHost := h hostFile (by simp)
  have hProc := h procFile (by simp)
  have hChecks : ∀ found : Path → Found, checkAll found config = do
      checkPresent found (config.child deployFile)
      checkPresent found (config.child hostFile)
      checkPresent found (config.child procFile)
      return () := fun _ => rfl
  have hAll : checkAll look' config = checkAll look config := by
    simp only [hChecks, checkPresent, hDeploy, hHost, hProc]
  have hPrepare : prepare look' config = prepare look config := by
    simp only [prepare, hAll, aliasesAt, placementsAt, rootAt, hDeploy, hHost]
  have hProcs : ∀ aliases placements db journal,
      loadProcs look' config aliases placements db journal =
        loadProcs look config aliases placements db journal := by
    intro aliases placements db journal
    simp only [loadProcs, rootAt, hProc]
  simp only [load, hPrepare, loadHosts, hProcs]

end Topology

/-! ## Small directories -/

/-- A tree with three descriptors in one directory. Their texts are of seven-bit characters. -/
def FileTree.ofDescriptors (host proc deploy : String) : FileTree :=
  let place := fun name => (⟨false, ["config", name]⟩ : Place)
  let bytes := fun text : String => Entry.file (text.toList.map fun c => c.toNat.toUInt8)
  ⟨[(place Topology.hostFile, bytes host), (place Topology.procFile, bytes proc),
    (place Topology.deployFile, bytes deploy)], 0⟩

/-- One process with a given number, and no placement. -/
def FileTree.numbered (number : String) : FileTree := .ofDescriptors "<h/>"
  ("<p><ProcGroup Name='g'><Proc FuncName='a'/></ProcGroup>" ++
    "<cluster><Proc FuncName='a' FuncID='" ++ number ++ "'/></cluster></p>")
  "<ClusterDeploy/>"

/-- The number of the process is one above the greatest word. -/
def FileTree.wide : FileTree := .numbered "9223372036854775808"

/-- Two processes of one group, and the group on two hosts, on one of them twice. -/
def FileTree.paired : FileTree := .ofDescriptors
  "<h><Host Name='m' InnerIP='1'/></h>"
  ("<p><ProcGroup Name='g'><Proc FuncName='a'/><Proc FuncName='b'/></ProcGroup>" ++
    "<cluster><Proc FuncName='a' FuncID='1'/><Proc FuncName='b' FuncID='2'/></cluster></p>")
  ("<ClusterDeploy><DeloyGroup Group='g' Host='m'/><DeloyGroup Group='g' Host='m'/>" ++
    "<DeloyGroup Group='g'/></ClusterDeploy>")

end TopologyExplorer

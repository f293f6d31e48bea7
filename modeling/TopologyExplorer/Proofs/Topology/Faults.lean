import TopologyExplorer.Proofs.Descriptor.Faults
import TopologyExplorer.Proofs.Topology.Stages
import TopologyExplorer.Proofs.Xml.Encodings

/-!
# Faults of loads

A property of the faults that looking for the descriptors and reading them can meet is one of every
fault of a load, unless an integer is no word. Two such properties follow: no load misses the row
of a host, and over plain files a load meets a fault of a descriptor or an encoding that no codec
reads. Which encodings those are is told by the three files.
-/

namespace TopologyExplorer.Topology

variable [Xml.Codecs]

/-- The faults of looking for the descriptors of a directory and of reading them have a property. -/
structure Covers (P : LoadFault → Prop) (look : Path → Found) (config : Path) : Prop where
  present : ∀ name ∈ [deployFile, hostFile, procFile],
    FailsWith P (checkPresent look (config.child name))
  root : ∀ name ∈ [deployFile, hostFile, procFile], FailsWith P (rootAt look (config.child name))
  read : ∀ (path : Path) (fault : DescriptorFault), fault.IsOf path → P (.descriptor fault)

variable {P : LoadFault → Prop} {look : Path → Found} {config : Path}

theorem Covers.prepare (hP : Covers P look config) : FailsWith P (prepare look config) := by
  refine .bind ?_ fun _ _ => .bind ?_ fun aliases _ => .bind ?_ fun _ _ => failsWith_ok _
  · exact .forM hP.present
  · exact (hP.root hostFile (by simp)).bind fun root _ =>
      (AliasTable.ofElement_failsWith root).mapError (hP.read _)
  · exact (hP.root deployFile (by simp)).bind fun root _ =>
      (Placement.ofElement_failsWith root).mapError (hP.read _)

theorem Covers.procs (hP : Covers P look config) :
    FailsWith P (procsAt look (config.child procFile)) :=
  (hP.root procFile (by simp)).bind fun root _ =>
    (Processes.result_failsWith root).mapError (hP.read _)

theorem Covers.ends (hP : Covers P look config) {outcome : Except LoadFault AliasTable} {t : Tables}
    (h : Ends look config outcome t) :
    FailsWith (fun fault => P fault ∨ fault = .refused (.rejected .outOfRange)) outcome := by
  cases h with
  | unprepared hPrepare => exact failsWith_error (.inl (hP.prepare _ hPrepare))
  | unread _ hProcs => exact failsWith_error (.inl (hP.procs _ hProcs))
  | wideProcess => exact failsWith_error (.inr rfl)
  | widePlacement => exact failsWith_error (.inr rfl)
  | filled => exact failsWith_ok _

/-! ## Rows of hosts -/

def HasHostRow (fault : LoadFault) : Prop :=
  ∀ innerIp path, fault ≠ .descriptor ⟨.noHostRow innerIp, path⟩

theorem covers_hasHostRow (look : Path → Found) (config : Path) :
    Covers HasHostRow look config where
  present name _ := by
    unfold checkPresent
    cases look (config.child name) with
    | file | directory | unreadable => exact failsWith_ok _
    | missing | throughFile | unnameable | tooLong | unsearchable =>
      exact failsWith_error fun _ _ hEq => by cases hEq
  root name _ := by
    intro fault h
    unfold rootAt at h
    cases hRoot : Descriptor.root (config.child name) (look (config.child name)) with
    | ok root =>
      rw [hRoot] at h
      cases h
    | error found =>
      rw [hRoot] at h
      cases h
      cases found with
      | system found => exact fun _ _ hEq => by cases hEq
      | encoding found => exact fun _ _ hEq => by cases hEq
      | descriptor found =>
        rintro innerIp path hEq
        obtain rfl := LoadFault.descriptor.inj hEq
        exact (Descriptor.root_failsWith hRoot).cause innerIp rfl
  read path fault h := by
    rintro innerIp other hEq
    obtain rfl := LoadFault.descriptor.inj hEq
    exact h.cause innerIp rfl

theorem load_hasHostRow (look : Path → Found) (config : Path) :
    FailsWith HasHostRow (load look config (.ready .empty)).outcome := by
  intro fault hOutcome
  obtain ⟨t, -, hEnds⟩ := load_ends look config
  rcases (covers_hasHostRow look config).ends hEnds fault hOutcome with h | rfl
  · exact h
  · exact fun _ _ hEq => by cases hEq

/-! ## Plain files -/

def HasFiles (look : Path → Found) (config : Path) : Prop :=
  ∀ name ∈ [deployFile, hostFile, procFile], ∃ bytes, look (config.child name) = .file bytes

def IsDescriptor (fault : LoadFault) : Prop := ∃ found, fault = .descriptor found

def IsEncoding (fault : LoadFault) : Prop := ∃ found, fault = .encoding found

theorem HasFiles.covers (hFiles : HasFiles look config) :
    Covers (fun fault => IsDescriptor fault ∨ IsEncoding fault) look config where
  present name hName := by
    obtain ⟨bytes, hFile⟩ := hFiles name hName
    rw [checkPresent, hFile]
    exact failsWith_ok _
  root name hName := by
    obtain ⟨bytes, hFile⟩ := hFiles name hName
    rw [rootAt, hFile, Descriptor.root]
    split
    · exact failsWith_ok _
    · exact failsWith_error (.inl ⟨_, rfl⟩)
    · exact failsWith_error (.inr ⟨_, rfl⟩)
  read _ fault _ := .inl ⟨fault, rfl⟩

/-! ## Barred encodings -/

variable {found : Xml.CodecFault}

/-- A plain file is at a path, and no codec reads the encoding that it declares. -/
def BarredAt (look : Path → Found) (path : Path) (found : Xml.CodecFault) : Prop :=
  ∃ bytes, look path = .file bytes ∧ Xml.IsBarred bytes found

/-- The encoding that bars a load: that of the first barred descriptor, if all before it can be
read. -/
inductive Bars (look : Path → Found) (config : Path) : Xml.CodecFault → Prop where
  | hosts {found : Xml.CodecFault} :
      BarredAt look (config.child hostFile) found → Bars look config found
  | placements {found : Xml.CodecFault} {aliases : AliasTable} :
      aliasesAt look (config.child hostFile) = .ok aliases →
      BarredAt look (config.child deployFile) found → Bars look config found
  | procs {found : Xml.CodecFault} {known : AliasTable × List Placement} :
      prepare look config = .ok known →
      BarredAt look (config.child procFile) found → Bars look config found

theorem rootAt_eq_encoding_iff {path : Path} :
    rootAt look path = .error (.encoding found) ↔ BarredAt look path found := by
  unfold rootAt BarredAt
  cases hLook : look path with
  | file bytes =>
    simp only [Found.file.injEq, exists_eq_left', ← Xml.rootOf_eq_encoding_iff]
    cases hRoot : Xml.rootOf bytes with
    | ok root => simp [Descriptor.root, hRoot, Except.mapError]
    | error fault =>
      cases fault <;> simp [Descriptor.root, hRoot, Except.mapError, ReadFault.toLoadFault]
  | _ => simp [Descriptor.root, Except.mapError, ReadFault.toLoadFault]

/-- What is made of a root adds faults of descriptors only. -/
theorem bind_rootAt_eq_encoding_iff {α : Type} {path : Path}
    {read : Xml.Element → Except DescriptorFault α} :
    (rootAt look path >>= fun root => (read root).mapError .descriptor) =
      .error (.encoding found) ↔ BarredAt look path found := by
  have hRead : ∀ root, (read root).mapError LoadFault.descriptor ≠ .error (.encoding found) := by
    intro root
    cases read root <;> simp [Except.mapError]
  simp only [bind_eq_error_iff, hRead, and_false, exists_false, or_false, rootAt_eq_encoding_iff]

omit [Xml.Codecs] in
theorem HasFiles.checkAll (hFiles : HasFiles look config) :
    Topology.checkAll look config = .ok () := by
  refine forM_eq_ok_iff.mpr fun name hName => ?_
  obtain ⟨bytes, hFile⟩ := hFiles name hName
  rw [checkPresent, hFile]

theorem HasFiles.prepare_eq_encoding_iff (hFiles : HasFiles look config) :
    Topology.prepare look config = .error (.encoding found) ↔
      BarredAt look (config.child hostFile) found ∨
        ∃ aliases, aliasesAt look (config.child hostFile) = .ok aliases ∧
          BarredAt look (config.child deployFile) found := by
  have hHosts : aliasesAt look (config.child hostFile) = .error (.encoding found) ↔ _ :=
    bind_rootAt_eq_encoding_iff
  have hDeploys : ∀ aliases,
      placementsAt look (config.child deployFile) aliases = .error (.encoding found) ↔ _ :=
    fun aliases => bind_rootAt_eq_encoding_iff
  unfold Topology.prepare
  simp only [bind_eq_error_iff, hFiles.checkAll, hHosts, hDeploys, pure, Except.pure, reduceCtorEq,
    and_false, exists_false, or_false, false_or, true_and, exists_const]

theorem HasFiles.bars_iff (hFiles : HasFiles look config) :
    Bars look config found ↔ Topology.prepare look config = .error (.encoding found) ∨
      ∃ known, Topology.prepare look config = .ok known ∧
        procsAt look (config.child procFile) = .error (.encoding found) := by
  have hProcs : procsAt look (config.child procFile) = .error (.encoding found) ↔ _ :=
    bind_rootAt_eq_encoding_iff
  rw [hFiles.prepare_eq_encoding_iff, hProcs]
  constructor
  · rintro (hHosts | ⟨hAliases, hDeploys⟩ | ⟨hKnown, hRead⟩)
    · exact .inl (.inl hHosts)
    · exact .inl (.inr ⟨_, hAliases, hDeploys⟩)
    · exact .inr ⟨_, hKnown, hRead⟩
  · rintro ((hHosts | ⟨_, hAliases, hDeploys⟩) | ⟨_, hKnown, hRead⟩)
    · exact .hosts hHosts
    · exact .placements hAliases hDeploys
    · exact .procs hKnown hRead

end TopologyExplorer.Topology

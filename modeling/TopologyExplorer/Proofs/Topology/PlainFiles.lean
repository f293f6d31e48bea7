import TopologyExplorer.Proofs.Topology.Faults

/-!
# Plain files

A load from plain files ends with aliases or with a fault of a descriptor, but for two cases. The
readers accept integers of any size, the tables hold words: an integer that no column takes is
refused. A descriptor may declare an encoding that no codec reads: the fault of the codec ends the
load.
-/

namespace TopologyExplorer.Topology

section

variable [Xml.Codecs] {look : Path → Found} {config : Path}

/-- Every number and instance that is read is a word, and so is every id of a placement's host. -/
def Fits (look : Path → Found) (config : Path) : Prop :=
  ∀ aliases placements procs, prepare look config = .ok (aliases, placements) →
    procsAt look (config.child procFile) = .ok procs →
    procs.all ProcessOf.fits ∧ (rowsOf placements).all DeployOf.fits

theorem fits_of_unread (h : ∀ known procs, prepare look config = .ok known →
    procsAt look (config.child procFile) ≠ .ok procs) : Fits look config := by
  intro aliases placements procs hPrepare hProcs
  exact absurd hProcs (h _ procs hPrepare)

theorem Ends.fits_iff {outcome : Except LoadFault AliasTable} {t : Tables}
    (hFiles : HasFiles look config) (h : Ends look config outcome t) :
    Fits look config ↔ outcome ≠ .error (.refused (.rejected .outOfRange)) := by
  have hRead : ∀ fault, IsDescriptor fault ∨ IsEncoding fault →
      fault ≠ .refused (.rejected .outOfRange) := by
    rintro fault (⟨found, rfl⟩ | ⟨found, rfl⟩) hEq <;> cases hEq
  cases h with
  | unprepared hPrepare =>
    have hFits : Fits look config := by
      apply fits_of_unread
      intro known procs hKnown
      cases hPrepare.symm.trans hKnown
    have hOther := hRead _ (hFiles.covers.prepare _ hPrepare)
    exact ⟨fun _ hEq => hOther (Except.error.inj hEq), fun _ => hFits⟩
  | unread _ hProcs =>
    have hFits : Fits look config := by
      apply fits_of_unread
      intro known procs _ hKnown
      cases hProcs.symm.trans hKnown
    have hOther := hRead _ (hFiles.covers.procs _ hProcs)
    exact ⟨fun _ hEq => hOther (Except.error.inj hEq), fun _ => hFits⟩
  | wideProcess hPrepare hProcs hWide =>
    exact ⟨fun hFits => absurd (hFits _ _ _ hPrepare hProcs).1 hWide,
      fun hOther => absurd rfl hOther⟩
  | widePlacement hPrepare hProcs _ hWide =>
    exact ⟨fun hFits => absurd (hFits _ _ _ hPrepare hProcs).2 hWide,
      fun hOther => absurd rfl hOther⟩
  | filled hPrepare hProcs hNumbers hRows =>
    refine ⟨fun _ hEq => (by cases hEq), fun _ aliases placements procs hKnown hRead => ?_⟩
    cases hPrepare.symm.trans hKnown
    cases hProcs.symm.trans hRead
    exact ⟨hNumbers, hRows⟩

theorem Ends.bars_iff {outcome : Except LoadFault AliasTable} {t : Tables}
    {found : Xml.CodecFault} (hFiles : HasFiles look config) (h : Ends look config outcome t) :
    outcome = .error (.encoding found) ↔ Bars look config found := by
  rw [hFiles.bars_iff]
  cases h with
  | unprepared hPrepare => simp [hPrepare]
  | unread hPrepare hProcs => simp [hPrepare, hProcs]
  | wideProcess hPrepare hProcs | widePlacement hPrepare hProcs | filled hPrepare hProcs =>
    simp [hPrepare, hProcs]

theorem load_fits_iff (hFiles : HasFiles look config) :
    Fits look config ↔
      (load look config (.ready .empty)).outcome ≠ .error (.refused (.rejected .outOfRange)) := by
  obtain ⟨t, -, hEnds⟩ := load_ends look config
  exact hEnds.fits_iff hFiles

theorem load_bars_iff (hFiles : HasFiles look config) {found : Xml.CodecFault} :
    (load look config (.ready .empty)).outcome = .error (.encoding found) ↔
      Bars look config found := by
  obtain ⟨t, -, hEnds⟩ := load_ends look config
  exact hEnds.bars_iff hFiles

theorem load_files_failsWith (hFiles : HasFiles look config) :
    FailsWith (fun fault => (IsDescriptor fault ∨ IsEncoding fault) ∨
      fault = .refused (.rejected .outOfRange)) (load look config (.ready .empty)).outcome := by
  obtain ⟨t, -, hEnds⟩ := load_ends look config
  exact hFiles.covers.ends hEnds

theorem load_files_answered (hFiles : HasFiles look config) (hFits : Fits look config)
    (hRead : ∀ found, ¬Bars look config found) :
    (∃ aliases, (load look config (.ready .empty)).outcome = .ok aliases) ∨
      ∃ fault, (load look config (.ready .empty)).outcome = .error (.descriptor fault) := by
  cases hOutcome : (load look config (.ready .empty)).outcome with
  | ok aliases => exact .inl ⟨aliases, rfl⟩
  | error fault =>
    rcases load_files_failsWith hFiles fault hOutcome with (⟨found, rfl⟩ | ⟨found, rfl⟩) | rfl
    · exact .inr ⟨found, rfl⟩
    · exact absurd ((load_bars_iff hFiles).mp hOutcome) (hRead found)
    · exact absurd hOutcome ((load_fits_iff hFiles).mp hFits)

/-- A load from plain files ends with aliases or a fault of a descriptor exactly if every integer
fits and no encoding bars it. It is refused exactly if an integer does not fit, and a codec's fault
is that of the encoding that bars it. -/
theorem load_files_answered_iff (hFiles : HasFiles look config) :
    (((∃ aliases, (load look config (.ready .empty)).outcome = .ok aliases) ∨
        ∃ fault, (load look config (.ready .empty)).outcome = .error (.descriptor fault)) ↔
      Fits look config ∧ ∀ found, ¬Bars look config found) ∧
    ((load look config (.ready .empty)).outcome = .error (.refused (.rejected .outOfRange)) ↔
      ¬Fits look config) ∧
    ∀ found, (load look config (.ready .empty)).outcome = .error (.encoding found) ↔
      Bars look config found := by
  have hFits := load_fits_iff hFiles
  refine ⟨⟨fun hAnswered => ⟨hFits.mpr ?_, fun found hBars => ?_⟩, fun ⟨hFits, hRead⟩ => ?_⟩,
    by rw [hFits, not_not], fun found => load_bars_iff hFiles⟩
  · intro hRefused
    rcases hAnswered with ⟨_, hOutcome⟩ | ⟨_, hOutcome⟩ <;> cases hOutcome.symm.trans hRefused
  · have hBarred := (load_bars_iff hFiles).mpr hBars
    rcases hAnswered with ⟨_, hOutcome⟩ | ⟨_, hOutcome⟩ <;> cases hOutcome.symm.trans hBarred
  · exact load_files_answered hFiles hFits hRead

end

-- The hosts are in an encoding with several bytes to a character.
example :
    let files := FileTree.ofDescriptors "<?xml version='1.0' encoding='gbk'?><h/>" "<p/>"
      "<ClusterDeploy/>"
    (load files.look (.ofText "config") (.ready .empty)).outcome =
      .error (.encoding .severalBytes) := by
  decide +kernel

theorem hasFiles_ofDescriptors (host proc deploy : String) :
    HasFiles (FileTree.ofDescriptors host proc deploy).look (.ofText "config") := by
  intro name hName
  simp only [List.mem_cons, List.not_mem_nil, or_false] at hName
  rcases hName with rfl | rfl | rfl
  · exact ⟨_, rfl⟩
  · exact ⟨_, rfl⟩
  · exact ⟨_, rfl⟩

theorem load_numbered :
    (load (FileTree.numbered "1").look (.ofText "config") (.ready .empty)).outcome =
      .ok ⟨[("TcmHost", "127.0.0.1")]⟩ := by
  decide +kernel

theorem fits_numbered : Fits (FileTree.numbered "1").look (.ofText "config") :=
  (load_fits_iff (hasFiles_ofDescriptors _ _ _)).mpr (load_numbered ▸ by simp)

theorem not_bars_numbered (found : Xml.CodecFault) :
    ¬Bars (FileTree.numbered "1").look (.ofText "config") found := by
  intro hBars
  cases load_numbered.symm.trans ((load_bars_iff (hasFiles_ofDescriptors _ _ _)).mpr hBars)

theorem load_numbered_answered_iff :
    HasFiles (FileTree.numbered "1").look (.ofText "config") ∧
    Fits (FileTree.numbered "1").look (.ofText "config") ∧
    ∀ found, ¬Bars (FileTree.numbered "1").look (.ofText "config") found := by
  have hFiles : HasFiles (FileTree.numbered "1").look (.ofText "config") :=
    hasFiles_ofDescriptors _ _ _
  exact ⟨hFiles, (load_files_answered_iff hFiles).1.mp (.inl ⟨_, load_numbered⟩)⟩

/-- A number one above the greatest word is read and refused. -/
theorem load_wide_number_refused :
    HasFiles FileTree.wide.look (.ofText "config") ∧
    (load FileTree.wide.look (.ofText "config") (.ready .empty)).outcome =
      .error (.refused (.rejected .outOfRange)) :=
  ⟨hasFiles_ofDescriptors _ _ _, by decide +kernel⟩

end TopologyExplorer.Topology

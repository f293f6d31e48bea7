import TopologyExplorer.Proofs.Startup.Cleanup
import TopologyExplorer.Proofs.Topology.PlainFiles

/-!
# Databases left behind

In a sound tree, with a path that names the database's file and a plain file or nothing yet, a fault
that escapes from the opening leaves the file. With descriptors that are plain files apart from the
run's own, whose integers fit and which no encoding bars, none escapes, and no file is left.
-/

namespace TopologyExplorer

namespace Launch

open Workspace (Extends Holds)

variable {w : Workspace} {files : FileTree} {o : Options}

/-- The path of the database names its file: a plain one or none yet, in a directory of a sound
tree. The path of the log is one. -/
structure NamesFiles (files : FileTree) (o : Options) : Prop where
  sound : files.Sound
  names : files.Names o.database
  database : o.database.NamesDatabase
  log : o.log.names.any Path.hasNull = false

/-! ## Ends in order -/

section

variable (h : NamesFiles files o)

include h

theorem NamesFiles.takes : files.Takes o.databaseFile.place := h.names.takes h.sound

theorem removeDatabase_extends (hw : Extends files o w) :
    ∃ w', removeDatabase w o.database = .ok w' ∧ Extends files o w' := by
  unfold removeDatabase
  rcases (h.names.sameDirectories h.sound hw.same).free with hLook | ⟨bytes, hLook⟩
  · rw [hLook]
    exact ⟨w, rfl, hw⟩
  · rw [hLook]
    exact ⟨_, rfl, (hw.removeFile h.takes (.inl rfl)).note _⟩

theorem finish_ending (hw : Extends files o w) (ending : Ending) :
    (finish w o.database ending).2 = ending := by
  obtain ⟨w', hRemove, -⟩ := removeDatabase_extends h hw
  rw [finish, hRemove]

theorem fail_not_escapes (hw : Extends files o w) (what message : String) :
    ¬Escapes (fail w o.database what message).2 := by
  rw [fail, finish_ending h (hw.note _)]
  rintro ⟨fault, hEq, -⟩
  cases hEq

theorem openSession_not_escapes (hw : Extends files o w) (db : Database) {w' : Workspace}
    {ending : Ending} (hEnded : openSession w o.database db = .ended w' ending) :
    ¬Escapes ending := by
  unfold openSession at hEnded
  dsimp only at hEnded
  split at hEnded
  · cases hEnded
  · cases hEnded
    exact fail_not_escapes h (hw.noteAll _) _ _

/-! ## Files that stay -/

/-- The places that the first use clears are those of other files. -/
theorem firstUse_clears (hw : Extends files o w) {q : Place}
    (hq : q ∈ (o.databaseFile.firstUse w.files).2) : o.databaseFile.Clears q ∧ files.Takes q := by
  obtain ⟨hClears, bytes, hEntry⟩ := DatabaseFile.mem_firstUse hq
  have hFree : w.files.entry? q ≠ some .directory := by simp [hEntry]
  exact ⟨hClears, (hw.same.takes_iff q).mp (hClears.takes (hw.same.takes h.takes) hFree)⟩

omit h in
theorem holds_removeFile (hPlace : files.Takes o.databaseFile.place) {q : Place}
    (hw : Holds files o o.databaseFile.place w) (hClears : o.databaseFile.Clears q)
    (hq : files.Takes q) : Holds files o o.databaseFile.place (w.removeFile q) :=
  hw.removeFile hq (.inr (.inl hClears)) (hClears.ne hPlace).symm
    (hClears.parent ▸ hPlace.parent_ne.symm)

variable [Xml.Codecs]

/-- A fault that escapes while the database is filled leaves its file. It refuses the tables, or
comes from the load. -/
theorem openTopology_escapes {w' : Workspace} {ending : Ending}
    (hw : Holds files o o.databaseFile.place w)
    (hEnded : openTopology w o (.file o.databaseFile) = .ended w' ending)
    (hEscape : Escapes ending) :
    Holds files o o.databaseFile.place w' ∧ ∃ e : JournalEntry,
      ((∃ refusal, (o.databaseFile.firstUse (w.note e).files).1.makeTables = .error refusal) ∨
        ∃ db ready fault, (o.databaseFile.firstUse (w.note e).files).1.makeTables = .ok db ∧
          Extends files o ready ∧ ¬Topology.IsDescriptor fault ∧
          (Topology.load ready.files.look o.descriptors db).outcome = .error fault) := by
  let e := databaseEntry .info ("Creating schema in " ++ o.database.text)
  have hNoted := hw.note e
  have hCleared : Holds files o o.databaseFile.place
      ((o.databaseFile.firstUse (w.note e).files).2.foldl Workspace.removeFile (w.note e)) := by
    refine List.foldlRecOn (motive := Holds files o o.databaseFile.place) _ _ hNoted ?_
    intro cleared hHolds q hq
    obtain ⟨hClears, hFree⟩ := firstUse_clears h hNoted.toExtends hq
    exact holds_removeFile h.takes hHolds hClears hFree
  unfold openTopology at hEnded
  dsimp only [Origin.firstUse, Origin.undo?] at hEnded
  cases hTables : (o.databaseFile.firstUse (w.note e).files).1.makeTables with
  | error refusal =>
    rw [hTables] at hEnded
    cases hEnded
    exact ⟨hCleared, e, .inl ⟨refusal, hTables⟩⟩
  | ok db =>
    -- Tables can only be made where an undo file can; it is gone again when the load begins.
    have hUndo : files.Takes o.databaseFile.undo :=
      (hNoted.same.takes_iff _).mp (FileTree.takes_of_canWrite (DatabaseFile.canWrite_undo hTables))
    have hReady := holds_removeFile h.takes hCleared (.inl rfl) hUndo
    rw [hTables] at hEnded
    dsimp only at hEnded
    split at hEnded
    · exact absurd hEscape (openSession_not_escapes h (hReady.toExtends.noteAll _) _ hEnded)
    · cases hEnded
      exact absurd hEscape (fail_not_escapes h (hReady.toExtends.noteAll _) _ _)
    · rename_i fault hOther hOutcome
      cases hEnded
      exact ⟨hReady.noteAll _, e, .inr ⟨db, _, fault, hTables, hReady.toExtends,
        fun ⟨found, hEq⟩ => hOther found hEq, hOutcome⟩⟩

/-- A fault that escapes from an opening comes from filling a database on a file just made. -/
theorem opening_escapes {ending : Ending} (hEnded : opening o files = .ended w ending)
    (hEscape : Escapes ending) :
    ∃ made, Holds files o o.databaseFile.place made ∧
      made.files.entry? o.databaseFile.place = some (.file []) ∧
      openTopology made o (.file o.databaseFile) = .ended w ending := by
  unfold opening at hEnded
  dsimp only at hEnded
  cases hStart : (Workspace.idle files [] o.verbose).start o.log with
  | error fault =>
    rw [Workspace.start, if_neg (by simp [h.log])] at hStart
    split at hStart <;> cases hStart
  | ok started =>
    have hStarted := (Extends.idle (o := o) h.sound o.verbose).start hStart
    obtain ⟨fresh, hRemove, hFresh⟩ := removeDatabase_extends h hStarted
    rw [hStart] at hEnded
    dsimp only at hEnded
    rw [openDatabase, hRemove] at hEnded
    dsimp only at hEnded
    cases hOpen : Origin.openAt fresh.files o.database.text with
    | error fault =>
      rw [hOpen] at hEnded
      cases fault with
      | cannotOpen name =>
        cases hEnded
        exact absurd hEscape (fail_not_escapes h hFresh _ _)
      | unnameable =>
        have hNull := Path.hasNull_text (Bool.not_eq_true _ ▸ h.names.plain.1)
        rw [Origin.openAt, if_neg (by simp [hNull])] at hOpen
        split at hOpen <;> cases hOpen
    | ok opened =>
      obtain ⟨-, rfl⟩ := openAt_path h.database hOpen
      rw [hOpen] at hEnded
      -- Whatever was left of a database is removed, so that the file is made anew and is empty.
      have hNames := h.names.sameDirectories h.sound hFresh.same
      have hNone : ¬fresh.files.FileAt (.ofPath o.database) := fun hFile =>
        removeDatabase_removes hRemove (hNames.look_eq_file hFile)
      have hEmpty : fresh.files.append (.ofPath o.database) [] =
          fresh.files.write (.ofPath o.database) [] := by
        rw [FileTree.append, DatabaseFile.bytesAt_of_not_fileAt hNone]
        rfl
      rw [hEmpty] at hEnded
      have hMade := hFresh.write h.takes (.inl rfl) []
      refine ⟨_, ⟨hMade, fresh.files.fileAt_write_self _ _⟩, ?_, hEnded⟩
      rw [FileTree.entry?_eq_file_iff, FileTree.lookup_write, if_pos rfl]

end

/-! ## Orderly runs -/

section

variable [Xml.Codecs]

/-- Also, nothing is in the way of the files beside the database, the descriptors are plain files
apart from the run's own, their integers fit, and no encoding bars them. -/
structure Orderly (files : FileTree) (o : Options) : Prop extends NamesFiles files o where
  undo : files.canWrite o.databaseFile.undo = true
  redo : files.entry? o.databaseFile.redo ≠ some .directory
  log_ne : Place.ofPath o.database ≠ .ofPath o.log
  apart : ∀ name ∈ [Topology.deployFile, Topology.hostFile, Topology.procFile],
    ¬o.Owns (.ofPath (o.descriptors.child name))
  plain : Topology.HasFiles files.look o.descriptors
  fits : Topology.Fits files.look o.descriptors
  unbarred : ∀ found, ¬Topology.Bars files.look o.descriptors found

theorem Orderly.not_escapes (h : Orderly files o) {ending : Ending}
    (hEnded : opening o files = .ended w ending) : ¬Escapes ending := by
  intro hEscape
  obtain ⟨made, hMade, hEmpty, hFill⟩ := opening_escapes h.toNamesFiles hEnded hEscape
  obtain ⟨-, e, hCause⟩ := openTopology_escapes h.toNamesFiles hMade hFill hEscape
  have hNoted := hMade.note e
  -- Only the journal has written since the file was made, and its log is another one.
  have hBlank : (o.databaseFile.firstUse (made.note e).files).1 = .blank := by
    refine DatabaseFile.firstUse_eq_blank rfl rfl ?_ (hNoted.same.canWrite h.undo)
      (mt (hNoted.same.entry?_iff _).mp h.redo)
    exact (hMade.toExtends.entry?_note h.log_ne e).trans hEmpty
  rw [hBlank] at hCause
  rcases hCause with ⟨refusal, hRefused⟩ | ⟨db, ready, fault, hTables, hReady, hOther, hOutcome⟩
  · cases hRefused
  · cases hTables
    have hLook : ∀ name ∈ [Topology.deployFile, Topology.hostFile, Topology.procFile],
        ready.files.look (o.descriptors.child name) = files.look (o.descriptors.child name) := by
      intro name hName
      obtain ⟨bytes, hFile⟩ := h.plain name hName
      rw [hFile]
      exact hReady.look_file hFile (h.apart name hName)
    rw [Topology.load_congr hLook] at hOutcome
    rcases Topology.load_files_answered h.plain h.fits h.unbarred with
      ⟨aliases, hAliases⟩ | ⟨found, hFault⟩
    · cases hAliases.symm.trans hOutcome
    · exact hOther ⟨found, Except.error.inj (hOutcome.symm.trans hFault)⟩

/-! ## Launches -/

/-- The file of the database stays behind a launch only if a fault that is no descriptor's escapes
from the opening. If the path names the file, such a fault leaves it there. It does not come up over
plain descriptors whose integers fit and which no encoding bars. -/
theorem run_keeps_file (play : Session → SessionEnd) (o : Options) (files : FileTree) :
    ((run play o files).workspace.HasFile o.database →
      (run play o files).played = none ∧ Escapes (run play o files).ending) ∧
    (NamesFiles files o → (run play o files).played = none → Escapes (run play o files).ending →
      (run play o files).workspace.HasFile o.database) ∧
    (Orderly files o → ¬(run play o files).workspace.HasFile o.database) := by
  refine ⟨run_removes play o files, fun h hPlayed hEscape => ?_, fun h hFile => ?_⟩
  · have hEnded := opening_of_not_played hPlayed
    obtain ⟨made, hMade, -, hFill⟩ := opening_escapes h hEnded hEscape
    obtain ⟨hHolds, -⟩ := openTopology_escapes h hMade hFill hEscape
    exact (h.names.sameDirectories h.sound hHolds.same).look_eq_file hHolds.file
  · obtain ⟨hPlayed, hEscape⟩ := run_removes play o files hFile
    exact h.not_escapes (opening_of_not_played hPlayed) hEscape

end

/-- Options of a run in the directory of its files. -/
def smallOptions : Options := ⟨.ofText "config", .ofText "s.db", .ofText "s.log", false⟩

theorem sound_ofDescriptors (host proc deploy : String) :
    (FileTree.ofDescriptors host proc deploy).Sound := by
  let places := [Topology.hostFile, Topology.procFile, Topology.deployFile].map
    fun name => (⟨false, ["config", name]⟩ : Place)
  have hPlaces : ∀ p ∈ places, p.isGiven = false ∧ ∀ q ∈ places, p.leadsTo q = true → q = p := by
    decide
  refine FileTree.sound_of_entries fun e he _ => ?_
  obtain ⟨hGiven, hAlone⟩ := hPlaces e.1 (List.mem_map_of_mem (f := Prod.fst) he)
  exact ⟨hGiven, fun f hf => hAlone f.1 (List.mem_map_of_mem (f := Prod.fst) hf)⟩

theorem names_ofDescriptors (host proc deploy : String) :
    (FileTree.ofDescriptors host proc deploy).Names smallOptions.database :=
  ⟨rfl, .inl rfl⟩

theorem namesDatabase_small : smallOptions.database.NamesDatabase where
  names _ hName := Path.isName_of_mem_namesOf hName
  plain := by decide
  lasting := by decide

theorem namesFiles_ofDescriptors (host proc deploy : String) :
    NamesFiles (.ofDescriptors host proc deploy) smallOptions where
  sound := sound_ofDescriptors host proc deploy
  names := names_ofDescriptors host proc deploy
  database := namesDatabase_small
  log := by decide

theorem orderly_numbered : Orderly (.numbered "1") smallOptions where
  toNamesFiles := namesFiles_ofDescriptors _ _ _
  undo := by decide
  redo := by decide
  log_ne := by decide
  apart := by
    unfold Options.Owns DatabaseFile.Clears
    decide
  plain := Topology.hasFiles_ofDescriptors _ _ _
  fits := Topology.fits_numbered
  unbarred := Topology.not_bars_numbered

/-- A process number that is no word: the session does not start, and no fault is noted. -/
theorem run_wide : (run (fun _ => .quit) smallOptions .wide).played.isNone = true ∧
    (run (fun _ => .quit) smallOptions .wide).ending =
      .escaped (.refused (.rejected .outOfRange)) := by
  decide +kernel

/-- The file of the database stays behind a launch on such a number, and behind none on a word. -/
theorem run_wide_keeps_file :
    (run (fun _ => .quit) smallOptions .wide).workspace.HasFile smallOptions.database ∧
    ∀ play, ¬(run play smallOptions (.numbered "1")).workspace.HasFile smallOptions.database := by
  have hPlayed := Option.isNone_iff_eq_none.mp run_wide.1
  have hEscape : Escapes (run (fun _ => .quit) smallOptions .wide).ending :=
    run_wide.2 ▸ escapes_refused _
  refine ⟨?_, fun play => (run_keeps_file play smallOptions (.numbered "1")).2.2 orderly_numbered⟩
  exact (run_keeps_file _ smallOptions .wide).2.1 (namesFiles_ofDescriptors _ _ _) hPlayed hEscape

/-- It was not there before, in a directory that was. -/
theorem run_wide_makes_file :
    FileTree.wide.look smallOptions.database.parent = .directory ∧
    FileTree.wide.look smallOptions.database = .missing ∧
    (run (fun _ => .quit) smallOptions .wide).workspace.files.look smallOptions.database =
      .file [] :=
  ⟨rfl, rfl, by decide +kernel⟩

end Launch

end TopologyExplorer

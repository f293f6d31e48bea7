import TopologyExplorer.Proofs.Startup.Workspace
import TopologyExplorer.Proofs.Topology.Faults
import TopologyExplorer.Startup.Launch

/-!
# Removal of the database

However a launch ends in order, the file of its database is gone, and so it is when a fault escapes
from a session. A fault that escapes from the opening is the one way by which the file can stay.
-/

namespace TopologyExplorer

/-- The path finds a plain file. -/
def Workspace.HasFile (w : Workspace) (p : Path) : Prop := ∃ bytes, w.files.look p = .file bytes

namespace Launch

variable {w w' : Workspace} {p : Path}

/-! ## Ends in order -/

theorem removeDatabase_removes (h : removeDatabase w p = .ok w') : ¬w'.HasFile p := by
  unfold removeDatabase at h
  cases hLook : w.files.look p with
  | tooLong | directory | unsearchable =>
    rw [hLook] at h
    cases h
  | file | unreadable =>
    rw [hLook] at h
    cases h
    rintro ⟨left, hLeft⟩
    have hFile := Workspace.fileAt_of_note (FileTree.fileAt_of_look hLeft) (w.removeFile_log_ne _)
    exact w.files.not_fileAt_remove _ hFile
  | missing | throughFile | unnameable =>
    rw [hLook] at h
    cases h
    rintro ⟨left, hLeft⟩
    cases hLook.symm.trans hLeft

theorem finish_removes (w : Workspace) (p : Path) (ending : Ending) :
    ¬(finish w p ending).1.HasFile p := by
  unfold finish
  cases hRemove : removeDatabase w p with
  | ok w' => exact removeDatabase_removes hRemove
  | error fault =>
    rintro ⟨left, hLeft⟩
    unfold removeDatabase at hRemove
    rw [hLeft] at hRemove
    cases hRemove

theorem fail_removes (w : Workspace) (p : Path) (what message : String) :
    ¬(fail w p what message).1.HasFile p := finish_removes _ _ _

theorem closing_removes (options : Options) (r : Ready) (how : SessionEnd) :
    ¬(closing options r how).1.HasFile options.database := by
  cases how with
  | quit => exact finish_removes _ _ _
  | failed message => exact fail_removes _ _ _ _
  | escaped fault => exact finish_removes _ _ _

/-! ## Escapes -/

/-- A fault that is no descriptor's escapes. -/
def Escapes (ending : Ending) : Prop :=
  ∃ fault, ending = .escaped fault ∧ ¬Topology.IsDescriptor fault

theorem escapes_system (fault : SystemFault) : Escapes (.escaped (.system fault)) :=
  ⟨_, rfl, by rintro ⟨found, hEq⟩; cases hEq⟩

theorem escapes_refused (refusal : Refusal) : Escapes (.escaped (.refused refusal)) :=
  ⟨_, rfl, by rintro ⟨found, hEq⟩; cases hEq⟩

/-- An opening that has ended has removed the file, or a fault escapes. -/
def RemovesOrEscapes (p : Path) : Opening → Prop
  | .ended w ending => w.HasFile p → Escapes ending
  | .ready _ => True

theorem failInit_removes (w : Workspace) (p : Path) (message : String) :
    RemovesOrEscapes p (failInit w p message) := fun hFile => absurd hFile (fail_removes _ _ _ _)

theorem openSession_removes (w : Workspace) (p : Path) (db : Database) :
    RemovesOrEscapes p (openSession w p db) := by
  unfold openSession
  dsimp only
  split
  · trivial
  · exact fun hFile => absurd hFile (fail_removes _ _ _ _)

variable [Xml.Codecs]

theorem openTopology_removes (w : Workspace) (options : Options) (origin : Origin) :
    RemovesOrEscapes options.database (openTopology w options origin) := by
  unfold openTopology
  dsimp only
  split
  · exact fun _ => escapes_refused _
  · split
    · exact openSession_removes _ _ _
    · exact failInit_removes _ _ _
    · rename_i fault hOther hOutcome
      exact fun _ => ⟨fault, rfl, fun ⟨found, hEq⟩ => hOther found hEq⟩

theorem openDatabase_removes (w : Workspace) (options : Options) :
    RemovesOrEscapes options.database (openDatabase w options) := by
  unfold openDatabase
  split
  · exact fun _ => escapes_system _
  · split
    · exact fun _ => escapes_system _
    · exact failInit_removes _ _ _
    · exact openTopology_removes _ _ _

theorem opening_removes (options : Options) (files : FileTree) :
    RemovesOrEscapes options.database (opening options files) := by
  unfold opening
  dsimp only
  split
  · exact fun _ => escapes_system _
  · exact openDatabase_removes _ _

/-! ## Launches -/

/-- A launch without a session is its opening. -/
theorem opening_of_not_played {play : Session → SessionEnd} {options : Options} {files : FileTree}
    (h : (run play options files).played = none) :
    opening options files =
      .ended (run play options files).workspace (run play options files).ending := by
  unfold run at h ⊢
  cases hOpening : opening options files with
  | ended w ending => rfl
  | ready r =>
    rw [hOpening] at h
    cases h

theorem not_played_of_hasFile {play : Session → SessionEnd} {options : Options} {files : FileTree}
    (h : (run play options files).workspace.HasFile options.database) :
    (run play options files).played = none := by
  unfold run at h ⊢
  cases hOpening : opening options files with
  | ended w ending => rfl
  | ready r =>
    rw [hOpening] at h
    exact absurd h (closing_removes _ _ _)

theorem run_removes (play : Session → SessionEnd) (options : Options) (files : FileTree)
    (h : (run play options files).workspace.HasFile options.database) :
    (run play options files).played = none ∧ Escapes (run play options files).ending := by
  have hPlayed := not_played_of_hasFile h
  have hRemoves := opening_removes options files
  rw [opening_of_not_played hPlayed] at hRemoves
  exact ⟨hPlayed, hRemoves h⟩

end Launch

end TopologyExplorer

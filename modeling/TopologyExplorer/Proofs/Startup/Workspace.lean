import TopologyExplorer.Proofs.Database.Opening
import TopologyExplorer.Startup.Options
import TopologyExplorer.Startup.Workspace

/-!
# Files of a workspace

Noting an entry writes the log file and no other. A run has places of its own: of its database, of
the files beside that, and of its log. While files are made and removed at these places only, the
workspace of the run keeps the directories that there were, and all other files.
-/

namespace TopologyExplorer

def Options.databaseFile (o : Options) : DatabaseFile := ⟨.ofPath o.database, true, false, true⟩

/-- A place of the run's own. -/
def Options.Owns (o : Options) (r : Place) : Prop :=
  r = .ofPath o.database ∨ o.databaseFile.Clears r ∨ r = .ofPath o.log

namespace Workspace

open FileTree

variable {w : Workspace} {files : FileTree} {o : Options} {r q : Place} {e : JournalEntry}

/-! ## Noting -/

theorem note_log (w : Workspace) (e : JournalEntry) : (w.note e).log = w.log := by
  unfold note
  split <;> rfl

theorem note_files (w : Workspace) (e : JournalEntry) :
    (w.note e).files = w.files ∨ ∃ place content, w.log = some place ∧
      (w.note e).files = w.files.write place content := by
  unfold note
  split
  · cases hLog : w.log with
    | none => exact .inl rfl
    | some place => exact .inr ⟨place, _, rfl, rfl⟩
  · exact .inl rfl

theorem fileAt_note (h : w.files.FileAt r) (e : JournalEntry) : (w.note e).files.FileAt r := by
  rcases w.note_files e with hFiles | ⟨place, content, -, hFiles⟩
  · rw [hFiles]
    exact h
  · rw [hFiles]
    exact h.write place content

theorem fileAt_of_note (h : (w.note e).files.FileAt r) (hLog : w.log ≠ some r) :
    w.files.FileAt r := by
  rcases w.note_files e with hFiles | ⟨place, content, hPlace, hFiles⟩
  · rw [hFiles] at h
    exact h
  · rw [hFiles] at h
    refine (fileAt_write_iff ?_).mp h
    rintro rfl
    exact hLog hPlace

/-! ## Removing -/

theorem removeFile_log_ne (w : Workspace) (q : Place) : (w.removeFile q).log ≠ some q := by
  intro hLog
  have hKept := (Option.filter_eq_some_iff.mp hLog).2
  simp at hKept

/-! ## Own places -/

/-- The workspace has the directories of a tree, and its files but at the run's own places. -/
structure Extends (files : FileTree) (o : Options) (w : Workspace) : Prop where
  same : files.SameDirectories w.files
  entry?_eq : ∀ r, ¬o.Owns r → w.files.entry? r = files.entry? r
  log : ∀ place ∈ w.log, files.Takes place ∧ place = .ofPath o.log

namespace Extends

theorem write (h : Extends files o w) (hq : files.Takes q) (hOwn : o.Owns q)
    (content : List UInt8) : Extends files o { w with files := w.files.write q content } where
  same := h.same.write hq content
  entry?_eq r hr := by
    have hOther : r ≠ q := fun hEq => hr (hEq ▸ hOwn)
    rw [(h.same.takes hq).entry?_write h.same.sound, if_neg hOther, h.entry?_eq r hr]
  log := h.log

theorem removeFile (h : Extends files o w) (hq : files.Takes q) (hOwn : o.Owns q) :
    Extends files o (w.removeFile q) where
  same := h.same.remove hq
  entry?_eq r hr := by
    have hOther : r ≠ q := fun hEq => hr (hEq ▸ hOwn)
    have hEntry := (h.same.takes hq).entry?_remove h.same.sound r
    rw [if_neg hOther, h.entry?_eq r hr] at hEntry
    exact hEntry
  log place hPlace := h.log place (Option.filter_eq_some_iff.mp hPlace).1

theorem of_files (h : Extends files o w) {w' : Workspace} (hFiles : w'.files = w.files)
    (hLog : w'.log = w.log) : Extends files o w' where
  same := hFiles ▸ h.same
  entry?_eq r hr := hFiles ▸ h.entry?_eq r hr
  log place hPlace := h.log place (hLog ▸ hPlace)

theorem note (h : Extends files o w) (e : JournalEntry) : Extends files o (w.note e) := by
  rcases w.note_files e with hFiles | ⟨place, content, hPlace, hFiles⟩
  · exact h.of_files hFiles (w.note_log e)
  · obtain ⟨hTakes, hLog⟩ := h.log place hPlace
    exact (h.write hTakes (.inr (.inr hLog)) content).of_files hFiles (w.note_log e)

theorem noteAll (h : Extends files o w) (entries : List JournalEntry) :
    Extends files o (w.noteAll entries) :=
  List.foldlRecOn entries Workspace.note h fun _ hExtends e _ => hExtends.note e

theorem idle (hSound : files.Sound) (verbose : Bool) :
    Extends files o (Workspace.idle files [] verbose) where
  same := .refl hSound
  entry?_eq _ _ := rfl
  log _ hPlace := by cases hPlace

theorem start (h : Extends files o w) {w' : Workspace} (hStart : w.start o.log = .ok w') :
    Extends files o w' := by
  unfold Workspace.start at hStart
  split at hStart
  · cases hStart
  · dsimp only at hStart
    split at hStart
    · rename_i hWrite
      cases hStart
      have hTakes := (h.same.takes_iff _).mp (takes_of_canWrite hWrite)
      have hMade := h.write hTakes (.inr (.inr rfl)) (w.files.bytesAt (.ofPath o.log) ++ [])
      refine ⟨hMade.same, hMade.entry?_eq, fun place hPlace => ?_⟩
      obtain rfl : Place.ofPath o.log = place := Option.some.inj hPlace
      exact ⟨hTakes, rfl⟩
    · cases hStart
      exact h.note _

/-- A file at no place of the run's own is found as before. -/
theorem look_file (h : Extends files o w) {p : Path} {bytes : List UInt8}
    (hLook : files.look p = .file bytes) (hOther : ¬o.Owns (.ofPath p)) :
    w.files.look p = .file bytes :=
  h.same.look_file hLook (h.entry?_eq _ hOther)

/-- What is noted leaves every file but the log as it is. -/
theorem entry?_note (h : Extends files o w) (hOther : r ≠ .ofPath o.log) (e : JournalEntry) :
    FileTree.entry? (w.note e).files r = w.files.entry? r := by
  rcases w.note_files e with hFiles | ⟨place, content, hPlace, hFiles⟩
  · rw [hFiles]
  · obtain ⟨hTakes, rfl⟩ := h.log place hPlace
    rw [hFiles, (h.same.takes hTakes).entry?_write h.same.sound, if_neg hOther]

end Extends

/-- Also, a file is at a place. -/
structure Holds (files : FileTree) (o : Options) (r : Place) (w : Workspace) : Prop
    extends Extends files o w where
  file : w.files.FileAt r

namespace Holds

theorem note (h : Holds files o r w) (e : JournalEntry) : Holds files o r (w.note e) :=
  ⟨h.toExtends.note e, fileAt_note h.file e⟩

theorem noteAll (h : Holds files o r w) (entries : List JournalEntry) :
    Holds files o r (w.noteAll entries) :=
  List.foldlRecOn entries Workspace.note h fun _ hHolds e _ => hHolds.note e

theorem removeFile (h : Holds files o r w) (hq : files.Takes q) (hOwn : o.Owns q) (hPlace : r ≠ q)
    (hParent : r ≠ q.parent) : Holds files o r (w.removeFile q) :=
  ⟨h.toExtends.removeFile hq hOwn, h.file.remove hPlace hParent⟩

end Holds

end Workspace

end TopologyExplorer

import TopologyExplorer.Database.File
import TopologyExplorer.Proofs.File.Lookup
import TopologyExplorer.Proofs.File.PathText

/-!
# Opening by a path

A path that is no locator, and not the name of a database in memory, opens a database on the file at
its own place. Its first use clears files beside that one only, and there are tables only if an undo
file can be kept.
-/

namespace TopologyExplorer

/-! ## Beside a file -/

namespace DatabaseFile

variable {f : DatabaseFile} {t : FileTree} {q : Place}

theorem parent_beside (f : DatabaseFile) (suffix : String) :
    (f.beside suffix).parent = f.place.parent := by
  unfold beside
  split
  · simp [Place.parent]
  · rfl

theorem beside_ne {suffix : String} (hNames : f.place.names ≠ []) (hSuffix : suffix ≠ "") :
    f.beside suffix ≠ f.place := by
  intro hEq
  have hLast := congrArg (fun p => p.names.getLast?) hEq
  obtain ⟨before, name, hName⟩ := (List.eq_nil_or_concat' f.place.names).resolve_left hNames
  simp only [beside, hName, List.getLast?_concat] at hLast
  have hLength := congrArg String.length (Option.some.inj hLast)
  rw [String.length_append] at hLength
  exact hSuffix (String.length_eq_zero_iff.mp (by omega))

/-- A place beside the file that the database may clear. -/
def Clears (f : DatabaseFile) (q : Place) : Prop := q = f.undo ∨ q = f.redo

theorem Clears.parent (h : f.Clears q) : q.parent = f.place.parent := by
  rcases h with rfl | rfl
  · exact f.parent_beside _
  · exact f.parent_beside _

theorem Clears.ne (h : f.Clears q) (hPlace : t.Takes f.place) : q ≠ f.place := by
  have hNames : f.place.names ≠ [] := by
    intro hNil
    apply hPlace.parent_ne
    rw [Place.parent, hNil, List.dropLast_nil, ← hNil]
  rcases h with rfl | rfl
  · exact beside_ne hNames (by decide)
  · exact beside_ne hNames (by decide)

theorem Clears.takes (h : f.Clears q) (hPlace : t.Takes f.place)
    (hFree : t.entry? q ≠ some .directory) : t.Takes q :=
  ⟨hFree, h.parent ▸ hPlace.within⟩

theorem entry?_of_bytesAt (h : (t.bytesAt q).isEmpty = false) :
    ∃ bytes, t.entry? q = some (.file bytes) := by
  unfold FileTree.bytesAt at h
  split at h
  · exact ⟨_, ‹_›⟩
  · cases h

theorem bytesAt_of_isUnfinished (h : f.isUnfinished t = true) :
    (t.bytesAt f.undo).isEmpty = false := by
  unfold isUnfinished at h
  cases hBytes : t.bytesAt f.undo with
  | nil =>
    rw [hBytes] at h
    cases h
  | cons byte bytes => rfl

theorem mem_useEmpty (h : q ∈ (f.useEmpty t).2) :
    f.Clears q ∧ (t.bytesAt q).isEmpty = false := by
  have hUndone : q ∈ (if f.writable && !(t.bytesAt f.undo).isEmpty then [f.undo] else []) →
      f.Clears q ∧ (t.bytesAt q).isEmpty = false := by
    intro hUndo
    split at hUndo
    · rename_i hBytes
      obtain rfl := List.mem_singleton.mp hUndo
      exact ⟨.inl rfl, by simpa using (Bool.and_eq_true_iff.mp hBytes).2⟩
    · cases hUndo
  by_cases hRedo : t.entry? f.redo = some .directory
  · rw [useEmpty, if_pos hRedo] at h
    exact hUndone h
  · rw [useEmpty, if_neg hRedo] at h
    rcases List.mem_append.mp h with h | h
    · exact hUndone h
    · split at h
      · cases h
      · rename_i hBytes
        obtain rfl := List.mem_singleton.mp h
        exact ⟨.inr rfl, by simpa using hBytes⟩

theorem mem_useForeign (h : q ∈ (f.useForeign t).2) :
    f.Clears q ∧ (t.bytesAt q).isEmpty = false := by
  unfold useForeign at h
  split at h
  · cases h
  · dsimp only at h
    split at h
    · rename_i hUnfinished
      obtain rfl := List.mem_singleton.mp h
      exact ⟨.inl rfl, bytesAt_of_isUnfinished hUnfinished⟩
    · cases h

/-- The first use clears files beside its own. -/
theorem mem_firstUse (h : q ∈ (f.firstUse t).2) :
    f.Clears q ∧ ∃ bytes, t.entry? q = some (.file bytes) := by
  have hFull : f.Clears q ∧ (t.bytesAt q).isEmpty = false := by
    unfold firstUse at h
    split at h
    · cases h
    · split at h
      · exact mem_useEmpty h
      · exact mem_useForeign h
  exact ⟨hFull.1, entry?_of_bytesAt hFull.2⟩

theorem useEmpty_cases (f : DatabaseFile) (t : FileTree) :
    (f.useEmpty t).1 = .broken ∨ (f.useEmpty t).1 = .readOnly ∨
      (f.useEmpty t).1 = .blank ∧ t.canWrite f.undo = true := by
  by_cases hRedo : t.entry? f.redo = some .directory
  · rw [useEmpty, if_pos hRedo]
    exact .inl rfl
  · rw [useEmpty, if_neg hRedo]
    dsimp only
    split
    · rename_i hWrite
      exact .inr (.inr ⟨rfl, (Bool.and_eq_true_iff.mp hWrite).2⟩)
    · exact .inr (.inl rfl)

theorem useForeign_cases (f : DatabaseFile) (t : FileTree) :
    (f.useForeign t).1 = .broken ∨ (f.useForeign t).1 = .foreign := by
  unfold useForeign
  split
  · exact .inl rfl
  · dsimp only
    split
    · exact .inl rfl
    · exact .inr rfl

/-- There are tables only if an undo file can be kept. -/
theorem canWrite_undo {db : Database} (h : (f.firstUse t).1.makeTables = .ok db) :
    t.canWrite f.undo = true := by
  unfold firstUse at h
  split at h
  · dsimp only at h
    split at h <;> cases h
  · split at h
    · rcases useEmpty_cases f t with hUse | hUse | ⟨-, hWrite⟩
      · rw [hUse] at h
        cases h
      · rw [hUse] at h
        cases h
      · exact hWrite
    · rcases useForeign_cases f t with hUse | hUse
      · rw [hUse] at h
        cases h
      · rw [hUse] at h
        cases h

theorem bytesAt_of_not_fileAt (h : ¬t.FileAt q) : t.bytesAt q = [] := by
  unfold FileTree.bytesAt
  split
  · exact absurd ⟨_, ‹_›⟩ h
  · rfl

/-- An empty file without anything in the way beside it is ready for tables. -/
theorem firstUse_eq_blank (hAlone : f.alone = false) (hWritable : f.writable = true)
    (hEmpty : t.entry? f.place = some (.file [])) (hUndo : t.canWrite f.undo = true)
    (hRedo : t.entry? f.redo ≠ some .directory) : (f.firstUse t).1 = .blank := by
  have hBytes : f.isEmpty t = true := by
    rw [isEmpty, FileTree.bytesAt, hEmpty]
    rfl
  have hWrite : (f.writable && t.canWrite f.undo) = true := by rw [hWritable, hUndo]; rfl
  rw [firstUse, if_neg (by simp [hAlone]), if_pos hBytes, useEmpty, if_neg hRedo]
  dsimp only
  rw [if_pos hWrite]

end DatabaseFile

/-! ## Names of files -/

/-- The path is read back from its text, which names a lasting file and is no locator. -/
structure Path.NamesDatabase (p : Path) : Prop where
  names : ∀ name ∈ p.names, Path.IsName name
  plain : DatabaseName.scheme.isPrefixOf p.text.toList = false
  lasting : p.text ∉ DatabaseName.memoryPaths

theorem locateFrom_eq_some {t : FileTree} {absolute : Bool} {here names : List String}
    {place : Place} (h : t.locateFrom absolute here names = some place) :
    place = ⟨absolute, (names.foldl (Place.step absolute) here).reverse⟩ := by
  induction names generalizing here with
  | nil => exact (Option.some.inj h).symm
  | cons name names ih =>
    rw [FileTree.locateFrom] at h
    rw [List.foldl_cons, Place.step]
    by_cases hUp : name = ".."
    · rw [if_pos hUp] at h ⊢
      exact ih h
    · rw [if_neg hUp] at h ⊢
      split at h
      · exact ih h
      · cases h

theorem locate?_eq_some {t : FileTree} {p : Path} {place : Place} (h : t.locate? p = some place) :
    place = Place.ofPath p := by
  unfold FileTree.locate? at h
  obtain ⟨found, hFound, hPlace⟩ := Option.bind_eq_some_iff.mp h
  split at hPlace
  · cases hPlace
  · cases hPlace
    exact locateFrom_eq_some hFound

theorem ofText?_path {p : Path} (h : p.NamesDatabase) :
    DatabaseName.ofText? p.text = some (.ofPath p.text) := by
  have hPlain : ¬DatabaseName.scheme.isPrefixOf p.text.toList = true := by simp [h.plain]
  rw [DatabaseName.ofText?, if_neg hPlain]
  exact Option.filter_eq_some_iff.mpr ⟨rfl, rfl⟩

/-- Opening a database by the path of its file makes the file, unless it cannot be had. -/
theorem openAt_path {t : FileTree} {p : Path} {opened : Origin × FileTree}
    (h : p.NamesDatabase) (hOpen : Origin.openAt t p.text = .ok opened) :
    t.canWrite (Place.ofPath p) = true ∧
      opened = (.file ⟨Place.ofPath p, true, false, true⟩, t.append (Place.ofPath p) []) := by
  unfold Origin.openAt at hOpen
  rw [ofText?_path h, Option.bind_some] at hOpen
  have hLasting : (DatabaseName.ofPath p.text).isTemporary = false := by
    simp [DatabaseName.isTemporary, DatabaseName.isUnfiled, DatabaseName.ofPath, h.lasting,
      DatabaseName.fileSystem, DatabaseName.memorySystem]
  have hPath : Path.ofText (DatabaseName.ofPath p.text).path = p := Path.ofText_text h.names
  split at hOpen
  · cases hOpen
  · split at hOpen
    · rename_i opened hOrigin
      obtain rfl := Except.ok.inj hOpen
      rw [DatabaseName.origin?, if_neg (by simp [hLasting]), hPath] at hOrigin
      obtain ⟨place, hPlace, hRest⟩ := Option.bind_eq_some_iff.mp hOrigin
      obtain rfl := locate?_eq_some hPlace
      have hWritable : (DatabaseName.ofPath p.text).isWritable = true := by
        simp [DatabaseName.isWritable, DatabaseName.ofPath]
      have hModel : (!(DatabaseName.ofPath p.text).hasModel t) = false := rfl
      have hAccess : (DatabaseName.ofPath p.text).access = .make := rfl
      simp only [hWritable, hModel, hAccess, Bool.false_eq_true, if_false] at hRest
      split at hRest
      · rename_i hWrite
        exact ⟨hWrite, (Option.some.inj hRest).symm⟩
      · cases hRest
    · cases hOpen

end TopologyExplorer

import Mathlib.Data.List.Basic
import TopologyExplorer.File.Tree

/-!
# Entries of a tree

In a sound tree every place above something is a directory. Writing or removing a file there changes
what is at its own place and nothing else, and leaves the directories as they are.
-/

namespace TopologyExplorer

namespace Place

variable {p q r : Place}

theorem leadsTo_iff : p.leadsTo q = true ↔ p.absolute = q.absolute ∧ p.names <+: q.names := by
  simp [leadsTo]

theorem leadsTo_refl (p : Place) : p.leadsTo p = true := leadsTo_iff.mpr ⟨rfl, List.prefix_rfl⟩

theorem leadsTo_trans (h : p.leadsTo q = true) (h' : q.leadsTo r = true) : p.leadsTo r = true := by
  obtain ⟨hRoot, hNames⟩ := leadsTo_iff.mp h
  obtain ⟨hRoot', hNames'⟩ := leadsTo_iff.mp h'
  exact leadsTo_iff.mpr ⟨hRoot.trans hRoot', hNames.trans hNames'⟩

theorem leadsTo_antisymm (h : p.leadsTo q = true) (h' : q.leadsTo p = true) : p = q := by
  obtain ⟨hRoot, hNames⟩ := leadsTo_iff.mp h
  obtain ⟨-, hNames'⟩ := leadsTo_iff.mp h'
  have hEq := hNames.eq_of_length (Nat.le_antisymm hNames.length_le hNames'.length_le)
  cases p
  cases q
  simp_all

theorem parent_leadsTo (p : Place) : p.parent.leadsTo p = true :=
  leadsTo_iff.mpr ⟨rfl, List.dropLast_prefix p.names⟩

theorem leadsTo_parent (h : p.leadsTo q = true) (hNe : p ≠ q) : p.leadsTo q.parent = true := by
  obtain ⟨hRoot, hNames⟩ := leadsTo_iff.mp h
  refine leadsTo_iff.mpr ⟨hRoot, ?_⟩
  have hLess : p.names.length < q.names.length := by
    refine Nat.lt_of_le_of_ne hNames.length_le fun hLength => hNe ?_
    have hEq := hNames.eq_of_length hLength
    cases p
    cases q
    simp_all
  rw [parent, List.dropLast_eq_take]
  exact List.prefix_take_iff.mpr ⟨hNames, by omega⟩

theorem isGiven_of_leadsTo (h : p.leadsTo q = true) (hq : q.isGiven = true) : p.isGiven = true := by
  obtain ⟨-, hNames⟩ := leadsTo_iff.mp h
  rw [isGiven, List.all_eq_true] at hq ⊢
  exact fun name hName => hq name (hNames.subset hName)

end Place

namespace FileTree

variable {t u : FileTree} {q r : Place} {bytes : List UInt8}

/-! ## Entries -/

theorem entry?_eq_file_iff :
    t.entry? q = some (.file bytes) ↔ t.entries.lookup q = some (.file bytes) := by
  unfold entry?
  cases t.entries.lookup q with
  | some e => rfl
  | none =>
    dsimp only
    split <;> simp

theorem entry?_eq_directory_iff :
    t.entry? q = some .directory ↔ t.entries.lookup q = some .directory ∨
      t.entries.lookup q = none ∧
        (q.isGiven = true ∨ ∃ e ∈ t.entries, q.leadsTo e.1 = true) := by
  unfold entry?
  cases t.entries.lookup q with
  | some e => simp
  | none =>
    rw [← List.any_eq_true, ← Bool.or_eq_true]
    simp only [Option.ite_none_right_eq_some, reduceCtorEq, false_or, true_and, and_true]

theorem lookup_filter_ne (entries : List (Place × Entry)) (h : r ≠ q) :
    (entries.filter fun e => decide (e.1 ≠ q)).lookup r = entries.lookup r := by
  induction entries with
  | nil => rfl
  | cons e entries ih =>
    obtain ⟨place, entry⟩ := e
    by_cases hPlace : place = q
    · have hOther : (r == place) = false := by
        rw [hPlace]
        exact beq_eq_false_iff_ne.mpr h
      rw [List.filter_cons_of_neg (by simp [hPlace]), ih, List.lookup_cons, hOther]
    · rw [List.filter_cons_of_pos (by simp [hPlace]), List.lookup_cons, List.lookup_cons, ih]

theorem lookup_filter_self (entries : List (Place × Entry)) (q : Place) :
    (entries.filter fun e => decide (e.1 ≠ q)).lookup q = none := by
  rw [List.lookup_eq_none_iff]
  intro e he
  have hPlace : e.1 ≠ q := by simpa using (List.mem_filter.mp he).2
  exact bne_iff_ne.mpr hPlace.symm

theorem lookup_write (t : FileTree) (q : Place) (content : List UInt8) (r : Place) :
    (t.write q content).entries.lookup r =
      if r = q then some (.file content) else t.entries.lookup r := by
  rw [write, List.lookup_cons]
  by_cases hPlace : r = q
  · rw [if_pos hPlace, hPlace, beq_self_eq_true]
  · rw [if_neg hPlace, beq_eq_false_iff_ne.mpr hPlace]
    exact lookup_filter_ne _ hPlace

theorem lookup_remove (t : FileTree) (q r : Place) :
    (t.remove q).entries.lookup r =
      if r = q.parent then some .directory else if r = q then none else t.entries.lookup r := by
  rw [remove, List.lookup_cons]
  by_cases hParent : r = q.parent
  · rw [if_pos hParent, hParent, beq_self_eq_true]
  · rw [if_neg hParent, beq_eq_false_iff_ne.mpr hParent]
    by_cases hPlace : r = q
    · rw [if_pos hPlace, hPlace]
      exact lookup_filter_self _ _
    · rw [if_neg hPlace]
      exact lookup_filter_ne _ hPlace

/-! ## Files -/

def FileAt (t : FileTree) (r : Place) : Prop := ∃ bytes, t.entry? r = some (.file bytes)

theorem fileAt_write_self (t : FileTree) (q : Place) (content : List UInt8) :
    (t.write q content).FileAt q :=
  ⟨content, by rw [entry?_eq_file_iff, lookup_write, if_pos rfl]⟩

theorem fileAt_write_iff {content : List UInt8} (h : r ≠ q) :
    (t.write q content).FileAt r ↔ t.FileAt r := by
  simp only [FileAt, entry?_eq_file_iff, lookup_write, if_neg h]

theorem FileAt.write (h : t.FileAt r) (q : Place) (content : List UInt8) :
    (t.write q content).FileAt r := by
  by_cases hPlace : r = q
  · rw [hPlace]
    exact t.fileAt_write_self q content
  · exact (fileAt_write_iff hPlace).mpr h

theorem not_fileAt_remove (t : FileTree) (q : Place) : ¬(t.remove q).FileAt q := by
  rintro ⟨bytes, hFile⟩
  rw [entry?_eq_file_iff, lookup_remove] at hFile
  split at hFile
  · cases hFile
  · rw [if_pos rfl] at hFile
    cases hFile

theorem FileAt.remove (h : t.FileAt r) (hPlace : r ≠ q) (hParent : r ≠ q.parent) :
    (t.remove q).FileAt r := by
  obtain ⟨bytes, hFile⟩ := h
  refine ⟨bytes, ?_⟩
  rw [entry?_eq_file_iff] at hFile ⊢
  rw [lookup_remove, if_neg hParent, if_neg hPlace, hFile]

/-! ## Sound trees -/

theorem entry?_congr (hLookup : u.entries.lookup r = t.entries.lookup r)
    (hDirectory : u.entry? r = some .directory ↔ t.entry? r = some .directory) :
    u.entry? r = t.entry? r := by
  unfold entry? at hDirectory ⊢
  rw [hLookup] at hDirectory ⊢
  cases hFound : t.entries.lookup r with
  | some e => rfl
  | none =>
    simp only [hFound, Option.ite_none_right_eq_some, and_true] at hDirectory
    simp only [hDirectory]

theorem entry?_ne_none_of_mem {e : Place × Entry} (h : e ∈ t.entries) : t.entry? e.1 ≠ none := by
  unfold entry?
  cases hFound : t.entries.lookup e.1 with
  | some _ => exact Option.some_ne_none _
  | none =>
    have hOther := List.lookup_eq_none_iff.mp hFound e h
    exact absurd rfl (bne_iff_ne.mp hOther)

/-- A given place is a directory, and so is every place above something. -/
structure Sound (t : FileTree) : Prop where
  given : ∀ {p : Place}, p.isGiven = true → t.entry? p = some .directory
  above : ∀ {p q : Place}, p.leadsTo q = true → p ≠ q → t.entry? q ≠ none →
    t.entry? p = some .directory

theorem mem_of_lookup {e : Entry} (h : t.entries.lookup q = some e) : (q, e) ∈ t.entries := by
  obtain ⟨before, behind, hEntries, -⟩ := List.lookup_eq_some_iff.mp h
  rw [hEntries]
  exact List.mem_append_right before List.mem_cons_self

theorem exists_below (h : t.entry? q ≠ none) :
    q.isGiven = true ∨ ∃ e ∈ t.entries, q.leadsTo e.1 = true := by
  cases hEntry : t.entry? q with
  | none => exact absurd hEntry h
  | some entry =>
    have hAbove : ∀ found, t.entries.lookup q = some found →
        ∃ e ∈ t.entries, q.leadsTo e.1 = true :=
      fun found hFound => ⟨(q, found), mem_of_lookup hFound, q.leadsTo_refl⟩
    cases entry with
    | file bytes => exact .inr (hAbove _ (entry?_eq_file_iff.mp hEntry))
    | directory =>
      rcases entry?_eq_directory_iff.mp hEntry with hFound | ⟨-, hBelow⟩
      · exact .inr (hAbove _ hFound)
      · exact hBelow

/-- Files that are not given places and lead to no other entry make a tree sound. -/
theorem sound_of_entries (h : ∀ e ∈ t.entries, e.2 ≠ .directory →
    e.1.isGiven = false ∧ ∀ f ∈ t.entries, e.1.leadsTo f.1 = true → f.1 = e.1) : t.Sound := by
  -- A place is a directory if it is given or above another entry: no file is either.
  have hBelow : ∀ {p : Place},
      p.isGiven = true ∨ (∃ e ∈ t.entries, p.leadsTo e.1 = true ∧ e.1 ≠ p) → t.entry? p = some .directory := by
    intro p hp
    rw [entry?_eq_directory_iff]
    cases hFound : t.entries.lookup p with
    | none => exact .inr ⟨rfl, hp.imp_right fun ⟨e, he, hWay, _⟩ => ⟨e, he, hWay⟩⟩
    | some entry =>
      cases entry with
      | directory => exact .inl rfl
      | file bytes =>
        obtain ⟨hGiven, hAlone⟩ := h _ (mem_of_lookup hFound) (by simp)
        rcases hp with hp | ⟨e, he, hWay, hNe⟩
        · cases hGiven.symm.trans hp
        · exact absurd (hAlone e he hWay) hNe
  refine ⟨fun hGiven => hBelow (.inl hGiven), fun {p q} hWay hNe hSome => hBelow ?_⟩
  rcases exists_below hSome with hGiven | ⟨e, he, hq⟩
  · exact .inl (Place.isGiven_of_leadsTo hWay hGiven)
  · refine .inr ⟨e, he, Place.leadsTo_trans hWay hq, ?_⟩
    rintro rfl
    exact hNe (Place.leadsTo_antisymm hWay hq)

/-- A file is at the place, or can be made there. -/
structure Takes (t : FileTree) (q : Place) : Prop where
  free : t.entry? q ≠ some .directory
  within : t.entry? q.parent = some .directory

theorem takes_of_canWrite (h : t.canWrite q = true) : t.Takes q := by
  simp only [canWrite, Bool.and_eq_true, decide_eq_true_eq] at h
  exact ⟨h.1.1, h.1.2⟩

theorem Takes.parent_ne (h : t.Takes q) : q.parent ≠ q :=
  fun hEq => h.free (hEq ▸ h.within)

theorem Takes.above (hSound : t.Sound) (h : t.Takes q) (hWay : r.leadsTo q = true) (hNe : r ≠ q) :
    t.entry? r = some .directory := by
  by_cases hParent : r = q.parent
  · rw [hParent]
    exact h.within
  · refine hSound.above (Place.leadsTo_parent hWay hNe) hParent ?_
    rw [h.within]
    exact Option.some_ne_none _

/-- An entry that stands for the one at a place leaves what is at another place as it is. -/
theorem Takes.entry?_eq (hSound : t.Sound) (h : t.Takes q) (hPlace : r ≠ q) {e : Place × Entry}
    (hEntries : u.entries = e :: t.entries.filter fun e => decide (e.1 ≠ q))
    (hWay : r.leadsTo e.1 = true ↔ r.leadsTo q = true)
    (hLookup : u.entries.lookup r = t.entries.lookup r) : u.entry? r = t.entry? r := by
  refine entry?_congr hLookup ⟨fun hDirectory => ?_, fun hDirectory => ?_⟩
  · rw [entry?_eq_directory_iff, hLookup, hEntries] at hDirectory
    rcases hDirectory with hFound | ⟨hNone, hGiven | ⟨f, hf, hBelow⟩⟩
    · exact entry?_eq_directory_iff.mpr (.inl hFound)
    · exact hSound.given hGiven
    · rcases List.mem_cons.mp hf with rfl | hf
      · exact h.above hSound (hWay.mp hBelow) hPlace
      · exact entry?_eq_directory_iff.mpr
          (.inr ⟨hNone, .inr ⟨f, (List.mem_filter.mp hf).1, hBelow⟩⟩)
  · rw [entry?_eq_directory_iff] at hDirectory ⊢
    rw [hLookup, hEntries]
    refine hDirectory.imp_right (And.imp_right (Or.imp_right ?_))
    rintro ⟨f, hf, hBelow⟩
    by_cases hOwn : f.1 = q
    · exact ⟨e, List.mem_cons_self, hWay.mpr (hOwn ▸ hBelow)⟩
    · have hKept : decide (f.1 ≠ q) = true := by simpa using hOwn
      exact ⟨f, List.mem_cons_of_mem _ (List.mem_filter.mpr ⟨hf, hKept⟩), hBelow⟩

/-- Writing a file changes what is at its place, and nothing else. -/
theorem Takes.entry?_write (hSound : t.Sound) (h : t.Takes q) (content : List UInt8) (r : Place) :
    entry? (t.write q content) r = if r = q then some (.file content) else t.entry? r := by
  by_cases hPlace : r = q
  · rw [if_pos hPlace, entry?_eq_file_iff, lookup_write, if_pos hPlace]
  · rw [if_neg hPlace]
    refine h.entry?_eq hSound hPlace rfl Iff.rfl ?_
    rw [lookup_write, if_neg hPlace]

theorem Takes.entry?_remove_self (hSound : t.Sound) (h : t.Takes q) :
    entry? (t.remove q) q = none := by
  have hLookup : (t.remove q).entries.lookup q = none := by
    rw [lookup_remove, if_neg h.parent_ne.symm, if_pos rfl]
  rw [Option.eq_none_iff_forall_not_mem]
  rintro (bytes | _) hEntry
  · rw [Option.mem_def, entry?_eq_file_iff, hLookup] at hEntry
    cases hEntry
  · rw [Option.mem_def, entry?_eq_directory_iff, hLookup] at hEntry
    rcases hEntry with hFound | ⟨-, hGiven | ⟨e, he, hWay⟩⟩
    · cases hFound
    · exact h.free (hSound.given hGiven)
    · rcases List.mem_cons.mp he with rfl | he
      · exact h.parent_ne (Place.leadsTo_antisymm (Place.parent_leadsTo q) hWay)
      · have hOther : e.1 ≠ q := by simpa using (List.mem_filter.mp he).2
        have hSome := entry?_ne_none_of_mem (List.mem_filter.mp he).1
        exact h.free (hSound.above hWay hOther.symm hSome)

/-- Removing a file changes what is at its place, and nothing else. -/
theorem Takes.entry?_remove (hSound : t.Sound) (h : t.Takes q) (r : Place) :
    entry? (t.remove q) r = if r = q then none else t.entry? r := by
  by_cases hPlace : r = q
  · rw [if_pos hPlace, hPlace]
    exact h.entry?_remove_self hSound
  · rw [if_neg hPlace]
    by_cases hParent : r = q.parent
    · rw [hParent, h.within, entry?_eq_directory_iff, lookup_remove, if_pos rfl]
      exact .inl rfl
    · refine h.entry?_eq hSound hPlace rfl ⟨fun hWay => ?_, fun hWay => ?_⟩ ?_
      · exact Place.leadsTo_trans hWay (Place.parent_leadsTo q)
      · exact Place.leadsTo_parent hWay hPlace
      · rw [lookup_remove, if_neg hParent, if_neg hPlace]

/-! ## Changes of files -/

/-- The files may differ, the directories are the same. -/
structure SameDirectories (t u : FileTree) : Prop where
  sound : u.Sound
  entry?_iff : ∀ r, u.entry? r = some .directory ↔ t.entry? r = some .directory

namespace SameDirectories

theorem refl (hSound : t.Sound) : t.SameDirectories t := ⟨hSound, fun _ => Iff.rfl⟩

theorem trans {v : FileTree} (h : t.SameDirectories u) (h' : u.SameDirectories v) :
    t.SameDirectories v := ⟨h'.sound, fun r => (h'.entry?_iff r).trans (h.entry?_iff r)⟩

theorem takes_iff (h : t.SameDirectories u) (q : Place) : u.Takes q ↔ t.Takes q :=
  ⟨fun hq => ⟨mt (h.entry?_iff q).mpr hq.free, (h.entry?_iff q.parent).mp hq.within⟩,
    fun hq => ⟨mt (h.entry?_iff q).mp hq.free, (h.entry?_iff q.parent).mpr hq.within⟩⟩

theorem takes (h : t.SameDirectories u) (hq : t.Takes q) : u.Takes q := (h.takes_iff q).mpr hq

theorem canWrite (h : t.SameDirectories u) (hq : t.canWrite q = true) : u.canWrite q = true := by
  have hTakes := h.takes (takes_of_canWrite hq)
  simp only [FileTree.canWrite, Bool.and_eq_true, decide_eq_true_eq] at hq ⊢
  exact ⟨⟨hTakes.free, hTakes.within⟩, hq.2⟩

/-- A file comes or goes at one place. -/
theorem of_entry_eq (hSound : t.Sound) (hq : t.Takes q) {e : Option Entry}
    (he : e ≠ some .directory) (hEntry : ∀ r, u.entry? r = if r = q then e else t.entry? r) : t.SameDirectories u := by
  have hIff : ∀ r, u.entry? r = some .directory ↔ t.entry? r = some .directory := by
    intro r
    rw [hEntry]
    by_cases hPlace : r = q
    · rw [if_pos hPlace, hPlace]
      exact iff_of_false he hq.free
    · rw [if_neg hPlace]
  refine ⟨⟨fun hGiven => (hIff _).mpr (hSound.given hGiven), fun {p r} hWay hNe hSome => ?_⟩, hIff⟩
  rw [hIff]
  by_cases hPlace : r = q
  · exact hq.above hSound (hPlace ▸ hWay) (hPlace ▸ hNe)
  · rw [hEntry, if_neg hPlace] at hSome
    exact hSound.above hWay hNe hSome

theorem write (h : t.SameDirectories u) (hq : t.Takes q) (content : List UInt8) :
    t.SameDirectories (u.write q content) :=
  h.trans (.of_entry_eq h.sound (h.takes hq) (by simp) ((h.takes hq).entry?_write h.sound content))

theorem remove (h : t.SameDirectories u) (hq : t.Takes q) : t.SameDirectories (u.remove q) :=
  h.trans (.of_entry_eq h.sound (h.takes hq) (by simp) ((h.takes hq).entry?_remove h.sound))

end SameDirectories

end FileTree

end TopologyExplorer

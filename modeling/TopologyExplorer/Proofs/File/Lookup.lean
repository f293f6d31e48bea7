import TopologyExplorer.Proofs.File.PathText
import TopologyExplorer.Proofs.File.Tree

/-!
# Look-ups

A path is looked up along its names. It finds a file exactly if one is at the place that the names
come to and the way there leads through directories; which ways do depends on the directories alone.
-/

namespace TopologyExplorer

namespace Place

/-- One name on from a directory, whose own names are given last first. -/
def step (absolute : Bool) (here : List String) (name : String) : List String :=
  if name = ".." then up absolute here else name :: here

/-- Names given last first, in which only `..` comes before `..`. -/
def Climbs (here : List String) : Prop :=
  here.Pairwise fun name above => name = ".." → above = ".."

theorem Climbs.step {here : List String} (h : Climbs here) (absolute : Bool) (name : String) :
    Climbs (Place.step absolute here name) := by
  unfold Place.step
  by_cases hName : name = ".."
  · rw [if_pos hName]
    cases here with
    | nil =>
      cases absolute
      · exact List.pairwise_singleton _ _
      · exact List.Pairwise.nil
    | cons last here =>
      rw [up]
      by_cases hLast : last = ".."
      · rw [if_pos hLast]
        refine List.pairwise_cons.mpr ⟨fun above hAbove _ => ?_, h⟩
        rcases List.mem_cons.mp hAbove with rfl | hAbove
        · exact hLast
        · exact (List.pairwise_cons.mp h).1 above hAbove hLast
      · rw [if_neg hLast]
        exact (List.pairwise_cons.mp h).2
  · rw [if_neg hName]
    exact List.pairwise_cons.mpr ⟨fun _ _ hEq => absurd hEq hName, h⟩

theorem Climbs.isGiven {absolute : Bool} {here : List String} (h : Climbs (".." :: here)) :
    isGiven ⟨absolute, (".." :: here).reverse⟩ = true := by
  rw [Place.isGiven, List.all_reverse, List.all_cons, List.all_eq_true.mpr]
  · simp
  · intro name hName
    simpa using (List.pairwise_cons.mp h).1 name hName rfl

end Place

namespace FileTree

variable {t u : FileTree} {p : Path} {bytes : List UInt8}

/-! ## Ways through directories -/

/-- A name leads on to a directory. -/
def CanStep (t : FileTree) (absolute : Bool) (here : List String) (name : String) : Prop :=
  name = ".." ∨ ¬longestName < name.utf8ByteSize ∧
    t.entry? ⟨absolute, (name :: here).reverse⟩ = some .directory

theorem lookFrom_of_canStep {absolute : Bool} {here : List String} {name : String}
    (h : t.CanStep absolute here name) (names : List String) :
    t.lookFrom absolute here (name :: names) =
      t.lookFrom absolute (Place.step absolute here name) names := by
  rw [lookFrom, Place.step]
  by_cases hUp : name = ".."
  · rw [if_pos hUp, if_pos hUp]
  · obtain ⟨hShort, hDirectory⟩ := h.resolve_left hUp
    rw [if_neg hUp, if_neg hUp, if_neg hShort, hDirectory]

theorem canStep_of_lookFrom {absolute : Bool} {here : List String} {name : String}
    {names : List String} (h : t.lookFrom absolute here (name :: names) = .directory) :
    t.CanStep absolute here name := by
  rw [lookFrom] at h
  by_cases hUp : name = ".."
  · exact .inl hUp
  · rw [if_neg hUp] at h
    split at h
    · cases h
    · rename_i hShort
      split at h
      · cases h
      · split at h <;> cases h
      · rename_i hDirectory
        exact .inr ⟨hShort, hDirectory⟩

theorem lookFrom_append {absolute : Bool} {here before : List String} (behind : List String)
    (h : t.lookFrom absolute here before = .directory) :
    t.lookFrom absolute here (before ++ behind) =
      t.lookFrom absolute (before.foldl (Place.step absolute) here) behind := by
  induction before generalizing here with
  | nil => rfl
  | cons name before ih =>
    have hStep := canStep_of_lookFrom h
    rw [lookFrom_of_canStep hStep] at h
    rw [List.cons_append, lookFrom_of_canStep hStep, List.foldl_cons]
    exact ih h

theorem lookFrom_concat {absolute : Bool} {here before : List String} {name : String}
    (hWay : t.lookFrom absolute here before = .directory) (hName : name ≠ "..") :
    t.lookFrom absolute here (before ++ [name]) =
      if longestName < name.utf8ByteSize then .tooLong
      else
        match t.entry? ⟨absolute, (name :: before.foldl (Place.step absolute) here).reverse⟩ with
        | none => .missing
        | some (.file bytes) => .file bytes
        | some .directory => .directory := by
  rw [lookFrom_append [name] hWay, lookFrom, if_neg hName]
  rfl

/-- The way to a file leads through directories. -/
theorem lookFrom_eq_file {absolute : Bool} {here names : List String}
    (h : t.lookFrom absolute here names = .file bytes) :
    ∃ before name, names = before ++ [name] ∧ name ≠ ".." ∧
      t.lookFrom absolute here before = .directory ∧
      t.entry? ⟨absolute, (name :: before.foldl (Place.step absolute) here).reverse⟩ =
        some (.file bytes) := by
  induction names generalizing here with
  | nil => cases h
  | cons name names ih =>
    by_cases hStep : t.CanStep absolute here name
    · rw [lookFrom_of_canStep hStep] at h
      obtain ⟨before, last, rfl, hLast, hWay, hEntry⟩ := ih h
      refine ⟨name :: before, last, rfl, hLast, ?_, hEntry⟩
      rw [lookFrom_of_canStep hStep]
      exact hWay
    -- The name does not lead on to a directory, so it is the last one.
    · obtain ⟨hUp, hOther⟩ := not_or.mp hStep
      rw [lookFrom, if_neg hUp] at h
      split at h
      · cases h
      · rename_i hShort
        split at h
        · cases h
        · rename_i found hFile
          split at h
          · rename_i hLast
            obtain rfl := List.isEmpty_iff.mp hLast
            cases h
            exact ⟨[], name, rfl, hUp, rfl, hFile⟩
          · cases h
        · rename_i hDirectory
          exact absurd ⟨hShort, hDirectory⟩ hOther

theorem ofPath_concat {before : List String} {name : String} (h : p.names = before ++ [name])
    (hName : name ≠ "..") :
    Place.ofPath p = ⟨decide (p.root ≠ .here),
      (name :: before.foldl (Place.step (decide (p.root ≠ .here))) []).reverse⟩ := by
  have hFold : Place.ofPath p = ⟨decide (p.root ≠ .here),
      (p.names.foldl (Place.step (decide (p.root ≠ .here))) []).reverse⟩ := rfl
  rw [hFold, h, List.foldl_append, List.foldl_cons, List.foldl_nil]
  congr 2
  exact if_neg hName

theorem fileAt_of_look (h : t.look p = .file bytes) : t.FileAt (Place.ofPath p) := by
  unfold look at h
  split at h
  · cases h
  · split at h
    · cases h
    · obtain ⟨before, name, hNames, hName, -, hEntry⟩ := lookFrom_eq_file h
      rw [ofPath_concat hNames hName]
      exact ⟨bytes, hEntry⟩

/-! ## Long names -/

theorem SameDirectories.lookFrom (h : t.SameDirectories u) {absolute : Bool}
    {here names : List String} (hLook : t.lookFrom absolute here names = .directory) :
    u.lookFrom absolute here names = .directory := by
  induction names generalizing here with
  | nil => rfl
  | cons name names ih =>
    have hStep := canStep_of_lookFrom hLook
    have hStep' : u.CanStep absolute here name :=
      hStep.imp_right (And.imp_right (h.entry?_iff _).mpr)
    rw [lookFrom_of_canStep hStep] at hLook
    rw [lookFrom_of_canStep hStep']
    exact ih hLook

theorem SameDirectories.look (h : t.SameDirectories u) (hLook : t.look p = .directory) :
    u.look p = .directory := by
  unfold FileTree.look at hLook ⊢
  split at hLook
  · cases hLook
  · rename_i hNull
    rw [if_neg hNull]
    split at hLook
    · cases hLook
    · rename_i hShort
      rw [if_neg hShort]
      exact h.lookFrom hLook

/-- While the directories stay, a file that stays at its place is found by its path. -/
theorem SameDirectories.look_file (h : t.SameDirectories u) (hLook : t.look p = .file bytes)
    (hEntry : u.entry? (Place.ofPath p) = t.entry? (Place.ofPath p)) : u.look p = .file bytes := by
  unfold FileTree.look at hLook ⊢
  split at hLook
  · cases hLook
  · rename_i hNull
    rw [if_neg hNull]
    split at hLook
    · cases hLook
    · rename_i hText
      rw [if_neg hText]
      obtain ⟨before, name, hNames, hName, hWay, hFile⟩ := lookFrom_eq_file hLook
      rw [ofPath_concat hNames hName, hFile] at hEntry
      rw [hNames, lookFrom_concat hWay hName] at hLook
      rw [hNames, lookFrom_concat (h.lookFrom hWay) hName]
      split at hLook
      · cases hLook
      · rename_i hShort
        rw [if_neg hShort, hEntry]

theorem Sound.entry?_step (hSound : t.Sound) {absolute : Bool} {here : List String} {name : String}
    (hHere : Place.Climbs here) (hEntry : t.entry? ⟨absolute, here.reverse⟩ = some .directory)
    (hStep : t.CanStep absolute here name) :
    t.entry? ⟨absolute, (Place.step absolute here name).reverse⟩ = some .directory := by
  rw [Place.step]
  by_cases hUp : name = ".."
  · rw [if_pos hUp]
    cases here with
    | nil =>
      cases absolute
      · exact hSound.given rfl
      · exact hSound.given rfl
    | cons last here =>
      rw [Place.up]
      by_cases hLast : last = ".."
      · subst hLast
        have hHigher := hHere.step absolute ".."
        rw [Place.step, if_pos rfl, Place.up, if_pos rfl] at hHigher
        rw [if_pos rfl]
        exact hSound.given hHigher.isGiven
      · rw [if_neg hLast]
        refine hSound.above (q := ⟨absolute, (last :: here).reverse⟩) ?_ ?_ ?_
        · rw [Place.leadsTo_iff, List.reverse_cons]
          exact ⟨rfl, List.prefix_append _ _⟩
        · intro hEq
          simpa using congrArg (fun p => p.names.length) hEq
        · rw [hEntry]
          exact Option.some_ne_none _
  · rw [if_neg hUp]
    exact (hStep.resolve_left hUp).2

/-- What a path of names finds as a directory is one at its place. -/
theorem Sound.entry?_of_lookFrom (hSound : t.Sound) {absolute : Bool} {here names : List String}
    (hHere : Place.Climbs here) (hEntry : t.entry? ⟨absolute, here.reverse⟩ = some .directory)
    (hLook : t.lookFrom absolute here names = .directory) :
    t.entry? ⟨absolute, (names.foldl (Place.step absolute) here).reverse⟩ = some .directory := by
  induction names generalizing here with
  | nil => exact hEntry
  | cons name names ih =>
    have hStep := canStep_of_lookFrom hLook
    rw [lookFrom_of_canStep hStep] at hLook
    exact ih (hHere.step absolute name) (hSound.entry?_step hHere hEntry hStep) hLook

/-! ## Paths of files -/

/-- The path names a plain file, or nothing, in a directory. -/
structure Names (t : FileTree) (p : Path) : Prop where
  within : t.look p.parent = .directory
  free : t.look p = .missing ∨ ∃ bytes, t.look p = .file bytes

namespace Names

theorem plain (h : t.Names p) :
    ¬p.names.any Path.hasNull = true ∧ ¬longestPath < p.text.utf8ByteSize := by
  have hFree := h.free
  unfold look at hFree
  split at hFree
  · rcases hFree with hFree | ⟨_, hFree⟩ <;> cases hFree
  · rename_i hNull
    split at hFree
    · rcases hFree with hFree | ⟨_, hFree⟩ <;> cases hFree
    · rename_i hLong
      exact ⟨hNull, hLong⟩

theorem look_eq (h : t.Names p) (u : FileTree) :
    u.look p = u.lookFrom (decide (p.root ≠ .here)) [] p.names := by
  rw [look, if_neg h.plain.1, if_neg h.plain.2]

/-- The last name of a path to a file, and the way to it. -/
theorem last (h : t.Names p) : ∃ before name, p.names = before ++ [name] ∧ name ≠ ".." ∧
    ¬longestName < name.utf8ByteSize ∧
    t.lookFrom (decide (p.root ≠ .here)) [] before = .directory := by
  have hWay : t.lookFrom (decide (p.root ≠ .here)) [] p.names.dropLast = .directory := by
    have hWithin := h.within
    unfold look at hWithin
    split at hWithin
    · cases hWithin
    · split at hWithin
      · cases hWithin
      · exact hWithin
  have hFree := h.free
  rw [h.look_eq] at hFree
  rcases List.eq_nil_or_concat' p.names with hNil | ⟨before, name, hNames⟩
  · rw [hNil] at hFree
    rcases hFree with hFree | ⟨_, hFree⟩ <;> cases hFree
  · rw [hNames, List.dropLast_concat] at hWay
    rw [hNames] at hFree
    have hName : name ≠ ".." := by
      rintro rfl
      rw [lookFrom_append _ hWay] at hFree
      rcases hFree with hFree | ⟨_, hFree⟩ <;> cases hFree
    refine ⟨before, name, hNames, hName, fun hLong => ?_, hWay⟩
    rw [lookFrom_concat hWay hName, if_pos hLong] at hFree
    rcases hFree with hFree | ⟨_, hFree⟩ <;> cases hFree

theorem takes (hSound : t.Sound) (h : t.Names p) : t.Takes (Place.ofPath p) := by
  obtain ⟨before, name, hNames, hName, hShort, hWay⟩ := h.last
  rw [ofPath_concat hNames hName]
  constructor
  · intro hDirectory
    have hFree := h.free
    rw [h.look_eq, hNames, lookFrom_concat hWay hName, if_neg hShort, hDirectory] at hFree
    rcases hFree with hFree | ⟨_, hFree⟩ <;> cases hFree
  · have hAbove := hSound.entry?_of_lookFrom List.Pairwise.nil (hSound.given rfl) hWay
    rw [Place.parent, List.reverse_cons, List.dropLast_concat]
    exact hAbove

theorem sameDirectories (hSound : t.Sound) (h : t.Names p) (hSame : t.SameDirectories u) :
    u.Names p := by
  refine ⟨hSame.look h.within, ?_⟩
  obtain ⟨before, name, hNames, hName, hShort, hWay⟩ := h.last
  have hFree := (hSame.takes (h.takes hSound)).free
  rw [ofPath_concat hNames hName] at hFree
  rw [h.look_eq, hNames, lookFrom_concat (hSame.lookFrom hWay) hName, if_neg hShort]
  split
  · exact .inl rfl
  · exact .inr ⟨_, rfl⟩
  · exact absurd ‹_› hFree

theorem look_eq_file (h : t.Names p) (hFile : t.FileAt (Place.ofPath p)) :
    ∃ bytes, t.look p = .file bytes := by
  obtain ⟨before, name, hNames, hName, hShort, hWay⟩ := h.last
  rw [ofPath_concat hNames hName] at hFile
  obtain ⟨bytes, hEntry⟩ := hFile
  refine ⟨bytes, ?_⟩
  rw [h.look_eq, hNames, lookFrom_concat hWay hName, if_neg hShort, hEntry]

end Names

end FileTree

end TopologyExplorer

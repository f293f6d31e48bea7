import Mathlib.Data.List.Basic
import TopologyExplorer.File.Path
import TopologyExplorer.Proofs.Text.Separators

/-!
# Paths and their texts

A path that was read from a text is the path of its own text: reading keeps names that are no dot,
not empty and without a slash, and its written form has one slash between two of them.
-/

namespace TopologyExplorer.Path

/-- A name that reading a path keeps. -/
structure IsName (name : String) : Prop where
  ne_empty : name ≠ ""
  ne_dot : name ≠ "."
  noSlash : '/' ∉ name.toList

theorem isName_of_mem_namesOf {cs : List Char} {name : String} (h : name ∈ namesOf cs) :
    IsName name := by
  obtain ⟨hPart, hKept⟩ := List.mem_filter.mp h
  obtain ⟨part, hSplit, rfl⟩ := List.mem_map.mp hPart
  have hBoth : String.ofList part ≠ "" ∧ String.ofList part ≠ "." := by simpa using hKept
  refine ⟨hBoth.1, hBoth.2, ?_⟩
  rw [String.toList_ofList]
  exact not_mem_of_mem_splitOn hSplit

theorem namesOf_slash (cs : List Char) : namesOf ('/' :: cs) = namesOf cs := by
  rw [namesOf, List.splitOn_cons_eq_if_modifyHead, if_pos (by decide)]
  rfl

theorem namesOf_intercalate {names : List String} (h : ∀ name ∈ names, IsName name) :
    namesOf ("/".intercalate names).toList = names := by
  rw [String.toList_intercalate]
  by_cases hNil : names = []
  · rw [hNil]
    rfl
  · have hParts : (List.intercalate ['/'] (names.map String.toList)).splitOn '/' =
        names.map String.toList := by
      refine List.splitOn_intercalate '/' ?_ (by simpa using hNil)
      intro part hPart
      obtain ⟨name, hName, rfl⟩ := List.mem_map.mp hPart
      exact (h name hName).noSlash
    have hTexts : (names.map String.toList).map String.ofList = names := by
      simp
    rw [namesOf]
    refine (congrArg (fun parts => List.filter _ (List.map String.ofList parts)) hParts).trans ?_
    rw [hTexts, List.filter_eq_self]
    intro name hName
    simpa using ⟨(h name hName).ne_empty, (h name hName).ne_dot⟩

theorem head_intercalate_ne {names : List String} (h : ∀ name ∈ names, IsName name) :
    ("/".intercalate names).toList.head? ≠ some '/' := by
  rw [String.toList_intercalate]
  cases names with
  | nil => simp
  | cons name names =>
    have hName := h name List.mem_cons_self
    obtain ⟨c, cs, hChars⟩ :=
      List.exists_cons_of_ne_nil (mt String.toList_eq_nil_iff.mp hName.ne_empty)
    have hHead :
        (List.intercalate "/".toList ((name :: names).map String.toList)).head? = some c := by
      cases names <;> simp [List.intercalate, hChars]
    rw [hHead]
    intro hEq
    apply hName.noSlash
    rw [hChars, ← Option.some.inj hEq]
    exact List.mem_cons_self

theorem rootOf_rootText {cs : List Char} (root : PathRoot) (h : cs.head? ≠ some '/') :
    rootOf ((rootText root).toList ++ cs) = root := by
  have hNone : cs.takeWhile (fun c => decide (c = '/')) = [] := by
    cases cs with
    | nil => rfl
    | cons c cs =>
      rw [List.takeWhile_cons_of_neg]
      simpa using h
  cases root
  · simp [rootOf, rootText, hNone]
  · simp [rootOf, rootText, hNone]
  · simp [rootOf, rootText, hNone]

theorem ofText_text {root : PathRoot} {names : List String} (h : ∀ name ∈ names, IsName name) :
    ofText (text ⟨root, names⟩) = ⟨root, names⟩ := by
  unfold text
  split
  · rename_i hHere
    obtain ⟨hRoot, hNames⟩ : root = .here ∧ names = [] := hHere
    rw [hRoot, hNames]
    decide
  · have hNames : namesOf (rootText root ++ "/".intercalate names).toList = names := by
      rw [String.toList_append]
      cases root with
      | here => exact namesOf_intercalate h
      | slash => exact (namesOf_slash _).trans (namesOf_intercalate h)
      | slashes => exact (namesOf_slash _).trans ((namesOf_slash _).trans (namesOf_intercalate h))
    have hRoot : rootOf (rootText root ++ "/".intercalate names).toList = root := by
      rw [String.toList_append]
      exact rootOf_rootText root (head_intercalate_ne h)
    exact congrArg₂ Path.mk hRoot hNames

theorem mem_of_mem_intersperse {parts : List (List Char)} {sep part : List Char}
    (h : part ∈ parts.intersperse sep) : part = sep ∨ part ∈ parts := by
  induction parts with
  | nil => cases h
  | cons first parts ih =>
    cases parts with
    | nil => exact .inr h
    | cons second parts =>
      rw [List.intersperse_cons_cons] at h
      rcases List.mem_cons.mp h with rfl | h
      · exact .inr List.mem_cons_self
      · rcases List.mem_cons.mp h with rfl | h
        · exact .inl rfl
        · exact (ih h).imp_right (List.mem_cons_of_mem first)

theorem hasNull_text {p : Path} (h : p.names.any hasNull = false) : hasNull p.text = false := by
  have hNames : '\x00' ∉ ("/".intercalate p.names).toList := by
    rw [String.toList_intercalate, List.intercalate, List.mem_flatten]
    rintro ⟨part, hPart, hNull⟩
    rcases mem_of_mem_intersperse hPart with rfl | hPart
    · exact absurd hNull (by decide)
    · obtain ⟨name, hName, rfl⟩ := List.mem_map.mp hPart
      have hPlain := List.any_eq_false.mp h name hName
      exact hPlain (List.contains_iff_mem.mpr hNull)
  have hRoot : ∀ root, '\x00' ∉ (rootText root).toList := by
    rintro (_ | _ | _) <;> decide
  have hText : '\x00' ∉ p.text.toList := by
    unfold text
    split
    · decide
    · rw [String.toList_append, List.mem_append]
      exact not_or.mpr ⟨hRoot p.root, hNames⟩
  rw [hasNull, ← Bool.not_eq_true, List.contains_iff_mem]
  exact hText

end TopologyExplorer.Path

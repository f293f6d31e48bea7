import TopologyExplorer.Proofs.Pager.Offset
import TopologyExplorer.Proofs.Text.LineEnds
import TopologyExplorer.Proofs.Text.Utf8

/-!
# Written lines

A file of lines, written as UTF-8 with one end behind each, is shown as those lines, two spaces in
place of each tab. Whatever bytes a shown file holds, no line of it holds a tab or a line-breaking
character.
-/

namespace TopologyExplorer

open LineBreak

section ExpandTabs

variable {width : Int} {cs : List Char}

theorem expandTabs_append (width : Int) (cs ds : List Char) :
    expandTabs width (cs ++ ds) = expandTabs width cs ++ expandTabs width ds := List.flatMap_append

theorem mem_expandTabs {c : Char} (h : c ∈ expandTabs width cs) : c = ' ' ∨ c ≠ '\t' ∧ c ∈ cs := by
  obtain ⟨d, hd, hc⟩ := List.mem_flatMap.mp h
  split at hc
  · exact .inl (List.eq_of_mem_replicate hc)
  · rename_i hOther
    obtain rfl := List.mem_singleton.mp hc
    exact .inr ⟨hOther, hd⟩

theorem tab_not_mem_expandTabs : '\t' ∉ expandTabs width cs := by
  intro h
  rcases mem_expandTabs h with hSpace | ⟨hOther, -⟩
  · exact absurd hSpace (by decide)
  · exact hOther rfl

theorem isUnbroken_expandTabs (h : IsUnbroken cs) : IsUnbroken (expandTabs width cs) := by
  intro c hc
  rcases mem_expandTabs hc with rfl | ⟨-, hText⟩
  · decide
  · exact h c hText

theorem expandTabs_closed (width : Int) (e : LineEnd) (pieces : List (List Char)) :
    expandTabs width (closed e pieces) = closed e (pieces.map (expandTabs width)) := by
  have hEnd : expandTabs width e.text.toList = e.text.toList := by cases e <;> rfl
  induction pieces with
  | nil => rfl
  | cons piece pieces ih =>
    simp only [closed, List.map_cons, List.flatMap_cons] at ih ⊢
    rw [expandTabs_append, expandTabs_append, hEnd, ih]

theorem expandTabs_ne_nil (hWidth : 0 < width) (h : cs ≠ []) : expandTabs width cs ≠ [] := by
  obtain ⟨c, cs, rfl⟩ := List.exists_cons_of_ne_nil h
  by_cases hTab : c = '\t'
  · simp [expandTabs, hTab]
    omega
  · simp [expandTabs, hTab]

end ExpandTabs

theorem LineEnd.toList_close (e : LineEnd) (lines : List String) :
    (e.close lines).toList = closed e (lines.map String.toList) := by
  simp [close, closed, List.flatMap_map, String.toList_join]

/-- The lines of a text with its tabs expanded are the lines it was written from, so expanded. -/
theorem lines_expandTabs {width : Int} {e : LineEnd} {written : List String} {text : String}
    (hWidth : 0 < width) (hWritten : ∀ line ∈ written, IsUnbroken line.toList)
    (hText : e.Writes written text) :
    lines (expandTabs width text.toList) =
      written.map fun line => expandTabs width line.toList := by
  have hUnbroken : ∀ piece ∈ written.map fun line => expandTabs width line.toList,
      IsUnbroken piece := by
    intro piece hPiece
    obtain ⟨line, hLine, rfl⟩ := List.mem_map.mp hPiece
    exact isUnbroken_expandTabs (hWritten line hLine)
  cases hText with
  | closed =>
    have hCut := lines_closed_append e hUnbroken (List.forall_mem_nil _)
    rw [List.append_nil] at hCut
    rw [e.toList_close, expandTabs_closed, List.map_map]
    exact hCut.trans (List.append_nil _)
  | @unclosed front last hLast =>
    rw [List.map_append, List.forall_mem_append] at hUnbroken
    obtain ⟨hFront, hEnd⟩ := hUnbroken
    have hEnd : IsUnbroken (expandTabs width last.toList) := hEnd _ List.mem_cons_self
    have hNonempty : expandTabs width last.toList ≠ [] :=
      expandTabs_ne_nil hWidth (mt String.toList_eq_nil_iff.mp hLast)
    have hCut := lines_closed_append e hFront hEnd
    rw [lines_unbroken hEnd hNonempty] at hCut
    rw [String.toList_append, expandTabs_append, e.toList_close, expandTabs_closed, List.map_map,
      List.map_append]
    exact hCut

namespace Pager

variable {v next : Pager} {path : Path} {found : Found}

/-- A file that is shown has the lines that it was written from, with two spaces for each tab, if
they were written without line-breaking characters and with one end behind each. Whatever its bytes
are, no line of it holds a tab or a line-breaking character. -/
theorem lines_of_display (h : v.display path found = .ok next) :
    (∀ (e : LineEnd) (written : List String) (text : String),
      (∀ line ∈ written, IsUnbroken line.toList) → e.Writes written text →
      found = .file (Utf8.encode text) →
      next.lines = written.map fun line =>
        String.ofList (line.toList.flatMap fun c => if c = '\t' then [' ', ' '] else [c])) ∧
    ∀ line ∈ next.lines, '\t' ∉ line.toList ∧ IsUnbroken line.toList := by
  obtain ⟨bytes, rfl, -, rfl⟩ := display_eq_ok_iff.mp h
  constructor
  · rintro e written text hWritten hText hFound
    cases hFound
    have hCut := lines_expandTabs (by decide : 0 < tabSpaces) hWritten hText
    dsimp only
    rw [linesOf, Utf8.decode_encode, hCut, List.map_map]
    rfl
  · intro line hLine
    obtain ⟨piece, hPiece, rfl⟩ := List.mem_map.mp hLine
    rw [String.toList_ofList]
    have hTab : ∀ c ∈ expandTabs tabSpaces (Utf8.decode bytes), c ∉ breaks → c ≠ '\t' ∧ c ∉ breaks :=
      fun c hc hOther => ⟨fun hTab => tab_not_mem_expandTabs (hTab ▸ hc), hOther⟩
    have hChars := forall_mem_lines hTab piece hPiece
    exact ⟨fun hTab => (hChars _ hTab).1 rfl, fun c hc => (hChars c hc).2⟩

/-- Three lines, the last one without its end, and bytes that are no UTF-8. -/
theorem lines_of_displayed_files :
    let text := LineEnd.returnAndFeed.close ["a\tb", ""] ++ "é😀"
    let bytes : List UInt8 := [0xC3, 0x09, 0x0D, 0x62, 0xE2, 0x80, 0xA8, 0xE2, 0x80]
    text = "a\tb\r\n\r\né😀" ∧
    (∃ next, (closed 9).display (.ofText "f") (.file (Utf8.encode text)) = .ok next ∧
      next.lines = ["a  b", "", "é😀"]) ∧
    ∃ next, (closed 9).display (.ofText "f") (.file bytes) = .ok next ∧
      next.lines = ["\uFFFD  ", "b", "\uFFFD"] ∧
      ∀ line ∈ next.lines, '\t' ∉ line.toList ∧ IsUnbroken line.toList := by
  intro text bytes
  have hText : (closed 9).display (.ofText "f") (.file (Utf8.encode text)) = .ok _ :=
    display_eq_ok_iff.mpr ⟨_, rfl, by decide +kernel, rfl⟩
  have hBytes : (closed 9).display (.ofText "f") (.file bytes) = .ok _ :=
    display_eq_ok_iff.mpr ⟨_, rfl, by decide +kernel, rfl⟩
  refine ⟨by decide +kernel, ⟨_, hText, ?_⟩, _, hBytes, by decide +kernel, (lines_of_display hBytes).2⟩
  have hLines := (lines_of_display hText).1 .returnAndFeed _ text (by decide)
    (.unclosed ["a\tb", ""] (by decide)) rfl
  rw [hLines]
  decide +kernel

end Pager

end TopologyExplorer

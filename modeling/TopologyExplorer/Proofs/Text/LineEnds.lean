import TopologyExplorer.Text.LineBreak

/-!
# Line ends

Lines that are written with one and the same end behind each are what their text is cut into. Any
other text is cut into lines without line-breaking characters as well.
-/

namespace TopologyExplorer

inductive LineEnd where
  | lineFeed
  | returnAndFeed
  | carriageReturn
  deriving DecidableEq, Repr

namespace LineEnd

def text : LineEnd → String
  | lineFeed => "\n"
  | returnAndFeed => "\r\n"
  | carriageReturn => "\r"

def close (e : LineEnd) (lines : List String) : String := String.join (lines.map (· ++ e.text))

/-- The text holds the lines with the end behind each. It may be missing behind the last one, if
that one is not empty. -/
inductive Writes (e : LineEnd) : List String → String → Prop where
  | closed (lines : List String) : Writes e lines (e.close lines)
  | unclosed (lines : List String) {last : String} :
      last ≠ "" → Writes e (lines ++ [last]) (e.close lines ++ last)

end LineEnd

namespace LineBreak

variable {c : Char} {line last cs : List Char} {pieces : List (List Char)}

def IsUnbroken (line : List Char) : Prop := ∀ c ∈ line, c ∉ breaks

-- Not by enumeration of all characters.
instance : DecidablePred IsUnbroken := fun line => List.decidableBAll (· ∉ breaks) line

theorem isBreak_iff : isBreak c = true ↔ c ∈ breaks := List.contains_iff_mem

/-! ## Cutting -/

theorem cut_break (hBreak : c ∈ breaks) (hPair : c = '\r' → cs.head? ≠ some '\n')
    (line : List Char) : cut line (c :: cs) = line.reverse :: cut [] cs := by
  rw [cut, if_pos (isBreak_iff.mpr hBreak)]
  rintro rest hReturn rfl
  exact hPair hReturn rfl

theorem cut_cons (h : c ∉ breaks) (line cs : List Char) :
    cut line (c :: cs) = cut (c :: line) cs := by
  rw [cut, if_neg fun hBreak => h (isBreak_iff.mp hBreak)]
  rintro rest rfl -
  exact h (by decide)

theorem cut_append (h : IsUnbroken line) (read cs : List Char) :
    cut read (line ++ cs) = cut (line.reverse ++ read) cs := by
  induction line generalizing read with
  | nil => rfl
  | cons c line ih =>
    obtain ⟨hFirst, hRest⟩ := List.forall_mem_cons.mp h
    rw [List.cons_append, cut_cons hFirst, ih hRest, List.reverse_cons, List.append_assoc,
      List.singleton_append]

/-- A line feed right behind a carriage return is taken for a part of it. -/
theorem cut_end (e : LineEnd) (h : e = .carriageReturn → cs.head? ≠ some '\n')
    (line : List Char) : cut line (e.text.toList ++ cs) = line.reverse :: cut [] cs := by
  cases e with
  | lineFeed => exact cut_break (c := '\n') (by decide) (fun hReturn => nomatch hReturn) line
  | returnAndFeed => exact cut.eq_3 line cs
  | carriageReturn => exact cut_break (by decide) (fun _ => h rfl) line

/-- The characters of the lines, each with the end behind it. -/
def closed (e : LineEnd) (pieces : List (List Char)) : List Char :=
  pieces.flatMap (· ++ e.text.toList)

theorem IsUnbroken.head?_ne (h : IsUnbroken line) : line.head? ≠ some '\n' := by
  intro hHead
  exact h _ (List.mem_of_head? hHead) (by decide)

/-- Behind a line that ends in a carriage return alone there is no line feed. -/
theorem head?_closed_ne (hPieces : ∀ piece ∈ pieces, IsUnbroken piece) (hLast : IsUnbroken last) :
    (closed .carriageReturn pieces ++ last).head? ≠ some '\n' := by
  cases pieces with
  | nil => exact hLast.head?_ne
  | cons piece pieces =>
    cases piece with
    | nil => exact (by decide : some '\r' ≠ some '\n')
    | cons c piece => exact (hPieces _ List.mem_cons_self).head?_ne

/-- The lines of a text are those it was written from, and those of what stands behind them. -/
theorem lines_closed_append (e : LineEnd) (hPieces : ∀ piece ∈ pieces, IsUnbroken piece)
    (hLast : IsUnbroken last) : lines (closed e pieces ++ last) = pieces ++ lines last := by
  induction pieces with
  | nil => rfl
  | cons piece pieces ih =>
    obtain ⟨hFirst, hRest⟩ := List.forall_mem_cons.mp hPieces
    have hNext : e = .carriageReturn → (closed e pieces ++ last).head? ≠ some '\n' := by
      rintro rfl
      exact head?_closed_ne hRest hLast
    calc lines (closed e (piece :: pieces) ++ last)
        = cut [] (piece ++ (e.text.toList ++ (closed e pieces ++ last))) := by simp [lines, closed]
      _ = cut piece.reverse (e.text.toList ++ (closed e pieces ++ last)) := by
          rw [cut_append hFirst, List.append_nil]
      _ = piece :: lines (closed e pieces ++ last) := by
          rw [cut_end e hNext, List.reverse_reverse, lines]
      _ = piece :: pieces ++ lines last := by rw [ih hRest, List.cons_append]

theorem lines_unbroken (h : IsUnbroken line) (hNonempty : line ≠ []) : lines line = [line] := by
  have hCut := cut_append h [] []
  rw [List.append_nil, List.append_nil, cut.eq_2 _ (by simpa using hNonempty),
    List.reverse_reverse] at hCut
  exact hCut

/-- A line holds characters of the text only, and none that breaks lines. -/
theorem forall_mem_cut {P : Char → Prop} (hLine : ∀ c ∈ line, P c)
    (hText : ∀ c ∈ cs, c ∉ breaks → P c) : ∀ piece ∈ cut line cs, ∀ c ∈ piece, P c := by
  induction line, cs using cut.induct with
  | case1 => exact fun _ hPiece => nomatch hPiece
  | case2 line hNonempty =>
    rw [cut.eq_2 _ hNonempty]
    simpa using hLine
  | case3 line cs ih =>
    obtain ⟨-, hText⟩ := List.forall_mem_cons.mp hText
    obtain ⟨-, hRest⟩ := List.forall_mem_cons.mp hText
    rw [cut.eq_3]
    exact List.forall_mem_cons.mpr ⟨by simpa using hLine, ih (fun _ hc => nomatch hc) hRest⟩
  | case4 line c cs hPair hBreak ih =>
    obtain ⟨-, hRest⟩ := List.forall_mem_cons.mp hText
    rw [cut.eq_4 _ _ _ hPair, if_pos hBreak]
    exact List.forall_mem_cons.mpr ⟨by simpa using hLine, ih (fun _ hc => nomatch hc) hRest⟩
  | case5 line c cs hPair hOther ih =>
    obtain ⟨hFirst, hRest⟩ := List.forall_mem_cons.mp hText
    rw [cut.eq_4 _ _ _ hPair, if_neg hOther]
    have hChar : P c := hFirst fun hBreak => hOther (isBreak_iff.mpr hBreak)
    exact ih (List.forall_mem_cons.mpr ⟨hChar, hLine⟩) hRest

theorem forall_mem_lines {P : Char → Prop} (hText : ∀ c ∈ cs, c ∉ breaks → P c) :
    ∀ piece ∈ lines cs, ∀ c ∈ piece, P c :=
  forall_mem_cut (List.forall_mem_nil _) hText

end LineBreak

end TopologyExplorer

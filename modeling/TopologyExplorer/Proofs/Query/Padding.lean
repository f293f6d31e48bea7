import Mathlib.Data.List.GetD
import TopologyExplorer.Proofs.Query.QueryText

/-!
# Lines of one address

What a line may end in without being another address: one separator, wildcards that the address has
anyway, and whatever comes behind its fourth piece. With a separator behind them, any four texts
without one are read back as they are; the last of them may then be empty.
-/

namespace TopologyExplorer.AddressPattern

variable {line : String}

/-! ## The end of a line -/

theorem trimEnd_concat (cs : List Char) : trimEnd (cs ++ [separator]) = cs := by
  rw [trimEnd, if_pos List.getLast?_concat, List.dropLast_concat]

theorem trimEnd_eq_self {cs : List Char} (h : cs.getLast? ≠ some separator) : trimEnd cs = cs :=
  if_neg h

theorem trimEnd_append (cs : List Char) {ds : List Char} (h : ds ≠ []) :
    trimEnd (cs ++ ds) = cs ++ trimEnd ds := by
  have hLast : (cs ++ ds).getLast? = ds.getLast? := by
    rw [List.getLast?_append, List.getLast?_eq_some_getLast h, Option.some_or]
  rw [trimEnd, trimEnd, hLast, List.dropLast_append_of_ne_nil h]
  split <;> rfl

/-! ## The pieces of a line -/

theorem pieces_append_separator (h : line.toList.getLast? ≠ some separator) :
    pieces (line ++ ".") = pieces line := by
  have hEnd : (line ++ ".").toList = line.toList ++ [separator] := String.toList_append
  rw [pieces, pieces, hEnd, trimEnd_concat, trimEnd_eq_self h]

theorem pieces_append_line (h : line.toList.getLast? ≠ some separator) {rest : String}
    (hRest : rest ≠ "") : pieces (line ++ "." ++ rest) = pieces line ++ pieces rest := by
  have hChars : (line ++ "." ++ rest).toList = line.toList ++ separator :: rest.toList := by
    simp [separator]
  have hBehind : rest.toList ≠ [] := by simpa using hRest
  rw [pieces, hChars, List.append_cons, trimEnd_append _ hBehind, List.append_assoc,
    List.singleton_append, List.splitOn_append_cons_self, List.map_append, pieces, pieces,
    trimEnd_eq_self h]

theorem pieces_append_wildcards (h : line.toList.getLast? ≠ some separator) (n : Nat) :
    pieces (line ++ String.join (List.replicate n ".*")) =
      pieces line ++ List.replicate n Segment.wildcard := by
  induction n generalizing line with
  | zero => simp
  | succ n ih =>
    have hText : line ++ String.join (List.replicate (n + 1) ".*") =
        line ++ "." ++ ("*" ++ String.join (List.replicate n ".*")) := by
      have hPair : ".*" = "." ++ "*" := rfl
      rw [List.replicate_succ, String.join_cons, hPair, String.append_assoc, String.append_assoc]
    have hRest : pieces ("*" ++ String.join (List.replicate n ".*")) =
        Segment.wildcard :: List.replicate n Segment.wildcard := ih (by decide)
    rw [hText, pieces_append_line h (by simp), hRest, List.replicate_succ]

theorem pieces_intercalate {texts : List String} (hSome : texts ≠ [])
    (h : ∀ s ∈ texts, separator ∉ s.toList) : pieces (".".intercalate texts ++ ".") = texts := by
  have hEnd : (".".intercalate texts ++ ".").toList =
      [separator].intercalate (texts.map String.toList) ++ [separator] := by
    rw [String.toList_append, String.toList_intercalate]
    rfl
  have hParts : ∀ cs ∈ texts.map String.toList, separator ∉ cs := by
    simpa using h
  rw [pieces, hEnd, trimEnd_concat, List.splitOn_intercalate separator hParts (by simpa using hSome)]
  simp

/-! ## Equal addresses -/

/-- Behind its last piece a line has wildcards, as far as an address looks. -/
theorem ofText_congr {l m : String} (h : ∀ i < 4, (pieces l).getD i Segment.wildcard =
    (pieces m).getD i Segment.wildcard) : ofText l = ofText m := by
  have hPiece : ∀ i < 4, pieceAt l i = pieceAt m i := fun i hi => congrArg Segment.ofText (h i hi)
  rw [ofText, ofText, hPiece 0 (by decide), hPiece 1 (by decide), hPiece 2 (by decide),
    hPiece 3 (by decide)]

theorem getD_append_wildcards (texts : List String) (n i : Nat) :
    (texts ++ List.replicate n Segment.wildcard).getD i Segment.wildcard =
      texts.getD i Segment.wildcard := by
  by_cases hi : i < texts.length
  · rw [List.getD_append _ _ _ _ hi]
  · have hBehind := Nat.le_of_not_lt hi
    rw [List.getD_append_right _ _ _ _ hBehind, List.getD_eq_getElem?_getD,
      List.getElem?_getD_replicate_default_eq, List.getD_eq_default _ _ hBehind]

theorem text_ofText_segments (line : String) : (ofText line).segments.map Segment.text =
    (List.range 4).map fun i => (pieces line).getD i Segment.wildcard := by
  simp [segments, ofText, pieceAt, Segment.text_ofText, List.range_succ]

theorem separator_not_mem_text {s : Segment} (hs : s ∈ (ofText line).segments) :
    separator ∉ s.text.toList := by
  have hPiece : s.IsPiece := by
    have hRead := ofText_isRead line
    simp only [segments, List.mem_cons, List.not_mem_nil, or_false] at hs
    rcases hs with rfl | rfl | rfl | rfl
    · exact hRead.world
    · exact hRead.zone
    · exact hRead.proc
    · exact hRead.inst
  cases s with
  | any => decide
  | only literal => exact hPiece

/-- The segments of every line are free of separators. Four such texts are the segments of the line
that has a separator behind each. A line that does not end in a separator has the same address with
one separator or with any number of wildcards behind it, and with any text as a fifth piece. -/
theorem ofText_normalised :
    (∀ line, ∀ s ∈ (ofText line).segments, separator ∉ s.text.toList) ∧
    (∀ a b c d : String, (∀ s ∈ [a, b, c, d], separator ∉ s.toList) →
      (ofText (a ++ "." ++ b ++ "." ++ c ++ "." ++ d ++ ".")).segments.map Segment.text =
        [a, b, c, d]) ∧
    ∀ line : String, line.toList.getLast? ≠ some separator →
      ofText (line ++ ".") = ofText line ∧
      (∀ n, ofText (line ++ String.join (List.replicate n ".*")) = ofText line) ∧
      (4 ≤ (pieces line).length → ∀ rest, ofText (line ++ "." ++ rest) = ofText line) := by
  refine ⟨fun line s hs => separator_not_mem_text hs, fun a b c d hFree => ?_, fun line hLine => ?_⟩
  · have hPieces := pieces_intercalate (List.cons_ne_nil _ _) hFree
    have hText : ".".intercalate [a, b, c, d] = a ++ "." ++ b ++ "." ++ c ++ "." ++ d := rfl
    rw [text_ofText_segments, ← hText, hPieces]
    rfl
  · have hSeparator : ofText (line ++ ".") = ofText line :=
      ofText_congr fun i _ => by rw [pieces_append_separator hLine]
    refine ⟨hSeparator, fun n => ofText_congr fun i _ => ?_, fun hFour rest => ?_⟩
    · rw [pieces_append_wildcards hLine, getD_append_wildcards]
    · by_cases hRest : rest = ""
      · rw [hRest, String.append_empty, hSeparator]
      · refine ofText_congr fun i hi => ?_
        rw [pieces_append_line hLine hRest, List.getD_append _ _ _ _ (Nat.lt_of_lt_of_le hi hFour)]

/-- An empty last segment, and a line whose pieces go on behind the fourth. -/
theorem ofText_normalised_empty_and_long :
    (∀ s ∈ ["2", "", "main", ""], separator ∉ s.toList) ∧
    (ofText ("2" ++ "." ++ "" ++ "." ++ "main" ++ "." ++ "" ++ ".")).segments.map Segment.text =
      ["2", "", "main", ""] ∧
    "2.*.main.1".toList.getLast? ≠ some separator ∧ 4 ≤ (pieces "2.*.main.1").length ∧
    ofText ("2.*.main.1" ++ "." ++ "5..") = ofText "2.*.main.1" := by
  have hFree : ∀ s ∈ ["2", "", "main", ""], separator ∉ s.toList := by decide
  have hLine : "2.*.main.1".toList.getLast? ≠ some separator := by decide
  have hFour : 4 ≤ (pieces "2.*.main.1").length := by decide
  exact ⟨hFree, ofText_normalised.2.1 _ _ _ _ hFree, hLine, hFour,
    (ofText_normalised.2.2 _ hLine).2.2 hFour _⟩

end TopologyExplorer.AddressPattern

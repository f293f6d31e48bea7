import Mathlib.Data.List.Basic
import TopologyExplorer.Query.Keyword

/-!
# Records that mention a keyword

A keyword stands at a position of a text if its characters follow there in one piece. A record
mentions it if it stands somewhere in a field that is present. What a search keeps is decided record
by record, so that searches commute and a wider keyword finds no more.
-/

namespace TopologyExplorer

/-- The characters of the keyword follow each other in the text from a position on. -/
def StandsAt (keyword text : String) (i : Nat) : Prop :=
  ∃ before behind, text.toList = before ++ keyword.toList ++ behind ∧ before.length = i

section Texts

variable {keyword wider text : String} {i j : Nat}

theorem occursIn_iff : occursIn keyword text = true ↔ ∃ i, StandsAt keyword text i := by
  rw [occursIn, standsIn_iff]
  constructor
  · rintro ⟨before, behind, hText⟩
    exact ⟨before.length, before, behind, hText.symm, rfl⟩
  · rintro ⟨_, before, behind, hText, -⟩
    exact ⟨before, behind, hText.symm⟩

/-- The position in a wider keyword is counted from the position of that one. -/
theorem StandsAt.trans (h : StandsAt keyword wider i) (hWider : StandsAt wider text j) :
    StandsAt keyword text (j + i) := by
  obtain ⟨before, behind, hPiece, rfl⟩ := h
  obtain ⟨start, rest, hText, rfl⟩ := hWider
  refine ⟨start ++ before, behind ++ rest, ?_, List.length_append⟩
  rw [hText, hPiece]
  simp only [List.append_assoc]

end Texts

section Records

variable {α : Type} [HasFields α] {keyword wider other : String} {record : α}

/-- The keyword stands somewhere in a field that the record has a text for. -/
def Mentions (keyword : String) (record : α) : Prop :=
  ∃ name text i, (name, some text) ∈ HasFields.fields record ∧ StandsAt keyword text i

theorem hasKeyword_iff : hasKeyword keyword record = true ↔ Mentions keyword record := by
  rw [hasKeyword, List.any_eq_true]
  constructor
  · rintro ⟨⟨name, field⟩, hField, hAny⟩
    obtain ⟨text, rfl, hOccurs⟩ := (Option.any_eq_true _ _).mp hAny
    obtain ⟨i, hStands⟩ := occursIn_iff.mp hOccurs
    exact ⟨name, text, i, hField, hStands⟩
  · rintro ⟨name, text, i, hField, hStands⟩
    exact ⟨(name, some text), hField, occursIn_iff.mpr ⟨i, hStands⟩⟩

instance : Decidable (Mentions keyword record) := decidable_of_iff _ hasKeyword_iff

theorem Mentions.of_standsAt {i : Nat} (h : Mentions wider record)
    (hKeyword : StandsAt keyword wider i) : Mentions keyword record := by
  obtain ⟨name, text, j, hField, hStands⟩ := h
  exact ⟨name, text, j + i, hField, hKeyword.trans hStands⟩

theorem filterByKeyword_eq (records : List α) (keyword : String) :
    filterByKeyword records keyword = records.filter (Mentions keyword ·) := by
  refine List.filter_congr fun record _ => ?_
  rw [Bool.eq_iff_iff, hasKeyword_iff, decide_eq_true_iff]

theorem filterByKeyword_twice (records : List α) (keyword other : String) :
    filterByKeyword (filterByKeyword records keyword) other =
      records.filter fun record => Mentions keyword record ∧ Mentions other record := by
  rw [filterByKeyword_eq, filterByKeyword_eq, List.filter_filter]
  refine List.filter_congr fun record _ => ?_
  rw [Bool.decide_and, Bool.and_comm]

/-- A search keeps exactly the records that mention the keyword, each as often as it is there and in
its place. It keeps no more for a keyword in which this one stands, and of two searches in a row
either may come first. -/
theorem filterByKeyword_keeps_mentions (records : List α) (keyword other : String) :
    filterByKeyword records keyword = records.filter (Mentions keyword ·) ∧
    (∀ i, StandsAt keyword other i →
      (filterByKeyword records other).Sublist (filterByKeyword records keyword)) ∧
    filterByKeyword (filterByKeyword records keyword) other =
      filterByKeyword (filterByKeyword records other) keyword := by
  refine ⟨filterByKeyword_eq records keyword, fun i hStands => ?_, ?_⟩
  · rw [filterByKeyword_eq, filterByKeyword_eq]
    refine List.monotone_filter_right records fun record hOther => ?_
    have hMentions : Mentions other record := of_decide_eq_true hOther
    exact decide_eq_true (hMentions.of_standsAt hStands)
  · rw [filterByKeyword_twice, filterByKeyword_twice]
    simp only [and_comm]

/-- A keyword that overlaps itself, a record that is there twice and one without a text. -/
theorem filterByKeyword_keeps_overlapping :
    let twice : List (String × Option String) := [("name", none), ("alias", some "baaab")]
    let records := [twice, [("name", some "aab")], [("name", none)], twice]
    StandsAt "aa" "aaa" 1 ∧ filterByKeyword records "aaa" = [twice, twice] ∧
    records.filter (Mentions "aa" ·) = [twice, [("name", some "aab")], twice] ∧
    (filterByKeyword records "aaa").Sublist (filterByKeyword records "aa") := by
  intro twice records
  have hStands : StandsAt "aa" "aaa" 1 := ⟨['a'], [], rfl, rfl⟩
  obtain ⟨hKept, hLess, -⟩ := filterByKeyword_keeps_mentions records "aa" "aaa"
  refine ⟨hStands, by decide, ?_, hLess 1 hStands⟩
  rw [← hKept]
  decide

end Records

end TopologyExplorer

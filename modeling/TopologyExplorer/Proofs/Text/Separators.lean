/-!
# Separators

The pieces of a list between its separators hold none, and what stands behind the last separator is
determined by the whole.
-/

namespace TopologyExplorer

section Separators

variable {α : Type} [BEq α] [LawfulBEq α] {sep : α}

theorem not_mem_of_mem_splitOn {xs piece : List α} (h : piece ∈ xs.splitOn sep) : sep ∉ piece := by
  induction xs generalizing piece with
  | nil =>
    rw [List.splitOn_nil, List.mem_singleton] at h
    rw [h]
    exact List.not_mem_nil
  | cons x xs ih =>
    rw [List.splitOn_cons_eq_if_modifyHead] at h
    by_cases hSep : (x == sep) = true
    · rw [if_pos hSep] at h
      rcases List.mem_cons.mp h with rfl | h
      · exact List.not_mem_nil
      · exact ih h
    · rw [if_neg hSep] at h
      obtain ⟨first, rest, hPieces⟩ := List.exists_cons_of_ne_nil (List.splitOn_ne_nil sep xs)
      rw [hPieces] at h ih
      rw [List.modifyHead_cons] at h
      rcases List.mem_cons.mp h with rfl | h
      · have hOther : sep ≠ x := fun hEq => hSep (beq_iff_eq.mpr hEq.symm)
        exact List.not_mem_cons_of_ne_of_not_mem hOther (ih List.mem_cons_self)
      · exact ih (List.mem_cons_of_mem first h)

/-- Two lists that are equal are equal in front of the last separator and behind it. -/
theorem append_sep_inj {xs ys us vs : List α} (hu : sep ∉ us) (hv : sep ∉ vs)
    (h : xs ++ sep :: us = ys ++ sep :: vs) : xs = ys ∧ us = vs := by
  have hPieces : xs.splitOn sep ++ [us] = ys.splitOn sep ++ [vs] := by
    have hSplit := congrArg (List.splitOn sep) h
    rwa [List.splitOn_append_cons_self, List.splitOn_append_cons_self,
      List.splitOn_eq_singleton hu, List.splitOn_eq_singleton hv] at hSplit
  obtain rfl : us = vs := by
    have hLast := List.append_inj_right' hPieces rfl
    exact List.singleton_inj.mp hLast
  exact ⟨List.append_cancel_right h, rfl⟩

end Separators

end TopologyExplorer

import TopologyExplorer.Proofs.Descriptor.ProcessDefinitions

/-!
# The processes that count

Reading goes through the definitions and remembers the numbers. What it leaves are the processes of
the first definitions of their numbers, in the order in which the numbers occur.
-/

namespace TopologyExplorer.Processes

open Definition

/-- Processes that stand for definitions: one for each number, in the order of the numbers, and made
from the first definition that has it. -/
structure Count (makes : Definition → Process → Prop) (ds : List Definition)
    (procs : List Process) : Prop where
  numbers : procs.map ProcessOf.funcId = (ds.filterMap number?).eraseDups
  firsts : ∀ p ∈ procs, ∃ before d after, ds = before ++ d :: after ∧ makes d p ∧
    ∀ earlier ∈ before, earlier.number? ≠ some p.funcId

structure IsSound (root : Xml.Element) : Prop where
  groups : ∀ group, group.Within root → group.isNamed "ProcGroup" → IsNamedGroup group
  definitions : ∀ d, Stands root d → d.IsSound root

variable {path : Path} {root : Xml.Element} {found : List (String × String)}

namespace Count

variable {makes : Definition → Process → Prop} {ds : List Definition} {d : Definition}
  {procs : List Process} {p : Process}

theorem nil : Count makes [] [] :=
  ⟨rfl, fun _ hp => by cases hp⟩

theorem firsts_concat (h : Count makes ds procs) (d : Definition) : ∀ p ∈ procs,
    ∃ before e after, ds ++ [d] = before ++ e :: after ∧ makes e p ∧
      ∀ earlier ∈ before, earlier.number? ≠ some p.funcId := by
  intro p hp
  obtain ⟨before, e, after, rfl, hMade, hFirst⟩ := h.firsts p hp
  exact ⟨before, e, after ++ [d], by simp, hMade, hFirst⟩

theorem take (h : Count makes ds procs) (hNumber : d.number? = some p.funcId)
    (hNew : p.funcId ∉ ds.filterMap number?) (hMade : makes d p) :
    Count makes (ds ++ [d]) (procs ++ [p]) := by
  constructor
  · rw [List.filterMap_append, List.filterMap_cons_some hNumber, List.filterMap_nil,
      eraseDups_concat, if_neg hNew, List.map_append, h.numbers, List.map_singleton]
  · intro q hq
    rcases List.mem_append.mp hq with hq | hq
    · exact h.firsts_concat d q hq
    · obtain rfl := List.mem_singleton.mp hq
      refine ⟨ds, d, [], rfl, hMade, fun e he hEq => hNew ?_⟩
      exact List.mem_filterMap.mpr ⟨e, he, hEq⟩

end Count

/-! ## Reading definitions -/

end TopologyExplorer.Processes

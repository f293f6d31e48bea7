import Mathlib.Data.List.Flatten
import TopologyExplorer.Xml.Element

/-!
# Descendants

What the list of all elements of a tree holds: the element itself and whatever its children hold.
-/

namespace TopologyExplorer.Xml.Element

/-- An element is the root of a tree or stands somewhere below it. -/
inductive Within (e : Element) : Element → Prop where
  | self : Within e e
  | deeper {child root : Element} : child ∈ root.children → Within e child → Within e root

variable {e child root : Element} {name : String}

theorem allOf_eq_flatMap (es : List Element) : allOf es = es.flatMap all := by
  induction es with
  | nil => rfl
  | cons e es ih => rw [allOf, ih, List.flatMap_cons]

theorem all_eq (root : Element) : root.all = root :: root.children.flatMap all := by
  cases root with
  | mk tag attributes children => rw [all, allOf_eq_flatMap, Element.children]

theorem sizeOf_lt_of_mem_children (h : child ∈ root.children) : sizeOf child < sizeOf root := by
  cases root with
  | mk tag attributes children =>
    have hLess := List.sizeOf_lt_of_mem h
    simp only [Element.children, mk.sizeOf_spec] at hLess ⊢
    omega

/-- What holds of an element if it holds of its children holds of every element. -/
@[elab_as_elim]
theorem tree_induction {P : Element → Prop}
    (h : ∀ root : Element, (∀ child ∈ root.children, P child) → P root) (root : Element) : P root :=
  h root fun child _ => tree_induction h child
termination_by sizeOf root
decreasing_by exact sizeOf_lt_of_mem_children (by assumption)

theorem mem_all_iff : e ∈ root.all ↔ Within e root := by
  constructor
  · induction root using tree_induction with
    | h root ih =>
      intro h
      rw [all_eq] at h
      rcases List.mem_cons.mp h with rfl | h
      · exact .self
      · obtain ⟨child, hChild, hMem⟩ := List.mem_flatMap.mp h
        exact .deeper hChild (ih child hChild hMem)
  · intro h
    induction h with
    | self =>
      rw [all_eq]
      exact List.mem_cons_self
    | deeper hChild _ ih =>
      rw [all_eq]
      exact List.mem_cons_of_mem _ (List.mem_flatMap.mpr ⟨_, hChild, ih⟩)

theorem children_sublist (e : Element) : e.children.Sublist (e.children.flatMap all) := by
  have hEach : (e.children.flatMap ([·])).Sublist (e.children.flatMap all) :=
    List.Sublist.flatMap_right _ fun _ _ =>
      List.singleton_sublist.mpr (mem_all_iff.mpr .self)
  rwa [List.flatMap_singleton'] at hEach

theorem childrenNamed_sublist (e : Element) (name : String) : (e.childrenNamed name).Sublist e.all := by
  rw [all_eq]
  exact (List.filter_sublist.trans e.children_sublist).cons e

/-- What is taken in document order from some children, one after another, is in document order. -/
theorem flatMap_childrenNamed_sublist {inner : Element → List Element}
    (hInner : ∀ e, (inner e).Sublist e.all) (e : Element) (name : String) :
    ((e.childrenNamed name).flatMap inner).Sublist e.all := by
  rw [all_eq]
  refine List.Sublist.cons e ?_
  exact (List.filter_sublist.flatMap inner).trans (.flatMap_right _ fun child _ => hInner child)

end TopologyExplorer.Xml.Element

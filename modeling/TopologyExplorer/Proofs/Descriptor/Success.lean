import Mathlib.Data.List.Forall2
import TopologyExplorer.Descriptor.Fault

/-!
# Computations that succeed

A sequence of computations succeeds if each of them does, with the results of all. So a reader that
goes through a list is known by what it does with one element, and that is known by the values which
the element has.
-/

namespace TopologyExplorer

section Sequences

variable {ε α β : Type}

theorem exists_of_bind_eq_ok {x : Except ε α} {f : α → Except ε β} {b : β}
    (h : x >>= f = .ok b) : ∃ a, x = .ok a ∧ f a = .ok b := by
  cases x with
  | error fault => cases h
  | ok a => exact ⟨a, rfl, h⟩

theorem bind_eq_ok_iff {x : Except ε α} {f : α → Except ε β} {b : β} :
    x >>= f = .ok b ↔ ∃ a, x = .ok a ∧ f a = .ok b := by
  refine ⟨exists_of_bind_eq_ok, ?_⟩
  rintro ⟨a, rfl, hf⟩
  exact hf

theorem bind_eq_error_iff {x : Except ε α} {f : α → Except ε β} {fault : ε} :
    x >>= f = .error fault ↔ x = .error fault ∨ ∃ a, x = .ok a ∧ f a = .error fault := by
  cases x with
  | error found => simp [bind, Except.bind]
  | ok a => simp [bind, Except.bind]

theorem mapM_eq_ok_iff {f : α → Except ε β} {xs : List α} {ys : List β} :
    xs.mapM f = .ok ys ↔ List.Forall₂ (fun x y => f x = .ok y) xs ys := by
  induction xs generalizing ys with
  | nil => simp [pure, Except.pure, eq_comm]
  | cons x xs ih =>
    simp only [List.mapM_cons, bind_eq_ok_iff, ih, List.forall₂_cons_left_iff, pure, Except.pure,
      Except.ok.injEq]
    constructor
    · rintro ⟨y, hFirst, rest, hRest, rfl⟩
      exact ⟨y, rest, hFirst, hRest, rfl⟩
    · rintro ⟨y, rest, hFirst, hRest, rfl⟩
      exact ⟨y, hFirst, rest, hRest, rfl⟩

theorem exists_forall₂_iff {R : α → β → Prop} {xs : List α} :
    (∃ ys, List.Forall₂ R xs ys) ↔ ∀ x ∈ xs, ∃ y, R x y := by
  induction xs with
  | nil => simp
  | cons x xs ih =>
    simp only [List.forall₂_cons_left_iff, List.forall_mem_cons, ← ih]
    constructor
    · rintro ⟨_, y, rest, hFirst, hRest, -⟩
      exact ⟨⟨y, hFirst⟩, rest, hRest⟩
    · rintro ⟨⟨y, hFirst⟩, rest, hRest⟩
      exact ⟨y :: rest, y, rest, hFirst, hRest, rfl⟩

theorem forall₂_append_left_iff {R : α → β → Prop} {xs us : List α} {zs : List β} :
    List.Forall₂ R (xs ++ us) zs ↔
      ∃ ys vs, List.Forall₂ R xs ys ∧ List.Forall₂ R us vs ∧ ys ++ vs = zs := by
  constructor
  · induction xs generalizing zs with
    | nil => exact fun h => ⟨[], zs, .nil, h, rfl⟩
    | cons x xs ih =>
      intro h
      obtain ⟨z, rest, hFirst, hRest, rfl⟩ := List.forall₂_cons_left_iff.mp h
      obtain ⟨ys, vs, hys, hvs, rfl⟩ := ih hRest
      exact ⟨z :: ys, vs, .cons hFirst hys, hvs, rfl⟩
  · rintro ⟨ys, vs, hys, hvs, rfl⟩
    exact List.rel_append hys hvs

/-- A sequence of readers of lists, each known by what it relates to its results. -/
theorem exists_mapM_flatten_iff {γ : Type} {f : α → Except ε (List β)} {P : α → Prop}
    {R : γ → β → Prop} {g : α → List γ} {xs : List α} {zs : List β}
    (h : ∀ x ∈ xs, ∀ ys, f x = .ok ys ↔ P x ∧ List.Forall₂ R (g x) ys) :
    (∃ yss, xs.mapM f = .ok yss ∧ yss.flatten = zs) ↔
      (∀ x ∈ xs, P x) ∧ List.Forall₂ R (xs.flatMap g) zs := by
  simp only [mapM_eq_ok_iff]
  induction xs generalizing zs with
  | nil => simp [eq_comm]
  | cons x xs ih =>
    have hTail := fun zs => @ih zs fun y hy => h y (List.mem_cons_of_mem x hy)
    simp only [List.forall₂_cons_left_iff, h x List.mem_cons_self, List.forall_mem_cons,
      List.flatMap_cons, forall₂_append_left_iff]
    constructor
    · rintro ⟨_, ⟨ys, yss, ⟨hFirst, hys⟩, hRest, rfl⟩, rfl⟩
      obtain ⟨hAll, hyss⟩ := (hTail _).mp ⟨yss, hRest, rfl⟩
      exact ⟨⟨hFirst, hAll⟩, ys, yss.flatten, hys, hyss, rfl⟩
    · rintro ⟨⟨hFirst, hAll⟩, ys, vs, hys, hvs, rfl⟩
      obtain ⟨yss, hRest, rfl⟩ := (hTail vs).mpr ⟨hAll, hvs⟩
      exact ⟨ys :: yss, ⟨ys, yss, ⟨hFirst, hys⟩, hRest, rfl⟩, rfl⟩

theorem mapM_eq_ok_map {f : α → Except ε β} {g : α → β} {xs : List α}
    (h : ∀ x ∈ xs, f x = .ok (g x)) : xs.mapM f = .ok (xs.map g) :=
  mapM_eq_ok_iff.mpr (List.forall₂_map_right_iff.mpr (List.forall₂_same.mpr h))

theorem forM_eq_ok_iff {f : α → Except ε PUnit} {xs : List α} :
    xs.forM f = .ok () ↔ ∀ x ∈ xs, f x = .ok () := by
  induction xs with
  | nil => simp [pure, Except.pure]
  | cons x xs ih =>
    have hCons : (x :: xs).forM f = f x >>= fun _ => xs.forM f := rfl
    rw [hCons, bind_eq_ok_iff, List.forall_mem_cons]
    simp only [ih, exists_and_right, and_congr_left_iff]
    exact fun _ => ⟨fun ⟨_, hFirst⟩ => hFirst, fun hFirst => ⟨_, hFirst⟩⟩

end Sequences

namespace Descriptor

variable {path : Path} {e : Xml.Element} {name : String}

theorem valueOf_eq_ok_iff {value : String} :
    valueOf path e name = .ok value ↔ e.value? name = some value := by
  unfold valueOf
  cases e.value? name <;> simp

theorem integer_eq_ok_iff {value : String} {n : Int} :
    integer path e name value = .ok n ↔ IntegerText.ofText? value = some n := by
  unfold integer
  cases IntegerText.ofText? value <;> simp

theorem integerOr_eq_ok_iff {absent n : Int} :
    integerOr path e name absent = .ok n ↔
      (e.value? name).elim (some absent) IntegerText.ofText? = some n := by
  unfold integerOr
  cases e.value? name with
  | none => simp
  | some value => exact integer_eq_ok_iff

end Descriptor

end TopologyExplorer

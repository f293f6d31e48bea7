import Mathlib.Data.List.Induction
import TopologyExplorer.Screen

/-!
# The offset of the pager

A pager shows files, moves its window, is told its height and lets go of its file, in any order.
The offset keeps within bounds, so that a window with room for lines is full wherever the file has
enough of them. A window without room can be moved behind the last line, and by nothing else does a
pager get there.
-/

namespace TopologyExplorer

inductive PagerStep where
  | load (path : Path) (found : Found)
  | scroll (move : PagerMove)
  | goTo (offset : Int)
  | resize (height : Int)
  | shut

namespace Pager

variable {u v : Pager} {step : PagerStep}

def next (v : Pager) : PagerStep → Pager
  | .load path found => (v.display path found).toOption.getD v
  | .scroll move => (v.move move).getD v
  | .goTo offset => (v.moveTo offset).getD v
  | .resize height => v.withHeight height
  | .shut => v.shut

def after (v : Pager) (steps : List PagerStep) : Pager := steps.foldl next v

theorem after_concat (v : Pager) (steps : List PagerStep) (step : PagerStep) :
    v.after (steps ++ [step]) = (v.after steps).next step := by
  rw [after, List.foldl_append]
  rfl

/-- What is shown is a file that does not look binary, from its first line on. -/
theorem display_eq_ok_iff {path : Path} {found : Found} :
    v.display path found = .ok u ↔ ∃ bytes, found = .file bytes ∧ looksBinary bytes = false ∧
      u = { v with path := some path, lines := linesOf bytes, offset := 0 } := by
  constructor
  · intro h
    cases found with
    | file bytes =>
      unfold display at h
      dsimp only at h
      split at h
      · cases h
      · rename_i hText
        exact ⟨bytes, rfl, eq_false_of_ne_true hText, (Except.ok.inj h).symm⟩
    | directory | missing | throughFile | unnameable | tooLong | unreadable | unsearchable => cases h
  · rintro ⟨bytes, rfl, hText, rfl⟩
    exact if_neg (ne_true_of_eq_false hText)

/-! ## Moves -/

theorem getD_moveTo (v : Pager) (n : Int) :
    (v.moveTo n).getD v = { v with offset := min n.toNat v.lastOffset } := by
  unfold moveTo
  dsimp only
  split
  · rename_i hSame
    rw [hSame]
    rfl
  · rfl

theorem isSome_moveTo_iff (v : Pager) (n : Int) :
    (v.moveTo n).isSome ↔ ((v.moveTo n).getD v).offset ≠ v.offset := by
  rw [getD_moveTo]
  unfold moveTo
  dsimp only
  split
  · rename_i hSame
    simp [hSame]
  · rename_i hOther
    simp [hOther]

/-- The offset that a step aims at. -/
def target? (v : Pager) : PagerStep → Option Int
  | .scroll move => some (v.aim move)
  | .goTo offset => some offset
  | .load _ _ | .resize _ | .shut => none

theorem next_eq_of_target {n : Int} (h : v.target? step = some n) :
    v.next step = { v with offset := min n.toNat v.lastOffset } := by
  cases step with
  | scroll move =>
    cases h
    exact v.getD_moveTo _
  | goTo offset =>
    cases h
    exact v.getD_moveTo _
  | load | resize | shut => cases h

/-! ## Bounds -/

def InBounds (v : Pager) : Prop := v.offset ≤ v.lastOffset

theorem next_load (v : Pager) (path : Path) (found : Found) :
    v.next (.load path found) = v ∨ (v.next (.load path found)).offset = 0 := by
  cases hFile : v.display path found with
  | ok u =>
    right
    obtain ⟨bytes, -, -, rfl⟩ := display_eq_ok_iff.mp hFile
    rw [next, hFile]
    rfl
  | error fault =>
    left
    rw [next, hFile]
    rfl

theorem InBounds.next (hv : v.InBounds) (step : PagerStep) : (v.next step).InBounds := by
  -- A move or a new height clamps the offset; the other steps leave it alone or go to the top.
  cases hTarget : v.target? step with
  | some n =>
    rw [next_eq_of_target hTarget]
    exact Nat.min_le_right _ _
  | none =>
    cases step with
    | scroll | goTo => cases hTarget
    | load path found =>
      rcases v.next_load path found with hSame | hTop
      · rw [hSame]
        exact hv
      · rw [InBounds, hTop]
        exact Nat.zero_le _
    | resize height => exact Nat.min_le_right _ _
    | shut => exact Nat.zero_le _

theorem InBounds.after (hv : v.InBounds) (steps : List PagerStep) : (v.after steps).InBounds := by
  induction steps generalizing v with
  | nil => exact hv
  | cons step steps ih => exact ih (hv.next step)

theorem inBounds_closed (height : Int) : (closed height).InBounds := Nat.zero_le _

/-! ## The lines in sight -/

theorem getElem?_visible {i : Nat} (h : i < v.visible.length) :
    v.visible[i]? = v.lines[v.offset + i]? := by
  by_cases hRoom : v.windowSize = 0
  · rw [visible, if_pos hRoom, List.getElem?_drop]
  · rw [visible, if_neg hRoom, List.length_take] at h
    rw [visible, if_neg hRoom, List.getElem?_take_of_lt (by omega), List.getElem?_drop]

theorem InBounds.length_visible (hv : v.InBounds) (h : 0 < v.windowSize) :
    v.visible.length = min v.windowSize v.total := by
  rw [visible, if_neg (Nat.ne_of_gt h), List.length_take, List.length_drop]
  unfold InBounds lastOffset total at hv
  unfold total
  omega

/-- Whatever is done with a pager, its offset keeps between the top and the last offset. A window
with room for lines has the lines from the offset on, as many as fit or as there are. A move leads
to the offset it aims at, or to the nearest one within bounds, and there is a new state exactly if
that is another offset. -/
theorem offset_of_run (height : Int) (steps : List PagerStep) :
    let v := (closed height).after steps
    (0 ≤ (v.offset : Int) ∧ v.offset ≤ v.lastOffset) ∧
    (0 < v.windowSize →
      v.visible.length = min v.windowSize v.total ∧
      ∀ i < v.visible.length, ∃ line, v.visible[i]? = some line ∧
        v.lines[v.offset + i]? = some line) ∧
    (∀ n, ((v.moveTo n).isSome ↔ (v.next (.goTo n)).offset ≠ v.offset) ∧
      ((v.next (.goTo n)).offset : Int) = min (max 0 n) v.lastOffset) ∧
    ∀ m, ((v.move m).isSome ↔ (v.next (.scroll m)).offset ≠ v.offset) ∧
      ((v.next (.scroll m)).offset : Int) = min (max 0 (v.aim m)) v.lastOffset := by
  intro v
  have hv : v.InBounds := (inBounds_closed height).after steps
  have hClamp : ∀ {step n}, v.target? step = some n →
      ((v.next step).offset : Int) = min (max 0 n) v.lastOffset := by
    intro step n hTarget
    rw [next_eq_of_target hTarget]
    dsimp only
    omega
  refine ⟨⟨Int.natCast_nonneg _, hv⟩, ?_, ?_, ?_⟩
  · intro hRoom
    refine ⟨hv.length_visible hRoom, fun i hi => ?_⟩
    have hLine := List.getElem?_eq_getElem hi
    exact ⟨_, hLine, (getElem?_visible hi).symm.trans hLine⟩
  · exact fun n => ⟨v.isSome_moveTo_iff n, hClamp rfl⟩
  · exact fun m => ⟨v.isSome_moveTo_iff _, hClamp rfl⟩

/-! ## The position in the file -/

/-- If there are lines, the window starts at one of them: that line is the first in sight, and its
number is the one that the screen starts with. -/
def IsAtLine (v : Pager) : Prop :=
  v.lines ≠ [] → v.offset < v.total ∧
    (∃ line, v.lines[v.offset]? = some line ∧ v.visible.head? = some line) ∧
    ∀ pane, Screen.filePane? v = some pane → 1 ≤ pane.start ∧ pane.start ≤ v.total

/-- There are lines, and the window starts behind the last one. -/
def IsPastEnd (v : Pager) : Prop := v.lines ≠ [] ∧ v.total ≤ v.offset

/-- The window has no room for lines, and a step aims behind the last line. -/
def Oversteps (v : Pager) (step : PagerStep) : Prop :=
  v.windowSize = 0 ∧ v.lines ≠ [] ∧ ∃ n, v.target? step = some n ∧ (v.total : Int) ≤ n

theorem isAtLine_iff (v : Pager) : v.IsAtLine ↔ ¬v.IsPastEnd := by
  constructor
  · rintro hLine ⟨hLines, hPast⟩
    exact absurd (hLine hLines).1 (Nat.not_lt.mpr hPast)
  · intro hEnd hLines
    have hOffset : v.offset < v.total := Nat.lt_of_not_le fun hPast => hEnd ⟨hLines, hPast⟩
    have hVisible : 0 < v.visible.length := by
      unfold visible
      split <;> simp only [List.length_take, List.length_drop] <;> unfold total at hOffset <;> omega
    refine ⟨hOffset, ⟨_, List.getElem?_eq_getElem hOffset, ?_⟩, ?_⟩
    · rw [List.head?_eq_getElem?, getElem?_visible hVisible]
      exact List.getElem?_eq_getElem hOffset
    · intro pane hPane
      obtain ⟨path, -, rfl⟩ := Option.map_eq_some_iff.mp hPane
      exact ⟨Nat.le_add_left 1 _, hOffset⟩

theorem InBounds.not_isPastEnd (hv : v.InBounds) (h : 0 < v.windowSize) : ¬v.IsPastEnd := by
  rintro ⟨hLines, hPast⟩
  have hTotal : 0 < v.total := List.length_pos_iff.mpr hLines
  unfold InBounds lastOffset at hv
  omega

theorem next_isPastEnd_iff (hv : ¬v.IsPastEnd) :
    (v.next step).IsPastEnd ↔ v.Oversteps step := by
  cases hTarget : v.target? step with
  | some n =>
    rw [next_eq_of_target hTarget]
    -- The last offset is that of a line, unless the window takes no line off the total.
    constructor
    · rintro ⟨hLines, hPast⟩
      have hTotal : 0 < v.total := List.length_pos_iff.mpr hLines
      have hReach : v.total ≤ min n.toNat (v.total - v.windowSize) := hPast
      exact ⟨by omega, hLines, n, hTarget, by omega⟩
    · rintro ⟨hRoom, hLines, m, hAim, hBehind⟩
      obtain rfl := Option.some.inj (hTarget.symm.trans hAim)
      refine ⟨hLines, ?_⟩
      show v.total ≤ min n.toNat (v.total - v.windowSize)
      omega
  | none =>
    have hOther : ¬v.Oversteps step := by
      rintro ⟨-, -, n, hSome, -⟩
      cases hTarget.symm.trans hSome
    refine iff_of_false ?_ hOther
    cases step with
    | scroll | goTo => cases hTarget
    | load path found =>
      rcases v.next_load path found with hSame | hTop
      · rw [hSame]
        exact hv
      · rintro ⟨hLines, hPast⟩
        rw [hTop] at hPast
        exact hLines (List.length_eq_zero_iff.mp (Nat.le_zero.mp hPast))
    | resize height =>
      rintro ⟨hLines, hPast⟩
      exact hv ⟨hLines, Nat.le_trans hPast (Nat.min_le_left _ _)⟩
    | shut => exact fun hPast => hPast.1 rfl

theorem not_isPastEnd_iff_of_prefixes (hv : ¬v.IsPastEnd) (steps : List PagerStep) :
    (∀ earlier, earlier <+: steps → ¬(v.after earlier).IsPastEnd) ↔
      ∀ earlier step, earlier ++ [step] <+: steps → ¬(v.after earlier).Oversteps step := by
  constructor
  · intro h earlier step hSteps
    have hBefore := h earlier ((List.prefix_append _ _).trans hSteps)
    have hBehind := h _ hSteps
    rwa [after_concat, next_isPastEnd_iff hBefore] at hBehind
  · intro h earlier
    -- The pager before the last step is no further than the last line, and the step decides.
    induction earlier using List.reverseRecOn with
    | nil => exact fun _ => hv
    | append_singleton earlier step ih =>
      intro hSteps
      have hBefore := ih ((List.prefix_append _ _).trans hSteps)
      rw [after_concat, next_isPastEnd_iff hBefore]
      exact h earlier step hSteps

/-- All along a run the window starts at a line, if there is one, exactly if no step oversteps; and
it does so in any case while the height is above the rows of the border. -/
theorem isAtLine_of_run_iff (height : Int) (steps : List PagerStep) :
    ((∀ earlier, earlier <+: steps → ((closed height).after earlier).IsAtLine) ↔
      ∀ earlier step, earlier ++ [step] <+: steps →
        ¬((closed height).after earlier).Oversteps step) ∧
    (frameRows < ((closed height).after steps).height →
      ((closed height).after steps).IsAtLine) := by
  constructor
  · simp only [isAtLine_iff]
    exact not_isPastEnd_iff_of_prefixes (fun hPast => hPast.1 rfl) steps
  · intro hHeight
    rw [isAtLine_iff]
    refine ((inBounds_closed height).after steps).not_isPastEnd ?_
    unfold windowSize
    omega

/-- Before its height is known, a pager that is sent to the bottom of a file shows nothing of it. -/
theorem bottom_without_height_past_end :
    let v := (closed 0).after [.load (.ofText "a") (.file [111, 110, 101, 10]), .scroll .bottom]
    v.lines = ["one"] ∧ v.offset = 1 ∧ v.visible = [] ∧
    (Screen.filePane? v).map FilePane.title = some "a [2/1]" ∧ ¬v.IsAtLine := by
  intro v
  have hLines : v.lines = ["one"] := by decide +kernel
  have hOffset : v.offset = 1 := by decide +kernel
  refine ⟨hLines, hOffset, by decide +kernel, by decide +kernel, ?_⟩
  rw [isAtLine_iff, not_not]
  exact ⟨by simp [hLines], by simp [total, hLines, hOffset]⟩

end Pager

end TopologyExplorer

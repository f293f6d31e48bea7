import Mathlib.Algebra.Order.Floor.Div
import TopologyExplorer.Proofs.Pager.Offset

/-!
# Pages

Moves by a page lead from the top of a file to its last offset and back, each way in as many moves
as there are pages before the last offset. The last move may be shorter than the others. The windows
on the way, read in the direction of the moves, give the file: no line is left out, and only lines
of the last window are shown again.
-/

namespace TopologyExplorer.Pager

variable {v : Pager} {m : PagerMove} {i k n : Nat}

/-- The pager behind a move that is tried so many times. -/
def repeated (v : Pager) (m : PagerMove) (n : Nat) : Pager := v.after (List.replicate n (.scroll m))

/-- The line with a number, counted from zero, is one of those in the window. -/
def InSight (v : Pager) (i : Nat) : Prop := v.offset ≤ i ∧ i < v.offset + v.visible.length

/-- A move leads through the file in so many steps. -/
structure LeadsThrough (v : Pager) (m : PagerMove) (n : Nat) (read : List String → List String) :
    Prop where
  /-- The move is made so many times, and no more. -/
  moves : ∀ k, ((v.repeated m k).move m).isSome ↔ k < n
  /-- The windows before the last one, up to the lines of that one, and the last one give the file
  if each is read in the direction of the move. -/
  reads : ((List.range n).flatMap fun k => read (v.repeated m k).visible).take v.lastOffset ++
    read (v.repeated m n).visible = read v.lines
  shown : ∀ i < v.total, ∃ k ≤ n, (v.repeated m k).InSight i
  /-- A line that is not in the last window is in one window only. -/
  once : ∀ i < v.total, ¬(v.repeated m n).InSight i → ∀ j ≤ n, ∀ k ≤ n,
    (v.repeated m j).InSight i → (v.repeated m k).InSight i → j = k

/-! ## Offsets on the way -/

theorem repeated_succ : v.repeated m (n + 1) = (v.repeated m n).next (.scroll m) := by
  rw [repeated, List.replicate_succ', after_concat]
  rfl

theorem withOffset_self {o : Nat} (h : v.offset = o) : ({ v with offset := o } : Pager) = v := by
  subst h
  rfl

theorem repeated_pageDown (hTop : v.offset = 0) (n : Nat) :
    v.repeated .pageDown n = { v with offset := min (n * v.windowSize) v.lastOffset } := by
  induction n with
  | zero =>
    rw [Nat.zero_mul, Nat.zero_min, withOffset_self hTop]
    rfl
  | succ n ih =>
    rw [repeated_succ, ih, next_eq_of_target rfl]
    simp only [aim, lastOffset, total, windowSize, Nat.succ_mul, mk.injEq, true_and, and_true]
    omega

theorem repeated_pageUp (hBottom : v.offset = v.lastOffset) (n : Nat) :
    v.repeated .pageUp n = { v with offset := v.lastOffset - n * v.windowSize } := by
  induction n with
  | zero =>
    rw [Nat.zero_mul, Nat.sub_zero, withOffset_self hBottom]
    rfl
  | succ n ih =>
    rw [repeated_succ, ih, next_eq_of_target rfl]
    simp only [aim, lastOffset, total, windowSize, Nat.succ_mul, mk.injEq, true_and, and_true]
    omega

theorem isSome_move_repeated_iff :
    ((v.repeated m k).move m).isSome ↔ (v.repeated m (k + 1)).offset ≠ (v.repeated m k).offset := by
  rw [repeated_succ]
  exact isSome_moveTo_iff _ _

theorem lt_ceilDiv_iff {a b : Nat} (hb : 0 < b) : k < a ⌈/⌉ b ↔ k * b < a := by
  rw [← Nat.not_le, ceilDiv_le_iff_le_mul hb, Nat.not_le, Nat.mul_comm]

theorem flatMap_pages {α : Type} (xs : List α) (size n : Nat) :
    ((List.range n).flatMap fun k => (xs.drop (k * size)).take size) = xs.take (n * size) := by
  induction n with
  | zero => simp
  | succ n ih =>
    rw [List.range_succ, List.flatMap_append, ih, Nat.succ_mul, List.take_add]
    simp

theorem inSight_iff (hv : v.InBounds) (hRoom : 0 < v.windowSize) :
    v.InSight i ↔ v.offset ≤ i ∧ i < v.offset + v.windowSize ∧ i < v.total := by
  rw [InSight, hv.length_visible hRoom]
  unfold InBounds lastOffset at hv
  omega

theorem le_ceilDiv_mul {a b : Nat} (hb : 0 < b) : a ≤ a ⌈/⌉ b * b := by
  rw [Nat.mul_comm]
  exact (ceilDiv_le_iff_le_mul hb).mp le_rfl

/-! ## The way through -/

/-- Each window before the last is a page of the file, as it is read, and the last window is the
rest; `place` is where a line stands then. -/
theorem leadsThrough_of_pages {read : List String → List String} (place : Nat → Nat)
    (hRoom : 0 < v.windowSize) (hn : n = v.lastOffset ⌈/⌉ v.windowSize)
    (hMoves : ∀ k, ((v.repeated m k).move m).isSome ↔ k * v.windowSize < v.lastOffset)
    (hPages : ∀ k < n, read (v.repeated m k).visible =
      ((read v.lines).drop (k * v.windowSize)).take v.windowSize)
    (hRest : read (v.repeated m n).visible = (read v.lines).drop v.lastOffset)
    (hSight : ∀ k < n, ∀ i < v.total, (v.repeated m k).InSight i ↔
      k * v.windowSize ≤ place i ∧ place i < k * v.windowSize + v.windowSize)
    (hRestSight : ∀ i < v.total, (v.repeated m n).InSight i ↔ v.lastOffset ≤ place i) :
    LeadsThrough v m n read where
  moves k := by
    rw [hMoves, hn, lt_ceilDiv_iff hRoom]
  reads := by
    have hFlat := List.flatMap_congr fun k hk => hPages k (List.mem_range.mp hk)
    have hReach : v.lastOffset ≤ n * v.windowSize := hn ▸ le_ceilDiv_mul hRoom
    rw [hFlat, flatMap_pages, List.take_take, Nat.min_eq_left hReach, hRest,
      List.take_append_drop]
  shown i hi := by
    by_cases hLast : v.lastOffset ≤ place i
    · exact ⟨n, le_rfl, (hRestSight i hi).mpr hLast⟩
    · have hPage := Nat.div_mul_le_self (place i) v.windowSize
      have hNext := Nat.lt_div_mul_add hRoom (a := place i)
      have hk : place i / v.windowSize < n := by
        rw [hn, lt_ceilDiv_iff hRoom]
        omega
      exact ⟨_, hk.le, (hSight _ hk i hi).mpr ⟨hPage, hNext⟩⟩
  once i hi hLast j hj k hk hLeft hRight := by
    have hPage : ∀ {k}, k ≤ n → (v.repeated m k).InSight i → place i / v.windowSize = k := by
      intro k hk hSees
      have hOther : k ≠ n := fun hEq => hLast (hEq ▸ hSees)
      obtain ⟨hLow, hHigh⟩ := (hSight k (Nat.lt_of_le_of_ne hk hOther) i hi).mp hSees
      exact Nat.div_eq_of_lt_le hLow (by rwa [Nat.succ_mul])
    exact (hPage hj hLeft).symm.trans (hPage hk hRight)

theorem visible_withOffset (hRoom : 0 < v.windowSize) (o : Nat) :
    ({ v with offset := o } : Pager).visible = (v.lines.drop o).take v.windowSize :=
  if_neg (Nat.ne_of_gt hRoom)

theorem inSight_withOffset (hRoom : 0 < v.windowSize) {o : Nat} (ho : o ≤ v.lastOffset) :
    ({ v with offset := o } : Pager).InSight i ↔ o ≤ i ∧ i < o + v.windowSize ∧ i < v.total :=
  inSight_iff ho hRoom

theorem leadsThrough_pageDown (hRoom : 0 < v.windowSize) (hTop : v.offset = 0) :
    LeadsThrough v .pageDown (v.lastOffset ⌈/⌉ v.windowSize) id := by
  have hOffset : ∀ k < v.lastOffset ⌈/⌉ v.windowSize,
      v.repeated .pageDown k = { v with offset := k * v.windowSize } ∧
        k * v.windowSize ≤ v.lastOffset := by
    intro k hk
    have hShort := ((lt_ceilDiv_iff hRoom).mp hk).le
    rw [repeated_pageDown hTop, Nat.min_eq_left hShort]
    exact ⟨rfl, hShort⟩
  have hLast : v.repeated .pageDown (v.lastOffset ⌈/⌉ v.windowSize) =
      { v with offset := v.lastOffset } := by
    rw [repeated_pageDown hTop, Nat.min_eq_right (le_ceilDiv_mul hRoom)]
  apply leadsThrough_of_pages id hRoom rfl
  case hMoves =>
    intro k
    rw [isSome_move_repeated_iff, repeated_pageDown hTop, repeated_pageDown hTop, Nat.succ_mul]
    dsimp only
    omega
  case hPages =>
    intro k hk
    rw [(hOffset k hk).1]
    exact visible_withOffset hRoom _
  case hRest =>
    rw [hLast, id, visible_withOffset hRoom]
    refine List.take_of_length_le ?_
    rw [List.length_drop]
    unfold lastOffset total
    omega
  case hSight =>
    intro k hk i hi
    rw [(hOffset k hk).1, inSight_withOffset hRoom (hOffset k hk).2, id]
    exact ⟨fun h => ⟨h.1, h.2.1⟩, fun h => ⟨h.1, h.2, hi⟩⟩
  case hRestSight =>
    intro i hi
    rw [hLast, inSight_withOffset hRoom le_rfl, id]
    unfold lastOffset
    omega

theorem leadsThrough_pageUp (hRoom : 0 < v.windowSize) (hBottom : v.offset = v.lastOffset) :
    LeadsThrough v .pageUp (v.lastOffset ⌈/⌉ v.windowSize) List.reverse := by
  have hShort : ∀ k < v.lastOffset ⌈/⌉ v.windowSize, k * v.windowSize < v.lastOffset :=
    fun k hk => (lt_ceilDiv_iff hRoom).mp hk
  have hLast : v.repeated .pageUp (v.lastOffset ⌈/⌉ v.windowSize) = { v with offset := 0 } := by
    rw [repeated_pageUp hBottom, Nat.sub_eq_zero_of_le (le_ceilDiv_mul hRoom)]
  -- Read upwards, the last line of the file stands first.
  apply leadsThrough_of_pages (fun i => v.total - 1 - i) hRoom rfl
  case hMoves =>
    intro k
    rw [isSome_move_repeated_iff, repeated_pageUp hBottom, repeated_pageUp hBottom, Nat.succ_mul]
    dsimp only
    omega
  case hPages =>
    intro k hk
    have hPlace := hShort k hk
    have hLines : v.lines.length = v.lastOffset + v.windowSize := by
      unfold lastOffset total at *
      omega
    rw [repeated_pageUp hBottom, visible_withOffset hRoom, List.drop_reverse, List.take_reverse,
      List.length_take, List.drop_take]
    congr 2
    · omega
    · congr 1
      omega
  case hRest =>
    have hSize : min v.windowSize v.lines.length = v.lines.length - v.lastOffset := by
      unfold lastOffset total
      omega
    rw [hLast, visible_withOffset hRoom, List.drop_reverse, List.drop_zero, ← hSize,
      ← List.take_eq_take_min]
  case hSight =>
    intro k hk i hi
    have hPlace := hShort k hk
    rw [repeated_pageUp hBottom, inSight_withOffset hRoom (Nat.sub_le _ _)]
    unfold lastOffset at *
    omega
  case hRestSight =>
    intro i hi
    rw [hLast, inSight_withOffset hRoom (Nat.zero_le _)]
    unfold lastOffset
    omega

/-- From the top of a file, so many moves down by a page as there are pages before the last offset
lead to that offset, and then none is left; as many moves up lead back. Every line is seen on the
way, in order, and only those of the last window are seen again. -/
theorem pages_lead_through (hRoom : 0 < v.windowSize) (hTop : v.offset = 0) :
    let n := v.lastOffset ⌈/⌉ v.windowSize
    let bottom := v.repeated .pageDown n
    (LeadsThrough v .pageDown n id ∧ bottom = { v with offset := v.lastOffset }) ∧
    LeadsThrough bottom .pageUp n List.reverse ∧ bottom.repeated .pageUp n = v := by
  intro n bottom
  have hReach : v.lastOffset ≤ n * v.windowSize := le_ceilDiv_mul hRoom
  have hDown : bottom = { v with offset := v.lastOffset } := by
    rw [show bottom = _ from repeated_pageDown hTop n, Nat.min_eq_right hReach]
  refine ⟨⟨leadsThrough_pageDown hRoom hTop, hDown⟩, ?_⟩
  rw [hDown]
  refine ⟨leadsThrough_pageUp hRoom rfl, ?_⟩
  rw [repeated_pageUp rfl]
  exact withOffset_self (hTop.trans (Nat.sub_eq_zero_of_le hReach).symm)

/-- Two lines of five fit, so that the second move down is one line only. -/
def fiveLines : Pager := ⟨some (.ofText "a"), ["one", "two", "three", "four", "five"], 0, 4⟩

theorem pages_lead_through_five_lines :
    0 < fiveLines.windowSize ∧ fiveLines.offset = 0 ∧
    let n := fiveLines.lastOffset ⌈/⌉ fiveLines.windowSize
    let bottom := fiveLines.repeated .pageDown n
    n = 2 ∧ (LeadsThrough fiveLines .pageDown n id ∧
      bottom = { fiveLines with offset := fiveLines.lastOffset }) ∧
    LeadsThrough bottom .pageUp n List.reverse ∧ bottom.repeated .pageUp n = fiveLines :=
  ⟨by decide, rfl, rfl, pages_lead_through (by decide) rfl⟩

end TopologyExplorer.Pager

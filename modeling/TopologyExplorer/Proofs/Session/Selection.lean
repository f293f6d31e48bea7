import Mathlib.Algebra.Ring.Int.Defs
import Mathlib.Data.List.Induction
import TopologyExplorer.Session.RecordList

/-!
# The selection of a record list

A list is moved and filled anew in any order. Of the moves since it was filled last the first one
selects the first record, whatever its step is, and the steps of the others add up: the selection
stands at their sum, counted in a circle. Nothing of the moves before counts.
-/

namespace TopologyExplorer

/-- What is done to a record list: its selection is moved, or other records are put in place. -/
inductive ListStep (α : Type) where
  | shift (step : Int)
  | replace (records : List α)

namespace ListStep

variable {α : Type} {items records : List α}

/-- The records that are in place behind a run, and the moves since. They are in place from the
beginning, or the run put them there. -/
inductive LastFilled (items : List α) : List (ListStep α) → List α → List Int → Prop where
  | start (moves : List Int) : LastFilled items (moves.map .shift) items moves
  | refilled (earlier : List (ListStep α)) (records : List α) (moves : List Int) :
    LastFilled items (earlier ++ .replace records :: moves.map .shift) records moves

theorem LastFilled.shift {steps : List (ListStep α)} {moves : List Int}
    (h : LastFilled items steps records moves) (step : Int) :
    LastFilled items (steps ++ [.shift step]) records (moves ++ [step]) := by
  cases h with
  | start moves =>
    have hStart : LastFilled items ((moves ++ [step]).map .shift) items (moves ++ [step]) :=
      .start _
    rwa [List.map_append] at hStart
  | refilled earlier records moves =>
    have hLater : LastFilled items (earlier ++ .replace records :: (moves ++ [step]).map .shift)
      records (moves ++ [step]) := .refilled _ _ _
    rwa [List.map_append, ← List.cons_append, ← List.append_assoc] at hLater

theorem exists_lastFilled (items : List α) (steps : List (ListStep α)) :
    ∃ records moves, LastFilled items steps records moves := by
  induction steps using List.reverseRecOn with
  | nil => exact ⟨items, [], .start []⟩
  | append_singleton steps step ih =>
    cases step with
    | shift step =>
      obtain ⟨records, moves, h⟩ := ih
      exact ⟨records, moves ++ [step], h.shift step⟩
    | replace records => exact ⟨records, [], .refilled steps records []⟩

end ListStep

namespace RecordList

variable {α : Type} {l : RecordList α} {moves : List Int}

/-- The list behind a step. It stays as it is if there is no record to select. -/
def next (l : RecordList α) : ListStep α → RecordList α
  | .shift step => (l.shift step).getD l
  | .replace records => l.replace records

def after (l : RecordList α) (steps : List (ListStep α)) : RecordList α := steps.foldl next l

theorem after_append (l : RecordList α) (steps more : List (ListStep α)) :
    l.after (steps ++ more) = (l.after steps).after more :=
  List.foldl_append

/-- Where the selection stands among `n` records after some moves. -/
def position? (n : Nat) : List Int → Option Nat
  | [] => none
  | _ :: moves => some (moves.sum % n).toNat

theorem position?_concat {n : Nat} (hn : 0 < n) (moves : List Int) (step : Int) :
    ∃ i < n, (i : Int) = (moves ++ [step]).tail.sum % n ∧
      position? n (moves ++ [step]) = some i := by
  have hPos : (0 : Int) < n := Int.natCast_pos.mpr hn
  have hLow : 0 ≤ (moves ++ [step]).tail.sum % (n : Int) := Int.emod_nonneg _ (Int.ne_of_gt hPos)
  have hHigh : (moves ++ [step]).tail.sum % (n : Int) < n := Int.emod_lt_of_pos _ hPos
  refine ⟨((moves ++ [step]).tail.sum % n).toNat, by omega, Int.toNat_of_nonneg hLow, ?_⟩
  cases moves <;> rfl

theorem shift_of_position (hRecords : l.records ≠ [])
    (h : l.selected = position? l.records.length moves) (step : Int) :
    l.shift step = some { l with selected := position? l.records.length (moves ++ [step]) } := by
  rw [shift, if_neg (by simpa using hRecords), h]
  cases moves with
  | nil => rfl
  | cons first moves =>
    have hPos : (0 : Int) < l.records.length :=
      Int.natCast_pos.mpr (List.length_pos_iff.mpr hRecords)
    have hLow : 0 ≤ moves.sum % (l.records.length : Int) := Int.emod_nonneg _ (Int.ne_of_gt hPos)
    simp only [position?, List.cons_append, List.sum_append, List.sum_singleton,
      Int.toNat_of_nonneg hLow, Int.emod_add_emod]

theorem after_moves (hRecords : l.records ≠ []) (h : l.selected = none) (moves : List Int) :
    l.after (moves.map .shift) = { l with selected := position? l.records.length moves } := by
  induction moves using List.reverseRecOn with
  | nil => rw [position?, ← h]; rfl
  | append_singleton moves step ih =>
    rw [List.map_append, after_append, ih]
    have hStep := shift_of_position (l := { l with selected := position? l.records.length moves })
      hRecords rfl step
    exact congrArg (Option.getD · _) hStep

theorem shift_empty (hRecords : l.records = []) (step : Int) : l.shift step = none := by
  rw [shift, if_pos (by simp [hRecords])]

theorem after_moves_empty (hRecords : l.records = []) (moves : List Int) :
    l.after (moves.map .shift) = l := by
  induction moves with
  | nil => rfl
  | cons step moves ih =>
    have hStep : l.next (.shift step) = l := by rw [next, shift_empty hRecords]; rfl
    exact (congrArg (after · _) hStep).trans ih

/-- A run ends with the moves of a list that has just been filled. -/
theorem after_of_lastFilled {items records : List α} {steps : List (ListStep α)}
    (h : ListStep.LastFilled items steps records moves) :
    ∃ filled : RecordList α, filled.records = records ∧ filled.selected = none ∧
      (ofList items).after steps = filled.after (moves.map .shift) := by
  cases h with
  | start => exact ⟨ofList items, rfl, rfl, rfl⟩
  | refilled earlier =>
    exact ⟨((ofList items).after earlier).replace records, rfl, rfl, after_append _ _ _⟩

/-- Every run leaves the records that were put in place last. A list without any has no selection,
and no move is one. In another list every move is one, and the selection comes to stand at the sum
of the steps since the records were put in place, without the first of them, in a circle. -/
theorem shift_of_run (items : List α) (steps : List (ListStep α)) (step : Int) :
    let l := (ofList items).after steps
    (∃ records moves, ListStep.LastFilled items steps records moves) ∧
    ∀ records moves, ListStep.LastFilled items steps records moves →
      l.records = records ∧ (moves = [] → l.selected = none) ∧
      (records = [] → l.selected = none ∧ l.shift step = none) ∧
      (records ≠ [] → ∃ i < records.length,
        (i : Int) = (moves ++ [step]).tail.sum % records.length ∧
        l.shift step = some { l with selected := some i }) := by
  intro l
  refine ⟨ListStep.exists_lastFilled items steps, fun records moves h => ?_⟩
  obtain ⟨filled, rfl, hFresh, hRun⟩ := after_of_lastFilled h
  have hl : l = filled.after (moves.map .shift) := hRun
  by_cases hRecords : filled.records = []
  · rw [after_moves_empty hRecords] at hl
    rw [hl]
    exact ⟨rfl, fun _ => hFresh, fun _ => ⟨hFresh, shift_empty hRecords step⟩,
      fun hSome => absurd hRecords hSome⟩
  · rw [after_moves hRecords hFresh] at hl
    have hCount : l.records = filled.records := by rw [hl]
    have hSelected : l.selected = position? l.records.length moves := by rw [hl]
    have hMove := shift_of_position (by rwa [hCount]) hSelected step
    obtain ⟨i, hi, hSum, hPosition⟩ :=
      position?_concat (List.length_pos_iff.mpr hRecords) moves step
    refine ⟨hCount, ?_, fun hNone => absurd hNone hRecords, fun _ => ⟨i, hi, hSum, ?_⟩⟩
    · rintro rfl
      exact hSelected
    · rw [hMove, hCount, hPosition]

/-- An empty list is moved, filled and moved: the step of the first move after that is ignored, the
two others lead back beyond the beginning. -/
theorem shift_of_refilled_run :
    let steps : List (ListStep Nat) := [.shift 3, .replace [7, 8, 9], .shift 5, .shift (-7)]
    let l := (ofList []).after steps
    ListStep.LastFilled [] steps [7, 8, 9] [5, -7] ∧
    l.shift 2 = some { l with selected := some 1 } := by
  intro steps l
  have hFilled : ListStep.LastFilled [] steps [7, 8, 9] [5, -7] :=
    .refilled [.shift 3] [7, 8, 9] [5, -7]
  obtain ⟨-, -, -, hMoved⟩ := (shift_of_run [] steps 2).2 _ _ hFilled
  obtain ⟨i, -, hSum, hShift⟩ := hMoved (by decide)
  have hValue : ([5, -7] ++ [2] : List Int).tail.sum % (3 : Int) = 1 := by decide
  have hi : i = 1 := Int.ofNat_inj.mp (hSum.trans hValue)
  exact ⟨hFilled, hi ▸ hShift⟩

end RecordList

end TopologyExplorer

import TopologyExplorer.Query.Line

/-!
# The query line in two parts

A line that is kept as the text before the cursor and the text behind it needs no positions: a
character comes to the end of the left part and is erased there, and the cursor moves when a
character passes from one part to the other. The query line, which is one text with a position, is
such a line after every run of keys.
-/

namespace TopologyExplorer

/-- A line in two parts, with the cursor between them. -/
structure SplitLine where
  left : List Char
  right : List Char
  history : List String
  mode : LineMode
  deriving DecidableEq, Repr

namespace SplitLine

variable {r next : SplitLine} {key : KeyPress}

def empty : SplitLine := ⟨[], [], [], .address⟩

/-- The cursor passes the last character on its left, if there is one. -/
def moveLeft (r : SplitLine) : SplitLine :=
  match r.left.getLast? with
  | some c => { r with left := r.left.dropLast, right := c :: r.right }
  | none => r

/-- The cursor passes the first character on its right, if there is one. -/
def moveRight (r : SplitLine) : SplitLine :=
  match r.right with
  | c :: cs => { r with left := r.left ++ [c], right := cs }
  | [] => r

def press (r : SplitLine) (key : KeyPress) : Option SplitLine :=
  match key.name with
  | "enter" => some ⟨[], [], String.ofList (r.left ++ r.right) :: r.history, r.mode⟩
  | "up" | "down" => some { r with mode := r.mode.toggle }
  | "backspace" => some { r with left := r.left.dropLast }
  | "left" => some r.moveLeft
  | "right" => some r.moveRight
  | _ => (key.character.filter isPrintable).map fun c => { r with left := r.left ++ [c] }

def after (r : SplitLine) (keys : List KeyPress) : SplitLine :=
  keys.foldl (fun r key => (r.press key).getD r) r

/-- The line as one text with a position. -/
def line (r : SplitLine) : QueryLine :=
  ⟨String.ofList (r.left ++ r.right), r.left.length, r.history, r.mode⟩

@[simp] theorem before_line (r : SplitLine) : r.line.before = r.left := by
  simp [QueryLine.before, line]

@[simp] theorem behind_line (r : SplitLine) : r.line.behind = r.right := by
  simp [QueryLine.behind, line]

/-! ## The edits -/

theorem enter_line (r : SplitLine) (c : Char) :
    r.line.enter c = line { r with left := r.left ++ [c] } := by
  rw [QueryLine.enter, before_line, behind_line]
  simp [line]

theorem erase_line (r : SplitLine) : r.line.erase = line { r with left := r.left.dropLast } := by
  rw [QueryLine.erase, before_line, behind_line]
  simp [line]

theorem left_line (r : SplitLine) : r.line.left = r.moveLeft.line := by
  unfold moveLeft
  cases hLast : r.left.getLast? with
  | none =>
    have hLeft : r.left = [] := List.getLast?_eq_none_iff.mp hLast
    simp [QueryLine.left, line, hLeft]
  | some c =>
    obtain ⟨cs, hLeft⟩ := List.getLast?_eq_some_iff.mp hLast
    simp [QueryLine.left, line, hLeft]

theorem right_line (r : SplitLine) : r.line.right = r.moveRight.line := by
  unfold moveRight
  cases hRight : r.right with
  | nil => simp [QueryLine.right, line, hRight]
  | cons c cs => simp [QueryLine.right, line, hRight, ← Nat.add_assoc]

/-- A key does the same to a line in two parts and to the query line. -/
theorem press_line (r : SplitLine) (key : KeyPress) :
    r.line.press key = (r.press key).map line := by
  unfold QueryLine.press
  split
  case h_1 hName | h_2 hName | h_3 hName =>
    simp only [press, hName]
    rfl
  case h_4 hName =>
    simp only [press, hName]
    exact congrArg some r.erase_line
  case h_5 hName =>
    simp only [press, hName]
    exact congrArg some r.left_line
  case h_6 hName =>
    simp only [press, hName]
    exact congrArg some r.right_line
  case h_7 =>
    simp only [press]
    cases key.character with
    | none => rfl
    | some c =>
      by_cases hPrintable : isPrintable c
      · simp [hPrintable, enter_line, Option.filter]
      · simp [hPrintable, Option.filter]

/-! ## Printable lines -/

/-- Every character of the line and of the entered lines is printable. -/
def AllPrintable (r : SplitLine) : Prop :=
  (∀ c ∈ r.left ++ r.right, isPrintable c) ∧ ∀ entry ∈ r.history, ∀ c ∈ entry.toList, isPrintable c

theorem moveLeft_append (r : SplitLine) :
    r.moveLeft.left ++ r.moveLeft.right = r.left ++ r.right := by
  unfold moveLeft
  split
  · rename_i c hLast
    obtain ⟨cs, hLeft⟩ := List.getLast?_eq_some_iff.mp hLast
    simp [hLeft]
  · rfl

theorem moveRight_append (r : SplitLine) :
    r.moveRight.left ++ r.moveRight.right = r.left ++ r.right := by
  unfold moveRight
  split
  · rename_i c cs hRight
    simp [hRight]
  · rfl

theorem history_moveLeft (r : SplitLine) : r.moveLeft.history = r.history := by
  unfold moveLeft
  split <;> rfl

theorem history_moveRight (r : SplitLine) : r.moveRight.history = r.history := by
  unfold moveRight
  split <;> rfl

theorem AllPrintable.press (hr : r.AllPrintable) (h : r.press key = some next) :
    next.AllPrintable := by
  obtain ⟨hLine, hHistory⟩ := hr
  unfold SplitLine.press at h
  split at h
  case h_1 =>
    cases h
    refine ⟨by simp, fun entry hEntry => ?_⟩
    rcases List.mem_cons.mp hEntry with rfl | hOld
    · rwa [String.toList_ofList]
    · exact hHistory entry hOld
  case h_2 | h_3 =>
    cases h
    exact ⟨hLine, hHistory⟩
  case h_4 =>
    cases h
    refine ⟨fun c hc => hLine c ?_, hHistory⟩
    exact ((List.dropLast_sublist _).append_right _).subset hc
  case h_5 =>
    cases h
    rw [AllPrintable, moveLeft_append, history_moveLeft]
    exact ⟨hLine, hHistory⟩
  case h_6 =>
    cases h
    rw [AllPrintable, moveRight_append, history_moveRight]
    exact ⟨hLine, hHistory⟩
  case h_7 =>
    obtain ⟨c, hTyped, rfl⟩ := Option.map_eq_some_iff.mp h
    have hPrintable : isPrintable c := (Option.filter_eq_some_iff.mp hTyped).2
    refine ⟨fun d hd => ?_, hHistory⟩
    simp only [List.append_assoc, List.singleton_append, List.mem_append, List.mem_cons] at hd hLine
    rcases hd with hd | rfl | hd
    · exact hLine d (.inl hd)
    · exact hPrintable
    · exact hLine d (.inr hd)

theorem AllPrintable.after (hr : r.AllPrintable) (keys : List KeyPress) :
    (r.after keys).AllPrintable := by
  induction keys generalizing r with
  | nil => exact hr
  | cons key keys ih =>
    have hNext : ((r.press key).getD r).AllPrintable := by
      cases hPress : r.press key with
      | none => exact hr
      | some next => exact hr.press hPress
    exact ih hNext

theorem allPrintable_empty : empty.AllPrintable := by simp [AllPrintable, empty]

end SplitLine

namespace QueryLine

def after (q : QueryLine) (keys : List KeyPress) : QueryLine :=
  keys.foldl (fun q key => (q.press key).getD q) q

theorem after_line (r : SplitLine) (keys : List KeyPress) :
    r.line.after keys = (r.after keys).line := by
  induction keys generalizing r with
  | nil => rfl
  | cons key keys ih =>
    have hKey : (r.line.press key).getD r.line = ((r.press key).getD r).line := by
      rw [r.press_line, Option.getD_map]
    exact (congrArg (after · keys) hKey).trans (ih _)

/-- The keys that the line knows by name, whichever characters they have. -/
def namedKeys : List String := ["enter", "up", "down", "backspace", "left", "right"]

theorem press_backspace {q : QueryLine} {key : KeyPress} (h : key.name = "backspace") :
    q.press key = some q.erase := by
  simp only [press, h]

theorem press_typed {q : QueryLine} {key : KeyPress} {c : Char} (hName : key.name ∉ namedKeys)
    (hCharacter : key.character = some c) (hPrintable : isPrintable c) :
    q.press key = some (q.enter c) := by
  unfold press
  split
  case h_7 => rw [hCharacter]; exact if_pos hPrintable
  all_goals
    rename_i hKey
    exact absurd (by rw [hKey]; decide) hName

/-- After every run of keys the query line is the line in two parts after the same keys, as one
text with a position, and the next key does the same to both, or is of no use to either. So the
cursor keeps within the text, all characters of the line and of the entered lines are printable,
and erasing a character that was just typed leads back to the line before. -/
theorem line_of_keys (keys : List KeyPress) :
    let r := SplitLine.empty.after keys
    let q := empty.after keys
    (q = r.line ∧ ∀ key, q.press key = (r.press key).map SplitLine.line) ∧
    (0 ≤ (q.cursor : Int) ∧ q.cursor ≤ q.text.length) ∧
    (∀ c ∈ q.text.toList, isPrintable c) ∧
    (∀ entry ∈ q.history, ∀ c ∈ entry.toList, isPrintable c) ∧
    ∀ key c back, key.name ∉ namedKeys → key.character = some c → isPrintable c →
      back.name = "backspace" →
      q.press key = some (q.enter c) ∧ (q.enter c).press back = some q := by
  intro r q
  have hLine : q = r.line := after_line SplitLine.empty keys
  have hPrintable : r.AllPrintable := SplitLine.allPrintable_empty.after keys
  rw [hLine]
  refine ⟨⟨rfl, r.press_line⟩, ⟨Int.natCast_nonneg _, ?_⟩, ?_, hPrintable.2, ?_⟩
  · simp [SplitLine.line]
  · simpa [SplitLine.line] using hPrintable.1
  · intro key c back hName hCharacter hChar hBack
    refine ⟨press_typed hName hCharacter hChar, ?_⟩
    rw [press_backspace hBack, r.enter_line, SplitLine.erase_line, List.dropLast_concat]

/-- An edit in the middle, a step over the end, keys with both a name and a character, and a key of
no use. -/
theorem line_of_sample_keys :
    let keys : List KeyPress := [⟨"a", some 'a'⟩, ⟨"enter", none⟩, ⟨"1", some '1'⟩, ⟨"3", some '3'⟩,
      ⟨"right", none⟩, ⟨"left", some 'x'⟩, ⟨"2", some '2'⟩, ⟨"f5", none⟩, ⟨"up", some '\t'⟩]
    SplitLine.empty.after keys = ⟨['1', '2'], ['3'], ["a"], .keyword⟩ ∧
    empty.after keys = ⟨"123", 2, ["a"], .keyword⟩ ∧
    ((empty.after keys).enter 'é').press ⟨"backspace", some '\x08'⟩ = some (empty.after keys) := by
  intro keys
  have hParts : SplitLine.empty.after keys = ⟨['1', '2'], ['3'], ["a"], .keyword⟩ := by
    decide +kernel
  obtain ⟨⟨hLine, -⟩, -, -, -, hErased⟩ := line_of_keys keys
  refine ⟨hParts, ?_, ?_⟩
  · rw [hLine, hParts]
    decide
  · exact (hErased ⟨"é", some 'é'⟩ 'é' ⟨"backspace", some '\x08'⟩ (by decide) rfl (by decide +kernel)
      rfl).2

end QueryLine

end TopologyExplorer

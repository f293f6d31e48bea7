import TopologyExplorer.Proofs.Session.Coherence
import TopologyExplorer.Screen

/-!
# The shown list

The tab and the entered lines decide which list is shown, the pane decides which list has the
keys. Both are one list in every reachable session but for one exception: closing a file gives the
keyboard to the joined rows, which are not shown before a line is entered. A key that fails
changes no list, but a line whose query fails is entered all the same and may show another list.
-/

namespace TopologyExplorer

def Screen.table (v : Screen) : ListName → TableView
  | .hosts => v.hosts
  | .procs => v.procs
  | .joined => v.joined

namespace Session

variable {w : Surroundings} {s t : Session} {key : KeyPress} {reply : Reply} {l : ListName}

/-! ## The list that has the keys -/

/-- The keys go to a list: its selected record is the current one, movement keys move its
selection, and enter opens the file of its selected record. -/
structure HasKeys (s : Session) (l : ListName) : Prop where
  current : s.current? = s.currentIn l
  move : ∀ w key step, listStep? key.name = some step →
    s.press w key = s.perhaps (s.shiftIn step l)
  enter : ∀ w key, key.name = "enter" → s.press w key = s.enterIn w l

theorem press_eq_paneKey (hTab : tabOf? key.name = none) (hName : key.name ≠ "tab") :
    s.press w key = s.paneKey w key := by
  unfold press
  split
  · rename_i next hResult
    obtain rfl := paneKey_eq_of_notConsumed hResult
    rw [hResult, unclaimedKey, hTab, if_neg hName]
  · rfl

theorem hasKeys_of_list (h : s.pane.list? = some l) : s.HasKeys l where
  current := current?_eq_currentIn h
  move w key step hStep := by
    have hEnter : key.name ≠ "enter" := by
      intro hName
      rw [listStep?_eq_none (.inl hName)] at hStep
      cases hStep
    have hTab : key.name ≠ "tab" := by
      intro hName
      rw [listStep?_eq_none (.inr hName)] at hStep
      cases hStep
    rw [press_eq_paneKey (tabOf?_eq_none hStep) hTab, paneKey_eq_of_list h, if_neg hEnter, hStep]
    rfl
  enter w key hName := by
    rw [press_eq_paneKey (by rw [hName]; rfl) (by rw [hName]; decide), paneKey_eq_of_list h,
      if_pos hName]

/-! ## Agreement -/

def Stray (s : Session) : Prop := s.pane = .joined ∧ s.history = []

theorem table_shown_iff_of_ne_file (h : s.pane ≠ .file) :
    ((Screen.ofSession s).table l).shown = true ↔ s.shownList = l := by
  cases l <;> simp [Screen.table, Screen.ofSession, Screen.tableView, h]

theorem table_shown_iff (h : s.pane.list? = some l) :
    ((Screen.ofSession s).table l).shown = true ↔ s.shownList = l := by
  apply table_shown_iff_of_ne_file
  intro hPane
  rw [hPane] at h
  cases h

theorem Coherent.shownList_eq_iff (hs : s.Coherent) (h : s.pane.list? = some l) :
    s.shownList = l ↔ ¬s.Stray := by
  cases hTab : s.tab with
  | hostSearch =>
    rcases hs.hostSearch hTab with hPane | hPane <;> rw [hPane] at h <;> cases h
    simp [shownList, hTab, Stray, hPane]
  | processSearch =>
    rcases hs.processSearch hTab with hPane | hPane | hPane | hPane <;> rw [hPane] at h <;> cases h
    · have hHistory := hs.history hPane
      simp [shownList, hTab, Stray, hPane, hHistory]
    · simp [shownList, hTab, Stray, hPane]

theorem Coherent.shownList_of_stray (hs : s.Coherent) (h : s.Stray) : s.shownList = .procs := by
  obtain ⟨hPane, hHistory⟩ := h
  cases hTab : s.tab with
  | hostSearch => rcases hs.hostSearch hTab with hOther | hOther <;> cases hPane.symm.trans hOther
  | processSearch => simp [shownList, hTab, hHistory]

theorem Transition.stray (h : Transition w s key reply t) (ht : t.Stray) :
    s.Stray ∨ key.name = "escape" ∧ s.pane = .file ∧ s.history = [] := by
  obtain ⟨hPane, hHistory⟩ := ht
  cases h with
  | moved _ _ hNext =>
    rcases shiftIn_eq_some hNext with ⟨-, _, -, rfl⟩ | ⟨-, _, -, rfl⟩ | ⟨-, _, -, rfl⟩
    · exact .inl ⟨hPane, hHistory⟩
    · exact .inl ⟨hPane, hHistory⟩
    · exact .inl ⟨hPane, hHistory⟩
  | opened => cases hPane
  | unopened => exact .inl ⟨hPane, hHistory⟩
  | hostsAnswered hLine => cases hLine.symm.trans hPane
  | joinedAnswered hLine => cases hLine.symm.trans hPane
  | unanswered hLine => cases hLine.symm.trans hPane
  | relisted hLine => cases hLine.symm.trans hPane
  | unlisted hLine => cases hLine.symm.trans hPane
  | edited hLine => cases hLine.symm.trans hPane
  | shut hFile hEscape => exact .inr ⟨hEscape, hFile, hHistory⟩
  | scrolled => exact .inl ⟨hPane, hHistory⟩
  | @tabOpened tab =>
    cases tab <;> cases hPane
  | handedOn _ _ hNext =>
    obtain rfl : _ = Pane.joined := hPane
    rcases (nextPane?_eq_some hNext).2 with ⟨-, h | h⟩ | ⟨-, h | ⟨h, -⟩ | ⟨-, h⟩⟩
    · cases h
    · cases h
    · cases h
    · cases h
    · exact absurd hHistory h
  | ignored => exact .inl ⟨hPane, hHistory⟩

/-- In a reachable session the keys of a list pane go to one list. It is the shown one, on the
screen too, unless the session is stray: the processes are shown then. Only closing a file makes a
session stray. -/
theorem keys_go_to_shown_list (h : s.Reachable) :
    (∀ l, s.pane.list? = some l →
      s.HasKeys l ∧
      (((Screen.ofSession s).table l).shown = true ↔ s.shownList = l) ∧
      (s.shownList = l ↔ ¬(s.pane = .joined ∧ s.history = []))) ∧
    (s.pane = .joined → s.history = [] →
      s.shownList = .procs ∧ ((Screen.ofSession s).table .procs).shown = true) ∧
    ∀ w key, (s.press w key).2.pane = .joined → (s.press w key).2.history = [] →
      (s.pane = .joined ∧ s.history = []) ∨
      (key.name = "escape" ∧ s.pane = .file ∧ s.history = []) := by
  refine ⟨fun l hList => ?_, fun hPane hHistory => ?_, fun w key hPane hHistory => ?_⟩
  · exact ⟨hasKeys_of_list hList, table_shown_iff hList, h.coherent.shownList_eq_iff hList⟩
  · have hShown := h.coherent.shownList_of_stray ⟨hPane, hHistory⟩
    exact ⟨hShown, (table_shown_iff_of_ne_file (by rw [hPane]; decide)).mpr hShown⟩
  · exact (press_transition w s key).stray ⟨hPane, hHistory⟩

/-- A file opened from the process list leaves the keys to the joined rows when it is closed, and
the process list is shown. -/
theorem keys_leave_shown_list :
    let s := sample.after (Event.samples ["2", "j", "enter", "escape"])
    s.Reachable ∧ s.pane.list? = some .joined ∧ s.shownList = .procs :=
  ⟨reachable_sample _, by decide +kernel, by decide +kernel⟩

theorem keys_go_to_shown_list_sample :
    (sample.after (Event.samples ["2", "j"])).Reachable ∧
    (sample.after (Event.samples ["2", "j"])).HasKeys .procs ∧
    (sample.after (Event.samples ["2", "j"])).shownList = .procs := by
  have hReachable := reachable_sample ["2", "j"]
  obtain ⟨hKeys, -, hShown⟩ := (keys_go_to_shown_list hReachable).1 .procs (by decide +kernel)
  exact ⟨hReachable, hKeys, hShown.mpr (by decide +kernel)⟩

/-! ## Keys that fail -/

theorem shownList_commit :
    shownList { s with line := s.line.commit } = s.shownList ↔
      ¬(s.tab = .processSearch ∧ s.history = []) := by
  cases hTab : s.tab with
  | hostSearch => simp [shownList, hTab]
  | processSearch =>
    by_cases hHistory : s.line.history = [] <;>
      simp [shownList, hTab, history, QueryLine.commit, hHistory]

/-- A key that fails changes neither the tab nor the keyboard nor a list. It shows another list
exactly if it enters the first line on the process tab. -/
theorem failed_press_keeps_shown_list_iff {fault : Fault}
    (h : (s.press w key).1 = .failed fault) :
    ((s.press w key).2.tab = s.tab ∧ (s.press w key).2.pane = s.pane ∧
      (s.press w key).2.hosts = s.hosts ∧ (s.press w key).2.procs = s.procs ∧
      (s.press w key).2.joined = s.joined) ∧
    ((s.press w key).2.shownList = s.shownList ↔
      ¬(s.tab = .processSearch ∧ s.pane = .line ∧ key.name = "enter" ∧ s.history = [])) := by
  have hRule := press_transition w s key
  rw [h] at hRule
  generalize (s.press w key).2 = t at hRule
  cases hRule with
  | unopened hList =>
    have hLine : s.pane ≠ .line := by
      intro hPane
      rw [hPane] at hList
      cases hList
    exact ⟨⟨rfl, rfl, rfl, rfl, rfl⟩, by simp [hLine]⟩
  | unanswered hLine hEnter =>
    refine ⟨⟨rfl, rfl, rfl, rfl, rfl⟩, ?_⟩
    rw [shownList_commit]
    simp [hLine, hEnter]
  | unlisted hLine hName =>
    have hEnter : key.name ≠ "enter" := by
      rcases hName with hName | hName <;> rw [hName] <;> decide
    exact ⟨⟨rfl, rfl, rfl, rfl, rfl⟩, by simp [hEnter, shownList, history, QueryLine.toggleMode]⟩

theorem failed_press_on_host_tab :
    let s := sample.after (Event.samples ["tab", "'"])
    (s.press .sample ⟨"enter", none⟩).1 =
      .failed (.query (.failed (AddressPattern.ofText "'").query "a literal is not accepted")) ∧
    (s.press .sample ⟨"enter", none⟩).2.hosts = s.hosts ∧
    (s.press .sample ⟨"enter", none⟩).2.shownList = s.shownList := by
  intro s
  have hFailed : (s.press .sample ⟨"enter", none⟩).1 =
      .failed (.query (.failed (AddressPattern.ofText "'").query "a literal is not accepted")) := by
    decide +kernel
  obtain ⟨⟨-, -, hHosts, -, -⟩, hShown⟩ := failed_press_keeps_shown_list_iff hFailed
  exact ⟨hFailed, hHosts, hShown.mpr (by decide +kernel)⟩

/-- The first line on the process tab shows the joined rows though its query fails. -/
theorem failed_press_on_process_tab :
    let s := sample.after (Event.samples ["2", "tab", "'"])
    s.Reachable ∧
    (s.press .sample ⟨"enter", none⟩).1 =
      .failed (.query (.failed (AddressPattern.ofText "'").query "a literal is not accepted")) ∧
    s.shownList = .procs ∧ (s.press .sample ⟨"enter", none⟩).2.shownList = .joined :=
  ⟨reachable_sample _, by decide +kernel, by decide +kernel, by decide +kernel⟩

end Session

end TopologyExplorer

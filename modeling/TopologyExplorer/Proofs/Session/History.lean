import Mathlib.Data.List.Induction
import TopologyExplorer.Proofs.Session.Contents
import TopologyExplorer.Proofs.Session.Replies

/-!
# The entered lines

The history is a record of the run: the texts of the query line at the times it was entered, last
one first, back to the last time a tab was opened or a change of the mode listed all hosts again.
Queries that fail count like others, and so do empty lines.
-/

namespace TopologyExplorer

theorem QueryLine.history_of_press {q line : QueryLine} {key : KeyPress}
    (h : q.press key = some line) (hName : key.name ∉ ["enter", "up", "down"]) :
    line.history = q.history := by
  unfold press at h
  split at h
  case h_1 hKey | h_2 hKey | h_3 hKey => exact absurd (by rw [hKey]; decide) hName
  case h_4 | h_5 | h_6 =>
    cases h
    rfl
  case h_7 =>
    split at h
    · split at h <;> cases h
      rfl
    · cases h

namespace Session

variable {w : Surroundings} {s t : Session} {key : KeyPress} {reply : Reply}

def IsEntered (s : Session) (key : KeyPress) : Prop := s.pane = .line ∧ key.name = "enter"

/-- The query line has the keyboard, and the key has a character for it. -/
def IsTyped (s : Session) (key : KeyPress) : Prop :=
  s.pane = .line ∧ key.character.any isPrintable

/-- The key of a tab opens the tab, unless it is typed. -/
def OpensTab (s : Session) (key : KeyPress) : Prop :=
  (tabOf? key.name).isSome ∧ ¬s.IsTyped key

/-- The mode of the line is changed, and all hosts are listed again. -/
def Relists (w : Surroundings) (s : Session) (key : KeyPress) : Prop :=
  s.IsToggled key ∧ w.hosts.isOk

def Forgets (w : Surroundings) (s : Session) (key : KeyPress) : Prop :=
  s.OpensTab key ∨ s.Relists w key

instance : Decidable (s.IsEntered key) := inferInstanceAs (Decidable (_ ∧ _))

instance : Decidable (s.IsTyped key) := inferInstanceAs (Decidable (_ ∧ _))

instance : Decidable (s.OpensTab key) := inferInstanceAs (Decidable (_ ∧ _))

instance : Decidable (s.IsToggled key) := inferInstanceAs (Decidable (_ ∧ _))

instance : Decidable (s.Relists w key) := inferInstanceAs (Decidable (_ ∧ _))

instance : Decidable (s.Forgets w key) := inferInstanceAs (Decidable (_ ∨ _))

/-! ## What a key does to the history -/

theorem IsEntered.isQuestion (h : s.IsEntered key) : s.IsQuestion key := by
  refine ⟨h.1, ?_⟩
  rw [h.2]
  decide

theorem IsQuestion.not_opensTab (h : s.IsQuestion key) : ¬s.OpensTab key := by
  rintro ⟨hTab, -⟩
  obtain ⟨-, hName⟩ := h
  simp only [List.mem_cons, List.not_mem_nil, or_false] at hName
  rcases hName with hName | hName | hName <;> rw [hName] at hTab <;> cases hTab

theorem IsEntered.not_isToggled (h : s.IsEntered key) : ¬s.IsToggled key := by
  rintro ⟨-, hName⟩
  rw [h.2] at hName
  exact absurd hName (by decide)

theorem IsEntered.not_forgets (h : s.IsEntered key) : ¬s.Forgets w key := fun hForgets =>
  hForgets.elim h.isQuestion.not_opensTab fun hRelists => h.not_isToggled hRelists.1

theorem name_of_tab {name : String} (h : (tabOf? name).isSome) : name = "1" ∨ name = "2" := by
  unfold tabOf? at h
  split at h
  · exact .inl rfl
  · exact .inr rfl
  · cases h

/-- The query line has no use for the key of a tab that types no character. -/
theorem press_eq_none_of_tab {q : QueryLine} (h : (tabOf? key.name).isSome)
    (hUntyped : ¬key.character.any isPrintable) : q.press key = none := by
  have hPress : q.press key = key.character.bind fun c =>
      if isPrintable c then some (q.enter c) else none := by
    rcases name_of_tab h with hName | hName <;> simp only [QueryLine.press, hName] <;>
      cases key.character <;> rfl
  rw [hPress]
  cases hCharacter : key.character with
  | none => rfl
  | some c =>
    rw [hCharacter] at hUntyped
    exact if_neg hUntyped

theorem not_opensTab_of_name (h : tabOf? key.name = none) : ¬s.OpensTab key := by
  rintro ⟨hTab, -⟩
  rw [h] at hTab
  cases hTab

/-- What is remembered behind a key: the entered line too, nothing, or what was before. -/
inductive Remembers (w : Surroundings) (s : Session) (key : KeyPress) : List String → Prop where
  | entered : s.IsEntered key → ¬s.Forgets w key → Remembers w s key (s.line.text :: s.history)
  | forgotten : s.Forgets w key → Remembers w s key []
  | kept : ¬s.IsEntered key → ¬s.Forgets w key → Remembers w s key s.history

theorem Remembers.of_not_isQuestion (h : ¬s.IsQuestion key) (hTab : ¬s.OpensTab key) :
    Remembers w s key s.history :=
  .kept (fun hEntered => h hEntered.isQuestion) fun hForgets =>
    hForgets.elim hTab fun hRelists => h hRelists.1.isQuestion

theorem not_isQuestion_of_list {l : ListName} (h : s.pane.list? = some l) : ¬s.IsQuestion key :=
  fun hQuestion => nomatch h.symm.trans hQuestion.list?_eq

theorem not_isQuestion_of_file (h : s.pane = .file) : ¬s.IsQuestion key :=
  fun hQuestion => nomatch h.symm.trans hQuestion.1

theorem paneKey_ne_of_isTyped (h : s.IsTyped key) : s.paneKey w key ≠ (.notConsumed, s) := by
  obtain ⟨hLine, hTyped⟩ := h
  obtain ⟨c, hCharacter, hPrintable⟩ := (Option.any_eq_true _ _).mp hTyped
  rw [paneKey, hLine]
  exact lineKey_ne_notConsumed (QueryLine.press_ne_none hCharacter hPrintable)

theorem paneKey_of_opensTab (w : Surroundings) (h : s.OpensTab key) :
    s.paneKey w key = (.notConsumed, s) := by
  -- No pane has a use for the names of the tab keys: only a line that types could take them.
  obtain ⟨hTab, hUntyped⟩ := h
  have hList : ∀ l, s.pane.list? = some l → s.paneKey w key = (.notConsumed, s) := by
    intro l hPane
    rw [paneKey_eq_of_list hPane]
    rcases name_of_tab hTab with hName | hName <;> rw [hName] <;> rfl
  cases hPane : s.pane with
  | hosts | procs | joined => exact hList _ (congrArg Pane.list? hPane)
  | line =>
    have hNone : s.line.press key = none :=
      press_eq_none_of_tab hTab fun hTyped => hUntyped ⟨hPane, hTyped⟩
    rw [paneKey, hPane]
    simp only [lineKey, hNone]
  | file =>
    rw [paneKey, hPane]
    simp only [fileKey]
    rcases name_of_tab hTab with hName | hName <;> rw [hName] <;> rfl

/-- A key opens a tab exactly if the session behind it is the one with that tab open. -/
theorem opensTab_iff (w : Surroundings) (s : Session) (key : KeyPress) :
    s.OpensTab key ↔
      ∃ tab, tabOf? key.name = some tab ∧ s.press w key = (.consumed, s.openTab tab) := by
  constructor
  · intro h
    obtain ⟨tab, hTab⟩ := Option.isSome_iff_exists.mp h.1
    refine ⟨tab, hTab, ?_⟩
    rw [press, paneKey_of_opensTab w h]
    simp only [unclaimedKey, hTab]
  · rintro ⟨tab, hTab, hPress⟩
    refine ⟨by rw [hTab]; rfl, ?_⟩
    intro hTyped
    -- A typed key leaves the line with the keyboard, and a tab opens with a list.
    have hPane := (press_transition w s key).keeps_line hTyped.1 (paneKey_ne_of_isTyped hTyped)
    rw [hPress] at hPane
    cases tab <;> cases hPane.2

theorem Transition.remembers (h : Transition w s key reply t) : Remembers w s key t.history := by
  cases h with
  | moved hList hStep hNext =>
    have hHistory : t.history = s.history := by
      rcases shiftIn_eq_some hNext with ⟨-, _, -, rfl⟩ | ⟨-, _, -, rfl⟩ | ⟨-, _, -, rfl⟩ <;> rfl
    rw [hHistory]
    exact .of_not_isQuestion (not_isQuestion_of_list hList)
      (not_opensTab_of_name (tabOf?_eq_none hStep))
  | opened hList hEnter | unopened hList hEnter =>
    exact .of_not_isQuestion (not_isQuestion_of_list hList)
      (not_opensTab_of_name (by rw [hEnter]; rfl))
  | hostsAnswered hLine hEnter | joinedAnswered hLine hEnter | unanswered hLine hEnter =>
    have hEntered : s.IsEntered key := ⟨hLine, hEnter⟩
    exact .entered hEntered hEntered.not_forgets
  | relisted hLine hName hHosts => exact .forgotten (.inr ⟨⟨hLine, hName⟩, by rw [hHosts]; rfl⟩)
  | unlisted hLine hName hHosts =>
    -- The mode is changed, but the hosts are not listed, and the lines stay.
    have hToggled : s.IsToggled key := ⟨hLine, hName⟩
    refine .kept (fun hEntered => hEntered.not_isToggled hToggled) ?_
    rintro (hTab | ⟨-, hListed⟩)
    · exact hToggled.isQuestion.not_opensTab hTab
    · rw [hHosts] at hListed
      cases hListed
  | edited hLine hName hPress =>
    rw [history, QueryLine.history_of_press hPress hName]
    refine .of_not_isQuestion (fun hQuestion => hName hQuestion.2) ?_
    rintro ⟨hTab, hUntyped⟩
    have hNone : s.line.press key = none :=
      press_eq_none_of_tab hTab fun hTyped => hUntyped ⟨hLine, hTyped⟩
    cases hNone.symm.trans hPress
  | shut hFile hName =>
    exact .of_not_isQuestion (not_isQuestion_of_file hFile)
      (not_opensTab_of_name (by rw [hName]; rfl))
  | scrolled hFile hMove =>
    exact .of_not_isQuestion (not_isQuestion_of_file hFile)
      (not_opensTab_of_name (tabOf?_eq_none_of_pagerMove? hMove))
  | tabOpened hKey hTab =>
    exact .forgotten (.inl ⟨by rw [hTab]; rfl, fun hTyped => paneKey_ne_of_isTyped hTyped hKey⟩)
  | handedOn hKey hName =>
    exact .of_not_isQuestion (fun hQuestion => hQuestion.paneKey_ne hKey)
      (not_opensTab_of_name (by rw [hName]; rfl))
  | ignored hKey hRest =>
    refine .of_not_isQuestion (fun hQuestion => hQuestion.paneKey_ne hKey)
      (not_opensTab_of_name ?_)
    cases hTab : tabOf? key.name with
    | none => rfl
    | some tab =>
      rw [unclaimedKey, hTab] at hRest
      cases hRest

end Session

/-! ## The history of a run -/

namespace Press

def Forgets (p : Press) : Prop := p.session.Forgets p.surroundings p.key

instance (p : Press) : Decidable p.Forgets :=
  inferInstanceAs (Decidable (p.session.Forgets p.surroundings p.key))

def entered? (p : Press) : Option String :=
  if p.session.IsEntered p.key then some p.session.line.text else none

theorem history_result (p : Press) :
    p.result.history = if p.Forgets then [] else p.entered?.toList ++ p.session.history := by
  have hRule : Session.Remembers p.surroundings p.session p.key p.result.history :=
    (Session.press_transition _ _ _).remembers
  -- The rules have a history of their own as their index, so the result's name has to go.
  generalize p.result.history = lines at hRule ⊢
  cases hRule with
  | forgotten hForgets =>
    have hThis : p.Forgets := hForgets
    rw [if_pos hThis]
  | entered hEntered hKept =>
    have hThis : ¬p.Forgets := hKept
    rw [if_neg hThis, entered?, if_pos hEntered]
    rfl
  | kept hOther hKept =>
    have hThis : ¬p.Forgets := hKept
    rw [if_neg hThis, entered?, if_neg hOther]
    rfl

end Press

namespace Session

variable {w : Surroundings} {s first : Session} {height : Int}

/-- The lines that were entered since the last key that forgets them, last one first. -/
def enteredLines (s : Session) (events : List Event) : List String :=
  ((s.presses events).reverse.takeWhile fun p => ¬p.Forgets).filterMap Press.entered?

theorem enteredLines_concat {p : Press} {events : List Event} (h : p.session = s.after events) :
    s.enteredLines (events ++ [.key p.surroundings p.key]) =
      if p.Forgets then [] else p.entered?.toList ++ s.enteredLines events := by
  have hPresses : (s.presses (events ++ [.key p.surroundings p.key])).reverse =
      p :: (s.presses events).reverse := by
    rw [presses_append, List.reverse_append, ← h]
    rfl
  rw [enteredLines, hPresses]
  by_cases hForgets : p.Forgets
  · rw [if_pos hForgets, List.takeWhile_cons_of_neg (by simpa using hForgets)]
    rfl
  · rw [if_neg hForgets, List.takeWhile_cons_of_pos (by simpa using hForgets),
      List.filterMap_cons]
    cases p.entered? <;> rfl

theorem history_after (h : s.history = []) (events : List Event) :
    (s.after events).history = s.enteredLines events := by
  -- The last event decides: it is the first one of the reversed run.
  induction events using List.reverseRecOn with
  | nil => exact h
  | append_singleton events e ih =>
    cases e with
    | height rows =>
      rw [after_append, enteredLines, presses_append, presses, presses, List.append_nil]
      exact ih
    | key w key =>
      let p : Press := ⟨s.after events, w, key⟩
      have hResult : s.after (events ++ [.key w key]) = p.result := after_append s _ _
      have hLines : s.enteredLines (events ++ [.key w key]) = _ := enteredLines_concat (p := p) rfl
      rw [hResult, hLines, ← ih]
      exact p.history_result

/-- In a session from the start on, the history holds the lines that were entered since the last
key that opened a tab, or that listed all hosts with a change of the mode, last one first. Which
keys open a tab is seen from the session behind them. -/
theorem history_of_run (h : start w height = .ok first) (events : List Event) :
    (first.after events).history = first.enteredLines events ∧
    ∀ p ∈ first.presses events, p.session.OpensTab p.key ↔
      ∃ tab, tabOf? p.key.name = some tab ∧
        p.reply = .consumed ∧ p.result = p.session.openTab tab := by
  obtain ⟨hosts, procs, joined, -, -, -, rfl⟩ := start_eq_ok h
  refine ⟨history_after rfl events, fun p _ => ?_⟩
  rw [opensTab_iff p.surroundings]
  simp only [Prod.ext_iff]
  rfl

/-- Of five entered lines, one was forgotten with each change of the mode and one when the process
tab was opened. The empty line stays, and so does the one whose query fails. -/
theorem history_of_sample_run :
    let events := Event.samples ["tab", "1", "enter", "up", "2", "enter", "up", "3", "enter", "tab",
      "2", "tab", "enter", "'", "enter"]
    start .sample 10 = .ok sample ∧ (sample.after events).history = ["'", ""] := by
  intro events
  refine ⟨start_sample, ?_⟩
  rw [(history_of_run start_sample events).1]
  decide +kernel

end Session

end TopologyExplorer

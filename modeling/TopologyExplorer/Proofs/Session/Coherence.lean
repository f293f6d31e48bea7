import TopologyExplorer.Proofs.Pager.Offset
import TopologyExplorer.Proofs.Session.Run
import TopologyExplorer.Proofs.Session.Transition

/-!
# Coherent sessions

The parts of a session agree with each other: the keyboard is on a pane of the tab, the pager is
open exactly while it has the keyboard, the process list has the keyboard only before a line is
entered, and no selection points behind its list. Every event keeps this, failed keys included.
-/

namespace TopologyExplorer

namespace Session

structure Coherent (s : Session) : Prop where
  hostSearch : s.tab = .hostSearch → s.pane = .hosts ∨ s.pane = .line
  processSearch : s.tab = .processSearch →
    s.pane = .line ∨ s.pane = .procs ∨ s.pane = .joined ∨ s.pane = .file
  pager : s.pager.isOpen = true ↔ s.pane = .file
  history : s.pane = .procs → s.history = []
  hosts : s.hosts.Bounded
  procs : s.procs.Bounded
  joined : s.joined.Bounded

variable {w : Surroundings} {s t : Session} {key : KeyPress} {reply : Reply}

theorem start_coherent {height : Int} (h : start w height = .ok s) : s.Coherent := by
  obtain ⟨hosts, procs, joined, -, -, -, rfl⟩ := start_eq_ok h
  exact {
    hostSearch := fun _ => .inl rfl
    processSearch := fun h => by cases h
    pager := by simp [Pager.isOpen, Pager.closed]
    history := fun _ => rfl
    hosts := RecordList.bounded_ofList hosts
    procs := RecordList.bounded_ofList procs
    joined := RecordList.bounded_ofList joined }

/-- A list with files is a list of the process tab. -/
theorem Coherent.tab_eq_of_path {l : ListName} {path : Path} (hs : s.Coherent)
    (hList : s.pane.list? = some l) (hPath : (s.currentIn l).bind Record.path? = some path) :
    s.tab = .processSearch := by
  cases hTab : s.tab with
  | processSearch => rfl
  | hostSearch =>
    rcases hs.hostSearch hTab with hPane | hPane <;> rw [hPane] at hList <;> cases hList
    cases hCurrent : s.hosts.current? <;> simp [currentIn, hCurrent, Record.path?] at hPath

theorem isOpen_of_display {v u : Pager} {path : Path} {found : Found}
    (h : v.display path found = .ok u) : u.isOpen = true := by
  obtain ⟨bytes, -, -, rfl⟩ := Pager.display_eq_ok_iff.mp h
  rfl

theorem isOpen_of_move {v u : Pager} {move : PagerMove} (h : v.move move = some u) :
    u.isOpen = v.isOpen := by
  unfold Pager.move Pager.moveTo at h
  dsimp only at h
  split at h <;> cases h
  rfl

theorem Coherent.moved {l : ListName} {step : Int} (hs : s.Coherent)
    (h : s.shiftIn step l = some t) : t.Coherent := by
  rcases shiftIn_eq_some h with ⟨-, moved, hMoved, rfl⟩ | ⟨-, moved, hMoved, rfl⟩ |
    ⟨-, moved, hMoved, rfl⟩
  · exact { hs with hosts := RecordList.bounded_of_shift hMoved }
  · exact { hs with procs := RecordList.bounded_of_shift hMoved }
  · exact { hs with joined := RecordList.bounded_of_shift hMoved }

theorem Coherent.withLine (hs : s.Coherent) (h : s.pane = .line) (line : QueryLine) :
    Coherent { s with line := line } :=
  { hs with history := fun hPane => by rw [h] at hPane; cases hPane }

theorem Coherent.opened {l : ListName} {path : Path} {pager : Pager} (hs : s.Coherent)
    (hList : s.pane.list? = some l) (hPath : (s.currentIn l).bind Record.path? = some path)
    (hPager : s.pager.display path (w.look path) = .ok pager) :
    Coherent { s with pager := pager, pane := .file } where
  hostSearch hTab := by
    rw [hs.tab_eq_of_path hList hPath] at hTab
    cases hTab
  processSearch _ := .inr (.inr (.inr rfl))
  pager := ⟨fun _ => rfl, fun _ => isOpen_of_display hPager⟩
  history hPane := by cases hPane
  hosts := hs.hosts
  procs := hs.procs
  joined := hs.joined

theorem Coherent.shut (hs : s.Coherent) (h : s.pane = .file) :
    Coherent { s with pager := s.pager.shut, pane := .joined } where
  hostSearch hTab := by
    rcases hs.hostSearch hTab with hPane | hPane <;> rw [h] at hPane <;> cases hPane
  processSearch _ := .inr (.inr (.inl rfl))
  pager := ⟨fun hOpen => (by cases hOpen), fun hPane => (by cases hPane)⟩
  history hPane := by cases hPane
  hosts := hs.hosts
  procs := hs.procs
  joined := hs.joined

theorem Coherent.openTab (hs : s.Coherent) (tab : Tab) : (s.openTab tab).Coherent where
  hostSearch hTab := by
    obtain rfl : tab = .hostSearch := hTab
    exact .inl rfl
  processSearch hTab := by
    obtain rfl : tab = .processSearch := hTab
    exact .inr (.inl rfl)
  pager := by
    have hShut : (s.openTab tab).pager.isOpen = false := by
      unfold Session.openTab
      by_cases hPane : s.pane = .file
      · simp [hPane, Pager.shut, Pager.closed, Pager.isOpen]
      · have hOpen : s.pager.isOpen = false := Bool.eq_false_iff.mpr (mt hs.pager.mp hPane)
        simp [hPane, hOpen]
    rw [hShut]
    cases tab <;> simp [Session.openTab, Tab.initialPane]
  history _ := rfl
  hosts := hs.hosts
  procs := hs.procs
  joined := hs.joined

theorem nextPane?_eq_some {pane : Pane} (h : s.nextPane? = some pane) :
    s.pane ≠ .file ∧
    (s.tab = .hostSearch ∧ (pane = .hosts ∨ pane = .line) ∨
      s.tab = .processSearch ∧
        (pane = .line ∨ pane = .procs ∧ s.history = [] ∨ pane = .joined ∧ s.history ≠ [])) := by
  unfold nextPane? at h
  split at h
  · rename_i hTab hPane
    cases h
    exact ⟨by simp [hPane], .inl ⟨hTab, .inr rfl⟩⟩
  · rename_i hTab hPane
    cases h
    exact ⟨by simp [hPane], .inl ⟨hTab, .inl rfl⟩⟩
  · rename_i hTab hPane
    refine ⟨by simp [hPane], .inr ⟨hTab, .inr ?_⟩⟩
    split at h <;> cases h
    · exact .inl ⟨rfl, List.isEmpty_iff.mp ‹_›⟩
    · exact .inr ⟨rfl, mt List.isEmpty_iff.mpr ‹_›⟩
  · rename_i hTab hPane
    cases h
    exact ⟨by simp [hPane], .inr ⟨hTab, .inl rfl⟩⟩
  · rename_i hTab hPane
    cases h
    exact ⟨by simp [hPane], .inr ⟨hTab, .inl rfl⟩⟩
  · cases h

theorem Coherent.handedOn {pane : Pane} (hs : s.Coherent) (h : s.nextPane? = some pane) :
    Coherent { s with pane := pane } := by
  obtain ⟨hOld, hNew⟩ := nextPane?_eq_some h
  have hFile : pane ≠ .file := by
    rcases hNew with ⟨-, rfl | rfl⟩ | ⟨-, rfl | ⟨rfl, -⟩ | ⟨rfl, -⟩⟩ <;> decide
  refine { hs with hostSearch := ?_, processSearch := ?_, pager := ?_, history := ?_ }
  · intro hTab
    rcases hNew with ⟨-, hPane⟩ | ⟨hOther, -⟩
    · exact hPane
    · rw [hOther] at hTab
      cases hTab
  · intro hTab
    rcases hNew with ⟨hOther, -⟩ | ⟨-, hPane | ⟨hPane, -⟩ | ⟨hPane, -⟩⟩
    · rw [hOther] at hTab
      cases hTab
    · exact .inl hPane
    · exact .inr (.inl hPane)
    · exact .inr (.inr (.inl hPane))
  · exact ⟨fun hOpen => absurd (hs.pager.mp hOpen) hOld, fun hPane => absurd hPane hFile⟩
  · intro hPane
    rcases hNew with ⟨-, hOther | hOther⟩ | ⟨-, hOther | ⟨-, hHistory⟩ | ⟨hOther, -⟩⟩
    · cases hOther.symm.trans hPane
    · cases hOther.symm.trans hPane
    · cases hOther.symm.trans hPane
    · exact hHistory
    · cases hOther.symm.trans hPane

theorem Coherent.transition (hs : s.Coherent) (h : Transition w s key reply t) : t.Coherent := by
  cases h with
  | moved _ _ hNext => exact hs.moved hNext
  | opened hList _ hPath hPager => exact hs.opened hList hPath hPager
  | unopened => exact hs
  | hostsAnswered hPane =>
    exact { hs.withLine hPane _ with hosts := RecordList.bounded_replace _ _ }
  | joinedAnswered hPane =>
    exact { hs.withLine hPane _ with joined := RecordList.bounded_replace _ _ }
  | unanswered hPane => exact hs.withLine hPane _
  | relisted hPane =>
    exact { hs.withLine hPane _ with hosts := RecordList.bounded_replace _ _ }
  | unlisted hPane => exact hs.withLine hPane _
  | edited hPane => exact hs.withLine hPane _
  | shut hPane => exact hs.shut hPane
  | scrolled _ _ hPager => exact { hs with pager := by rw [isOpen_of_move hPager]; exact hs.pager }
  | tabOpened => exact hs.openTab _
  | handedOn _ _ hPane => exact hs.handedOn hPane
  | ignored => exact hs

theorem Coherent.next (hs : s.Coherent) (e : Event) : (s.next e).Coherent := by
  cases e with
  | key w key => exact hs.transition (press_transition w s key)
  | height rows => exact { hs with }

/-- Whatever the surroundings answer, a run from a start keeps the parts of the session in
agreement. -/
theorem after_start_coherent {height : Int} (h : start w height = .ok s) (events : List Event) :
    (s.after events).Coherent :=
  after_induction (fun _ e hs => hs.next e) (start_coherent h) events

/-- A query that fails, a file that is opened and closed, and a change of the tab. -/
theorem after_sample_coherent :
    start .sample 10 = .ok sample ∧
    (sample.after (Event.samples ["2", "tab", "'", "enter", "up", "tab", "j", "enter", "escape",
      "enter", "1"])).Coherent :=
  ⟨start_sample, after_start_coherent start_sample _⟩

theorem Reachable.coherent (h : s.Reachable) : s.Coherent :=
  h.induction (fun _ _ _ => start_coherent) fun _ e hs => hs.next e

end Session

end TopologyExplorer

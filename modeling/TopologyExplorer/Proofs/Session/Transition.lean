import TopologyExplorer.Proofs.Session.Lists

/-!
# Transitions

What one key can do to a session: one rule for each kind of change, with the reply. A rule says
where the key meets the session and which fields change. Nothing is assumed about the answers of
the surroundings.
-/

namespace TopologyExplorer

namespace Surroundings

def hostsFor (w : Surroundings) (mode : LineMode) (raw : String) : Except QueryFault (List Host) :=
  match mode with
  | .address => do return (← w.rows (.ofText raw)).map Joined.host
  | .keyword => do return filterByKeyword (← w.hosts) raw

def joinedFor (w : Surroundings) (mode : LineMode) (raw : String) :
    Except QueryFault (List Joined) :=
  match mode with
  | .address => w.rows (.ofText raw)
  | .keyword => do return filterByKeyword (← w.rows .everything) raw

end Surroundings

namespace QueryLine

variable {q : QueryLine} {key : KeyPress}

theorem press_enter (h : key.name = "enter") : q.press key = some q.commit := by
  simp only [press, h]

theorem press_toggle (h : key.name = "up" ∨ key.name = "down") :
    q.press key = some q.toggleMode := by
  rcases h with h | h <;> simp only [press, h]

end QueryLine

namespace Session

theorem answerLine_hostSearch {s : Session} (h : s.tab = .hostSearch) (w : Surroundings)
    (raw : String) :
    s.answerLine w raw = (w.hostsFor s.line.mode raw).map fun records =>
      { s with hosts := s.hosts.replace records } := by
  unfold answerLine Surroundings.hostsFor
  cases hMode : s.line.mode <;> simp only [h]
  case address => cases w.rows (.ofText raw) <;> rfl
  case keyword => cases w.hosts <;> rfl

theorem answerLine_processSearch {s : Session} (h : s.tab = .processSearch) (w : Surroundings)
    (raw : String) :
    s.answerLine w raw = (w.joinedFor s.line.mode raw).map fun records =>
      { s with joined := s.joined.replace records } := by
  unfold answerLine Surroundings.joinedFor
  cases hMode : s.line.mode <;> simp only [h]
  case address => cases w.rows (.ofText raw) <;> rfl
  case keyword => cases w.rows .everything <;> rfl

/-- The rules by which a key takes a session to the next one, with its reply. -/
inductive Transition (w : Surroundings) (s : Session) (key : KeyPress) : Reply → Session → Prop where
  | moved {l : ListName} {step : Int} {next : Session} :
      s.pane.list? = some l → listStep? key.name = some step → s.shiftIn step l = some next →
      Transition w s key .consumed next
  | opened {l : ListName} {path : Path} {pager : Pager} :
      s.pane.list? = some l → key.name = "enter" → (s.currentIn l).bind Record.path? = some path →
      s.pager.display path (w.look path) = .ok pager →
      Transition w s key .consumed { s with pager := pager, pane := .file }
  | unopened {l : ListName} {path : Path} {fault : FileFault} :
      s.pane.list? = some l → key.name = "enter" → (s.currentIn l).bind Record.path? = some path →
      s.pager.display path (w.look path) = .error fault →
      Transition w s key (.failed (.file fault)) s
  | hostsAnswered {records : List Host} :
      s.pane = .line → key.name = "enter" → s.tab = .hostSearch →
      w.hostsFor s.line.mode s.line.text = .ok records →
      Transition w s key .consumed
        { s with line := s.line.commit, hosts := s.hosts.replace records }
  | joinedAnswered {records : List Joined} :
      s.pane = .line → key.name = "enter" → s.tab = .processSearch →
      w.joinedFor s.line.mode s.line.text = .ok records →
      Transition w s key .consumed
        { s with line := s.line.commit, joined := s.joined.replace records }
  | unanswered {fault : QueryFault} :
      s.pane = .line → key.name = "enter" →
      (s.tab = .hostSearch ∧ w.hostsFor s.line.mode s.line.text = .error fault ∨
        s.tab = .processSearch ∧ w.joinedFor s.line.mode s.line.text = .error fault) →
      Transition w s key (.failed (.query fault)) { s with line := s.line.commit }
  | relisted {records : List Host} :
      s.pane = .line → key.name = "up" ∨ key.name = "down" → w.hosts = .ok records →
      Transition w s key .consumed
        { s with line := s.line.toggleMode.forgetHistory, hosts := s.hosts.replace records }
  | unlisted {fault : QueryFault} :
      s.pane = .line → key.name = "up" ∨ key.name = "down" → w.hosts = .error fault →
      Transition w s key (.failed (.query fault)) { s with line := s.line.toggleMode }
  | edited {line : QueryLine} :
      s.pane = .line → key.name ∉ ["enter", "up", "down"] → s.line.press key = some line →
      Transition w s key .consumed { s with line := line }
  | shut :
      s.pane = .file → key.name = "escape" →
      Transition w s key .consumed { s with pager := s.pager.shut, pane := .joined }
  | scrolled {move : PagerMove} {pager : Pager} :
      s.pane = .file → pagerMove? key.name = some move → s.pager.move move = some pager →
      Transition w s key .consumed { s with pager := pager }
  | tabOpened {tab : Tab} :
      s.paneKey w key = (.notConsumed, s) → tabOf? key.name = some tab →
      Transition w s key .consumed (s.openTab tab)
  | handedOn {pane : Pane} :
      s.paneKey w key = (.notConsumed, s) → key.name = "tab" → s.nextPane? = some pane →
      Transition w s key .consumed { s with pane := pane }
  | ignored :
      s.paneKey w key = (.notConsumed, s) → s.unclaimedKey key = (.notConsumed, s) →
      Transition w s key .notConsumed s

variable {w : Surroundings} {s t : Session} {key : KeyPress}

theorem settle_reply (s : Session) (result : Except QueryFault Session) :
    (s.settle result).1 = .consumed ∨ ∃ fault, (s.settle result).1 = .failed fault := by
  cases result with
  | ok next => exact .inl rfl
  | error fault => exact .inr ⟨_, rfl⟩

/-- The query line consumes a key that it has a use for, unless the key asks for records. -/
theorem lineKey_reply (h : s.line.press key ≠ none) :
    (s.lineKey w key).1 = .consumed ∨
      (∃ fault, (s.lineKey w key).1 = .failed fault) ∧ key.name ∈ ["enter", "up", "down"] := by
  unfold lineKey
  split
  · rename_i hNone
    exact absurd hNone h
  · dsimp only
    split
    case h_4 => exact .inl rfl
    all_goals
      rename_i hName
      exact (settle_reply _ _).imp_right fun hFailed => ⟨hFailed, by rw [hName]; decide⟩

theorem lineKey_ne_notConsumed (h : s.line.press key ≠ none) :
    s.lineKey w key ≠ (.notConsumed, t) := by
  intro hResult
  rcases lineKey_reply (w := w) h with hReply | ⟨⟨_, hReply⟩, -⟩ <;>
    rw [hResult] at hReply <;> cases hReply

theorem press_eq_lineKey (hPane : s.pane = .line) (hUsed : s.line.press key ≠ none) :
    s.press w key = s.lineKey w key := by
  have hKey : s.paneKey w key = s.lineKey w key := by rw [paneKey, hPane]
  unfold press
  split
  · rename_i hResult
    exact absurd (hKey ▸ hResult) (lineKey_ne_notConsumed hUsed)
  · exact hKey

/-- What a pane makes of a key: it leaves the key and the session alone, or one of the rules
applies. -/
def Handled (w : Surroundings) (s : Session) (key : KeyPress) (result : Reply × Session) : Prop :=
  result = (.notConsumed, s) ∨ Transition w s key result.1 result.2

theorem perhaps_handled {next : Option Session}
    (h : ∀ t, next = some t → Transition w s key .consumed t) : Handled w s key (s.perhaps next) := by
  cases next with
  | none => exact .inl rfl
  | some t => exact .inr (h t rfl)

theorem listKey_handled {l : ListName} (h : s.pane.list? = some l) :
    Handled w s key (s.paneKey w key) := by
  rw [paneKey_eq_of_list h]
  split
  · rename_i hEnter
    rcases enterIn_cases w s l with ⟨hResult, -⟩ | ⟨path, hPath, hFile⟩
    · exact .inl hResult
    · rcases hFile with ⟨pager, hPager, hResult⟩ | ⟨fault, hFault, hResult⟩
      · rw [hResult]
        exact .inr (.opened h hEnter hPath hPager)
      · rw [hResult]
        exact .inr (.unopened h hEnter hPath hFault)
  · apply perhaps_handled
    intro next hNext
    obtain ⟨step, hStep, hNext⟩ := Option.bind_eq_some_iff.mp hNext
    exact .moved h hStep hNext

theorem enterKey_handled (h : s.pane = .line) (hEnter : key.name = "enter") :
    Handled w s key (settle { s with line := s.line.commit }
      (answerLine w { s with line := s.line.commit } s.line.text)) := by
  refine .inr ?_
  have hTab : s.tab = .hostSearch ∨ s.tab = .processSearch := by cases s.tab <;> simp
  rcases hTab with hTab | hTab
  · have hLine : answerLine w { s with line := s.line.commit } s.line.text =
        (w.hostsFor s.line.mode s.line.text).map fun records =>
          { s with line := s.line.commit, hosts := s.hosts.replace records } :=
      answerLine_hostSearch (s := { s with line := s.line.commit }) hTab w s.line.text
    rw [hLine]
    cases hAnswer : w.hostsFor s.line.mode s.line.text with
    | ok records => exact .hostsAnswered h hEnter hTab hAnswer
    | error fault => exact .unanswered h hEnter (.inl ⟨hTab, hAnswer⟩)
  · have hLine : answerLine w { s with line := s.line.commit } s.line.text =
        (w.joinedFor s.line.mode s.line.text).map fun records =>
          { s with line := s.line.commit, joined := s.joined.replace records } :=
      answerLine_processSearch (s := { s with line := s.line.commit }) hTab w s.line.text
    rw [hLine]
    cases hAnswer : w.joinedFor s.line.mode s.line.text with
    | ok records => exact .joinedAnswered h hEnter hTab hAnswer
    | error fault => exact .unanswered h hEnter (.inr ⟨hTab, hAnswer⟩)

theorem toggleKey_handled (h : s.pane = .line) (hName : key.name = "up" ∨ key.name = "down") :
    Handled w s key (settle { s with line := s.line.toggleMode }
      (relist w { s with line := s.line.toggleMode })) := by
  refine .inr ?_
  unfold relist
  cases hHosts : w.hosts with
  | ok records => exact .relisted h hName hHosts
  | error fault => exact .unlisted h hName hHosts

theorem lineKey_handled (h : s.pane = .line) : Handled w s key (s.lineKey w key) := by
  unfold lineKey
  split
  · exact .inl rfl
  · rename_i line hPress
    dsimp only
    split
    · rename_i hEnter
      obtain rfl := Option.some.inj ((QueryLine.press_enter hEnter).symm.trans hPress)
      exact enterKey_handled h hEnter
    · rename_i hUp
      obtain rfl := Option.some.inj ((QueryLine.press_toggle (.inl hUp)).symm.trans hPress)
      exact toggleKey_handled h (.inl hUp)
    · rename_i hDown
      obtain rfl := Option.some.inj ((QueryLine.press_toggle (.inr hDown)).symm.trans hPress)
      exact toggleKey_handled h (.inr hDown)
    · rename_i hEnter hUp hDown
      exact .inr (.edited h (by simpa using ⟨hEnter, hUp, hDown⟩) hPress)

theorem fileKey_handled (h : s.pane = .file) : Handled w s key (s.fileKey key) := by
  unfold fileKey
  split
  · exact .inr (.shut h ‹_›)
  · apply perhaps_handled
    intro next hNext
    obtain ⟨move, hMove, hNext⟩ := Option.bind_eq_some_iff.mp hNext
    obtain ⟨pager, hPager, hNext⟩ := Option.bind_eq_some_iff.mp hNext
    cases hNext
    exact .scrolled h hMove hPager

theorem paneKey_handled (w : Surroundings) (s : Session) (key : KeyPress) :
    Handled w s key (s.paneKey w key) := by
  cases hPane : s.pane with
  | hosts | procs | joined => exact listKey_handled (congrArg Pane.list? hPane)
  | line =>
    rw [paneKey, hPane]
    exact lineKey_handled hPane
  | file =>
    rw [paneKey, hPane]
    exact fileKey_handled hPane

theorem Transition.eq_of_notConsumed {next : Session} (h : Transition w s key .notConsumed next) :
    next = s ∧ s.paneKey w key = (.notConsumed, s) := by
  cases h with
  | ignored hKey _ => exact ⟨rfl, hKey⟩

theorem paneKey_eq_of_notConsumed {next : Session} (h : s.paneKey w key = (.notConsumed, next)) :
    next = s := by
  rcases paneKey_handled w s key with hResult | hRule
  · rw [h] at hResult
    exact congrArg Prod.snd hResult
  · rw [h] at hRule
    exact hRule.eq_of_notConsumed.1

theorem unclaimedKey_transition (h : s.paneKey w key = (.notConsumed, s)) :
    Transition w s key (s.unclaimedKey key).1 (s.unclaimedKey key).2 := by
  cases hTab : tabOf? key.name with
  | some tab =>
    rw [unclaimedKey, hTab]
    exact .tabOpened h hTab
  | none =>
    have hRest : s.unclaimedKey key =
        if key.name = "tab" then s.perhaps (s.nextPane?.map fun pane => { s with pane := pane })
        else (.notConsumed, s) := by
      rw [unclaimedKey, hTab]
    have hIgnored : s.unclaimedKey key = (.notConsumed, s) →
        Transition w s key (s.unclaimedKey key).1 (s.unclaimedKey key).2 := by
      intro hResult
      rw [hResult]
      exact .ignored h hResult
    by_cases hName : key.name = "tab"
    · rw [if_pos hName] at hRest
      cases hPane : s.nextPane? with
      | some pane =>
        rw [hRest, hPane]
        exact .handedOn h hName hPane
      | none => exact hIgnored (by rw [hRest, hPane]; rfl)
    · exact hIgnored (by rw [hRest, if_neg hName])

theorem press_transition (w : Surroundings) (s : Session) (key : KeyPress) :
    Transition w s key (s.press w key).1 (s.press w key).2 := by
  unfold press
  split
  · rename_i next hResult
    obtain rfl := paneKey_eq_of_notConsumed hResult
    exact unclaimedKey_transition hResult
  · rename_i hConsumed
    rcases paneKey_handled w s key with hResult | hRule
    · exact absurd hResult (hConsumed s)
    · exact hRule

end Session

end TopologyExplorer

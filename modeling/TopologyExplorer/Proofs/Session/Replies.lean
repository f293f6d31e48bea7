import TopologyExplorer.Proofs.Session.Run
import TopologyExplorer.Proofs.Session.Transition
import TopologyExplorer.Screen

/-!
# Replies

What the reply to a key says of the session behind it. A key that fails changes the query line at
most, and only if the line has the keyboard: the line is then what it makes of the key without any
answer. A key that is not consumed changes nothing. The query line leaves no key to others that
types a character.
-/

namespace TopologyExplorer

namespace QueryLine

variable {q : QueryLine} {key : KeyPress}

/-- The line has a use for every key that types a character, if only for the name of the key. -/
theorem press_ne_none {c : Char} (h : key.character = some c) (hc : isPrintable c) :
    q.press key ≠ none := by
  simp only [press, h, hc, if_true]
  split <;> exact Option.some_ne_none _

end QueryLine

namespace Session

variable {w : Surroundings} {s t : Session} {key : KeyPress} {reply : Reply} {fault : Fault}

/-! ## Keys that fail -/

/-- What a key that fails makes of the query line: it enters the line or changes its mode. -/
inductive LineAfterFailure (q : QueryLine) (key : KeyPress) : QueryLine → Prop where
  | entered : key.name = "enter" → LineAfterFailure q key ⟨"", 0, q.text :: q.history, q.mode⟩
  | toggled : key.name = "up" ∨ key.name = "down" →
      LineAfterFailure q key ⟨q.text, q.cursor, q.history, q.mode.toggle⟩

theorem LineAfterFailure.press_eq {q line : QueryLine} (h : LineAfterFailure q key line) :
    q.press key = some line := by
  cases h with
  | entered hName => exact QueryLine.press_enter hName
  | toggled hName => exact QueryLine.press_toggle hName

theorem Transition.of_failed (h : Transition w s key (.failed fault) t) :
    (s.pane = .line ∧ ∃ line, LineAfterFailure s.line key line ∧ t = { s with line := line }) ∨
      s.pane ≠ .line ∧ t = s ∧ ∃ cause, fault = .file cause := by
  cases h with
  | unopened hList =>
    refine .inr ⟨fun hLine => ?_, rfl, _, rfl⟩
    rw [hLine] at hList
    cases hList
  | unanswered hLine hName => exact .inl ⟨hLine, _, .entered hName, rfl⟩
  | unlisted hLine hName => exact .inl ⟨hLine, _, .toggled hName, rfl⟩

/-- A key that fails leaves the tab, the keyboard, the lists with their selections and the pager as
they were. In the query line it leaves what the line alone makes of the key: the line entered and
empty again, or the mode changed. Elsewhere it is a file that cannot be opened, and the query line
stays as well. -/
theorem failed_press_keeps_all_but_line (h : (s.press w key).1 = .failed fault) :
    ∃ line, (s.press w key).2 = { s with line := line } ∧
      (s.pane = .line → s.line.press key = some line ∧ LineAfterFailure s.line key line) ∧
      (s.pane ≠ .line → line = s.line ∧ ∃ cause, fault = .file cause) := by
  have hRule := press_transition w s key
  rw [h] at hRule
  rcases hRule.of_failed with ⟨hLine, line, hLeft, hNext⟩ | ⟨hLine, hNext, hCause⟩
  · exact ⟨line, hNext, fun _ => ⟨hLeft.press_eq, hLeft⟩, fun hOther => absurd hLine hOther⟩
  · exact ⟨s.line, hNext, fun hOther => absurd hOther hLine, fun _ => ⟨rfl, hCause⟩⟩

/-- A query that fails in the line, and a file that is missing. -/
theorem failed_presses_keep_all_but_line :
    let line := sample.after (Event.samples ["tab", "'"])
    let procs := sample.after (Event.samples ["2", "j"])
    let w : Surroundings := { Surroundings.sample with look := fun _ => .missing }
    (line.Reachable ∧ ∃ fault, (line.press .sample ⟨"enter", none⟩).1 = .failed fault ∧
      (line.press .sample ⟨"enter", none⟩).2 = { line with line := ⟨"", 0, ["'"], .address⟩ }) ∧
    procs.Reachable ∧ ∃ fault, (procs.press w ⟨"enter", none⟩).1 = .failed fault ∧
      (procs.press w ⟨"enter", none⟩).2 = procs := by
  intro line procs w
  refine ⟨⟨reachable_sample _, ?_⟩, reachable_sample _, ?_⟩
  · have hFailed : (line.press .sample ⟨"enter", none⟩).1 =
        .failed (.query (.failed (AddressPattern.ofText "'").query
          "a literal is not accepted")) := by decide +kernel
    have hTyped : line.line = ⟨"'", 1, [], .address⟩ := by decide +kernel
    obtain ⟨left, hNext, hLine, -⟩ := failed_press_keeps_all_but_line hFailed
    obtain ⟨-, hLeft⟩ := hLine (by decide +kernel)
    rw [hTyped] at hLeft
    cases hLeft with
    | entered => exact ⟨_, hFailed, hNext⟩
    | toggled hName => exact absurd hName (by decide)
  · have hFailed : (procs.press w ⟨"enter", none⟩).1 =
        .failed (.file (.missing (.ofText "gamesvr"))) := by decide +kernel
    obtain ⟨left, hNext, -, hFile⟩ := failed_press_keeps_all_but_line hFailed
    obtain ⟨rfl, -⟩ := hFile (by decide +kernel)
    exact ⟨_, hFailed, hNext⟩

/-! ## Keys that are not consumed -/

theorem Transition.keeps_line (h : Transition w s key reply t) (hLine : s.pane = .line)
    (hKey : s.paneKey w key ≠ (.notConsumed, s)) : t.tab = s.tab ∧ t.pane = .line := by
  cases h with
  | moved hList => exact nomatch (congrArg Pane.list? hLine).symm.trans hList
  | opened hList => exact nomatch (congrArg Pane.list? hLine).symm.trans hList
  | unopened | hostsAnswered | joinedAnswered | unanswered | relisted | unlisted | edited =>
    exact ⟨rfl, hLine⟩
  | shut hFile => cases hLine.symm.trans hFile
  | scrolled hFile => cases hLine.symm.trans hFile
  | tabOpened hOther => exact absurd hOther hKey
  | handedOn hOther => exact absurd hOther hKey
  | ignored hOther => exact absurd hOther hKey

/-- A key that is not consumed leaves the session as it was. While the query line has the keyboard,
a key that types a character goes no further than the line: it is consumed, or asks for records and
fails, and the tab and the keyboard stay. -/
theorem unconsumed_and_typed_keys (w : Surroundings) (s : Session) (key : KeyPress) :
    ((s.press w key).1 = .notConsumed → (s.press w key).2 = s) ∧
    ∀ c, s.pane = .line → key.character = some c → isPrintable c →
      s.press w key = s.lineKey w key ∧
      ((s.press w key).1 = .consumed ∨
        (∃ fault, (s.press w key).1 = .failed fault) ∧ key.name ∈ ["enter", "up", "down"]) ∧
      (s.press w key).1.isStopped ∧
      (s.press w key).2.tab = s.tab ∧ (s.press w key).2.pane = s.pane := by
  have hRule := press_transition w s key
  constructor
  · intro hReply
    rw [hReply] at hRule
    exact hRule.eq_of_notConsumed.1
  · intro c hLine hCharacter hPrintable
    have hUsed : s.line.press key ≠ none := QueryLine.press_ne_none hCharacter hPrintable
    have hKey : s.paneKey w key ≠ (.notConsumed, s) := by
      rw [paneKey, hLine]
      exact lineKey_ne_notConsumed hUsed
    have hPress : s.press w key = s.lineKey w key := press_eq_lineKey hLine hUsed
    have hReply := lineKey_reply (w := w) hUsed
    rw [← hPress] at hReply
    obtain ⟨hTab, hNext⟩ := hRule.keeps_line hLine hKey
    refine ⟨hPress, hReply, ?_, hTab, hNext.trans hLine.symm⟩
    rcases hReply with hReply | ⟨⟨_, hReply⟩, -⟩ <;> rw [hReply] <;> rfl

/-- A function key in the query line, and a digit, which opens no tab there. -/
theorem function_key_and_digit_in_line :
    let line := sample.after (Event.samples ["tab"])
    line.Reachable ∧ line.pane = .line ∧
    (line.press .sample ⟨"f5", none⟩).1 = .notConsumed ∧
    (line.press .sample ⟨"f5", none⟩).2 = line ∧
    line.press .sample ⟨"2", some '2'⟩ = line.lineKey .sample ⟨"2", some '2'⟩ ∧
    (line.press .sample ⟨"2", some '2'⟩).2.tab = .hostSearch := by
  intro line
  have hLine : line.pane = .line := by decide +kernel
  have hReply : (line.press .sample ⟨"f5", none⟩).1 = .notConsumed := by decide +kernel
  have hSame := (unconsumed_and_typed_keys .sample line ⟨"f5", none⟩).1 hReply
  obtain ⟨hPress, -, -, hTab, -⟩ :=
    (unconsumed_and_typed_keys .sample line ⟨"2", some '2'⟩).2 '2' hLine rfl (by decide +kernel)
  exact ⟨reachable_sample _, hLine, hReply, hSame, hPress, hTab.trans (by decide +kernel)⟩

end Session

end TopologyExplorer

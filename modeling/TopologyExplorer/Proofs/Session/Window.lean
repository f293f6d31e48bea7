import Mathlib.Data.List.Forall2
import TopologyExplorer.Proofs.Session.ShownList

/-!
# Sessions and the window of the pager

Sessions that differ in nothing but the window of the pager, its offset and its height, stay so
whatever keys they meet, and however often each of them is told another height. Only a key that
scrolls can be consumed by one and not by the other, and then no other pane has a use for it.
-/

namespace TopologyExplorer

namespace Pager

variable {u v : Pager}

def withoutWindow (v : Pager) : Pager := { v with offset := 0, height := 0 }

theorem display_withoutWindow (v : Pager) (path : Path) (found : Found) :
    v.withoutWindow.display path found = (v.display path found).map withoutWindow := by
  cases found with
  | file bytes =>
    unfold display
    dsimp only
    split <;> rfl
  | directory | missing | throughFile | unnameable | tooLong | unreadable | unsearchable => rfl

theorem withoutWindow_of_move {move : PagerMove} (h : v.move move = some u) :
    u.withoutWindow = v.withoutWindow := by
  unfold Pager.move moveTo at h
  dsimp only at h
  split at h <;> cases h
  rfl

end Pager

namespace Session

variable {w : Surroundings} {s t : Session} {key : KeyPress} {l : ListName}

def withoutWindow (s : Session) : Session := { s with pager := s.pager.withoutWindow }

@[simp] theorem tab_withoutWindow (s : Session) : s.withoutWindow.tab = s.tab := rfl

@[simp] theorem pane_withoutWindow (s : Session) : s.withoutWindow.pane = s.pane := rfl

@[simp] theorem line_withoutWindow (s : Session) : s.withoutWindow.line = s.line := rfl

@[simp] theorem pager_withoutWindow (s : Session) :
    s.withoutWindow.pager = s.pager.withoutWindow := rfl

@[simp] theorem currentIn_withoutWindow (s : Session) (l : ListName) :
    s.withoutWindow.currentIn l = s.currentIn l := by
  cases l <;> rfl

@[simp] theorem nextPane?_withoutWindow (s : Session) : s.withoutWindow.nextPane? = s.nextPane? :=
  rfl

/-! ## Keys to a session without a window -/

def outcomeWithoutWindow (outcome : Reply × Session) : Reply × Session :=
  (outcome.1, outcome.2.withoutWindow)

theorem perhaps_withoutWindow (s : Session) (next : Option Session) :
    s.withoutWindow.perhaps (next.map withoutWindow) = outcomeWithoutWindow (s.perhaps next) := by
  cases next <;> rfl

theorem settle_withoutWindow (s : Session) (next : Except QueryFault Session) :
    s.withoutWindow.settle (next.map withoutWindow) = outcomeWithoutWindow (s.settle next) := by
  cases next <;> rfl

theorem shiftIn_withoutWindow (s : Session) (step : Int) (l : ListName) :
    s.withoutWindow.shiftIn step l = (s.shiftIn step l).map withoutWindow := by
  cases l with
  | hosts =>
    unfold shiftIn withoutWindow
    cases s.hosts.shift step <;> rfl
  | procs =>
    unfold shiftIn withoutWindow
    cases s.procs.shift step <;> rfl
  | joined =>
    unfold shiftIn withoutWindow
    cases s.joined.shift step <;> rfl

theorem enterIn_withoutWindow (w : Surroundings) (s : Session) (l : ListName) :
    s.withoutWindow.enterIn w l = outcomeWithoutWindow (s.enterIn w l) := by
  unfold enterIn
  rw [currentIn_withoutWindow]
  cases (s.currentIn l).bind Record.path? with
  | none => rfl
  | some path =>
    simp only [openFile, pager_withoutWindow, Pager.display_withoutWindow]
    cases s.pager.display path (w.look path) <;> rfl

theorem listKey_withoutWindow (w : Surroundings) (h : s.pane.list? = some l) :
    s.withoutWindow.paneKey w key = outcomeWithoutWindow (s.paneKey w key) := by
  have hPane : s.withoutWindow.pane.list? = some l := h
  rw [paneKey_eq_of_list h, paneKey_eq_of_list hPane]
  split
  · exact enterIn_withoutWindow w s l
  · rw [← perhaps_withoutWindow, Option.map_bind]
    congr 2
    funext step
    exact shiftIn_withoutWindow s step l

theorem answerLine_withoutWindow (w : Surroundings) (s : Session) (raw : String) :
    s.withoutWindow.answerLine w raw = (s.answerLine w raw).map withoutWindow := by
  cases hTab : s.tab with
  | hostSearch =>
    have hSame : s.withoutWindow.tab = .hostSearch := hTab
    rw [answerLine_hostSearch hTab, answerLine_hostSearch hSame, line_withoutWindow]
    cases w.hostsFor s.line.mode raw <;> rfl
  | processSearch =>
    have hSame : s.withoutWindow.tab = .processSearch := hTab
    rw [answerLine_processSearch hTab, answerLine_processSearch hSame, line_withoutWindow]
    cases w.joinedFor s.line.mode raw <;> rfl

theorem relist_withoutWindow (w : Surroundings) (s : Session) :
    s.withoutWindow.relist w = (s.relist w).map withoutWindow := by
  unfold relist
  cases w.hosts <;> rfl

theorem lineKey_withoutWindow (w : Surroundings) (s : Session) (key : KeyPress) :
    s.withoutWindow.lineKey w key = outcomeWithoutWindow (s.lineKey w key) := by
  unfold lineKey
  rw [line_withoutWindow]
  cases s.line.press key with
  | none => rfl
  | some line =>
    have hLine : { s.withoutWindow with line := line } =
        withoutWindow { s with line := line } := rfl
    dsimp only
    rw [hLine, answerLine_withoutWindow, relist_withoutWindow]
    split
    · exact settle_withoutWindow _ _
    · exact settle_withoutWindow _ _
    · exact settle_withoutWindow _ _
    · rfl

theorem fileKey_withoutWindow (s : Session) (h : pagerMove? key.name = none) :
    s.withoutWindow.fileKey key = outcomeWithoutWindow (s.fileKey key) := by
  unfold fileKey
  rw [h]
  split <;> rfl

def Scrolls (s : Session) (key : KeyPress) : Prop := s.pane = .file ∧ (pagerMove? key.name).isSome

theorem paneKey_withoutWindow (w : Surroundings) (h : ¬s.Scrolls key) :
    s.withoutWindow.paneKey w key = outcomeWithoutWindow (s.paneKey w key) := by
  cases hPane : s.pane with
  | hosts | procs | joined => exact listKey_withoutWindow w (congrArg Pane.list? hPane)
  | line =>
    rw [paneKey, paneKey, pane_withoutWindow, hPane]
    exact lineKey_withoutWindow w s key
  | file =>
    have hMove : pagerMove? key.name = none :=
      Option.not_isSome_iff_eq_none.mp fun hMove => h ⟨hPane, hMove⟩
    rw [paneKey, paneKey, pane_withoutWindow, hPane]
    exact fileKey_withoutWindow s hMove

theorem openTab_withoutWindow (s : Session) (tab : Tab) :
    s.withoutWindow.openTab tab = (s.openTab tab).withoutWindow := by
  unfold openTab
  by_cases hFile : s.pane = .file
  · simp only [pane_withoutWindow, hFile, if_true]
    rfl
  · simp only [pane_withoutWindow, hFile, if_false]
    rfl

theorem unclaimedKey_withoutWindow (s : Session) (key : KeyPress) :
    s.withoutWindow.unclaimedKey key = outcomeWithoutWindow (s.unclaimedKey key) := by
  unfold unclaimedKey
  cases tabOf? key.name with
  | some tab => exact congrArg _ (openTab_withoutWindow s tab)
  | none =>
    dsimp only
    split
    · rw [← perhaps_withoutWindow, nextPane?_withoutWindow, Option.map_map]
      rfl
    · rfl

theorem press_withoutWindow (w : Surroundings) (h : ¬s.Scrolls key) :
    s.withoutWindow.press w key = outcomeWithoutWindow (s.press w key) := by
  unfold press
  rw [paneKey_withoutWindow w h]
  rcases s.paneKey w key with ⟨reply, next⟩
  cases reply with
  | notConsumed => exact unclaimedKey_withoutWindow next key
  | consumed | failed => rfl

/-! ## Sessions that differ in the window -/

/-- The sessions differ in the offset and the height of the pager at most. -/
def SameButWindow (s t : Session) : Prop := s.withoutWindow = t.withoutWindow

theorem sameButWindow_withHeight (s : Session) (height : Int) :
    (s.withHeight height).SameButWindow s := rfl

theorem fileKey_of_move {move : PagerMove} (h : pagerMove? key.name = some move) :
    s.fileKey key =
      s.perhaps ((s.pager.move move).map fun pager => { s with pager := pager }) := by
  rw [fileKey, if_neg (name_ne_of_pagerMove? h).1, h, Option.map_eq_bind]
  rfl

theorem press_of_scrolls (w : Surroundings) (h : s.Scrolls key) :
    ((s.press w key).1 = .consumed ∨ (s.press w key).1 = .notConsumed) ∧
      (s.press w key).2.SameButWindow s := by
  obtain ⟨hFile, hMove⟩ := h
  obtain ⟨move, hMove⟩ := Option.isSome_iff_exists.mp hMove
  have hPress : s.press w key = s.fileKey key := by
    rw [press_eq_paneKey (tabOf?_eq_none_of_pagerMove? hMove) (name_ne_of_pagerMove? hMove).2,
      paneKey, hFile]
  rw [hPress, fileKey_of_move hMove]
  cases hPager : s.pager.move move with
  | none => exact ⟨.inr rfl, rfl⟩
  | some pager =>
    refine ⟨.inl rfl, ?_⟩
    show ({ s with pager := pager.withoutWindow } : Session) = _
    rw [Pager.withoutWindow_of_move hPager]
    rfl

end Session

/-- One key met by two sessions that differ in the window at most, before and behind it. The reply
is the same, unless the key scrolls: then each of them consumes it or leaves it alone. -/
structure Press.SameButWindow (p q : Press) : Prop where
  surroundings : p.surroundings = q.surroundings
  key : p.key = q.key
  session : p.session.SameButWindow q.session
  result : p.result.SameButWindow q.result
  reply : p.reply = q.reply ∨ p.session.Scrolls p.key ∧
    (p.reply = .consumed ∨ p.reply = .notConsumed) ∧ (q.reply = .consumed ∨ q.reply = .notConsumed)

/-- The events have the same keys in the same order; new heights may stand anywhere. -/
inductive Event.SameKeys : List Event → List Event → Prop where
  | nil : SameKeys [] []
  | key {as bs : List Event} (w : Surroundings) (key : KeyPress) :
      SameKeys as bs → SameKeys (.key w key :: as) (.key w key :: bs)
  | heightLeft {as bs : List Event} (rows : Int) :
      SameKeys as bs → SameKeys (.height rows :: as) bs
  | heightRight {as bs : List Event} (rows : Int) :
      SameKeys as bs → SameKeys as (.height rows :: bs)

namespace Session

variable {s t : Session} {as bs : List Event}

theorem SameButWindow.press (h : s.SameButWindow t) (w : Surroundings) (key : KeyPress) :
    Press.SameButWindow ⟨s, w, key⟩ ⟨t, w, key⟩ := by
  have hSame : s.withoutWindow = t.withoutWindow := h
  have hPane := congrArg Session.pane hSame
  -- Both of them scroll or neither does, since they have one pane. A move that is none to one of
  -- them is handed on there, but a key that scrolls is neither that of a tab nor that of a pane.
  by_cases hScrolls : s.Scrolls key
  · have hOther : t.Scrolls key := ⟨hPane.symm.trans hScrolls.1, hScrolls.2⟩
    obtain ⟨hReply, hNext⟩ := press_of_scrolls w hScrolls
    obtain ⟨hReply', hNext'⟩ := press_of_scrolls w hOther
    exact ⟨rfl, rfl, h, hNext.trans (h.trans hNext'.symm), .inr ⟨hScrolls, hReply, hReply'⟩⟩
  · have hOther : ¬t.Scrolls key := fun hOther => hScrolls ⟨hPane.trans hOther.1, hOther.2⟩
    have hOutcome : outcomeWithoutWindow (s.press w key) = outcomeWithoutWindow (t.press w key) := by
      rw [← press_withoutWindow w hScrolls, ← press_withoutWindow w hOther, hSame]
    have hReply := congrArg Prod.fst hOutcome
    exact ⟨rfl, rfl, h, congrArg Prod.snd hOutcome, .inl hReply⟩

theorem SameButWindow.run (hEvents : Event.SameKeys as bs) (h : s.SameButWindow t) :
    List.Forall₂ Press.SameButWindow (s.presses as) (t.presses bs) ∧
      (s.after as).SameButWindow (t.after bs) := by
  -- A new height touches the window only, so it may come on one side without the other.
  induction hEvents generalizing s t with
  | nil => exact ⟨.nil, h⟩
  | key w key _ ih =>
    have hPress := h.press w key
    obtain ⟨hPresses, hEnd⟩ := ih hPress.result
    exact ⟨.cons hPress hPresses, hEnd⟩
  | heightLeft rows _ ih => exact ih ((s.sameButWindow_withHeight rows).trans h)
  | heightRight rows _ ih => exact ih (h.trans (t.sameButWindow_withHeight rows).symm)

theorem start_withoutWindow (w : Surroundings) (height : Int) :
    (start w height).map withoutWindow = start w 0 := by
  unfold start
  cases w.hosts with
  | error fault => rfl
  | ok hosts =>
    cases w.procs with
    | error fault => rfl
    | ok procs => cases w.rows .everything <;> rfl

/-- Sessions that are started with other heights of the pager differ in the window at most, and so
do sessions that differed so far and meet the same keys, whatever new heights they are told in
between. At each key the replies are the same, the faults among them, unless the key scrolls. -/
theorem runs_sameButWindow (hEvents : Event.SameKeys as bs) :
    (∀ w height other, (start w height).map withoutWindow = (start w other).map withoutWindow) ∧
    ∀ s t : Session, s.SameButWindow t →
      List.Forall₂ Press.SameButWindow (s.presses as) (t.presses bs) ∧
        (s.after as).SameButWindow (t.after bs) := by
  constructor
  · intro w height other
    rw [start_withoutWindow, start_withoutWindow]
  · exact fun s t h => h.run hEvents

/-- A file of one line cannot be scrolled in a window of ten rows, but in one without room. -/
theorem runs_sameButWindow_sample :
    let narrow : Session := { sample with pager := .closed 0 }
    let as := Event.samples ["2", "j", "enter", "j", "escape"]
    let bs := .height 12 :: Event.samples ["2", "j", "enter"] ++ .height 1 ::
      Event.samples ["j", "escape"]
    Event.SameKeys as bs ∧ sample.SameButWindow narrow ∧
    List.Forall₂ Press.SameButWindow (sample.presses as) (narrow.presses bs) ∧
    (sample.presses as).map Press.reply =
      [.consumed, .consumed, .consumed, .notConsumed, .consumed] ∧
    (narrow.presses bs).map Press.reply =
      [.consumed, .consumed, .consumed, .consumed, .consumed] := by
  intro narrow as bs
  have hEvents : Event.SameKeys as bs :=
    .heightRight _ (.key _ _ (.key _ _ (.key _ _ (.heightRight _ (.key _ _ (.key _ _ .nil))))))
  have hSame : sample.SameButWindow narrow := rfl
  obtain ⟨hPresses, -⟩ := (runs_sameButWindow hEvents).2 sample narrow hSame
  exact ⟨hEvents, hSame, hPresses, by decide +kernel, by decide +kernel⟩

end Session

end TopologyExplorer

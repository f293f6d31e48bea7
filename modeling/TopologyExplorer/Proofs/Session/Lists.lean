import TopologyExplorer.Session.Keys

/-!
# The list that has the keys

Three panes stand for the three record lists. What a movement key and enter do in such a pane is
one rule with the list as its parameter. Nothing is said here about which list is shown.
-/

namespace TopologyExplorer

namespace RecordList

variable {α : Type}

def Bounded (l : RecordList α) : Prop :=
  ∀ i, l.selected = some i → ∃ h : i < l.records.length, l.current? = some l.records[i]

theorem bounded_of_lt {l : RecordList α} (h : ∀ i, l.selected = some i → i < l.records.length) :
    l.Bounded := by
  intro i hi
  have hlt := h i hi
  exact ⟨hlt, by simp [current?, hi, hlt]⟩

theorem bounded_ofList (records : List α) : (ofList records).Bounded := by
  intro i hi
  cases hi

theorem bounded_replace (l : RecordList α) (records : List α) : (l.replace records).Bounded := by
  intro i hi
  cases hi

/-- A move keeps the records and selects one of them, wherever the selection was. -/
theorem shift_eq_some {l m : RecordList α} {step : Int} (h : l.shift step = some m) :
    ∃ i < l.records.length, m = { l with selected := some i } := by
  unfold shift at h
  split at h
  · cases h
  · rename_i hEmpty
    have hPos : 0 < l.records.length := by
      rw [List.length_pos_iff]
      simpa using hEmpty
    obtain rfl := Option.some.inj h
    refine ⟨_, ?_, rfl⟩
    split
    · rename_i i _
      have hMod := Int.emod_lt_of_pos ((i : Int) + step) (Int.natCast_pos.mpr hPos)
      omega
    · exact hPos

theorem bounded_of_shift {l m : RecordList α} {step : Int} (h : l.shift step = some m) :
    m.Bounded := by
  obtain ⟨i, hi, rfl⟩ := shift_eq_some h
  apply bounded_of_lt
  intro j hj
  cases hj
  exact hi

end RecordList

def Pane.list? : Pane → Option ListName
  | hosts => some .hosts
  | procs => some .procs
  | joined => some .joined
  | line | file => none

/-- The file that enter opens for a record. A host has none. -/
def Record.path? : Record → Option Path
  | host _ => none
  | process p => some p.path
  | joined r => some r.path

theorem listStep?_eq_none {name : String} (h : name = "enter" ∨ name = "tab") :
    listStep? name = none := by
  rcases h with rfl | rfl <;> rfl

theorem tabOf?_eq_none {name : String} {step : Int} (h : listStep? name = some step) :
    tabOf? name = none := by
  unfold listStep? at h
  split at h
  · rfl
  · rfl
  · rfl
  · rfl
  · cases h

theorem name_ne_of_pagerMove? {name : String} {move : PagerMove}
    (h : pagerMove? name = some move) : name ≠ "escape" ∧ name ≠ "tab" := by
  constructor
  · rintro rfl
    cases h
  · rintro rfl
    cases h

theorem tabOf?_eq_none_of_pagerMove? {name : String} {move : PagerMove}
    (h : pagerMove? name = some move) : tabOf? name = none := by
  unfold pagerMove? at h
  split at h
  case h_14 => cases h
  all_goals rfl

namespace Session

variable {w : Surroundings} {s next : Session} {key : KeyPress} {l : ListName} {step : Int}

def currentIn (s : Session) : ListName → Option Record
  | .hosts => s.hosts.current?.map .host
  | .procs => s.procs.current?.map .process
  | .joined => s.joined.current?.map .joined

def shiftIn (s : Session) (step : Int) : ListName → Option Session
  | .hosts => do return { s with hosts := ← s.hosts.shift step }
  | .procs => do return { s with procs := ← s.procs.shift step }
  | .joined => do return { s with joined := ← s.joined.shift step }

/-- Opens the file of the selected record of a list, if there is one. -/
def enterIn (w : Surroundings) (s : Session) (l : ListName) : Reply × Session :=
  match (s.currentIn l).bind Record.path? with
  | some path => s.openFile w path
  | none => (.notConsumed, s)

theorem current?_eq_currentIn (h : s.pane.list? = some l) : s.current? = s.currentIn l := by
  unfold current?
  cases hPane : s.pane <;> rw [hPane] at h <;> cases h <;> rfl

theorem hostsKey_eq :
    s.hostsKey key =
      if key.name = "enter" then s.enterIn w .hosts
      else s.perhaps ((listStep? key.name).bind fun step => s.shiftIn step .hosts) := by
  have hNone : s.enterIn w .hosts = (.notConsumed, s) := by
    cases hCurrent : s.hosts.current? <;> simp [enterIn, currentIn, hCurrent, Record.path?]
  split
  · rename_i hEnter
    rw [hNone, hostsKey, listStep?_eq_none (.inl hEnter)]
    rfl
  · rw [hostsKey]
    cases listStep? key.name <;> rfl

theorem procsKey_eq :
    s.procsKey w key =
      if key.name = "enter" then s.enterIn w .procs
      else s.perhaps ((listStep? key.name).bind fun step => s.shiftIn step .procs) := by
  unfold procsKey
  split
  · rename_i p hEnter hCurrent
    rw [if_pos hEnter, enterIn, currentIn, hCurrent]
    rfl
  · rename_i hOther
    split
    · rename_i hEnter
      have hNone : s.procs.current? = none := Option.eq_none_iff_forall_ne_some.mpr (hOther · hEnter)
      rw [listStep?_eq_none (.inl hEnter), enterIn, currentIn, hNone]
      rfl
    · cases listStep? key.name <;> rfl

theorem joinedKey_eq :
    s.joinedKey w key =
      if key.name = "enter" then s.enterIn w .joined
      else s.perhaps ((listStep? key.name).bind fun step => s.shiftIn step .joined) := by
  unfold joinedKey
  split
  · rename_i r hEnter hCurrent
    rw [if_pos hEnter, enterIn, currentIn, hCurrent]
    rfl
  · rename_i hOther
    split
    · rename_i hEnter
      have hNone : s.joined.current? = none := Option.eq_none_iff_forall_ne_some.mpr (hOther · hEnter)
      rw [listStep?_eq_none (.inl hEnter), enterIn, currentIn, hNone]
      rfl
    · cases listStep? key.name <;> rfl

theorem shiftIn_eq_some (h : s.shiftIn step l = some next) :
    (l = .hosts ∧ ∃ moved, s.hosts.shift step = some moved ∧ next = { s with hosts := moved }) ∨
    (l = .procs ∧ ∃ moved, s.procs.shift step = some moved ∧ next = { s with procs := moved }) ∨
    (l = .joined ∧ ∃ moved, s.joined.shift step = some moved ∧ next = { s with joined := moved }) := by
  cases l <;> obtain ⟨moved, hMoved, hNext⟩ := Option.bind_eq_some_iff.mp h <;> cases hNext
  case hosts => exact .inl ⟨rfl, moved, hMoved, rfl⟩
  case procs => exact .inr (.inl ⟨rfl, moved, hMoved, rfl⟩)
  case joined => exact .inr (.inr ⟨rfl, moved, hMoved, rfl⟩)

theorem enterIn_cases (w : Surroundings) (s : Session) (l : ListName) :
    (s.enterIn w l = (.notConsumed, s) ∧ (s.currentIn l).bind Record.path? = none) ∨
    ∃ path, (s.currentIn l).bind Record.path? = some path ∧
      ((∃ pager, s.pager.display path (w.look path) = .ok pager ∧
          s.enterIn w l = (.consumed, { s with pager := pager, pane := .file })) ∨
        ∃ fault, s.pager.display path (w.look path) = .error fault ∧
          s.enterIn w l = (.failed (.file fault), s)) := by
  unfold enterIn
  cases hPath : (s.currentIn l).bind Record.path? with
  | none => exact .inl ⟨rfl, rfl⟩
  | some path =>
    refine .inr ⟨path, rfl, ?_⟩
    cases hFile : s.pager.display path (w.look path) with
    | ok pager => exact .inl ⟨pager, rfl, by simp only [openFile, hFile]⟩
    | error fault => exact .inr ⟨fault, rfl, by simp only [openFile, hFile]⟩

theorem paneKey_eq_of_list (h : s.pane.list? = some l) :
    s.paneKey w key =
      if key.name = "enter" then s.enterIn w l
      else s.perhaps ((listStep? key.name).bind fun step => s.shiftIn step l) := by
  unfold paneKey
  cases hPane : s.pane <;> rw [hPane] at h <;> cases h
  case hosts => exact hostsKey_eq
  case procs => exact procsKey_eq
  case joined => exact joinedKey_eq

end Session

end TopologyExplorer

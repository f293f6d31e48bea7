import TopologyExplorer.Proofs.Database.Filters
import TopologyExplorer.Proofs.Session.Run
import TopologyExplorer.Proofs.Session.Transition

/-!
# Contents of the lists

A key replaces the records of one list at most, and only in the query line. As long as the database
stays the same, so does the process list, the joined rows are some of all rows, and the hosts are
hosts of the database. A database gives the rows of an address in an order of its own. Nothing is
assumed about the files, which may change with every key.
-/

namespace TopologyExplorer

namespace RecordList

variable {α : Type} {l m : RecordList α}

/-- The records are the same and were not put in anew; the selection may be another one. -/
def SameRecords (l m : RecordList α) : Prop := m.records = l.records ∧ m.revision = l.revision

theorem SameRecords.refl (l : RecordList α) : l.SameRecords l := ⟨rfl, rfl⟩

theorem sameRecords_of_shift {step : Int} (h : l.shift step = some m) : l.SameRecords m := by
  obtain ⟨i, -, rfl⟩ := shift_eq_some h
  exact ⟨rfl, rfl⟩

end RecordList

namespace Session

variable {w : Surroundings} {s t : Session} {key : KeyPress} {reply : Reply}

/-! ## What a key replaces -/

def SameRecords (s t : Session) : Prop :=
  s.hosts.SameRecords t.hosts ∧ s.procs.SameRecords t.procs ∧ s.joined.SameRecords t.joined

def IsQuestion (s : Session) (key : KeyPress) : Prop :=
  s.pane = .line ∧ key.name ∈ ["enter", "up", "down"]

/-- The query line is told to change its mode, which lists all hosts again. -/
def IsToggled (s : Session) (key : KeyPress) : Prop :=
  s.pane = .line ∧ (key.name = "up" ∨ key.name = "down")

/-- The query line is entered on a tab. -/
def IsEnteredOn (s : Session) (key : KeyPress) (tab : Tab) : Prop :=
  s.pane = .line ∧ key.name = "enter" ∧ s.tab = tab

/-- The ways in which a key deals with the records of the lists. -/
inductive Replacement (w : Surroundings) (s : Session) (key : KeyPress) (t : Session) :
    Reply → Prop where
  | none {reply : Reply} :
      s.SameRecords t → (s.IsQuestion key → ∃ fault, reply = .failed fault) →
      Replacement w s key t reply
  | hosts {records : List Host} :
      s.IsEnteredOn key .hostSearch → w.hostsFor s.line.mode s.line.text = .ok records →
      t.hosts = s.hosts.replace records → t.procs = s.procs → t.joined = s.joined →
      Replacement w s key t .consumed
  | joined {records : List Joined} :
      s.IsEnteredOn key .processSearch → w.joinedFor s.line.mode s.line.text = .ok records →
      t.hosts = s.hosts → t.procs = s.procs → t.joined = s.joined.replace records →
      Replacement w s key t .consumed
  | allHosts {records : List Host} :
      s.IsToggled key → w.hosts = .ok records →
      t.hosts = s.hosts.replace records → t.procs = s.procs → t.joined = s.joined →
      Replacement w s key t .consumed

theorem SameRecords.refl (s : Session) : s.SameRecords s := ⟨.refl _, .refl _, .refl _⟩

theorem sameRecords_of_shiftIn {l : ListName} {step : Int} (h : s.shiftIn step l = some t) :
    s.SameRecords t := by
  rcases shiftIn_eq_some h with ⟨-, _, hMoved, rfl⟩ | ⟨-, _, hMoved, rfl⟩ | ⟨-, _, hMoved, rfl⟩
  · exact ⟨RecordList.sameRecords_of_shift hMoved, .refl _, .refl _⟩
  · exact ⟨.refl _, RecordList.sameRecords_of_shift hMoved, .refl _⟩
  · exact ⟨.refl _, .refl _, RecordList.sameRecords_of_shift hMoved⟩

theorem IsToggled.isQuestion (h : s.IsToggled key) : s.IsQuestion key := by
  obtain ⟨hPane, hName⟩ := h
  refine ⟨hPane, ?_⟩
  rcases hName with hName | hName <;> rw [hName] <;> decide

theorem IsEnteredOn.isQuestion {tab : Tab} (h : s.IsEnteredOn key tab) : s.IsQuestion key := by
  refine ⟨h.1, ?_⟩
  rw [h.2.1]
  decide

theorem IsEnteredOn.not_isToggled {tab : Tab} (h : s.IsEnteredOn key tab) : ¬s.IsToggled key := by
  rintro ⟨-, hName⟩
  rw [h.2.1] at hName
  exact absurd hName (by decide)

theorem IsEnteredOn.tab_eq {tab other : Tab} (h : s.IsEnteredOn key tab)
    (hOther : s.IsEnteredOn key other) : tab = other :=
  h.2.2.symm.trans hOther.2.2

theorem IsQuestion.list?_eq (h : s.IsQuestion key) : s.pane.list? = none := by
  rw [h.1]
  rfl

theorem IsQuestion.paneKey_ne (h : s.IsQuestion key) : s.paneKey w key ≠ (.notConsumed, s) := by
  obtain ⟨hPane, hName⟩ := h
  have hUsed : s.line.press key ≠ none := by
    rcases List.mem_cons.mp hName with hEnter | hToggle
    · rw [QueryLine.press_enter hEnter]
      exact Option.some_ne_none _
    · rw [QueryLine.press_toggle (by simpa using hToggle)]
      exact Option.some_ne_none _
  rw [paneKey, hPane]
  exact lineKey_ne_notConsumed hUsed

theorem Transition.replacement (h : Transition w s key reply t) : Replacement w s key t reply := by
  cases h with
  | moved hList _ hNext =>
    exact .none (sameRecords_of_shiftIn hNext) fun h => nomatch hList.symm.trans h.list?_eq
  | opened hList => exact .none (.refl s) fun h => nomatch hList.symm.trans h.list?_eq
  | unopened => exact .none (.refl s) fun _ => ⟨_, rfl⟩
  | hostsAnswered hPane hEnter hTab hAnswer =>
    exact .hosts ⟨hPane, hEnter, hTab⟩ hAnswer rfl rfl rfl
  | joinedAnswered hPane hEnter hTab hAnswer =>
    exact .joined ⟨hPane, hEnter, hTab⟩ hAnswer rfl rfl rfl
  | unanswered => exact .none (.refl s) fun _ => ⟨_, rfl⟩
  | relisted hPane hName hHosts => exact .allHosts ⟨hPane, hName⟩ hHosts rfl rfl rfl
  | unlisted => exact .none (.refl s) fun _ => ⟨_, rfl⟩
  | edited _ hName => exact .none (.refl s) fun h => absurd h.2 hName
  | shut hPane => exact .none (.refl s) fun h => nomatch hPane.symm.trans h.1
  | scrolled hPane => exact .none (.refl s) fun h => nomatch hPane.symm.trans h.1
  | tabOpened hKey => exact .none (.refl s) fun h => absurd hKey h.paneKey_ne
  | handedOn hKey => exact .none (.refl s) fun h => absurd hKey h.paneKey_ne
  | ignored hKey => exact .none (.refl s) fun h => absurd hKey h.paneKey_ne

/-- If the key enters a line as an address, the address is accepted. -/
def EntersAccepted (s : Session) (key : KeyPress) : Prop :=
  s.pane = .line → key.name = "enter" → s.line.mode = .address →
    (AddressPattern.ofText s.line.text).isAccepted

instance : Decidable (s.EntersAccepted key) := inferInstanceAs (Decidable (_ → _ → _ → _))

end Session

/-! ## Records of one database -/

/-- What the surroundings answer is what the tables hold, the rows of an address in any order. A
question may fail. Nothing is said about an address with a literal that is not accepted: its text is
no longer the join of an address. -/
structure Surroundings.AnswersFrom (w : Surroundings) (t : Tables) : Prop where
  hosts : ∀ answer, w.hosts = .ok answer → answer = t.hosts
  procs : ∀ answer, w.procs = .ok answer → answer = t.procs
  rows : ∀ a answer, a.isAccepted → w.rows a = .ok answer → answer.Perm (t.rows a)

/-- A key asks the tables. The files may be other ones with every key. -/
def Event.AnswersFrom (t : Tables) : Event → Prop
  | .key w _ => w.AnswersFrom t
  | .height _ => True

namespace Surroundings

variable {w : Surroundings} {t : Tables} {mode : LineMode} {raw : String}

theorem answersFrom_of (t : Tables) (look : Path → Found) :
    (Surroundings.of (.ready t) look).AnswersFrom t where
  hosts _ hAnswer := (Except.ok.inj hAnswer).symm
  procs _ hAnswer := (Except.ok.inj hAnswer).symm
  rows _ _ hAccepted hAnswer := by
    rw [Except.ok.inj (hAnswer.symm.trans (Database.rows_of_isAccepted hAccepted))]

theorem AnswersFrom.mem_of_hostsFor (hw : w.AnswersFrom t)
    (hAccepted : mode = .address → (AddressPattern.ofText raw).isAccepted) {records : List Host}
    (h : w.hostsFor mode raw = .ok records) : ∀ r ∈ records, r ∈ t.hosts := by
  intro r hr
  cases mode with
  | address =>
    obtain ⟨answer, hRows, hRecords⟩ := exists_of_bind_eq_ok h
    cases hRecords
    obtain ⟨row, hRow, rfl⟩ := List.mem_map.mp hr
    have hListed := (hw.rows _ _ (hAccepted rfl) hRows).mem_iff.mp hRow
    obtain ⟨g, d, p, hParts, rfl⟩ := Tables.mem_rows.mp hListed
    exact List.fst_mem_of_mem_zipIdx hParts.host
  | keyword =>
    obtain ⟨answer, hAnswer, hRecords⟩ := exists_of_bind_eq_ok h
    cases hRecords
    rw [← hw.hosts _ hAnswer]
    exact (List.mem_filter.mp hr).1

theorem AnswersFrom.subperm_of_joinedFor (hw : w.AnswersFrom t) (ht : t.Keyed)
    (hAccepted : mode = .address → (AddressPattern.ofText raw).isAccepted) {records : List Joined}
    (h : w.joinedFor mode raw = .ok records) : records.Subperm (t.rows .everything) := by
  cases mode with
  | address =>
    have hRows := hw.rows _ _ (hAccepted rfl) h
    exact hRows.subperm.trans (ht.rows_sublist (AddressPattern.widensTo_everything _)).subperm
  | keyword =>
    obtain ⟨answer, hRows, hRecords⟩ := exists_of_bind_eq_ok h
    cases hRecords
    exact List.filter_sublist.subperm.trans (hw.rows _ _ rfl hRows).subperm

end Surroundings

namespace Session

variable {w : Surroundings} {s u first : Session} {key : KeyPress} {reply : Reply} {t : Tables}
  {events : List Event}

/-- The lists show records of the tables, none more often than it is there. -/
structure Shows (s : Session) (t : Tables) : Prop where
  hosts : ∀ h ∈ s.hosts.records, h ∈ t.hosts
  joined : s.joined.records.Subperm (t.rows .everything)

theorem Shows.replacement (hs : s.Shows t) (ht : t.Keyed) (hw : w.AnswersFrom t)
    (hLine : s.EntersAccepted key) (h : Replacement w s key u reply) : u.Shows t := by
  cases h with
  | none hSame =>
    obtain ⟨⟨hHosts, -⟩, -, ⟨hJoined, -⟩⟩ := hSame
    exact ⟨hHosts ▸ hs.hosts, hJoined ▸ hs.joined⟩
  | hosts hEntered hAnswer hHosts _ hJoined =>
    have hAccepted := hLine hEntered.1 hEntered.2.1
    exact ⟨hHosts ▸ hw.mem_of_hostsFor hAccepted hAnswer, hJoined ▸ hs.joined⟩
  | joined hEntered hAnswer hHosts _ hJoined =>
    have hAccepted := hLine hEntered.1 hEntered.2.1
    exact ⟨hHosts ▸ hs.hosts, hJoined ▸ hw.subperm_of_joinedFor ht hAccepted hAnswer⟩
  | allHosts _ hAll hHosts _ hJoined =>
    refine ⟨?_, hJoined ▸ hs.joined⟩
    rw [hHosts, hw.hosts _ hAll]
    exact fun _ h => h

theorem Shows.after (ht : t.Keyed) (hs : s.Shows t) (hEvents : ∀ e ∈ events, e.AnswersFrom t)
    (hLines : ∀ p ∈ s.presses events, p.session.EntersAccepted p.key) :
    (s.after events).Shows t := by
  induction events generalizing s with
  | nil => exact hs
  | cons e events ih =>
    have hRest := fun e he => hEvents e (List.mem_cons_of_mem _ he)
    cases e with
    | key w key =>
      have hLine : s.EntersAccepted key := hLines ⟨s, w, key⟩ List.mem_cons_self
      have hNext := hs.replacement ht (hEvents _ List.mem_cons_self) hLine
        (press_transition w s key).replacement
      exact ih hNext hRest fun p hp => hLines p (List.mem_cons_of_mem _ hp)
    | height rows => exact ih ⟨hs.hosts, hs.joined⟩ hRest hLines

end Session

end TopologyExplorer

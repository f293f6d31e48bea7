import TopologyExplorer.Proofs.Database.HostRows
import TopologyExplorer.Proofs.Session.History
import TopologyExplorer.Proofs.Topology.StageTables

/-!
# The listed hosts

The host list is filled at the start, with a change of the mode and with a line that is entered on
the host tab; what filled it last decides what it shows. A loaded topology has no host twice, and
neither has its list, unless an address filled it: that lists a host once for each of its rows.
-/

namespace TopologyExplorer

inductive Filling where
  | all
  | keyword (raw : String)
  | address (raw : String)
  deriving DecidableEq, Repr

namespace Filling

def ofLine (raw : String) : LineMode → Filling
  | .address => address raw
  | .keyword => keyword raw

def hosts (t : Tables) : Filling → List Host
  | all => t.hosts
  | keyword raw => filterByKeyword t.hosts raw
  | address raw => (t.rows (.ofText raw)).map Joined.host

theorem nodup_hosts_iff {t : Tables} (ht : t.Keyed) (hHosts : t.hosts.Nodup) (filling : Filling) :
    (filling.hosts t).Nodup ↔
      ∀ raw, filling = .address raw → t.SelectsHostsOnce (.ofText raw) := by
  cases filling with
  | all => simpa [hosts] using hHosts
  | keyword raw => simpa [hosts, filterByKeyword] using hHosts.filter _
  | address raw => simpa [hosts] using ht.nodup_hosts_of_rows_iff hHosts

/-- If an address fills the list, it is an accepted one. -/
def IsAccepted (filling : Filling) : Prop :=
  ∀ raw, filling = .address raw → (AddressPattern.ofText raw).isAccepted

end Filling

namespace Session

variable {s : Session} {key : KeyPress} {tab : Tab} {t : Tables} {w : Surroundings}

instance : Decidable (s.IsEnteredOn key tab) := inferInstanceAs (Decidable (_ ∧ _ ∧ _))

theorem hosts_of_hostsFor (hw : w.AnswersFrom t) {mode : LineMode} {raw : String}
    (hAccepted : (Filling.ofLine raw mode).IsAccepted) {records : List Host}
    (h : w.hostsFor mode raw = .ok records) : records.Perm ((Filling.ofLine raw mode).hosts t) := by
  cases mode with
  | keyword =>
    obtain ⟨answer, hAnswer, hRecords⟩ := exists_of_bind_eq_ok h
    cases hRecords
    rw [hw.hosts _ hAnswer]
    exact .refl _
  | address =>
    obtain ⟨rows, hRows, hRecords⟩ := exists_of_bind_eq_ok h
    cases hRecords
    exact (hw.rows _ _ (hAccepted raw rfl) hRows).map _

end Session

/-- What a key fills the host list with, if it does. -/
def Press.filling? (p : Press) : Option Filling :=
  if p.reply = .consumed then
    if p.session.IsEnteredOn p.key .hostSearch then
      some (.ofLine p.session.line.text p.session.line.mode)
    else if p.session.IsToggled p.key then some .all
    else none
  else none

/-- A key that fills the list puts in the answer to its question, and no other key does. -/
theorem Press.hosts_result (p : Press) :
    (p.filling? = none ∧ p.result.hosts.records = p.session.hosts.records) ∨
    (p.filling? = some .all ∧ p.surroundings.hosts = .ok p.result.hosts.records) ∨
    (p.filling? = some (.ofLine p.session.line.text p.session.line.mode) ∧
      p.surroundings.hostsFor p.session.line.mode p.session.line.text =
        .ok p.result.hosts.records) := by
  have hRule : Session.Replacement p.surroundings p.session p.key p.result p.reply :=
    (Session.press_transition _ _ _).replacement
  unfold filling?
  generalize p.reply = reply at hRule ⊢
  cases hRule with
  | none hSame hFailed =>
    have hNoQuestion : reply = .consumed → ¬p.session.IsQuestion p.key := by
      rintro rfl hQuestion
      obtain ⟨_, hReply⟩ := hFailed hQuestion
      cases hReply
    refine .inl ⟨?_, hSame.1.1⟩
    split
    · rename_i hReply
      rw [if_neg fun hEntered => hNoQuestion hReply hEntered.isQuestion,
        if_neg fun hToggled => hNoQuestion hReply hToggled.isQuestion]
    · rfl
  | hosts hEntered hAnswer hHosts =>
    rw [if_pos rfl, if_pos hEntered, hHosts]
    exact .inr (.inr ⟨rfl, hAnswer⟩)
  | joined hEntered _ hHosts =>
    have hOther : ¬p.session.IsEnteredOn p.key .hostSearch := fun hHost =>
      nomatch hEntered.tab_eq hHost
    rw [if_pos rfl, if_neg hOther, if_neg hEntered.not_isToggled, hHosts]
    exact .inl ⟨rfl, rfl⟩
  | allHosts hToggled hAnswer hHosts =>
    have hOther : ¬p.session.IsEnteredOn p.key .hostSearch := fun hHost =>
      hHost.not_isToggled hToggled
    rw [if_pos rfl, if_neg hOther, if_pos hToggled, hHosts]
    exact .inr (.inl ⟨rfl, hAnswer⟩)

namespace Session

variable {s : Session} {t : Tables} {w : Surroundings}

/-- What a run fills the host list with last. It starts with all hosts. -/
def filling (s : Session) (events : List Event) : Filling :=
  (((s.presses events).filterMap Press.filling?).getLast?).getD .all

theorem filling_concat {p : Press} {events : List Event} (h : p.session = s.after events) :
    s.filling (events ++ [.key p.surroundings p.key]) = p.filling?.getD (s.filling events) := by
  have hPresses : s.presses (events ++ [.key p.surroundings p.key]) = s.presses events ++ [p] := by
    rw [presses_append, ← h]
    rfl
  rw [filling, hPresses, List.filterMap_append, List.getLast?_append]
  cases hFilling : p.filling? with
  | none => simp [hFilling, filling]
  | some filling => simp [hFilling]

theorem hosts_after {events : List Event} (h : s.hosts.records = t.hosts)
    (hEvents : ∀ e ∈ events, e.AnswersFrom t) (hLine : (s.filling events).IsAccepted) :
    (s.after events).hosts.records.Perm ((s.filling events).hosts t) := by
  -- The last event decides: it fills the list, or leaves it as the run before it did.
  induction events using List.reverseRecOn with
  | nil => exact h ▸ .refl _
  | append_singleton events e ih =>
    have hBefore := ih fun e he => hEvents e (List.mem_append_left _ he)
    cases e with
    | height rows =>
      have hSame : s.filling (events ++ [.height rows]) = s.filling events := by
        rw [filling, presses_append, presses, presses, List.append_nil, filling]
      rw [hSame] at hLine ⊢
      rw [after_append]
      exact hBefore hLine
    | key w key =>
      have hw : w.AnswersFrom t := hEvents (.key w key) (by simp)
      let p : Press := ⟨s.after events, w, key⟩
      have hResult : s.after (events ++ [.key w key]) = p.result := after_append s _ _
      have hFilling : s.filling (events ++ [.key w key]) = _ := filling_concat (p := p) rfl
      rw [hFilling] at hLine ⊢
      rw [hResult]
      rcases p.hosts_result with ⟨hNone, hRecords⟩ | ⟨hAll, hHosts⟩ | ⟨hOfLine, hAnswer⟩
      · rw [hNone] at hLine ⊢
        rw [hRecords]
        exact hBefore hLine
      · rw [hAll, hw.hosts _ hHosts]
        exact .refl _
      · rw [hOfLine] at hLine ⊢
        exact hosts_of_hostsFor hw hLine hAnswer

end Session

namespace Topology

variable [Xml.Codecs] {look : Path → Found} {config : Path} {aliases : AliasTable}

/-- A load that succeeds leaves no host twice, no two processes of one number and no placement
twice. -/
theorem distinct_of_load (h : (load look config (.ready .empty)).outcome = .ok aliases) :
    ∃ t, (load look config (.ready .empty)).database = .ready t ∧ t.Keyed ∧ t.hosts.Nodup := by
  obtain ⟨t, hTables, hEnds⟩ := load_ends look config
  rw [h] at hEnds
  cases hEnds with
  | @filled _ placements procs _ hProcs hFits _ =>
    have hHosts : (withDeploys placements procs).hosts = (placements.map Placement.host).eraseDups :=
      Placement.hosts_eq placements
    refine ⟨_, hTables, ⟨Tables.pairwise_byNumber (nodup_of_procsAt hProcs), fun p hp => ?_,
      nodup_eraseDups _⟩, hHosts ▸ nodup_eraseDups _⟩
    exact List.all_eq_true.mp hFits p ((Tables.byNumber_perm procs).mem_iff.mp hp)

end Topology

/-! ## Two processes on two hosts -/

def Tables.paired : Tables where
  hosts := [⟨"1", "m", "0", "0"⟩, ⟨"127.0.0.1", "TcmHost", "0", "0"⟩]
  procs := [⟨1, "a", "a", "g", "././", "Cluster"⟩, ⟨2, "b", "b", "g", "././", "Cluster"⟩]
  deploys := [⟨1, "g", 0⟩, ⟨2, "g", 0⟩]

theorem Topology.load_paired :
    (load FileTree.paired.look (.ofText "config") (.ready .empty)).outcome =
        .ok ⟨[("m", "1"), ("TcmHost", "127.0.0.1")]⟩ ∧
      (load FileTree.paired.look (.ofText "config") (.ready .empty)).database = .ready .paired := by
  decide +kernel

/-- Keys to a session over a database. A name of one character types that character. -/
def Event.keys (db : Database) (files : Path → Found) (names : List String) : List Event :=
  names.map fun name =>
    .key (.of db files) ⟨name, if name.length = 1 then name.toList.head? else none⟩

theorem Event.answersFrom_of_mem_keys {t : Tables} {files : Path → Found} {names : List String}
    {e : Event} (h : e ∈ Event.keys (.ready t) files names) : e.AnswersFrom t := by
  obtain ⟨name, -, rfl⟩ := List.mem_map.mp h
  exact Surroundings.answersFrom_of t files

namespace Session

def paired : Session where
  tab := .hostSearch
  pane := .hosts
  line := .empty
  hosts := .ofList Tables.paired.hosts
  procs := .ofList Tables.paired.procs
  joined := .ofList (Tables.paired.rows .everything)
  pager := .closed 10

open TopologyExplorer.Topology (load load_paired distinct_of_load)

theorem start_paired (files : Path → Found) :
    start (.of (.ready .paired) files) 10 = .ok paired := rfl

/-- In a session over a loaded topology the host list shows what filled it last: all hosts, those
with a keyword, or the hosts of the rows of an accepted address, in the order in which the database
gives them. No host stands there twice, unless an address filled the list that selects a host with
two processes or two placements. -/
theorem listed_hosts_of_run [Xml.Codecs] {look : Path → Found} {config : Path}
    {aliases : AliasTable} {t : Tables}
    (h : (load look config (.ready .empty)).outcome = .ok aliases)
    (ht : (load look config (.ready .empty)).database = .ready t) {w : Surroundings}
    (hw : w.AnswersFrom t) {height : Int} {first : Session} (hStart : start w height = .ok first)
    {events : List Event} (hEvents : ∀ e ∈ events, e.AnswersFrom t)
    (hLine : (first.filling events).IsAccepted) :
    t.hosts.Nodup ∧ (first.after events).hosts.records.Perm ((first.filling events).hosts t) ∧
      ((first.after events).hosts.records.Nodup ↔
        ∀ raw, first.filling events = .address raw → t.SelectsHostsOnce (.ofText raw)) := by
  obtain ⟨u, hTables, hKeyed, hHosts⟩ := distinct_of_load h
  obtain rfl : t = u := Database.ready.inj (ht.symm.trans hTables)
  have hFirst : first.hosts.records = t.hosts := by
    obtain ⟨hosts, procs, joined, hAnswer, -, -, rfl⟩ := start_eq_ok hStart
    exact hw.hosts _ hAnswer
  have hListed := hosts_after hFirst hEvents hLine
  refine ⟨hHosts, hListed, ?_⟩
  rw [hListed.nodup_iff]
  exact Filling.nodup_hosts_iff hKeyed hHosts _

/-- The hosts of one process by its number. Each host has one row then. -/
theorem listed_hosts_of_paired_run :
    let events := Event.keys (.ready .paired) (fun _ => .missing)
      ["tab", "*", ".", "*", ".", "1", "enter"]
    (load FileTree.paired.look (.ofText "config") (.ready .empty)).outcome =
        .ok ⟨[("m", "1"), ("TcmHost", "127.0.0.1")]⟩ ∧
      (load FileTree.paired.look (.ofText "config") (.ready .empty)).database = .ready .paired ∧
      start (.of (.ready .paired) fun _ => .missing) 10 = .ok paired ∧
      (∀ e ∈ events, e.AnswersFrom .paired) ∧ paired.filling events = .address "*.*.1" ∧
      (paired.filling events).IsAccepted ∧ (paired.after events).hosts.records.Nodup := by
  intro events
  obtain ⟨hLoad, hTables⟩ := load_paired
  have hw := Surroundings.answersFrom_of .paired fun _ => .missing
  have hStart := start_paired fun _ => .missing
  have hEvents : ∀ e ∈ events, e.AnswersFrom .paired := fun e => Event.answersFrom_of_mem_keys
  have hFilling : paired.filling events = .address "*.*.1" := by decide +kernel
  have hLine : (paired.filling events).IsAccepted := by
    intro raw hRaw
    obtain rfl := Filling.address.inj (hRaw.symm.trans hFilling)
    decide +kernel
  obtain ⟨-, -, hNodup⟩ := listed_hosts_of_run hLoad hTables hw hStart hEvents hLine
  refine ⟨hLoad, hTables, hStart, hEvents, hFilling, hLine, hNodup.mpr fun raw hRaw => ?_⟩
  obtain rfl := Filling.address.inj (hRaw.symm.trans hFilling)
  decide +kernel

/-- Each host has two processes, and the wildcard lists it once with each of them. -/
theorem listed_hosts_of_paired_run_repeat :
    let events := Event.keys (.ready .paired) (fun _ => .missing) ["tab", "*", "enter"]
    (load FileTree.paired.look (.ofText "config") (.ready .empty)).outcome =
        .ok ⟨[("m", "1"), ("TcmHost", "127.0.0.1")]⟩ ∧
      (load FileTree.paired.look (.ofText "config") (.ready .empty)).database = .ready .paired ∧
      start (.of (.ready .paired) fun _ => .missing) 10 = .ok paired ∧
      (∀ e ∈ events, e.AnswersFrom .paired) ∧ ¬(paired.after events).hosts.records.Nodup := by
  intro events
  obtain ⟨hLoad, hTables⟩ := load_paired
  have hEvents : ∀ e ∈ events, e.AnswersFrom .paired := fun e => Event.answersFrom_of_mem_keys
  refine ⟨hLoad, hTables, start_paired _, hEvents, ?_⟩
  have hFilling : paired.filling events = .address "*" := by decide +kernel
  have hLine : (paired.filling events).IsAccepted := by
    intro raw hRaw
    obtain rfl := Filling.address.inj (hRaw.symm.trans hFilling)
    decide +kernel
  rw [(hosts_after (t := .paired) rfl hEvents hLine).nodup_iff, hFilling]
  -- Sorting keeps repeats, and only the rows before it can be computed.
  have hPerm := (List.mergeSort_perm (Tables.paired.combine (.ofText "*")) Joined.before).map
    Joined.host
  refine mt hPerm.nodup_iff.mp ?_
  decide +kernel

end Session

end TopologyExplorer

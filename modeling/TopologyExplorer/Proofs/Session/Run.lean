import Mathlib.Control.Monad.Basic
import TopologyExplorer.Session.Keys

/-!
# Runs

A session starts on the records of its surroundings and then meets events: keys, and new heights
of the terminal. Each key brings surroundings of its own, so records and files may change between
two keys, and a question may fail at any time.
-/

namespace TopologyExplorer

inductive Event where
  | key (surroundings : Surroundings) (key : KeyPress)
  | height (rows : Int)

/-- A key, with the session that it meets and the surroundings that it brings. -/
structure Press where
  session : Session
  surroundings : Surroundings
  key : KeyPress

namespace Press

def reply (p : Press) : Reply := (p.session.press p.surroundings p.key).1

def result (p : Press) : Session := (p.session.press p.surroundings p.key).2

end Press

namespace Session

/-- The session behind an event. A key that fails leaves a session behind like any other. -/
def next (s : Session) : Event → Session
  | .key w key => (s.press w key).2
  | .height rows => s.withHeight rows

def after (s : Session) (events : List Event) : Session := events.foldl next s

/-- The keys of a run, each with the session that it meets. -/
def presses (s : Session) : List Event → List Press
  | [] => []
  | .key w key :: events => ⟨s, w, key⟩ :: (s.next (.key w key)).presses events
  | .height rows :: events => (s.next (.height rows)).presses events

/-- Some run leads from a start to the session. -/
def Reachable (s : Session) : Prop :=
  ∃ (w : Surroundings) (height : Int) (first : Session) (events : List Event),
    start w height = .ok first ∧ first.after events = s

theorem start_eq_ok {w : Surroundings} {height : Int} {s : Session} (h : start w height = .ok s) :
    ∃ hosts procs joined, w.hosts = .ok hosts ∧ w.procs = .ok procs ∧
      w.rows .everything = .ok joined ∧
      s = ⟨.hostSearch, .hosts, .empty, .ofList hosts, .ofList procs, .ofList joined,
        .closed height⟩ := by
  unfold start at h
  cases hHosts : w.hosts with
  | error => rw [hHosts] at h; cases h
  | ok hosts =>
    cases hProcs : w.procs with
    | error => rw [hHosts, hProcs] at h; cases h
    | ok procs =>
      cases hRows : w.rows .everything with
      | error => rw [hHosts, hProcs, hRows] at h; cases h
      | ok joined =>
        rw [hHosts, hProcs, hRows] at h
        cases h
        exact ⟨hosts, procs, joined, rfl, rfl, rfl, rfl⟩

theorem after_induction {P : Session → Prop} (hNext : ∀ s e, P s → P (s.next e)) {s : Session}
    (hs : P s) (events : List Event) : P (s.after events) := by
  induction events generalizing s with
  | nil => exact hs
  | cons e events ih => exact ih (hNext s e hs)

theorem after_append (s : Session) (before behind : List Event) :
    s.after (before ++ behind) = (s.after before).after behind :=
  List.foldl_append

theorem presses_append (s : Session) (before behind : List Event) :
    s.presses (before ++ behind) = s.presses before ++ (s.after before).presses behind := by
  induction before generalizing s with
  | nil => rfl
  | cons e before ih =>
    cases e with
    | key w key => exact congrArg _ (ih _)
    | height rows => exact ih _

theorem Reachable.induction {P : Session → Prop}
    (hStart : ∀ w height s, start w height = .ok s → P s) (hNext : ∀ s e, P s → P (s.next e))
    {s : Session} (h : s.Reachable) : P s := by
  obtain ⟨w, height, first, events, hFirst, rfl⟩ := h
  exact after_induction hNext (hStart w height first hFirst) events

end Session

/-! ## A small topology

One process on one host, with a file of its own.
-/

def Surroundings.sample : Surroundings :=
  .of (.ready ⟨[⟨"10.0.0.1", "main", "2", "200"⟩],
      [⟨201, "gamesvr", "gamesvrd", "GameGroup", "./", "World"⟩], [⟨1, "GameGroup", 1⟩]⟩)
    fun path => if path = .ofText "gamesvr" then .file [104, 105] else .missing

/-- Keys in the small topology. A name of one character types that character. -/
def Event.samples (names : List String) : List Event :=
  names.map fun name =>
    .key .sample ⟨name, if name.length = 1 then name.toList.head? else none⟩

namespace Session

def sample : Session where
  tab := .hostSearch
  pane := .hosts
  line := .empty
  hosts := .ofList [⟨"10.0.0.1", "main", "2", "200"⟩]
  procs := .ofList [⟨201, "gamesvr", "gamesvrd", "GameGroup", "./", "World"⟩]
  joined := .ofList [⟨1, "10.0.0.1", "main", "2", "200", 201, "World", "./", "gamesvr", "gamesvrd",
    "GameGroup", 1⟩]
  pager := .closed 10

theorem start_sample : start .sample 10 = .ok sample := by decide +kernel

theorem reachable_sample (names : List String) : (sample.after (Event.samples names)).Reachable :=
  ⟨.sample, 10, sample, Event.samples names, start_sample, rfl⟩

end Session

end TopologyExplorer

import TopologyExplorer.Query.Keyword
import TopologyExplorer.Session.Basic

/-!
# Keys of a session

A key goes to the pane that has the keyboard. A key that the pane does not consume may open a tab
or move the keyboard to another pane. A question that fails is reported; of the state, only the
query line keeps what the key did to it before the question.
-/

namespace TopologyExplorer

inductive Reply where
  | consumed
  | notConsumed
  | failed (fault : Fault)
  deriving DecidableEq, Repr

/-- The rows by which a key moves the selection of a list. -/
def listStep? : String → Option Int
  | "j" | "down" => some 1
  | "k" | "up" => some (-1)
  | _ => none

def pagerMove? : String → Option PagerMove
  | "k" | "up" => some .up
  | "j" | "down" => some .down
  | "pageup" | "ctrl+b" => some .pageUp
  | "pagedown" | "ctrl+f" => some .pageDown
  | "home" | "g" => some .top
  | "end" | "G" | "shift+g" => some .bottom
  | _ => none

def tabOf? : String → Option Tab
  | "1" => some .hostSearch
  | "2" => some .processSearch
  | _ => none

def Process.path (p : Process) : Path := (Path.ofText p.workPath).child p.funcName

def Joined.path (r : Joined) : Path := (Path.ofText r.workPath).child r.procName

namespace Session

/-- Answers an entered line in the list that the tab searches. -/
def answerLine (w : Surroundings) (s : Session) (raw : String) : Except QueryFault Session :=
  match s.tab, s.line.mode with
  | .hostSearch, .address => do
    return { s with hosts := s.hosts.replace ((← w.rows (.ofText raw)).map Joined.host) }
  | .hostSearch, .keyword => do
    return { s with hosts := s.hosts.replace (filterByKeyword (← w.hosts) raw) }
  | .processSearch, .address => do
    return { s with joined := s.joined.replace (← w.rows (.ofText raw)) }
  | .processSearch, .keyword => do
    return { s with joined := s.joined.replace (filterByKeyword (← w.rows .everything) raw) }

/-- Lists all hosts again and forgets the entered lines. -/
def relist (w : Surroundings) (s : Session) : Except QueryFault Session := do
  return { s with hosts := s.hosts.replace (← w.hosts), line := s.line.forgetHistory }

/-- A consumed key, or the fault that the key meets in a state. -/
def settle (s : Session) : Except QueryFault Session → Reply × Session
  | .ok next => (.consumed, next)
  | .error fault => (.failed (.query fault), s)

/-- A consumed key, if there is a new state. -/
def perhaps (s : Session) : Option Session → Reply × Session
  | some next => (.consumed, next)
  | none => (.notConsumed, s)

def hostsKey (s : Session) (key : KeyPress) : Reply × Session :=
  s.perhaps do
    let step ← listStep? key.name
    let moved ← s.hosts.shift step
    return { s with hosts := moved }

def lineKey (w : Surroundings) (s : Session) (key : KeyPress) : Reply × Session :=
  match s.line.press key with
  | none => (.notConsumed, s)
  | some line =>
    let next := { s with line := line }
    match key.name with
    | "enter" => next.settle (next.answerLine w s.line.text)
    | "up" | "down" => next.settle (next.relist w)
    | _ => (.consumed, next)

def openFile (w : Surroundings) (s : Session) (path : Path) : Reply × Session :=
  match s.pager.display path (w.look path) with
  | .ok pager => (.consumed, { s with pager := pager, pane := .file })
  | .error fault => (.failed (.file fault), s)

def procsKey (w : Surroundings) (s : Session) (key : KeyPress) : Reply × Session :=
  match key.name, s.procs.current? with
  | "enter", some p => s.openFile w p.path
  | _, _ =>
    s.perhaps do
      let step ← listStep? key.name
      let moved ← s.procs.shift step
      return { s with procs := moved }

def joinedKey (w : Surroundings) (s : Session) (key : KeyPress) : Reply × Session :=
  match key.name, s.joined.current? with
  | "enter", some r => s.openFile w r.path
  | _, _ =>
    s.perhaps do
      let step ← listStep? key.name
      let moved ← s.joined.shift step
      return { s with joined := moved }

def fileKey (s : Session) (key : KeyPress) : Reply × Session :=
  if key.name = "escape" then (.consumed, { s with pager := s.pager.shut, pane := .joined })
  else
    s.perhaps do
      let direction ← pagerMove? key.name
      let moved ← s.pager.move direction
      return { s with pager := moved }

def paneKey (w : Surroundings) (s : Session) (key : KeyPress) : Reply × Session :=
  match s.pane with
  | .hosts => s.hostsKey key
  | .line => s.lineKey w key
  | .procs => s.procsKey w key
  | .joined => s.joinedKey w key
  | .file => s.fileKey key

/-- Opens a tab at its first pane and forgets the entered lines. A file that is shown is closed. -/
def openTab (s : Session) (tab : Tab) : Session :=
  { s with
    tab := tab
    pane := tab.initialPane
    line := s.line.forgetHistory
    pager := if s.pane = .file then s.pager.shut else s.pager }

/-- The pane that the keyboard goes to next. -/
def nextPane? (s : Session) : Option Pane :=
  match s.tab, s.pane with
  | .hostSearch, .hosts => some .line
  | .hostSearch, .line => some .hosts
  | .processSearch, .line => some (if s.history.isEmpty then .procs else .joined)
  | .processSearch, .procs => some .line
  | .processSearch, .joined => some .line
  | _, _ => none

/-- A key that no pane consumes. -/
def unclaimedKey (s : Session) (key : KeyPress) : Reply × Session :=
  match tabOf? key.name with
  | some tab => (.consumed, s.openTab tab)
  | none =>
    if key.name = "tab" then s.perhaps (s.nextPane?.map fun pane => { s with pane := pane })
    else (.notConsumed, s)

def press (w : Surroundings) (s : Session) (key : KeyPress) : Reply × Session :=
  match s.paneKey w key with
  | (.notConsumed, s) => s.unclaimedKey key
  | result => result

def withHeight (s : Session) (height : Int) : Session :=
  { s with pager := s.pager.withHeight height }

end Session

end TopologyExplorer

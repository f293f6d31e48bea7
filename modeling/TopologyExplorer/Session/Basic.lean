import TopologyExplorer.Database.Query
import TopologyExplorer.Pager
import TopologyExplorer.Query.Line
import TopologyExplorer.Session.RecordList

/-!
# Sessions

The state of the explorer: which of its two tabs is shown, which pane has the keyboard, the query
line, the three record lists and the pager. A session stands in surroundings that answer its
questions for records and files; nothing is assumed about their answers.
-/

namespace TopologyExplorer

inductive Tab where
  | hostSearch
  | processSearch
  deriving DecidableEq, Repr

inductive Pane where
  | hosts
  | line
  | procs
  | joined
  | file
  deriving DecidableEq, Repr

inductive ListName where
  | hosts
  | procs
  | joined
  deriving DecidableEq, Repr

/-- The pane that has the keyboard when a tab is opened. -/
def Tab.initialPane : Tab → Pane
  | hostSearch => .hosts
  | processSearch => .procs

inductive Fault where
  | query (fault : QueryFault)
  | file (fault : FileFault)
  deriving DecidableEq, Repr

namespace Fault

def message : Fault → String
  | query f => f.message
  | file f => f.message

/-- The user is told of the fault, and the session goes on. -/
def isReported : Fault → Bool
  | query f => f.isReported
  | file f => f.isReported

end Fault

/-- The records and files that a session asks for. -/
structure Surroundings where
  hosts : Except QueryFault (List Host)
  procs : Except QueryFault (List Process)
  rows : AddressPattern → Except QueryFault (List Joined)
  look : Path → Found

def Surroundings.of (db : Database) (look : Path → Found) : Surroundings :=
  ⟨db.hosts, db.procs, db.rows, look⟩

structure Session where
  tab : Tab
  pane : Pane
  line : QueryLine
  hosts : RecordList Host
  procs : RecordList Process
  joined : RecordList Joined
  pager : Pager
  deriving DecidableEq, Repr

inductive Record where
  | host (record : Host)
  | process (record : Process)
  | joined (record : Joined)
  deriving DecidableEq, Repr

namespace Session

/-- The first state of a session, with all records listed. -/
def start (w : Surroundings) (height : Int) : Except QueryFault Session := do
  return {
    tab := .hostSearch
    pane := .hosts
    line := .empty
    hosts := .ofList (← w.hosts)
    procs := .ofList (← w.procs)
    joined := .ofList (← w.rows .everything)
    pager := .closed height
  }

def history (s : Session) : List String := s.line.history

def isLineActive (s : Session) : Bool := s.pane = .line

/-- The list that the tab shows: the joined rows once a line is entered on the process tab. -/
def shownList (s : Session) : ListName :=
  match s.tab with
  | .hostSearch => .hosts
  | .processSearch => if s.history.isEmpty then .procs else .joined

/-- The selected record of the list that has the keyboard. -/
def current? (s : Session) : Option Record :=
  match s.pane with
  | .hosts => s.hosts.current?.map .host
  | .procs => s.procs.current?.map .process
  | .joined => s.joined.current?.map .joined
  | .line | .file => none

end Session

end TopologyExplorer

import TopologyExplorer.Session.Keys

/-!
# The screen

What the panes of the terminal show. The screen is a function of the session alone: the tab strip
and the query bar in plain text, three tables of which the tab shows one, and the window of the
pager in place of all these while a file is open.
-/

namespace TopologyExplorer

/-- The name of the program and its title. -/
def applicationTitle : String × String := ("tcmwalker", "Tcm Baby Walker")

namespace Tab

def title : Tab → String
  | hostSearch => "Host search [1]"
  | processSearch => "Process search [2]"

def strip (t : Tab) : String := "  " ++ t.title ++ "  "

def description : Tab → String
  | hostSearch =>
    "Search host information. Tab moves between the query line and the host list."
  | processSearch =>
    "Search deployed processes and open their files. "
      ++ "Tab moves between the query line and the process list."

end Tab

def LineMode.label : LineMode → String
  | address => "Address query"
  | keyword => "Keyword search"

structure TableView where
  shown : Bool
  columns : List String
  rows : List (List String)
  cursor : Option Nat
  deriving DecidableEq, Repr

structure LinePane where
  text : String
  active : Bool
  /-- The position in the text of the cell that the cursor is on. -/
  cursor : Option Nat
  deriving DecidableEq, Repr

structure FilePane where
  title : String
  code : String
  /-- The number of the first line. -/
  start : Nat
  deriving DecidableEq, Repr

structure Screen where
  /-- The tab strip, the query bar and the key reference are shown. -/
  barsShown : Bool
  header : String
  selectedTab : String
  query : LinePane
  hosts : TableView
  procs : TableView
  joined : TableView
  fileShown : Bool
  file : Option FilePane
  deriving DecidableEq, Repr

namespace Screen

def hostColumns : List String := ["InnerIP", "WorldID", "ZoneID", "HostName"]

def hostRow (h : Host) : List String := [h.innerIp, h.worldId, h.zoneId, h.hostName]

def procColumns : List String := ["FuncID", "FuncName", "ProcGroup", "WorkPath"]

def procRow (p : Process) : List String :=
  [toString p.funcId, p.funcName, p.groupName, p.workPath]

def joinedColumns : List String :=
  ["FuncID", "InstID", "ProcName", "ProcGroup", "InnerIP", "HostName", "WorldID", "ZoneID",
    "WorkPath", "FuncName"]

def joinedRow (r : Joined) : List String :=
  [toString r.funcId, toString r.instId, r.procName, r.groupName, r.innerIp, r.hostName,
    r.worldId, r.zoneId, r.workPath, r.funcName]

/-- The tab strip and what the selected tab is for. -/
def headerText (t : Tab) : String :=
  "Tcm Baby Walker  " ++ String.join ([Tab.hostSearch, .processSearch].map fun t => t.strip ++ " ")
    ++ "\n\n" ++ t.description

/-- The entered lines that the query bar shows. -/
def historyShown : Nat := 5

/-- What the query bar shows before the line. -/
def lineLabel (q : QueryLine) : String :=
  "Mode:  " ++ q.mode.label ++ "   ⬇️/⬆️: Select search mode\nInput: "

/-- The query bar. An active line has a cell for the cursor, a blank one at the end of the line. -/
def linePane (active : Bool) (q : QueryLine) : LinePane where
  text :=
    lineLabel q ++ q.text ++ (if active ∧ q.behind = [] then " " else "")
      ++ "\nHistory: " ++ "  ".intercalate (q.history.take historyShown)
  active := active
  cursor := if active then some ((lineLabel q).length + q.before.length) else none

def tableView {α : Type} (shown : Bool) (columns : List String) (row : α → List String)
    (l : RecordList α) : TableView :=
  ⟨shown, columns, l.records.map row, l.selected⟩

def filePane? (v : Pager) : Option FilePane :=
  v.path.map fun path => {
    title := path.text ++ " [" ++ toString (v.offset + 1) ++ "/" ++ toString (max 1 v.total) ++ "]"
    code := "\n".intercalate v.visible
    start := v.offset + 1
  }

def ofSession (s : Session) : Screen :=
  let isOpen := s.pane = .file
  let shows := fun l => s.shownList = l && !isOpen
  { barsShown := !isOpen
    header := headerText s.tab
    selectedTab := s.tab.strip
    query := linePane s.isLineActive s.line
    hosts := tableView (shows .hosts) hostColumns hostRow s.hosts
    procs := tableView (shows .procs) procColumns procRow s.procs
    joined := tableView (shows .joined) joinedColumns joinedRow s.joined
    fileShown := isOpen
    file := filePane? s.pager }

end Screen

structure Notice where
  title : String
  severity : String
  message : String
  deriving DecidableEq, Repr

/-- What the user is told of a reply. -/
def Reply.notice? : Reply → Option Notice
  | failed fault => if fault.isReported then some ⟨"Error", "error", fault.message⟩ else none
  | _ => none

/-- The fault that ends the program. -/
def Reply.fatal? : Reply → Option Fault
  | failed fault => if fault.isReported then none else some fault
  | _ => none

/-- A key that was consumed or failed goes nowhere else. -/
def Reply.isStopped (r : Reply) : Bool := r ≠ .notConsumed

/-- The application has no use of its own for a key that was consumed. -/
def Reply.isPrevented (r : Reply) : Bool := r = .consumed

/-- The lines of the key reference: a heading, or keys with what they do. -/
def helpLines : List (String × Option String) :=
  [("-- General --", none),
   ("1 / 2", some "Switch to host search / process search"),
   ("Tab", some "Move focus between query line and list"),
   ("q", some "Quit (outside the query line)"),
   ("?", some "Toggle this help"),
   ("-- Query line --", none),
   ("Enter", some "Run the query"),
   ("↑ / ↓", some "Switch address query / keyword search, resets results"),
   ("-- Lists --", none),
   ("j / k, ↓ / ↑", some "Select next / previous row"),
   ("Enter", some "Open the selected process file"),
   ("-- File viewer --", none),
   ("j / k, ↓ / ↑", some "Scroll one line"),
   ("PgUp / PgDn, ctrl+b / ctrl+f", some "Scroll one page"),
   ("Home / End, g / G", some "Scroll to top / bottom"),
   ("Esc", some "Close the file")]

/-- The columns that the keys of a line take. -/
def helpKeyWidth : Nat := 30

def helpText : String :=
  String.join (helpLines.map fun
    | (heading, none) => heading ++ "\n"
    | (keys, some use) =>
      "  " ++ String.ofList (keys.toList.rightpad helpKeyWidth ' ') ++ use ++ "\n")

end TopologyExplorer

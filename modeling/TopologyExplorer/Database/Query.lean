import TopologyExplorer.Database.Join
import TopologyExplorer.Database.Relations
import TopologyExplorer.Selection.Reader

/-!
# Queries

Questions to a database: the records of a table, the rows of an address, and those of a query text.
The rows of an address are those of its join. Over anything but the host table itself, the text of
an address is a query text like any other. A query text has an answer if it is a selection and its
rows are joined rows.
-/

namespace TopologyExplorer

inductive QueryFault where
  | unknownTable (name : String)
  /-- The database does not answer the query text. -/
  | failed (query : String) (reason : String)
  /-- The answer to the query text has rows of another shape. -/
  | shape (query : String) (column : String)
  /-- Asking ends in a fault that is not the database's own. -/
  | foreign (query : String)
  deriving DecidableEq, Repr

namespace QueryFault

def message : QueryFault → String
  | unknownTable name => "Unknown table: " ++ name
  | failed _ reason => "Query failed: " ++ reason
  | shape _ column => "Unexpected result shape: " ++ column
  | foreign query => "Fault behind the query " ++ query

def query? : QueryFault → Option String
  | unknownTable _ => none
  | failed query _ => some query
  | shape query _ => some query
  | foreign _ => none

/-- The user is told of the fault. A foreign one is not reported; it ends the program. -/
def isReported : QueryFault → Bool
  | foreign _ => false
  | _ => true

end QueryFault

def Refusal.reason : Refusal → String
  | .closed => "the database is closed"
  | .broken => "the database cannot be read"
  | .foreign => "the file is not a database"
  | .readOnly => "the database cannot be changed"
  | .blank => "there is no such table"
  | .rejected .outOfRange => "an integer is out of range"
  | .rejected .constraint => "a constraint does not hold"

namespace Database

def answer (db : Database) (query : String) : Except QueryFault Tables :=
  match db.tables with
  | .ok t => .ok t
  | .error r => .error (.failed query r.reason)

def hosts (db : Database) : Except QueryFault (List Host) :=
  (db.answer (Table.query Table.hosts.name)).map (·.hosts)

def procs (db : Database) : Except QueryFault (List Process) :=
  (db.answer (Table.query Table.procs.name)).map (·.procs)

def deploys (db : Database) : Except QueryFault (List Deploy) :=
  (db.answer (Table.query Table.deploy.name)).map (·.deploys)

/-- The rows of an address. One with a literal that is not accepted has none: what a database makes
of such a text is left open. -/
def rows (db : Database) (a : AddressPattern) : Except QueryFault (List Joined) := do
  let t ← db.answer a.query
  if a.isAccepted then return t.rows a else throw (.failed a.query "a literal is not accepted")

def isReadable : Database → Bool
  | blank | readOnly | ready _ => true
  | closed | broken | foreign => false

def rowsOfText (db : Database) (query : String) : Except QueryFault (List Joined) := do
  if !db.isReadable then throw (.failed query "the database cannot be read")
  match (Selection.Plan.ofText? query).bind (·.answer? db.relation?) with
  | none => throw (.failed query "there is no such selection")
  | some (columns, cells) =>
    match cells.mapM (Joined.ofCells? columns) with
    | some rows => return rows.mergeSort Joined.before
    | none =>
      throw (.shape query ((Joined.columns.find? (!columns.contains ·)).getD "an absent cell"))

def rowsOver (db : Database) (table : String) (a : AddressPattern) :
    Except QueryFault (List Joined) :=
  if table = Table.hosts.name then db.rows a else db.rowsOfText (a.queryOver table)

/-- The joined rows among all rows of a table that a text names. -/
def rowsOfTable (db : Database) (name : String) : Except QueryFault (List Joined) :=
  db.rowsOfText (Table.query name)

end Database

end TopologyExplorer

import TopologyExplorer.Database.Tables

/-!
# Databases

A database is open on tables, on nothing yet, or on a file that cannot serve; or it is closed. An
operation says why it fails. One that fails leaves the database as it was, since its result is the
only new state there is.
-/

namespace TopologyExplorer

inductive Database where
  | closed
  /-- Open on something that cannot be read. -/
  | broken
  /-- Open on a file that is no database. -/
  | foreign
  /-- Open without tables, and not to be changed. -/
  | readOnly
  /-- Open without tables. -/
  | blank
  | ready (tables : Tables)
  deriving DecidableEq, Repr

inductive Refusal where
  | closed
  | broken
  | foreign
  /-- There are no tables. -/
  | blank
  | readOnly
  | rejected (cause : Rejection)
  deriving DecidableEq, Repr

namespace Database

/-- Makes the tables, if they are not there yet. -/
def makeTables : Database → Except Refusal Database
  | closed => .error .closed
  | broken => .error .broken
  | foreign => .error .foreign
  | readOnly => .error .readOnly
  | blank => .ok (ready .empty)
  | ready t => .ok (ready t)

def close : Database → Database
  | _ => closed

def tables : Database → Except Refusal Tables
  | closed => .error .closed
  | broken => .error .broken
  | foreign => .error .foreign
  | readOnly | blank => .error .blank
  | ready t => .ok t

def insert (db : Database) (batch : Batch) : Except Refusal Database := do
  match (← db.tables).insert batch with
  | .ok t => return ready t
  | .error cause => throw (.rejected cause)

def hostId? (db : Database) (innerIp worldId zoneId : String) : Except Refusal (Option Nat) := do
  return (← db.tables).hostId? innerIp worldId zoneId

end Database

end TopologyExplorer

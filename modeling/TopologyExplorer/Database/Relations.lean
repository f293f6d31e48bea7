import TopologyExplorer.Database.Basic
import TopologyExplorer.Selection.Relation

/-!
# Relations of a database

What a selection can name in a database: the three tables, which are there once they are made, and
the catalogues of the lasting and of the temporary tables, which are always there. A row of a
selection is a joined row if it has all columns of one; of two columns with one name the first one
counts.
-/

namespace TopologyExplorer

open Selection

namespace Tables

def hostRelation (t : Tables) : Relation :=
  ⟨["id", "inner_ip", "host_name", "world_id", "zone_id"], some "id",
    t.numberedHosts.map fun (h, id) =>
      [.number id, .text h.innerIp, .text h.hostName, .text h.worldId, .text h.zoneId]⟩

def procRelation (t : Tables) : Relation :=
  ⟨["func_id", "proc_type", "work_path", "func_name", "proc_name", "proc_group_name"],
    some "func_id",
    t.procs.map fun p =>
      [.number p.funcId, .text p.procType, .text p.workPath, .text p.funcName, .text p.procName,
        .text p.groupName]⟩

def deployRelation (t : Tables) : Relation :=
  ⟨["id", "host_id", "group_name", "inst_id"], some "id",
    (t.deploys.zipIdx 1).map fun (d, id) =>
      [.number id, .number d.hostId, .text d.groupName, .number d.instId]⟩

end Tables

inductive Table where
  | hosts
  | procs
  | deploy
  deriving DecidableEq, Repr

namespace Table

def name : Table → String
  | hosts => "hosts"
  | procs => "procs"
  | deploy => "deploy"

def ofName? (name : String) : Option Table :=
  [hosts, procs, deploy].find? fun t => t.name = name

def query (name : String) : String := "select * from " ++ name

def relation (t : Tables) : Table → Relation
  | hosts => t.hostRelation
  | procs => t.procRelation
  | deploy => t.deployRelation

def entry (kind name table : String) (page : Int) : List Cell :=
  [.text kind, .text name, .text table, .number page, .absent]

/-- The catalogue of the tables, if they are there. -/
def catalogue (isFilled : Bool) : Relation :=
  ⟨["type", "name", "tbl_name", "rootpage", "sql"], none,
    if isFilled then
      [entry "table" hosts.name hosts.name 2, entry "table" procs.name procs.name 3,
        entry "table" deploy.name deploy.name 4,
        entry "index" "sqlite_autoindex_deploy_1" deploy.name 5]
    else []⟩

end Table

namespace Database

/-- Lasting tables are in this schema. -/
def lasting : String := "main"

def temporary : String := "temp"

/-- The names of the catalogue of a schema, the first of them its own. -/
def catalogueNames (schema : String) : List String :=
  if schema = lasting then ["sqlite_master", "sqlite_schema"]
  else ["sqlite_temp_master", "sqlite_temp_schema"]

/-- The relation with a name in a schema, with its full name. -/
def relationIn? (db : Database) (schema name : String) : Option (List String × Relation) :=
  if (catalogueNames schema).contains name then
    some (schema :: (catalogueNames schema).take 1,
      Table.catalogue (schema = lasting && db.tables.toOption.isSome))
  else if schema = lasting then do
    let table ← Table.ofName? name
    let tables ← db.tables.toOption
    return ([schema, name], table.relation tables)
  else if (catalogueNames lasting).contains name then
    some (schema :: (catalogueNames schema).take 1, Table.catalogue false)
  else none

/-- The relation with a name; case does not count. -/
def relation? (db : Database) (schema : Option String) (name : String) :
    Option (List String × Relation) :=
  match schema with
  | some s =>
    if [lasting, temporary].contains s.toLower then db.relationIn? s.toLower name.toLower else none
  | none =>
    if (catalogueNames temporary).contains name.toLower then
      db.relationIn? temporary name.toLower
    else db.relationIn? lasting name.toLower

end Database

namespace Joined

def columns : List String :=
  ["host_id", "inner_ip", "host_name", "world_id", "zone_id", "func_id", "proc_type", "work_path",
    "func_name", "proc_name", "proc_group_name", "inst_id"]

def ofCells? (names : List String) (row : List Cell) : Option Joined := do
  let cells := names.zip row
  let number := fun name =>
    match cells.lookup name with
    | some (Cell.number n) => some n
    | _ => none
  let text := fun name =>
    match cells.lookup name with
    | some (Cell.text s) => some s
    | _ => none
  return {
    hostId := ← number "host_id", innerIp := ← text "inner_ip", hostName := ← text "host_name"
    worldId := ← text "world_id", zoneId := ← text "zone_id", funcId := ← number "func_id"
    procType := ← text "proc_type", workPath := ← text "work_path"
    funcName := ← text "func_name", procName := ← text "proc_name"
    groupName := ← text "proc_group_name", instId := ← number "inst_id" }

end Joined

end TopologyExplorer

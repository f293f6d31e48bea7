/-!
# Addresses

An address is a pattern `world.zone.proc.inst` over the all-process view. Each of its four
segments is the wildcard or a literal. This module reads an address from a line and writes it as
the query text that selects its rows. Nothing is said here about what the query text means; that
is the join of `Database.Join`.
-/

namespace TopologyExplorer

/-- One position of an address: every value, or the values equal to a literal. -/
inductive Segment where
  | any
  | only (literal : String)
  deriving DecidableEq, Repr

namespace Segment

/-- The text that stands for every value. -/
def wildcard : String := "*"

def ofText (s : String) : Segment :=
  if s = wildcard then any else only s

def text : Segment → String
  | any => wildcard
  | only s => s

def isAny : Segment → Bool
  | any => true
  | only _ => false

end Segment

structure AddressPattern where
  world : Segment
  zone : Segment
  proc : Segment
  inst : Segment
  deriving DecidableEq, Repr

namespace AddressPattern

def separator : Char := '.'

/-- The address of every row. -/
def everything : AddressPattern := ⟨.any, .any, .any, .any⟩

/-- A line without the one separator it may end in. -/
def trimEnd (line : List Char) : List Char :=
  if line.getLast? = some separator then line.dropLast else line

/-- The texts between the separators of a line. -/
def pieces (line : String) : List String :=
  ((trimEnd line.toList).splitOn separator).map String.ofList

/-- The segment at position `i`; a missing one is the wildcard. -/
def pieceAt (line : String) (i : Nat) : Segment :=
  .ofText ((pieces line).getD i Segment.wildcard)

/-- Reads a line. Pieces past the fourth are ignored. -/
def ofText (line : String) : AddressPattern :=
  ⟨pieceAt line 0, pieceAt line 1, pieceAt line 2, pieceAt line 3⟩

def segments (a : AddressPattern) : List Segment :=
  [a.world, a.zone, a.proc, a.inst]

/-- The join with the process table; a literal also ties the process to its group's placements. -/
def procClause : Segment → String
  | .any => " JOIN procs"
  | .only proc =>
    " JOIN procs ON procs.proc_group_name = deploy.group_name and procs.func_id = '"
      ++ proc ++ "'"

/-- The join with the placement table, with the conditions on the host. -/
def deployClause : Segment → Segment → String
  | .any, .any => " JOIN deploy"
  | .only world, .any => " JOIN deploy ON hosts.world_id = '" ++ world ++ "'"
  | .any, .only zone => " JOIN deploy ON hosts.zone_id = '" ++ zone ++ "'"
  | .only world, .only zone =>
    " JOIN deploy ON hosts.world_id = '" ++ world ++ "' and hosts.zone_id = '" ++ zone ++ "'"

/-- The condition that ties a placement to its host. -/
def placementCondition : Segment → String
  | .any => " WHERE hosts.id = deploy.host_id"
  | .only inst =>
    " WHERE deploy.inst_id = '" ++ inst ++ "' and hosts.id = deploy.host_id"

/-- The query text over a named host table. Literals are copied as they stand. -/
def queryOver (table : String) (a : AddressPattern) : String :=
  "select * from " ++ table ++ procClause a.proc ++ deployClause a.world a.zone
    ++ placementCondition a.inst

def query (a : AddressPattern) : String :=
  a.queryOver "hosts"

end AddressPattern

end TopologyExplorer

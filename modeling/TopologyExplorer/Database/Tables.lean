import TopologyExplorer.Record.Basic
import TopologyExplorer.Text.DecimalText

/-!
# Tables

The three tables of a topology. The id of a host is its position in its table, counted from one.
Processes stand by ascending number and placements in the order in which they came, each once. A
batch of records is taken as a whole or not at all.
-/

namespace TopologyExplorer

structure Tables where
  hosts : List Host
  procs : List Process
  deploys : List Deploy
  deriving DecidableEq, Repr

inductive Rejection where
  /-- An integer does not have 64 bits. -/
  | outOfRange
  /-- A text is absent, or the number of a process is taken. -/
  | constraint
  deriving DecidableEq, Repr

namespace Tables

def empty : Tables := ⟨[], [], []⟩

/-- The hosts with their ids. -/
def numberedHosts (t : Tables) : List (Host × Nat) := t.hosts.zipIdx 1

/-- The id of the first host with an address in a world and zone. -/
def hostId? (t : Tables) (innerIp worldId zoneId : String) : Option Nat :=
  (t.numberedHosts.find? fun h =>
    h.1.innerIp = innerIp ∧ h.1.worldId = worldId ∧ h.1.zoneId = zoneId).map (·.2)

def insertHost (t : Tables) (h : HostOf (Option String)) : Except Rejection Tables :=
  match h.complete? with
  | some h => .ok { t with hosts := t.hosts ++ [h] }
  | none => .error .constraint

/-- Puts a process before the first one with a greater number. -/
def insertByNumber (p : Process) : List Process → List Process
  | [] => [p]
  | q :: qs => if p.funcId < q.funcId then p :: q :: qs else q :: insertByNumber p qs

def insertProcess (t : Tables) (p : ProcessOf (Option String)) : Except Rejection Tables :=
  if !DecimalText.isWord p.funcId then .error .outOfRange
  else
    match p.complete? with
    | some p =>
      if t.procs.any (·.funcId = p.funcId) then .error .constraint
      else .ok { t with procs := insertByNumber p t.procs }
    | none => .error .constraint

/-- A placement that is there already, or that names no group, is passed over. -/
def insertDeploy (t : Tables) (d : DeployOf (Option String)) : Except Rejection Tables :=
  if !DecimalText.isWord d.hostId ∨ !DecimalText.isWord d.instId then .error .outOfRange
  else
    match d.complete? with
    | some d => .ok (if d ∈ t.deploys then t else { t with deploys := t.deploys ++ [d] })
    | none => .ok t

end Tables

inductive Batch where
  | hosts (records : List (HostOf (Option String)))
  | procs (records : List (ProcessOf (Option String)))
  | deploys (records : List (DeployOf (Option String)))
  deriving DecidableEq, Repr

/-- Takes a batch, record by record. -/
def Tables.insert (t : Tables) : Batch → Except Rejection Tables
  | .hosts records => records.foldlM insertHost t
  | .procs records => records.foldlM insertProcess t
  | .deploys records => records.foldlM insertDeploy t

end TopologyExplorer

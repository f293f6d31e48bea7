import TopologyExplorer.Proofs.File.Lookup
import TopologyExplorer.Proofs.File.PathText
import TopologyExplorer.Proofs.Session.Contents
import TopologyExplorer.Proofs.Session.ShownList

/-!
# Faults that escape

A key fails if it opens a file that cannot be shown, or asks for records in the query line and gets
a fault for an answer. The user is told of the fault, unless the system refused to look for the
file, or the fault of the answer is a foreign one. Neither comes up on a tree with short paths, over
a database that is asked for accepted addresses.
-/

namespace TopologyExplorer

/-- Hosts and the rows of accepted addresses are answered, or with a fault that the user is told
of. -/
structure Surroundings.Reports (w : Surroundings) : Prop where
  hosts : ∀ fault, w.hosts = .error fault → fault.isReported
  rows : ∀ a fault, a.isAccepted → w.rows a = .error fault → fault.isReported

namespace Surroundings

variable {w : Surroundings} {mode : LineMode} {raw : String} {fault : QueryFault}

theorem Reports.hostsFor (hw : w.Reports)
    (hAccepted : mode = .address → (AddressPattern.ofText raw).isAccepted)
    (h : w.hostsFor mode raw = .error fault) : fault.isReported := by
  cases mode with
  | address =>
    rcases bind_eq_error_iff.mp h with hRows | ⟨_, -, hNone⟩
    · exact hw.rows _ _ (hAccepted rfl) hRows
    · cases hNone
  | keyword =>
    rcases bind_eq_error_iff.mp h with hHosts | ⟨_, -, hNone⟩
    · exact hw.hosts _ hHosts
    · cases hNone

theorem Reports.joinedFor (hw : w.Reports)
    (hAccepted : mode = .address → (AddressPattern.ofText raw).isAccepted)
    (h : w.joinedFor mode raw = .error fault) : fault.isReported := by
  cases mode with
  | address => exact hw.rows _ _ (hAccepted rfl) h
  | keyword =>
    rcases bind_eq_error_iff.mp h with hRows | ⟨_, -, hNone⟩
    · exact hw.rows _ _ rfl hRows
    · cases hNone

end Surroundings

namespace Session

variable {w : Surroundings} {s : Session} {key : KeyPress}

/-! ## Questions without an answer -/

/-- The query line asks for records, and the answer is a fault. -/
inductive AskFails (w : Surroundings) (s : Session) (key : KeyPress) (fault : QueryFault) : Prop where
  | hosts : s.IsEnteredOn key .hostSearch →
      w.hostsFor s.line.mode s.line.text = .error fault → AskFails w s key fault
  | joined : s.IsEnteredOn key .processSearch →
      w.joinedFor s.line.mode s.line.text = .error fault → AskFails w s key fault
  | toggled : s.IsToggled key → w.hosts = .error fault → AskFails w s key fault

theorem AskFails.isReported {fault : QueryFault} (h : AskFails w s key fault) (hw : w.Reports)
    (hLine : s.EntersAccepted key) : fault.isReported := by
  cases h with
  | hosts hEntered hAnswer => exact hw.hostsFor (hLine hEntered.1 hEntered.2.1) hAnswer
  | joined hEntered hAnswer => exact hw.joinedFor (hLine hEntered.1 hEntered.2.1) hAnswer
  | toggled _ hHosts => exact hw.hosts _ hHosts

/-! ## Files that are not shown -/

end Session

/-! ## One process of a given name -/

def Surroundings.named (name : String) : Surroundings :=
  .of (.ready ⟨[], [⟨1, name, "p", "g", "./", "Cluster"⟩], []⟩) (FileTree.look ⟨[], 0⟩)

namespace Session

def listed (name : String) : Session :=
  ⟨.hostSearch, .hosts, .empty, .ofList [], .ofList [⟨1, name, "p", "g", "./", "Cluster"⟩],
    .ofList [], .closed 10⟩

def named (name : String) : Session :=
  (listed name).after [.key (.named name) ⟨"2", some '2'⟩, .key (.named name) ⟨"j", some 'j'⟩]

end Session

end TopologyExplorer

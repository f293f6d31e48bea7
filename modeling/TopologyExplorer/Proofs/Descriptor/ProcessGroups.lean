import TopologyExplorer.Descriptor.Processes
import TopologyExplorer.Proofs.Descriptor.Success
import TopologyExplorer.Proofs.Xml.Descendants

/-!
# Process groups

The groups of a process descriptor can be read if each has a name and lists functions by name. A
function that is listed in several groups belongs to the last of them.
-/

namespace TopologyExplorer.Definition

def Lists (group : Xml.Element) (funcName : String) : Prop :=
  ∃ proc ∈ group.childrenNamed "Proc", proc.value? "FuncName" = some funcName

/-- Of groups in a row the last one that lists a function has a name. -/
def LastListing (groups : List Xml.Element) (funcName groupName : String) : Prop :=
  ∃ before group after, groups = before ++ group :: after ∧ Lists group funcName ∧
    group.value? "Name" = some groupName ∧ ∀ other ∈ after, ¬Lists other funcName

/-- A group has a name, and so has every function that it lists. -/
structure IsNamedGroup (group : Xml.Element) : Prop where
  name : (group.value? "Name").isSome
  functions : ∀ proc ∈ group.childrenNamed "Proc", (proc.value? "FuncName").isSome

variable {path : Path} {group root : Xml.Element} {funcName groupName : String}
  {members : List (String × String)}

section Groups

variable {found : List Xml.Element} {listed : List (List (String × String))}

end Groups

end TopologyExplorer.Definition

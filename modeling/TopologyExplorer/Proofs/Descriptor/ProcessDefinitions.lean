import TopologyExplorer.Proofs.Descriptor.Distinct
import TopologyExplorer.Proofs.Descriptor.Faults
import TopologyExplorer.Proofs.Descriptor.ProcessGroups

/-!
# The processes of a descriptor

Where the definitions of a descriptor stand, in which order they are read, when one of them gives a
process, and which. Definitions are read cluster by cluster, those of a cluster in document order.
-/

namespace TopologyExplorer

namespace Definition

/-- Where a definition stands in a cluster. Its work path starts from that of the cluster. -/
inductive StandsIn (cluster : Xml.Element) : Definition → Prop where
  | direct {proc : Xml.Element} : proc ∈ cluster.childrenNamed "Proc" →
      StandsIn cluster ⟨proc, cluster.value? "WorkPath", .cluster⟩
  | inWorld {world proc : Xml.Element} : world ∈ cluster.childrenNamed "world" →
      proc ∈ world.childrenNamed "Proc" →
      StandsIn cluster ⟨proc, cluster.value? "WorkPath", .world⟩
  | inZone {world zone proc : Xml.Element} : world ∈ cluster.childrenNamed "world" →
      zone ∈ world.childrenNamed "zone" → proc ∈ zone.childrenNamed "Proc" →
      StandsIn cluster ⟨proc, cluster.value? "WorkPath", .zone⟩

/-- A definition stands in some cluster of a tree. -/
def Stands (root : Xml.Element) (d : Definition) : Prop :=
  ∃ cluster : Xml.Element, cluster.Within root ∧ cluster.isNamed "cluster" ∧ StandsIn cluster d

def number? (d : Definition) : Option Int :=
  (d.element.value? "FuncID").bind IntegerText.ofText?

/-- The process that a definition gives in a tree. -/
structure Gives (root : Xml.Element) (d : Definition) (p : Process) : Prop where
  funcId : d.number? = some p.funcId
  funcName : d.element.value? "FuncName" = some p.funcName
  procName : p.procName = (d.element.value? "ProcName").getD p.funcName
  groupName : LastListing (root.allNamed "ProcGroup") p.funcName p.groupName
  workPath : p.workPath =
    joinPaths (workPathOr d.base) (workPathOr (d.element.value? "WorkPath"))
  procType : p.procType = d.layer.name

variable {path : Path} {root : Xml.Element} {d : Definition} {p : Process}
  {found : List (String × String)}

/-! ## Where definitions stand -/

-- The definition of the inner cluster stands first and is read last.
example :
    let proc := fun number => Xml.Element.mk (.plain "Proc") [(.plain "FuncID", number)] []
    let inner := Xml.Element.mk (.plain "cluster") [] [proc "1"]
    (ofRoot (.mk (.plain "cluster") [] [inner, proc "2"])).filterMap number? = [2, 1] := by
  decide +kernel

/-! ## What a definition gives -/

/-- A definition names a function that a group lists, and has a number. -/
structure IsSound (root : Xml.Element) (d : Definition) : Prop where
  listed : ∃ funcName, d.element.value? "FuncName" = some funcName ∧
    ∃ group ∈ root.allNamed "ProcGroup", Lists group funcName
  number : d.number?.isSome

end Definition

end TopologyExplorer

import TopologyExplorer.Descriptor.Placements
import TopologyExplorer.Descriptor.Processes

/-!
# Faults of reading

What can go wrong when a descriptor is read: every fault names the descriptor that is read, and
none of them is about the rows of a database, which no reader knows. Nothing is said here about
when a reader fails.
-/

namespace TopologyExplorer

/-! ## Failing computations -/

def FailsWith {ε α : Type} (P : ε → Prop) (x : Except ε α) : Prop :=
  ∀ fault, x = .error fault → P fault

section FailsWith

variable {ε α β : Type} {P : ε → Prop}

theorem failsWith_ok (a : α) : FailsWith P (.ok a) := by
  intro fault h
  cases h

theorem failsWith_error {fault : ε} (h : P fault) : FailsWith P (.error fault : Except ε α) := by
  intro other hOther
  cases hOther
  exact h

theorem FailsWith.bind {x : Except ε α} {f : α → Except ε β} (hx : FailsWith P x)
    (hf : ∀ a, x = .ok a → FailsWith P (f a)) : FailsWith P (x >>= f) := by
  cases x with
  | error fault => exact failsWith_error (hx fault rfl)
  | ok a => exact hf a rfl

theorem FailsWith.mapM {f : α → Except ε β} {xs : List α} (h : ∀ x ∈ xs, FailsWith P (f x)) :
    FailsWith P (xs.mapM f) := by
  induction xs with
  | nil => exact failsWith_ok []
  | cons x xs ih =>
    rw [List.mapM_cons]
    have hRest := ih fun y hy => h y (List.mem_cons_of_mem x hy)
    exact (h x List.mem_cons_self).bind fun _ _ => hRest.bind fun _ _ => failsWith_ok _

theorem FailsWith.forM {f : α → Except ε PUnit} {xs : List α} (h : ∀ x ∈ xs, FailsWith P (f x)) :
    FailsWith P (xs.forM f) := by
  induction xs with
  | nil => exact failsWith_ok _
  | cons x xs ih =>
    have hRest := ih fun y hy => h y (List.mem_cons_of_mem x hy)
    exact (h x List.mem_cons_self).bind fun _ _ => hRest

theorem FailsWith.mapError {Q : β → Prop} {x : Except ε α} {g : ε → β} (hx : FailsWith P x)
    (hg : ∀ fault, P fault → Q (g fault)) : FailsWith Q (x.mapError g) := by
  cases x with
  | error fault => exact failsWith_error (hg fault (hx fault rfl))
  | ok a => exact failsWith_ok a

end FailsWith

/-! ## Readers -/

structure DescriptorFault.IsOf (path : Path) (fault : DescriptorFault) : Prop where
  path : fault.path = some path
  cause : ∀ innerIp, fault.cause ≠ .noHostRow innerIp

variable {path : Path}

namespace Descriptor

theorem root_failsWith [Xml.Codecs] {found : Found} {fault : DescriptorFault}
    (h : root path found = .error (.descriptor fault)) : fault.IsOf path := by
  unfold root at h
  split at h
  · split at h <;> cases h
    exact ⟨rfl, fun _ hCause => by cases hCause⟩
  · cases h
    exact ⟨rfl, fun _ hCause => by cases hCause⟩
  all_goals cases h

theorem valueOf_failsWith (e : Xml.Element) (name : String) :
    FailsWith (DescriptorFault.IsOf path) (valueOf path e name) := by
  unfold valueOf
  split
  · exact failsWith_ok _
  · exact failsWith_error ⟨rfl, fun _ hCause => by cases hCause⟩

theorem integer_failsWith (e : Xml.Element) (name value : String) :
    FailsWith (DescriptorFault.IsOf path) (integer path e name value) := by
  unfold integer
  split
  · exact failsWith_ok _
  · exact failsWith_error ⟨rfl, fun _ hCause => by cases hCause⟩

theorem integerOf_failsWith (e : Xml.Element) (name : String) :
    FailsWith (DescriptorFault.IsOf path) (integerOf path e name) :=
  (valueOf_failsWith e name).bind fun value _ => integer_failsWith e name value

theorem integerOr_failsWith (e : Xml.Element) (name : String) (absent : Int) :
    FailsWith (DescriptorFault.IsOf path) (integerOr path e name absent) := by
  unfold integerOr
  split
  · exact integer_failsWith e name _
  · exact failsWith_ok _

end Descriptor

theorem AliasTable.addressOf_failsWith (t : AliasTable) (name : String) :
    FailsWith (DescriptorFault.IsOf path) (t.addressOf name (some path)) := by
  unfold addressOf
  split
  · exact failsWith_ok _
  · exact failsWith_error ⟨rfl, fun _ hCause => by cases hCause⟩

theorem AliasTable.ofElement_failsWith (root : Xml.Element) :
    FailsWith (DescriptorFault.IsOf path) (ofElement path root) := by
  refine .bind (.mapM fun host _ => ?_) fun _ _ => failsWith_ok _
  exact (Descriptor.valueOf_failsWith host "Name").bind fun _ _ =>
    (Descriptor.valueOf_failsWith host "InnerIP").bind fun _ _ => failsWith_ok _

namespace Placement

variable {aliases : AliasTable}

theorem ofGroup_failsWith (worldId zoneId : String) (absentInst : Int) (hostName : String)
    (group : Xml.Element) : FailsWith (DescriptorFault.IsOf path)
      (ofGroup path aliases worldId zoneId absentInst hostName group) :=
  (aliases.addressOf_failsWith hostName).bind fun _ _ =>
    (Descriptor.valueOf_failsWith group "Group").bind fun _ _ =>
      (Descriptor.integerOr_failsWith group "InstID" absentInst).bind fun _ _ => failsWith_ok _

theorem ofZone_failsWith (worldId : String) (zone : Xml.Element) :
    FailsWith (DescriptorFault.IsOf path) (ofZone path aliases worldId zone) := by
  refine (Descriptor.valueOf_failsWith zone "ID").bind fun zoneId _ => .mapM fun group _ => ?_
  exact (Descriptor.valueOf_failsWith group "Host").bind fun hostName _ =>
    ofGroup_failsWith worldId zoneId 1 hostName group

theorem ofWorld_failsWith (world : Xml.Element) :
    FailsWith (DescriptorFault.IsOf path) (ofWorld path aliases world) := by
  refine (Descriptor.valueOf_failsWith world "ID").bind fun worldId _ => ?_
  exact .bind (.mapM fun zone _ => ofZone_failsWith worldId zone) fun _ _ => failsWith_ok _

theorem ofElement_failsWith (root : Xml.Element) :
    FailsWith (DescriptorFault.IsOf path) (ofElement path aliases root) := by
  unfold ofElement
  split
  · exact failsWith_error ⟨rfl, fun _ hCause => by cases hCause⟩
  · refine .bind (.mapM fun group _ => ?_) fun _ _ => .bind (.mapM fun world _ => ?_) fun _ _ =>
      failsWith_ok _
    · exact ofGroup_failsWith _ _ _ _ group
    · exact ofWorld_failsWith world

end Placement

namespace Definition

theorem groups_failsWith (root : Xml.Element) :
    FailsWith (DescriptorFault.IsOf path) (groups path root) := by
  refine .bind (.mapM fun group _ => ?_) fun _ _ => failsWith_ok _
  refine (Descriptor.valueOf_failsWith group "Name").bind fun _ _ => .mapM fun proc _ => ?_
  exact (Descriptor.valueOf_failsWith proc "FuncName").bind fun _ _ => failsWith_ok _

theorem process_failsWith (groups : List (String × String)) (d : Definition) :
    FailsWith (DescriptorFault.IsOf path) (d.process path groups) := by
  refine (Descriptor.valueOf_failsWith d.element "FuncName").bind fun funcName _ => ?_
  split
  · exact failsWith_error ⟨rfl, fun _ hCause => by cases hCause⟩
  · exact (Descriptor.integerOf_failsWith d.element "FuncID").bind fun _ _ => failsWith_ok _

end Definition

namespace Processes

theorem readFrom_fault {groups : List (String × String)} {taken skipped : List Process}
    {ds : List Definition} {fault : DescriptorFault}
    (h : (readFrom path groups taken skipped ds).fault = some fault) : fault.IsOf path := by
  induction ds generalizing taken skipped with
  | nil => cases h
  | cons d ds ih =>
    unfold readFrom at h
    split at h
    · rename_i hProcess
      cases h
      exact Definition.process_failsWith groups d _ hProcess
    · split at h
      · exact ih h
      · exact ih h

theorem result_failsWith (root : Xml.Element) :
    FailsWith (DescriptorFault.IsOf path) (ofElement path root).result := by
  intro fault h
  have hFault : (ofElement path root).fault = some fault := by
    unfold result at h
    split at h
    · cases h
      assumption
    · cases h
  unfold ofElement at hFault
  split at hFault
  · rename_i hGroups
    cases hFault
    exact Definition.groups_failsWith root _ hGroups
  · exact readFrom_fault hFault

end Processes

end TopologyExplorer

import TopologyExplorer.Proofs.Descriptor.Distinct
import TopologyExplorer.Proofs.Descriptor.Success

/-!
# Host aliases as declared

A table is filled by one declaration after another, the built-in name last. The value of a name is
that of its last declaration, and its place is that of the first one. So the built-in name has its
own address whatever was declared, at the place where it was declared first.
-/

namespace TopologyExplorer.AliasTable

/-- The table has an address for a name. -/
def Knows (t : AliasTable) (name : String) : Prop := ∃ ip, t.entries.lookup name = some ip

def names (t : AliasTable) : List String := t.entries.map Prod.fst

variable {declarations : List (String × String)} {name ip : String}

/-! ## One declaration -/

theorem lookup_put (entries : List (String × String)) (name ip : String) :
    (put entries name ip).lookup name = some ip := by
  induction entries with
  | nil => simp [put]
  | cons e es ih =>
    rw [put]
    split
    · simp
    · rename_i hOther
      rw [List.lookup_cons, beq_false_of_ne (Ne.symm hOther)]
      exact ih

theorem lookup_put_of_ne {other : String} (entries : List (String × String)) (ip : String)
    (h : other ≠ name) : (put entries name ip).lookup other = entries.lookup other := by
  induction entries with
  | nil => simp [put, h]
  | cons e es ih =>
    rw [put]
    split
    · rename_i hSame
      rw [List.lookup_cons, List.lookup_cons, hSame, beq_false_of_ne h]
    · rw [List.lookup_cons, List.lookup_cons, ih]

theorem map_fst_put (entries : List (String × String)) (name ip : String) :
    (put entries name ip).map Prod.fst =
      if name ∈ entries.map Prod.fst then entries.map Prod.fst
      else entries.map Prod.fst ++ [name] := by
  induction entries with
  | nil => rfl
  | cons e es ih =>
    rw [put]
    split
    · rename_i hSame
      simp [hSame]
    · rename_i hOther
      simp only [List.map_cons, ih, List.mem_cons, Ne.symm hOther, false_or]
      split <;> rfl

/-! ## All declarations -/

/-- What declarations make of no entries. -/
def entriesOf (declarations : List (String × String)) : List (String × String) :=
  declarations.foldl (fun es d => put es d.1 d.2) []

theorem entriesOf_concat (declarations : List (String × String)) (d : String × String) :
    entriesOf (declarations ++ [d]) = put (entriesOf declarations) d.1 d.2 :=
  List.foldl_concat _ _ _ _

theorem lookup_entriesOf (declarations : List (String × String)) (name : String) :
    (entriesOf declarations).lookup name = declarations.reverse.lookup name := by
  induction declarations using List.reverseRecOn with
  | nil => rfl
  | append_singleton declarations d ih =>
    rw [entriesOf_concat, List.reverse_append, List.reverse_singleton, List.singleton_append,
      List.lookup_cons]
    by_cases h : name = d.1
    · rw [h, lookup_put, beq_self_eq_true]
    · rw [lookup_put_of_ne _ _ h, beq_false_of_ne h, ih]

theorem map_fst_entriesOf (declarations : List (String × String)) :
    (entriesOf declarations).map Prod.fst = (declarations.map Prod.fst).eraseDups := by
  induction declarations using List.reverseRecOn with
  | nil => rfl
  | append_singleton declarations d ih =>
    rw [entriesOf_concat, map_fst_put, ih, List.map_append, List.map_singleton, eraseDups_concat]
    simp only [List.mem_eraseDups]

theorem entries_ofDeclarations (declarations : List (String × String)) :
    (ofDeclarations declarations).entries =
      entriesOf (declarations ++ [(builtinHost, builtinIp)]) :=
  (entriesOf_concat declarations (builtinHost, builtinIp)).symm

/-! ## The table -/

/-- Of all declarations of a name the last one gives an address. -/
def LastDeclared (declarations : List (String × String)) (name ip : String) : Prop :=
  ∃ before after, declarations = before ++ (name, ip) :: after ∧ ∀ d ∈ after, d.1 ≠ name

theorem lookup_reverse_eq_some_iff :
    declarations.reverse.lookup name = some ip ↔ LastDeclared declarations name ip := by
  rw [List.lookup_eq_some_iff]
  constructor
  · rintro ⟨after, before, hReverse, hAfter⟩
    refine ⟨before.reverse, after.reverse, ?_, fun d hd hName => ?_⟩
    · rw [← List.reverse_reverse declarations, hReverse]
      simp
    · simpa [hName] using hAfter d (List.mem_reverse.mp hd)
  · rintro ⟨before, after, rfl, hAfter⟩
    refine ⟨after.reverse, before.reverse, by simp, fun d hd => bne_iff_ne.mpr ?_⟩
    exact (hAfter d (List.mem_reverse.mp hd)).symm

theorem lookup_reverse_eq_none_iff :
    declarations.reverse.lookup name = none ↔ name ∉ declarations.map Prod.fst := by
  rw [List.lookup_eq_none_iff]
  constructor
  · intro hNone hMem
    obtain ⟨d, hd, rfl⟩ := List.mem_map.mp hMem
    simpa using hNone d (List.mem_reverse.mpr hd)
  · intro hNot d hd
    refine bne_iff_ne.mpr fun hName => hNot ?_
    exact List.mem_map.mpr ⟨d, List.mem_reverse.mp hd, hName.symm⟩

theorem lookup_ofDeclarations (declarations : List (String × String)) (name : String) :
    (ofDeclarations declarations).entries.lookup name =
      if name = builtinHost then some builtinIp else declarations.reverse.lookup name := by
  rw [entries_ofDeclarations, entriesOf_concat]
  split
  · rename_i hBuiltin
    rw [hBuiltin, lookup_put]
  · rename_i hOther
    rw [lookup_put_of_ne _ _ hOther, lookup_entriesOf]

theorem names_ofDeclarations (declarations : List (String × String)) :
    (ofDeclarations declarations).names =
      (declarations.map Prod.fst ++ [builtinHost]).eraseDups := by
  rw [names, entries_ofDeclarations, map_fst_entriesOf, List.map_append, List.map_singleton]

theorem knows_builtinHost (declarations : List (String × String)) :
    (ofDeclarations declarations).Knows builtinHost :=
  ⟨builtinIp, lookup_put _ _ _⟩

theorem addressOf_eq_ok_iff {t : AliasTable} {path : Option Path} :
    t.addressOf name path = .ok ip ↔ t.entries.lookup name = some ip := by
  unfold addressOf
  cases t.entries.lookup name <;> simp

theorem addressOf_eq_error_iff {t : AliasTable} {path : Option Path} {fault : DescriptorFault} :
    t.addressOf name path = .error fault ↔
      t.entries.lookup name = none ∧ fault = ⟨.unknownHost name, path⟩ := by
  unfold addressOf
  cases t.entries.lookup name <;> simp [eq_comm]

/-- The answers and the names of a table of declarations. -/
structure IsTableOf (t : AliasTable) (declarations : List (String × String)) : Prop where
  builtin : ∀ path, t.addressOf builtinHost path = .ok builtinIp
  declared : ∀ name ip path, name ≠ builtinHost →
    (t.addressOf name path = .ok ip ↔ LastDeclared declarations name ip)
  unknown : ∀ name path fault, t.addressOf name path = .error fault ↔
    name ≠ builtinHost ∧ name ∉ declarations.map Prod.fst ∧ fault = ⟨.unknownHost name, path⟩
  once : t.names.Nodup
  known : ∀ name, name ∈ t.names ↔ name = builtinHost ∨ name ∈ declarations.map Prod.fst
  ordered : t.names.Pairwise fun a b =>
    (declarations.map Prod.fst ++ [builtinHost]).idxOf a <
      (declarations.map Prod.fst ++ [builtinHost]).idxOf b
  size : t.entries.length = (insert builtinHost (declarations.map Prod.fst).toFinset).card

theorem isTableOf_ofDeclarations (declarations : List (String × String)) :
    (ofDeclarations declarations).IsTableOf declarations where
  builtin path := by
    rw [addressOf_eq_ok_iff, lookup_ofDeclarations, if_pos rfl]
  declared name ip path hOther := by
    rw [addressOf_eq_ok_iff, lookup_ofDeclarations, if_neg hOther, lookup_reverse_eq_some_iff]
  unknown name path fault := by
    rw [addressOf_eq_error_iff, lookup_ofDeclarations]
    by_cases hBuiltin : name = builtinHost
    · simp [hBuiltin]
    · rw [if_neg hBuiltin, lookup_reverse_eq_none_iff]
      simp [hBuiltin]
  once := by
    rw [names_ofDeclarations]
    exact nodup_eraseDups _
  known name := by
    rw [names_ofDeclarations, List.mem_eraseDups, List.mem_append, List.mem_singleton, or_comm]
  ordered := by
    rw [names_ofDeclarations]
    exact pairwise_idxOf_eraseDups _
  size := by
    have hNames := congrArg List.length (names_ofDeclarations declarations)
    rw [names, List.length_map, length_eraseDups, List.toFinset_append] at hNames
    rw [hNames, Finset.union_comm]
    rfl

/-! ## The hosts of a tree -/

/-- The hosts of a tree declare names and addresses, in document order. -/
def DeclaredBy (root : Xml.Element) (declarations : List (String × String)) : Prop :=
  List.Forall₂ (fun host d => host.value? "Name" = some d.1 ∧ host.value? "InnerIP" = some d.2)
    (root.allNamed "Host") declarations

instance (root : Xml.Element) : Decidable (DeclaredBy root declarations) :=
  inferInstanceAs (Decidable (List.Forall₂ _ _ _))

theorem declaration_eq_ok_iff {path : Path} {host : Xml.Element} {d : String × String} :
    declaration path host = .ok d ↔
      host.value? "Name" = some d.1 ∧ host.value? "InnerIP" = some d.2 := by
  simp only [declaration, bind_eq_ok_iff, Descriptor.valueOf_eq_ok_iff, pure, Except.pure,
    Except.ok.injEq]
  constructor
  · rintro ⟨name, hName, ip, hIp, rfl⟩
    exact ⟨hName, hIp⟩
  · rintro ⟨hName, hIp⟩
    exact ⟨d.1, hName, d.2, hIp, rfl⟩

theorem ofElement_eq_ok_iff {path : Path} {root : Xml.Element} {t : AliasTable} :
    ofElement path root = .ok t ↔
      ∃ declarations, DeclaredBy root declarations ∧ ofDeclarations declarations = t := by
  simp only [ofElement, bind_eq_ok_iff, mapM_eq_ok_iff, declaration_eq_ok_iff, pure, Except.pure,
    Except.ok.injEq]
  rfl

/-- Declarations make a table, whether they are given as a list or by the hosts of a tree. It has
the address of the last declaration of a name and the machine's own one for the built-in name, and
it lists each name once, in the order in which they were declared first. -/
theorem table_of_declarations (declarations : List (String × String)) :
    (ofDeclarations declarations).IsTableOf declarations ∧
    ∀ path root, DeclaredBy root declarations →
      ofElement path root = .ok (ofDeclarations declarations) :=
  ⟨isTableOf_ofDeclarations declarations, fun _ _ hRoot =>
    ofElement_eq_ok_iff.mpr ⟨declarations, hRoot, rfl⟩⟩

/-- Hosts at two depths, with a second address for one of them and a foreign one for the built-in
name. -/
theorem table_of_declared_hosts :
    let host := fun name ip =>
      Xml.Element.mk (.plain "Host") [(.plain "InnerIP", ip), (.plain "Name", name)] []
    let root := Xml.Element.mk (.plain "TcmCenter") [] [
      .mk (.plain "HostTab") [] [host "m" "10.0.0.1", host "TcmHost" "10.0.0.9"],
      host "n" "10.0.0.3", host "m" "10.0.0.2"]
    let t : AliasTable := ⟨[("m", "10.0.0.2"), ("TcmHost", "127.0.0.1"), ("n", "10.0.0.3")]⟩
    let declarations :=
      [("m", "10.0.0.1"), ("TcmHost", "10.0.0.9"), ("n", "10.0.0.3"), ("m", "10.0.0.2")]
    DeclaredBy root declarations ∧ ofElement ⟨.here, ["host.xml"]⟩ root = .ok t ∧
    t.IsTableOf declarations := by
  intro host root t declarations
  have hRoot : DeclaredBy root declarations := by decide +kernel
  have hTable : ofDeclarations declarations = t := by decide
  obtain ⟨hIs, hRead⟩ := table_of_declarations declarations
  exact ⟨hRoot, hTable ▸ hRead _ root hRoot, hTable ▸ hIs⟩

end TopologyExplorer.AliasTable

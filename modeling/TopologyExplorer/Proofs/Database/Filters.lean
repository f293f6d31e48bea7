import TopologyExplorer.Proofs.Database.RowOrder

/-!
# Addresses as filters

The segments of an address for world, zone and instance keep the rows of the whole view that they
describe, in their order and as often as they stand there. A literal for the process keeps some of
the rows that it describes, and none twice.
-/

namespace TopologyExplorer

namespace AddressPattern

/-- The values of a row are those that the segments select. -/
def describes (a : AddressPattern) (r : Joined) : Bool :=
  a.world.selectsText r.worldId && a.zone.selectsText r.zoneId && a.proc.selectsKey r.funcId
    && a.inst.selectsNumber r.instId

def anyProc (a : AddressPattern) : AddressPattern := { a with proc := .any }

/-- Every segment stays as it is or becomes the wildcard. -/
structure WidensTo (a b : AddressPattern) : Prop where
  world : b.world = a.world ∨ b.world = .any
  zone : b.zone = a.zone ∨ b.zone = .any
  proc : b.proc = a.proc ∨ b.proc = .any
  inst : b.inst = a.inst ∨ b.inst = .any

variable {a b : AddressPattern}

theorem widensTo_anyProc (a : AddressPattern) : a.WidensTo a.anyProc :=
  ⟨.inl rfl, .inl rfl, .inr rfl, .inl rfl⟩

theorem widensTo_everything (a : AddressPattern) : a.WidensTo everything :=
  ⟨.inr rfl, .inr rfl, .inr rfl, .inr rfl⟩

theorem WidensTo.isAccepted (h : a.WidensTo b) (ha : a.isAccepted) : b.isAccepted := by
  have hSegment : ∀ {s u : Segment}, u = s ∨ u = .any → s.isAccepted → u.isAccepted := by
    rintro s u (rfl | rfl) hs
    · exact hs
    · rfl
  simp only [AddressPattern.isAccepted, segments, List.all_cons, List.all_nil, Bool.and_eq_true]
    at ha ⊢
  exact ⟨hSegment h.world ha.1, hSegment h.zone ha.2.1, hSegment h.proc ha.2.2.1,
    hSegment h.inst ha.2.2.2.1, trivial⟩

theorem hostId_of_selectsPlacement {g : Host × Nat} {d : Deploy} (h : a.selectsPlacement g d) :
    d.hostId = g.2 := by
  simp only [AddressPattern.selectsPlacement, Bool.and_eq_true, decide_eq_true_eq] at h
  exact h.1.1.1

/-- A group has one placement on a host under an instance number. -/
theorem eq_of_selectsPlacement {g : Host × Nat} {d e : Deploy} (hd : a.selectsPlacement g d)
    (he : a.selectsPlacement g e) (hGroup : d.groupName = e.groupName)
    (hInst : d.instId = e.instId) : d = e := by
  have hHost : d.hostId = e.hostId :=
    (hostId_of_selectsPlacement hd).trans (hostId_of_selectsPlacement he).symm
  cases d
  cases e
  simp only [DeployOf.mk.injEq]
  exact ⟨hHost, hGroup, hInst⟩

theorem WidensTo.selectsPlacement (h : a.WidensTo b) {g : Host × Nat} {d : Deploy}
    (ha : a.selectsPlacement g d) : b.selectsPlacement g d := by
  have hText : ∀ {s u : Segment} {value : String}, u = s ∨ u = .any → s.selectsText value →
      u.selectsText value := by
    rintro s u value (rfl | rfl) hs
    · exact hs
    · rfl
  have hNumber : ∀ {s u : Segment} {value : Int}, u = s ∨ u = .any → s.selectsNumber value →
      u.selectsNumber value := by
    rintro s u value (rfl | rfl) hs
    · exact hs
    · rfl
  simp only [AddressPattern.selectsPlacement, Bool.and_eq_true] at ha ⊢
  exact ⟨⟨⟨ha.1.1.1, hText h.world ha.1.1.2⟩, hText h.zone ha.1.2⟩, hNumber h.inst ha.2⟩

theorem WidensTo.selectsProcess (h : a.WidensTo b) {d : Deploy} {p : Process}
    (ha : a.selectsProcess d p) : b.selectsProcess d p := by
  rcases h.proc with hProc | hProc
  · rw [AddressPattern.selectsProcess, hProc]
    exact ha
  · rw [AddressPattern.selectsProcess, hProc]
    rfl

theorem selectsProcess_only {literal : String} (h : a.proc = .only literal) {d : Deploy}
    {p : Process} :
    a.selectsProcess d p ↔ p.groupName = d.groupName ∧ a.proc.selectsKey p.funcId := by
  simp only [AddressPattern.selectsProcess, h, Segment.isAny, Bool.false_or, Bool.and_eq_true,
    decide_eq_true_eq]

theorem selectsKey_of_selectsProcess {d : Deploy} {p : Process} (h : a.selectsProcess d p) :
    a.proc.selectsKey p.funcId := by
  cases hProc : a.proc with
  | any => rfl
  | only literal =>
    rw [← hProc]
    exact ((selectsProcess_only hProc).mp h).2

/-- Of the rows on one host, the segments describe those of the placements they select. -/
theorem describes_ofParts {g : Host × Nat} {d : Deploy} {p : Process} (hHost : d.hostId = g.2)
    (hProc : a.selectsProcess d p) :
    a.describes (.ofParts g p d) = a.selectsPlacement g d := by
  simp only [describes, Joined.ofParts, AddressPattern.selectsPlacement, hHost, decide_true,
    Bool.true_and, selectsKey_of_selectsProcess hProc, Bool.and_true]

end AddressPattern

theorem flatMap_filter_congr {α β : Type} {p q : α → Bool} {f g : α → List β} (xs : List α)
    (h : ∀ x ∈ xs, (if p x then f x else []) = if q x then g x else []) :
    (xs.filter p).flatMap f = (xs.filter q).flatMap g := by
  have hSplit : ∀ (p : α → Bool) (f : α → List β),
      (xs.filter p).flatMap f = xs.flatMap fun x => if p x then f x else [] := by
    intro p f
    induction xs with
    | nil => rfl
    | cons x xs ih =>
      rw [List.flatMap_cons, ← ih fun y hy => h y (.tail x hy), List.filter_cons]
      split <;> simp
  rw [hSplit, hSplit]
  exact List.flatMap_congr h

namespace Tables

variable {t : Tables} {a b : AddressPattern}

/-- The rows of a host and a placement, in the order of the processes. -/
def rowsAt (t : Tables) (a : AddressPattern) (g : Host × Nat) (d : Deploy) : List Joined :=
  (t.procs.filter (a.selectsProcess d)).map fun p => .ofParts g p d

theorem combine_eq (t : Tables) (a : AddressPattern) : t.combine a =
    t.numberedHosts.flatMap fun g =>
      (t.deploys.filter (a.selectsPlacement g)).flatMap (t.rowsAt a g) :=
  rfl

theorem combine_sublist (h : a.WidensTo b) : (t.combine a).Sublist (t.combine b) := by
  have hRows : ∀ g d, (t.rowsAt a g d).Sublist (t.rowsAt b g d) := by
    intro g d
    exact (List.monotone_filter_right _ fun p => h.selectsProcess).map _
  rw [combine_eq, combine_eq]
  refine List.Sublist.flatMap_right _ fun g _ => ?_
  exact ((List.monotone_filter_right _ fun d => h.selectsPlacement).flatMap _).trans
    (List.Sublist.flatMap_right _ fun d _ => hRows g d)

theorem rowsAt_filter (hProc : b.proc = a.proc) {g : Host × Nat} {d : Deploy}
    (hHost : d.hostId = g.2) :
    (t.rowsAt b g d).filter a.describes =
      if a.selectsPlacement g d then t.rowsAt a g d else [] := by
  have hSame : t.rowsAt b g d = t.rowsAt a g d := by
    have hSelects : b.selectsProcess d = a.selectsProcess d := by
      funext p
      rw [AddressPattern.selectsProcess, AddressPattern.selectsProcess, hProc]
    rw [rowsAt, rowsAt, hSelects]
  have hDescribes : ∀ r ∈ t.rowsAt a g d, a.describes r = a.selectsPlacement g d := by
    intro r hr
    obtain ⟨p, hp, rfl⟩ := List.mem_map.mp hr
    exact AddressPattern.describes_ofParts hHost (List.mem_filter.mp hp).2
  rw [hSame]
  split
  · rename_i hPlaced
    exact List.filter_eq_self.mpr fun r hr => (hDescribes r hr).trans hPlaced
  · rename_i hPlaced
    refine List.filter_eq_nil_iff.mpr fun r hr => ?_
    rw [hDescribes r hr]
    exact hPlaced

theorem combine_eq_filter (h : a.WidensTo b) (hProc : b.proc = a.proc) :
    t.combine a = (t.combine b).filter a.describes := by
  rw [combine_eq, combine_eq, List.filter_flatMap]
  refine List.flatMap_congr fun g _ => ?_
  rw [List.filter_flatMap]
  refine flatMap_filter_congr _ fun d _ => ?_
  by_cases hWide : b.selectsPlacement g d
  · rw [if_pos hWide, rowsAt_filter hProc (AddressPattern.hostId_of_selectsPlacement hWide)]
  · rw [if_neg hWide, if_neg (mt h.selectsPlacement hWide)]

theorem Keyed.rows_sublist (ht : t.Keyed) (h : a.WidensTo b) : (t.rows a).Sublist (t.rows b) :=
  ht.sort_subperm (combine_sublist h).subperm fun _ hr => List.mem_mergeSort.mpr hr

theorem Keyed.rows_eq_filter (ht : t.Keyed) (h : a.WidensTo b) (hProc : b.proc = a.proc) :
    t.rows a = (t.rows b).filter a.describes := by
  rw [rows, combine_eq_filter h hProc]
  exact ht.sort_filter (fun _ hr => List.mem_mergeSort.mpr hr) _

/-! ## Rows that stand twice -/

/-- Some process is selected with two placements on one host under one instance number, which are
then of two groups. -/
def HasTwins (t : Tables) (a : AddressPattern) : Prop :=
  ∃ g d e p, t.IsRow a g d p ∧ t.IsRow a g e p ∧ d.instId = e.instId ∧ d ≠ e

theorem ofParts_inj {g : Host × Nat} {d e : Deploy} {p q : Process} :
    Joined.ofParts g p d = Joined.ofParts g q e ↔ p = q ∧ d.instId = e.instId := by
  constructor
  · intro h
    cases p
    cases q
    simp_all [Joined.ofParts]
  · rintro ⟨rfl, hInst⟩
    simp only [Joined.ofParts, hInst]

theorem Keyed.nodup_procs (ht : t.Keyed) : t.procs.Nodup := by
  refine ht.numbers.imp fun hLess hEq => ?_
  rw [hEq] at hLess
  exact Int.lt_irrefl _ hLess

theorem nodup_rowsAt (ht : t.Keyed) (g : Host × Nat) (d : Deploy) : (t.rowsAt a g d).Nodup :=
  (ht.nodup_procs.filter _).map fun _ _ h => (ofParts_inj.mp h).1

theorem disjoint_rowsAt_iff {g : Host × Nat} {d e : Deploy} :
    (t.rowsAt a g d).Disjoint (t.rowsAt a g e) ↔
      ¬(d.instId = e.instId ∧ ∃ p ∈ t.procs, a.selectsProcess d p ∧ a.selectsProcess e p) := by
  simp only [rowsAt, List.disjoint_left, List.mem_map, List.mem_filter]
  constructor
  · rintro hDisjoint ⟨hInst, p, hp, hd, he⟩
    exact hDisjoint ⟨p, ⟨hp, hd⟩, rfl⟩ ⟨p, ⟨hp, he⟩, ofParts_inj.mpr ⟨rfl, hInst.symm⟩⟩
  · rintro hNone r ⟨p, ⟨hp, hd⟩, rfl⟩ ⟨q, ⟨hq, he⟩, hEq⟩
    obtain ⟨rfl, hInst⟩ := ofParts_inj.mp hEq
    exact hNone ⟨hInst.symm, q, hp, hd, he⟩

theorem disjoint_hosts {g h : Host × Nat} (hIds : g.2 ≠ h.2) (ds es : List Deploy) :
    (ds.flatMap (t.rowsAt a g)).Disjoint (es.flatMap (t.rowsAt a h)) := by
  have hHost : ∀ (g : Host × Nat) (ds : List Deploy), ∀ r ∈ ds.flatMap (t.rowsAt a g),
      r.hostId = g.2 := by
    intro g ds r hr
    obtain ⟨d, -, hr⟩ := List.mem_flatMap.mp hr
    obtain ⟨p, -, rfl⟩ := List.mem_map.mp hr
    rfl
  intro r hg hh
  have hEq := (hHost g ds r hg).symm.trans (hHost h es r hh)
  exact hIds (Int.ofNat.inj hEq)

theorem Keyed.nodup_rows_iff (ht : t.Keyed) : (t.rows a).Nodup ↔ ¬t.HasTwins a := by
  have hIds : t.numberedHosts.Pairwise fun g h => g.2 ≠ h.2 := List.pairwise_map.mp t.nodup_ids
  rw [rows, (List.mergeSort_perm _ _).nodup_iff, combine_eq, List.nodup_flatMap]
  constructor
  · rintro ⟨hNodup, -⟩ ⟨g, d, e, p, hd, he, hInst, hNe⟩
    have hDisjoint := (List.nodup_flatMap.mp (hNodup g hd.host)).2
    have hSymm : Std.Symm (Function.onFun List.Disjoint (t.rowsAt a g)) := ⟨fun _ _ h => h.symm⟩
    have hRows := hDisjoint.forall (List.mem_filter.mpr ⟨hd.deploy, hd.placed⟩)
      (List.mem_filter.mpr ⟨he.deploy, he.placed⟩) hNe
    exact disjoint_rowsAt_iff.mp hRows ⟨hInst, p, hd.process, hd.selected, he.selected⟩
  · intro hTwins
    refine ⟨fun g hg => List.nodup_flatMap.mpr ⟨fun d _ => nodup_rowsAt ht g d, ?_⟩,
      hIds.imp fun h => disjoint_hosts h _ _⟩
    refine (ht.deploys.filter _).imp_of_mem fun {d e} hd he hNe => ?_
    rw [List.mem_filter] at hd he
    refine disjoint_rowsAt_iff.mpr ?_
    rintro ⟨hInst, p, hp, hdp, hep⟩
    exact hTwins ⟨g, d, e, p, ⟨hg, hd.1, hp, hd.2, hdp⟩, ⟨hg, he.1, hp, he.2, hep⟩, hInst, hNe⟩

/-- A literal for the process ties it to the placements of its group, and a group has one of them on
a host under an instance number. -/
theorem Keyed.nodup_rows_of_literal (ht : t.Keyed) {literal : String}
    (h : a.proc = .only literal) : (t.rows a).Nodup := by
  refine ht.nodup_rows_iff.mpr ?_
  rintro ⟨g, d, e, p, hd, he, hInst, hNe⟩
  have hGroup : d.groupName = e.groupName :=
    ((AddressPattern.selectsProcess_only h).mp hd.selected).1.symm.trans
      ((AddressPattern.selectsProcess_only h).mp he.selected).1
  exact hNe (AddressPattern.eq_of_selectsPlacement hd.placed he.placed hGroup hInst)

end Tables

namespace Database

variable {t : Tables} {a : AddressPattern}

theorem rows_of_isAccepted (h : a.isAccepted) : (ready t).rows a = .ok (t.rows a) := by
  simp only [rows, answer, tables, bind, Except.bind, h, if_true]
  rfl

/-- The segments of an accepted address are filters on the whole view: those for world, zone and
instance keep what they describe, and a literal for the process keeps some of what it describes, no
row twice. A wildcard in place of any of them loses no row. -/
theorem rows_filter (hdb : (ready t).Reachable) (ha : a.isAccepted) :
    (ready t).rows a = .ok (t.rows a) ∧
    (a.proc = .any → t.rows a = (t.rows .everything).filter fun r =>
      a.world.selectsText r.worldId && a.zone.selectsText r.zoneId
        && a.inst.selectsNumber r.instId) ∧
    (∀ literal, a.proc = .only literal → (t.rows a).Nodup ∧
      (t.rows a).Sublist ((t.rows a.anyProc).filter fun r => a.proc.selectsKey r.funcId)) ∧
    ∀ b, a.WidensTo b → (ready t).rows b = .ok (t.rows b) ∧ (t.rows a).Sublist (t.rows b) := by
  have ht := hdb.keyed
  refine ⟨rows_of_isAccepted ha, fun hProc => ?_, fun literal hProc => ⟨?_, ?_⟩, fun b hWide => ?_⟩
  · rw [ht.rows_eq_filter a.widensTo_everything hProc.symm]
    refine List.filter_congr fun r _ => ?_
    simp only [AddressPattern.describes, hProc, Segment.selectsKey, Bool.and_true]
  · exact ht.nodup_rows_of_literal hProc
  · have hSelected : (t.rows a).filter (fun r => a.proc.selectsKey r.funcId) = t.rows a := by
      refine List.filter_eq_self.mpr fun r hr => ?_
      obtain ⟨g, d, p, hRow, rfl⟩ := Tables.mem_rows.mp hr
      exact AddressPattern.selectsKey_of_selectsProcess hRow.selected
    rw [← hSelected]
    exact (ht.rows_sublist a.widensTo_anyProc).filter _
  · exact ⟨rows_of_isAccepted (hWide.isAccepted ha), ht.rows_sublist hWide⟩

end Database

/-! ## Two groups on two hosts -/

/-- The first host has both groups under one instance number, the second one has one of them. -/
def Tables.crossed : Tables where
  hosts := [⟨"10.0.0.1", "a", "1", "5"⟩, ⟨"10.0.0.2", "b", "2", "5"⟩]
  procs := [⟨1, "f", "p", "g", "./", "World"⟩, ⟨2, "u", "q", "k", "./", "Zone"⟩]
  deploys := [⟨1, "g", 1⟩, ⟨1, "k", 1⟩, ⟨2, "k", 7⟩]

theorem Tables.reachable_crossed : (Database.ready crossed).Reachable := by
  have hMade : (Database.ready .empty).Reachable := .made .blank rfl
  have hHosts : (Database.ready { empty with hosts := crossed.hosts }).Reachable :=
    hMade.filled (.hosts (crossed.hosts.map HostOf.present)) (by decide +kernel)
  have hProcs : (Database.ready { crossed with deploys := [] }).Reachable :=
    hHosts.filled (.procs (crossed.procs.map ProcessOf.present)) (by decide +kernel)
  exact hProcs.filled (.deploys (crossed.deploys.map DeployOf.present)) (by decide +kernel)

namespace Database

/-- The second process on the first host, by zone, number and instance, and all processes there. -/
theorem rows_filter_crossed :
    let one : AddressPattern := ⟨.any, .only "5", .only "2", .only "1"⟩
    (ready .crossed).Reachable ∧ one.isAccepted ∧ (Tables.crossed.rows one).Nodup ∧
    (Tables.crossed.rows one).Sublist
      ((Tables.crossed.rows one.anyProc).filter fun r => one.proc.selectsKey r.funcId) ∧
    Tables.crossed.rows one.anyProc = (Tables.crossed.rows .everything).filter fun r =>
      one.world.selectsText r.worldId && one.zone.selectsText r.zoneId
        && one.inst.selectsNumber r.instId := by
  intro one
  have hDb := Tables.reachable_crossed
  have hAccepted : one.isAccepted := by decide +kernel
  have hWide : one.anyProc.isAccepted := one.widensTo_anyProc.isAccepted hAccepted
  obtain ⟨hNodup, hSublist⟩ := (rows_filter hDb hAccepted).2.2.1 "2" rfl
  exact ⟨hDb, hAccepted, hNodup, hSublist, (rows_filter hDb hWide).2.1 rfl⟩

end Database

end TopologyExplorer

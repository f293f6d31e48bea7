import TopologyExplorer.Proofs.Text.Separators
import TopologyExplorer.Query.AddressPattern

/-!
# The text of a query

Literals are copied into a query text as they stand, with quotes and keywords in them, and the text
still determines the table and the address. A line can put no separator into a literal, and in every
clause a separator stands in front of each literal. So the clauses can be taken off the end of a
text one by one, each with its literals.
-/

namespace TopologyExplorer

namespace Segment

/-- The wildcard, or a literal without a separator in it. -/
def IsPiece : Segment → Prop
  | any => True
  | only literal => '.' ∉ literal.toList

theorem text_ofText (s : String) : (ofText s).text = s := by
  unfold ofText
  split
  · exact Eq.symm ‹_›
  · rfl

theorem ofText_isPiece {s : String} (h : '.' ∉ s.toList) : (ofText s).IsPiece := by
  unfold ofText
  split
  · trivial
  · exact h

end Segment

namespace AddressPattern

variable {x y : String} {p q v v' w w' : Segment}

/-! ## Ends of texts -/

/-- Texts whose ends differ in a character, counted from the last one, differ. -/
theorem append_ne_of_end {u v : String} (i : Nat) {c d : Char}
    (hu : u.toList.reverse[i]? = some c) (hv : v.toList.reverse[i]? = some d) (hEnd : c ≠ d)
    (x y : String) : x ++ u ≠ y ++ v := by
  have hChar : ∀ {x u : String} {c : Char}, u.toList.reverse[i]? = some c →
      (x ++ u).toList.reverse[i]? = some c := by
    intro x u c hu
    rw [String.toList_append, List.reverse_append, List.getElem?_append_left]
    · exact hu
    · exact (List.getElem?_eq_some_iff.mp hu).1
  intro h
  have hLeft := hChar (x := x) hu
  rw [h, hChar hv] at hLeft
  exact hEnd (Option.some.inj hLeft).symm

/-- A literal begins behind the last separator, with what stands in front of it there. -/
theorem append_literal_cut {f g l m : String} (f₁ f₂ g₁ g₂ : String) (hf : f = f₁ ++ "." ++ f₂)
    (hg : g = g₁ ++ "." ++ g₂) (hf₂ : '.' ∉ f₂.toList) (hg₂ : '.' ∉ g₂.toList)
    (hl : (Segment.only l).IsPiece) (hm : (Segment.only m).IsPiece)
    (h : x ++ f ++ l = y ++ g ++ m) : x ++ f₁ = y ++ g₁ ∧ f₂ ++ l = g₂ ++ m := by
  have hText : ∀ x f₁ f₂ l : String,
      (x ++ (f₁ ++ "." ++ f₂) ++ l).toList = (x ++ f₁).toList ++ '.' :: (f₂ ++ l).toList := by
    intro x f₁ f₂ l
    simp
  have hFree : ∀ {f l : String}, '.' ∉ f.toList → (Segment.only l).IsPiece →
      '.' ∉ (f ++ l).toList := by
    intro f l hf hl
    rw [String.toList_append, List.mem_append, not_or]
    exact ⟨hf, hl⟩
  rw [hf, hg] at h
  have hLists := congrArg String.toList h
  rw [hText, hText] at hLists
  obtain ⟨hFront, hBehind⟩ := append_sep_inj (hFree hf₂ hl) (hFree hg₂ hm) hLists
  exact ⟨String.toList_inj.mp hFront, String.toList_inj.mp hBehind⟩

theorem append_literal_inj {f l m : String} (f₁ f₂ : String) (hf : f = f₁ ++ "." ++ f₂)
    (hf₂ : '.' ∉ f₂.toList) (hl : (Segment.only l).IsPiece) (hm : (Segment.only m).IsPiece)
    (h : x ++ f ++ l = y ++ f ++ m) : x = y ∧ l = m := by
  obtain ⟨hFront, hLiteral⟩ := append_literal_cut f₁ f₂ f₁ f₂ hf hf hf₂ hf₂ hl hm h
  exact ⟨(String.append_left_inj f₁).mp hFront, (String.append_right_inj f₂).mp hLiteral⟩

/-! ## Clauses -/

theorem procClause_any : procClause .any = " JOIN procs" := rfl

theorem procClause_only (proc : String) : procClause (.only proc) =
    " JOIN procs ON procs.proc_group_name = deploy.group_name and procs.func_id = '" ++ proc
      ++ "'" := rfl

theorem append_procClause_inj (hp : p.IsPiece) (hq : q.IsPiece)
    (h : x ++ procClause p = y ++ procClause q) : x = y ∧ p = q := by
  cases p with
  | any =>
    cases q with
    | any => exact ⟨(String.append_left_inj _).mp h, rfl⟩
    | only proc =>
      simp only [procClause_any, procClause_only, ← String.append_assoc] at h
      exact absurd h (append_ne_of_end 0 rfl rfl (by decide) _ _)
  | only proc =>
    cases q with
    | any =>
      simp only [procClause_any, procClause_only, ← String.append_assoc] at h
      exact absurd h (append_ne_of_end 0 rfl rfl (by decide) _ _)
    | only other =>
      simp only [procClause_only, ← String.append_assoc, String.append_left_inj] at h
      obtain ⟨hFront, rfl⟩ := append_literal_inj
        " JOIN procs ON procs.proc_group_name = deploy.group_name and procs" "func_id = '" rfl
        (by decide) hp hq h
      exact ⟨hFront, rfl⟩

theorem placementCondition_any :
    placementCondition .any = " WHERE hosts.id = deploy.host_id" := rfl

theorem placementCondition_only (inst : String) : placementCondition (.only inst) =
    " WHERE deploy.inst_id = '" ++ inst ++ "' and hosts.id = deploy.host_id" := rfl

theorem append_placementCondition_inj (hp : p.IsPiece) (hq : q.IsPiece)
    (h : x ++ placementCondition p = y ++ placementCondition q) : x = y ∧ p = q := by
  -- The ends agree from the space behind WHERE or and; that word ends in another character.
  have hEnds : ∀ x y : String, x ++ " WHERE hosts.id = deploy.host_id" ≠
      y ++ "' and hosts.id = deploy.host_id" :=
    append_ne_of_end 26 rfl rfl (by decide)
  cases p with
  | any =>
    cases q with
    | any => exact ⟨(String.append_left_inj _).mp h, rfl⟩
    | only inst =>
      simp only [placementCondition_any, placementCondition_only, ← String.append_assoc] at h
      exact absurd h (hEnds _ _)
  | only inst =>
    cases q with
    | any =>
      simp only [placementCondition_any, placementCondition_only, ← String.append_assoc] at h
      exact absurd h.symm (hEnds _ _)
    | only other =>
      simp only [placementCondition_only, ← String.append_assoc, String.append_left_inj] at h
      obtain ⟨hFront, rfl⟩ := append_literal_inj " WHERE deploy" "inst_id = '" rfl
        (by decide) hp hq h
      exact ⟨hFront, rfl⟩

theorem deployClause_any : deployClause .any .any = " JOIN deploy" := rfl

theorem deployClause_world (world : String) : deployClause (.only world) .any =
    " JOIN deploy ON hosts.world_id = '" ++ world ++ "'" := rfl

theorem deployClause_world_zone (world zone : String) : deployClause (.only world) (.only zone) =
    " JOIN deploy ON hosts.world_id = '" ++ world ++ "' and hosts.zone_id = '" ++ zone
      ++ "'" := rfl

/-- What leads from the segment of the world on to a comparison of the zone. -/
def zoneLink : Segment → String
  | .any => " ON hosts"
  | .only _ => " and hosts"

theorem deployClause_zone (v : Segment) (zone : String) : deployClause v (.only zone) =
    deployClause v .any ++ zoneLink v ++ ".zone_id = '" ++ zone ++ "'" := by
  cases v with
  | any => rfl
  | only world =>
    have hLink : "' and hosts.zone_id = '" = "'" ++ (zoneLink (.only world) ++ ".zone_id = '") :=
      rfl
    rw [deployClause_world_zone, deployClause_world, hLink]
    simp only [String.append_assoc]

theorem append_deployClause_world_inj (hv : v.IsPiece) (hv' : v'.IsPiece)
    (h : x ++ deployClause v .any = y ++ deployClause v' .any) : x = y ∧ v = v' := by
  cases v with
  | any =>
    cases v' with
    | any => exact ⟨(String.append_left_inj _).mp h, rfl⟩
    | only world =>
      simp only [deployClause_any, deployClause_world, ← String.append_assoc] at h
      exact absurd h (append_ne_of_end 0 rfl rfl (by decide) _ _)
  | only world =>
    cases v' with
    | any =>
      simp only [deployClause_any, deployClause_world, ← String.append_assoc] at h
      exact absurd h (append_ne_of_end 0 rfl rfl (by decide) _ _)
    | only other =>
      simp only [deployClause_world, ← String.append_assoc, String.append_left_inj] at h
      obtain ⟨hFront, rfl⟩ := append_literal_inj " JOIN deploy ON hosts" "world_id = '" rfl
        (by decide) hv hv' h
      exact ⟨hFront, rfl⟩

theorem append_zoneLink_inj (h : x ++ zoneLink v = y ++ zoneLink v') : x = y := by
  have hEnds : ∀ x y : String, x ++ " ON hosts" ≠ y ++ " and hosts" :=
    append_ne_of_end 6 rfl rfl (by decide)
  cases v with
  | any =>
    cases v' with
    | any => exact (String.append_left_inj _).mp h
    | only _ => exact absurd h (hEnds x y)
  | only _ =>
    cases v' with
    | any => exact absurd h.symm (hEnds y x)
    | only _ => exact (String.append_left_inj _).mp h

theorem append_deployClause_zone_inj {zone other : String} (hz : (Segment.only zone).IsPiece)
    (hz' : (Segment.only other).IsPiece)
    (h : x ++ deployClause v (.only zone) = y ++ deployClause v' (.only other)) :
    x ++ deployClause v .any = y ++ deployClause v' .any ∧ zone = other := by
  simp only [deployClause_zone, ← String.append_assoc, String.append_left_inj] at h
  obtain ⟨hFront, rfl⟩ := append_literal_inj "" "zone_id = '" rfl (by decide) hz hz' h
  exact ⟨append_zoneLink_inj hFront, rfl⟩

theorem append_deployClause_any_ne {zone : String} (hv : v.IsPiece)
    (hz : (Segment.only zone).IsPiece) :
    x ++ deployClause v .any ≠ y ++ deployClause v' (.only zone) := by
  intro h
  cases v with
  | any =>
    simp only [deployClause_any, deployClause_zone, ← String.append_assoc] at h
    exact append_ne_of_end 0 rfl rfl (by decide) _ _ h
  | only world =>
    simp only [deployClause_world, deployClause_zone, ← String.append_assoc,
      String.append_left_inj] at h
    obtain ⟨-, hColumn⟩ := append_literal_cut " JOIN deploy ON hosts" "world_id = '" "" "zone_id = '"
      rfl rfl (by decide) (by decide) hv hz h
    have hFirst := congrArg (fun s => s.toList.head?) hColumn
    simp at hFirst

theorem append_deployClause_inj (hv : v.IsPiece) (hw : w.IsPiece) (hv' : v'.IsPiece)
    (hw' : w'.IsPiece) (h : x ++ deployClause v w = y ++ deployClause v' w') :
    x = y ∧ v = v' ∧ w = w' := by
  cases w with
  | any =>
    cases w' with
    | any =>
      obtain ⟨hFront, hWorld⟩ := append_deployClause_world_inj hv hv' h
      exact ⟨hFront, hWorld, rfl⟩
    | only zone => exact absurd h (append_deployClause_any_ne hv hw')
  | only zone =>
    cases w' with
    | any => exact absurd h.symm (append_deployClause_any_ne hv' hw)
    | only other =>
      obtain ⟨hRest, rfl⟩ := append_deployClause_zone_inj hw hw' h
      obtain ⟨hFront, hWorld⟩ := append_deployClause_world_inj hv hv' hRest
      exact ⟨hFront, hWorld, rfl⟩

/-! ## Whole texts -/

/-- The segments of an address, as a line can give them. -/
structure IsRead (a : AddressPattern) : Prop where
  world : a.world.IsPiece
  zone : a.zone.IsPiece
  proc : a.proc.IsPiece
  inst : a.inst.IsPiece

variable {a b : AddressPattern}

theorem queryOver_inj {s t : String} (ha : a.IsRead) (hb : b.IsRead)
    (h : a.queryOver s = b.queryOver t) : s = t ∧ a = b := by
  obtain ⟨h, hInst⟩ := append_placementCondition_inj ha.inst hb.inst h
  obtain ⟨h, hWorld, hZone⟩ := append_deployClause_inj ha.world ha.zone hb.world hb.zone h
  obtain ⟨h, hProc⟩ := append_procClause_inj ha.proc hb.proc h
  refine ⟨(String.append_right_inj _).mp h, ?_⟩
  cases a
  cases b
  simp_all

theorem pieceAt_isPiece (line : String) (i : Nat) : (pieceAt line i).IsPiece := by
  apply Segment.ofText_isPiece
  cases hPiece : (pieces line)[i]? with
  | none =>
    rw [List.getD_eq_getElem?_getD, hPiece]
    decide
  | some piece =>
    obtain ⟨cs, hSplit, rfl⟩ := List.mem_map.mp (List.mem_of_getElem? hPiece)
    rw [List.getD_eq_getElem?_getD, hPiece, Option.getD_some, String.toList_ofList]
    exact not_mem_of_mem_splitOn hSplit

theorem ofText_isRead (line : String) : (ofText line).IsRead :=
  ⟨pieceAt_isPiece line 0, pieceAt_isPiece line 1, pieceAt_isPiece line 2, pieceAt_isPiece line 3⟩

theorem pieceAt_eq_iff_text (l m : String) (i : Nat) :
    pieceAt l i = pieceAt m i ↔ (pieceAt l i).text = (pieceAt m i).text := by
  refine ⟨congrArg Segment.text, fun h => ?_⟩
  simp only [pieceAt, Segment.text_ofText] at h ⊢
  rw [h]

/-- Over every table, two lines have one query text exactly if they have the same four segments,
be it as addresses or as texts. -/
theorem queryOver_ofText_eq_iff (table l m : String) :
    ((ofText l).queryOver table = (ofText m).queryOver table ↔ ofText l = ofText m) ∧
    (ofText l = ofText m ↔
      (ofText l).segments.map Segment.text = (ofText m).segments.map Segment.text) := by
  constructor
  · exact ⟨fun h => (queryOver_inj (ofText_isRead l) (ofText_isRead m) h).2,
      congrArg (queryOver table)⟩
  · simp only [ofText, segments, AddressPattern.mk.injEq, List.map_cons, List.map_nil,
      List.cons.injEq, and_true, pieceAt_eq_iff_text]

end AddressPattern

end TopologyExplorer

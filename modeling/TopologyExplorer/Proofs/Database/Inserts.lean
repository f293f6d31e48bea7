import TopologyExplorer.Database.Tables
import TopologyExplorer.Proofs.Descriptor.Distinct

/-!
# Inserts

What a batch of whole records does to the tables. Hosts are always taken; processes of distinct
numbers and placements are taken exactly if their integers are words. The processes then stand by
their numbers, and of placements the table has each once, where it came first.
-/

namespace TopologyExplorer

def ProcessOf.fits {τ : Type} (p : ProcessOf τ) : Bool := DecimalText.isWord p.funcId

def DeployOf.fits {τ : Type} (d : DeployOf τ) : Bool :=
  DecimalText.isWord d.hostId && DecimalText.isWord d.instId

theorem DeployOf.not_fits_iff {τ : Type} {d : DeployOf τ} :
    ¬d.fits ↔ (!DecimalText.isWord d.hostId ∨ !DecimalText.isWord d.instId) := by
  simp [fits, Decidable.or_iff_not_imp_left]

namespace Tables

theorem insert_hosts (t : Tables) (hosts : List Host) :
    t.insert (.hosts (hosts.map HostOf.present)) = .ok { t with hosts := t.hosts ++ hosts } := by
  induction hosts generalizing t with
  | nil => simp [insert, pure, Except.pure]
  | cons host hosts ih =>
    have hRest := ih { t with hosts := t.hosts ++ [host] }
    simp only [List.append_assoc, List.singleton_append] at hRest
    exact hRest

theorem insertByNumber_perm (p : Process) (procs : List Process) :
    (insertByNumber p procs).Perm (p :: procs) := by
  induction procs with
  | nil => exact .refl _
  | cons q qs ih =>
    rw [insertByNumber]
    split
    · exact .refl _
    · exact (ih.cons q).trans (.swap p q qs)

def byNumber (procs : List Process) : List Process :=
  procs.foldl (fun sorted p => insertByNumber p sorted) []

theorem byNumber_perm (procs : List Process) : (byNumber procs).Perm procs := by
  induction procs using List.reverseRecOn with
  | nil => exact .refl _
  | append_singleton procs p ih =>
    rw [byNumber, List.foldl_concat]
    exact (insertByNumber_perm p _).trans ((ih.cons p).trans (List.perm_append_singleton p procs).symm)

theorem insertProcess_present (t : Tables) (p : Process)
    (hNew : ∀ q ∈ t.procs, q.funcId ≠ p.funcId) :
    t.insertProcess p.present =
      if p.fits then .ok { t with procs := insertByNumber p t.procs } else .error .outOfRange := by
  have hComplete : p.present.complete? = some p := rfl
  have hAny : t.procs.any (fun q => decide (q.funcId = p.funcId)) = false := by
    simpa using hNew
  have hFits : DecimalText.isWord p.present.funcId = p.fits := rfl
  rw [insertProcess, hFits, hComplete]
  cases p.fits <;> simp [hAny]

/-- The processes of a batch, if no number comes twice, go to the places of their numbers. -/
theorem insert_procs (t : Tables) (procs : List Process)
    (hDistinct : ((t.procs ++ procs).map ProcessOf.funcId).Nodup) :
    t.insert (.procs (procs.map ProcessOf.present)) =
      if procs.all ProcessOf.fits then
        .ok { t with procs := procs.foldl (fun sorted p => insertByNumber p sorted) t.procs }
      else .error .outOfRange := by
  induction procs generalizing t with
  | nil => simp [insert, pure, Except.pure]
  | cons p procs ih =>
    have hNew : ∀ q ∈ t.procs, q.funcId ≠ p.funcId := by
      rw [List.map_append] at hDistinct
      intro q hq
      exact (List.nodup_append.mp hDistinct).2.2 _ (List.mem_map_of_mem hq) _ (by simp)
    simp only [insert, List.map_cons, List.foldlM_cons, insertProcess_present t p hNew,
      List.all_cons, List.foldl_cons]
    by_cases hFits : p.fits
    · have hPerm : ((insertByNumber p t.procs ++ procs).map ProcessOf.funcId).Perm
          ((t.procs ++ p :: procs).map ProcessOf.funcId) :=
        (((insertByNumber_perm p t.procs).append_right procs).trans List.perm_middle.symm).map _
      have hRest := ih { t with procs := insertByNumber p t.procs } (hPerm.nodup_iff.mpr hDistinct)
      simp only [hFits, if_true, Bool.true_and]
      exact hRest
    · simp [hFits, bind, Except.bind]

theorem insertDeploy_present (t : Tables) (before : List Deploy) (d : Deploy)
    (h : t.deploys = before.eraseDups) :
    t.insertDeploy d.present =
      if d.fits then .ok { t with deploys := (before ++ [d]).eraseDups } else .error .outOfRange := by
  have hMem : d ∈ t.deploys ↔ d ∈ before := by rw [h, List.mem_eraseDups]
  have hOut : (!DecimalText.isWord d.present.hostId ∨ !DecimalText.isWord d.present.instId) ↔
      ¬d.fits := DeployOf.not_fits_iff.symm
  have hComplete : d.present.complete? = some d := rfl
  by_cases hFits : d.fits
  · rw [insertDeploy, if_neg (mt hOut.mp (not_not_intro hFits)), if_pos hFits, hComplete,
      eraseDups_concat, ← h]
    by_cases hOld : d ∈ before
    · simp only [hMem.mpr hOld, hOld, if_true]
    · simp only [mt hMem.mp hOld, hOld, if_false]
  · rw [insertDeploy, if_pos (hOut.mpr hFits), if_neg hFits]

/-- The placements of a batch go behind those from before, repeats left out. -/
theorem insert_deploys (t : Tables) (before deploys : List Deploy)
    (h : t.deploys = before.eraseDups) :
    t.insert (.deploys (deploys.map DeployOf.present)) =
      if deploys.all DeployOf.fits then
        .ok { t with deploys := (before ++ deploys).eraseDups }
      else .error .outOfRange := by
  induction deploys generalizing t before with
  | nil => simp [insert, pure, Except.pure, ← h]
  | cons d deploys ih =>
    simp only [insert, List.map_cons, List.foldlM_cons, insertDeploy_present t before d h, List.all_cons]
    by_cases hFits : d.fits
    · have hRest := ih { t with deploys := (before ++ [d]).eraseDups } (before ++ [d]) rfl
      simp only [List.append_assoc, List.singleton_append] at hRest
      simp only [hFits, if_true, Bool.true_and]
      exact hRest
    · simp [hFits, bind, Except.bind]

end Tables

end TopologyExplorer

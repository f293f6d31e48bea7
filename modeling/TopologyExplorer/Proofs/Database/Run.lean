import TopologyExplorer.Proofs.Database.Filters

/-!
# Runs of a database

A database is given operations one after the other. One that fails leaves the database as it was, so
a run goes on behind it. What an open database holds is decided by the batches that it has taken on
the way, whatever else it was asked or offered.
-/

namespace TopologyExplorer

inductive Operation where
  | makeTables
  | insert (batch : Batch)
  /-- A question; its answer is not part of the database. -/
  | ask
  | close
  deriving DecidableEq, Repr

namespace Database

variable {db : Database} {t : Tables} {batches : List Batch}

def perform (db : Database) : Operation → Except Refusal Database
  | .makeTables => db.makeTables
  | .insert batch => db.insert batch
  | .ask => .ok db
  | .close => .ok db.close

def next (db : Database) (op : Operation) : Database := (db.perform op).toOption.getD db

def after (db : Database) (ops : List Operation) : Database := ops.foldl next db

/-- The batch that an operation puts into the database. -/
def taken? (db : Database) : Operation → Option Batch
  | .insert batch => if (db.insert batch).toOption.isSome then some batch else none
  | .makeTables | .ask | .close => none

/-- The batches that a run puts into the database, in their order. -/
def taken (db : Database) : List Operation → List Batch
  | [] => []
  | op :: ops => (db.taken? op).toList ++ (db.next op).taken ops

/-! ## One operation -/

theorem next_of_error {op : Operation} {cause : Refusal} (h : db.perform op = .error cause) :
    db.next op = db := by
  rw [next, h]
  rfl

theorem next_of_ok {op : Operation} {u : Database} (h : db.perform op = .ok u) :
    db.next op = u := by
  rw [next, h]
  rfl

/-- An open database holds the records of the batches, and no others. -/
def HasTaken (batches : List Batch) : Database → Prop
  | blank => batches = []
  | ready t => t = .ofBatches batches
  | closed | broken | foreign | readOnly => True

theorem HasTaken.next (h : db.HasTaken batches) (op : Operation) :
    (db.next op).HasTaken (batches ++ (db.taken? op).toList) := by
  cases op with
  | makeTables =>
    rw [taken?, Option.toList_none, List.append_nil]
    cases db with
    | blank =>
      obtain rfl : batches = [] := h
      rfl
    | ready | closed | broken | foreign | readOnly => exact h
  | insert batch =>
    cases db with
    | ready t =>
      obtain rfl : t = .ofBatches batches := h
      cases hInsert : (Tables.ofBatches batches).insert batch with
      | ok u =>
        have hTaken : (ready (.ofBatches batches)).insert batch = .ok (ready u) := by
          rw [insert_ready, hInsert]
        have hNext : (ready (.ofBatches batches)).next (.insert batch) = ready u :=
          next_of_ok hTaken
        rw [hNext, taken?, hTaken]
        exact (Tables.insert_ofBatches_eq_ok_iff.mp hInsert).2
      | error cause =>
        have hRefused : (ready (.ofBatches batches)).insert batch = .error (.rejected cause) := by
          rw [insert_ready, hInsert]
        have hNext : (ready (.ofBatches batches)).next (.insert batch) =
            ready (.ofBatches batches) := next_of_error hRefused
        rw [hNext, taken?, hRefused]
        exact congrArg Tables.ofBatches (List.append_nil batches).symm
    | blank =>
      obtain rfl : batches = [] := h
      rfl
    | closed | broken | foreign | readOnly => trivial
  | ask =>
    rw [taken?, Option.toList_none, List.append_nil]
    exact h
  | close => trivial

/-! ## A run -/

theorem HasTaken.after (h : db.HasTaken batches) (ops : List Operation) :
    (db.after ops).HasTaken (batches ++ db.taken ops) := by
  induction ops generalizing db batches with
  | nil =>
    rw [taken, List.append_nil]
    exact h
  | cons op ops ih =>
    rw [taken, ← List.append_assoc]
    exact ih (h.next op)

/-- What an open database holds is a function of the batches that were taken on the way. -/
theorem tables_of_run {ops : List Operation} (h : blank.after ops = ready t) :
    t = .ofBatches (blank.taken ops) := by
  have hFirst : blank.HasTaken [] := rfl
  have hTaken := hFirst.after ops
  rw [h] at hTaken
  exact hTaken

theorem Reachable.next (h : db.Reachable) (op : Operation) : (db.next op).Reachable := by
  cases hPerformed : db.perform op with
  | error cause =>
    rw [next_of_error hPerformed]
    exact h
  | ok u =>
    rw [next_of_ok hPerformed]
    cases op with
    | makeTables => exact .made h hPerformed
    | insert batch => exact .filled batch h hPerformed
    | ask =>
      cases hPerformed
      exact h
    | close =>
      cases hPerformed
      exact .closed h

theorem Reachable.after (h : db.Reachable) (ops : List Operation) : (db.after ops).Reachable := by
  induction ops generalizing db with
  | nil => exact h
  | cons op ops ih => exact ih (h.next op)

/-! ## What the tables keep -/

theorem insert_ofBatches_of_takes {batch : Batch} (h : (Tables.ofBatches batches).Takes batch) :
    (ready (.ofBatches batches)).insert batch = .ok (ready (.ofBatches (batches ++ [batch]))) := by
  rw [insert_ready, Tables.insert_ofBatches_eq_ok_iff.mpr ⟨h, rfl⟩]

theorem insert_ofBatches_fails_iff {batch : Batch} :
    (∃ cause, (ready (.ofBatches batches)).insert batch = .error cause) ↔
      ¬(Tables.ofBatches batches).Takes batch := by
  constructor
  · rintro ⟨cause, hRefused⟩ hTakes
    cases hRefused.symm.trans (insert_ofBatches_of_takes hTakes)
  · intro hTakes
    cases hInsert : (Tables.ofBatches batches).insert batch with
    | ok u => exact absurd (Tables.insert_ofBatches_eq_ok_iff.mp hInsert).1 hTakes
    | error cause => exact ⟨_, by rw [insert_ready, hInsert]⟩

/-- What open tables answer that have taken these batches, and what becomes of the next one. The
hosts have the ids 1, 2, ... in the order in which they came, and a host is looked up as the first
one of its place; processes stand by their numbers; a placement stands once, where it came first.
The next batch is taken as a whole, or refused and changes nothing. -/
structure Keeps (t : Tables) (batches : List Batch) : Prop where
  hosts : (ready t).hosts = .ok (batches.flatMap Batch.wholeHosts)
  ids : t.numberedHosts = (batches.flatMap Batch.wholeHosts).zipIdx 1
  lookup : ∀ innerIp worldId zoneId, (ready t).hostId? innerIp worldId zoneId =
    .ok (((batches.flatMap Batch.wholeHosts).findIdx? fun h =>
      h.innerIp = innerIp ∧ h.worldId = worldId ∧ h.zoneId = zoneId).map (· + 1))
  procs : ∃ procs, (ready t).procs = .ok procs ∧
    procs.Pairwise (fun p q => p.funcId < q.funcId) ∧
    procs.Perm (batches.flatMap Batch.wholeProcs)
  deploys : ∃ deploys, (ready t).deploys = .ok deploys ∧ deploys.Nodup ∧
    deploys = (batches.flatMap Batch.wholeDeploys).eraseDups
  taken : ∀ batch, t.Takes batch →
    (ready t).next (.insert batch) = ready (.ofBatches (batches ++ [batch]))
  refused : ∀ batch, (∃ cause, (ready t).insert batch = .error cause) ↔ ¬t.Takes batch
  kept : ∀ batch, ¬t.Takes batch → (ready t).next (.insert batch) = ready t

/-- After any run from a blank database, failed operations included, an open database keeps the
batches that were taken. -/
theorem keeps_of_run {ops : List Operation} (h : blank.after ops = ready t) :
    Keeps t (blank.taken ops) := by
  have hReachable := Reachable.blank.after ops
  rw [h] at hReachable
  have hKeyed := hReachable.keyed
  obtain rfl := tables_of_run h
  exact {
    hosts := rfl
    ids := rfl
    lookup := fun innerIp worldId zoneId =>
      congrArg Except.ok (Tables.hostId?_eq_findIdx? _ innerIp worldId zoneId)
    procs := ⟨_, rfl, hKeyed.numbers, Tables.byNumber_perm _⟩
    deploys := ⟨_, rfl, hKeyed.deploys, rfl⟩
    taken := fun batch hTakes => next_of_ok (insert_ofBatches_of_takes hTakes)
    refused := fun batch => insert_ofBatches_fails_iff
    kept := fun batch hTakes => by
      obtain ⟨cause, hRefused⟩ := insert_ofBatches_fails_iff.mpr hTakes
      exact next_of_error hRefused }

end Database

/-! ## A run with refusals -/

/-- Fills the tables of two groups on two hosts. Between the batches that are taken stand ones with
an absent text, a number that is taken and an integer that is no word, and a placement comes
twice. -/
def Operation.crossed : List Operation :=
  [.makeTables,
    .insert (.hosts [⟨some "10.0.0.1", some "a", some "1", some "5"⟩]),
    .insert (.hosts [⟨some "10.0.0.2", some "b", some "2", some "5"⟩,
      ⟨some "10.0.0.3", none, some "2", some "5"⟩]),
    .insert (.hosts [⟨some "10.0.0.2", some "b", some "2", some "5"⟩]),
    .insert (.procs [⟨2, some "u", some "q", some "k", some "./", some "Zone"⟩]),
    .insert (.procs [⟨1, some "f", some "p", some "g", some "./", some "World"⟩,
      ⟨2, some "v", some "q", some "k", some "./", some "Zone"⟩]),
    .ask,
    .insert (.procs [⟨1, some "f", some "p", some "g", some "./", some "World"⟩]),
    .insert (.deploys [⟨1, some "g", 1⟩, ⟨1, none, 1⟩, ⟨1, some "k", 1⟩, ⟨1, some "g", 1⟩]),
    .insert (.deploys [⟨2, some "g", 7⟩, ⟨2, some "k", 9223372036854775808⟩]),
    .insert (.deploys [⟨1, some "k", 1⟩, ⟨2, some "k", 7⟩])]

namespace Database

theorem keeps_of_crossed_run :
    blank.after Operation.crossed = ready .crossed ∧
    (blank.taken Operation.crossed).length = 6 ∧
    (ready .crossed).deploys =
      .ok ((blank.taken Operation.crossed).flatMap Batch.wholeDeploys).eraseDups ∧
    (ready .crossed).hostId? "10.0.0.2" "2" "5" = .ok (some 2) ∧
    ¬Tables.crossed.Takes (.procs [⟨2, some "v", some "q", some "k", some "./", some "Zone"⟩]) ∧
    (ready .crossed).next
      (.insert (.procs [⟨2, some "v", some "q", some "k", some "./", some "Zone"⟩])) =
        ready .crossed := by
  have hRun : blank.after Operation.crossed = ready .crossed := by decide +kernel
  have hTakes : ¬Tables.crossed.Takes
      (.procs [⟨2, some "v", some "q", some "k", some "./", some "Zone"⟩]) := by decide +kernel
  have hKeeps := keeps_of_run hRun
  obtain ⟨deploys, hDeploys, -, rfl⟩ := hKeeps.deploys
  exact ⟨hRun, by decide +kernel, hDeploys, (hKeeps.lookup _ _ _).trans (by decide +kernel), hTakes,
    hKeeps.kept _ hTakes⟩

end Database

end TopologyExplorer

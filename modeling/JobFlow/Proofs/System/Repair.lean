import Mathlib
import JobFlow.Proofs.Disk.Reopen
import JobFlow.Proofs.Index.Order
import JobFlow.Proofs.Index.Stamps
import JobFlow.Proofs.System.FirstSave

/-!
# Repairing the index

`Project.repair` goes over the index rows of a project tree and checks each against its job
record: a row whose record is gone is deleted, a row whose record does not open is skipped,
and a row whose record holds another status is moved to that status (with the summary of
the record's failure as its reason when the record says `aborted`).
-/

open Std.Do

set_option mvcgen.warning false

namespace JobFlow

/-- The status a record holds, read as the system reads it. -/
def Record.storedStatus (r : Record) : Outcome Status := do
  readValue Status.read (← r.read Layout.status)

theorem Sys.storedStatus_eq (r : Record) : Sys.storedStatus r = Sys.ofOutcome r.storedStatus := rfl

/-- The failure a record holds, read as the system reads it; `none` where it holds none. -/
def Record.storedFailure (r : Record) : Outcome (Option Failure) := do
  (← r.readOpt Layout.failure).mapM (readValue Failure.read)

/-- Opening the database of a path that names something leaves the disk as it is, or makes
a plain directory there an empty database. -/
theorem RecordStore.record_disk {s : RecordStore} {d d' : Disk} {p : String} {r : Record}
    (there : d.exists? (Disk.locate p) = true) (ok : s.record d p = .ok (d', r)) :
    d' = d ∨ d.lookup (Disk.locate p) = .ok (some .dir) ∧ d' = d.put (Disk.locate p) (.records []) := by
  unfold record openDb at ok
  cases found : d.lookup (Disk.locate p) with
  | error e => simp [found, bind, Except.bind, throw, throwThe, MonadExceptOf.throw] at ok
  | ok n =>
    cases n with
    | none => simp [Disk.exists?, Disk.node?, found] at there
    | some n =>
      cases n with
      | file data => simp [found, bind, Except.bind, throw, throwThe, MonadExceptOf.throw] at ok
      | dir =>
        simp only [found, bind, Except.bind, pure, Except.pure, Except.ok.injEq, Prod.mk.injEq] at ok
        exact .inr ⟨rfl, ok.1.symm⟩
      | records ps =>
        simp only [found, bind, Except.bind, pure, Except.pure, Except.ok.injEq, Prod.mk.injEq] at ok
        exact .inl ok.1.symm

/-- What opening the record at `p` may do to the system `u`: nothing, or make a plain directory
there an empty database. -/
def Reopening (u u' : JobSystem) (p : String) : Prop :=
  u' = u ∨ u.disk.lookup (Disk.locate p) = .ok (some .dir) ∧
    u' = { u with disk := u.disk.put (Disk.locate p) (.records []) }

theorem Reopening.index {u u' : JobSystem} {p : String} (opening : Reopening u u' p) : u'.index = u.index := by
  rcases opening with rfl | ⟨-, rfl⟩ <;> rfl

/-- Opening a record reads what `RecordStore.opened` reads. -/
theorem Sys.openRecord_opened (p : String) (u : JobSystem) :
    ⦃fun s => ⌜s = u⌝⦄ Sys.openRecord p
    ⦃post⟨fun r s => ⌜(⟨u.config.storage⟩ : RecordStore).opened u.disk p = .ok r ∧ s = u⌝,
      fun e s => ⌜(∃ e', e = .fault e' ∧ (⟨u.config.storage⟩ : RecordStore).opened u.disk p = .error e') ∧
        Reopening u s p⌝⟩⦄ := by
  mvcgen [Sys.openRecord, Sys.openDb, -Sys.openRecord_keepsHeld, -Sys.openDb_keepsHeld]
  -- nothing is at the path
  · rename_i start _ missing
    obtain rfl := start.symm
    refine ⟨⟨_, rfl, ?_⟩, .inl rfl⟩
    simp_all [RecordStore.opened, RecordStore.open, throw, throwThe, MonadExceptOf.throw, bind, Except.bind,
      Except.map]
  -- a well formed record, which opening leaves as it is
  · rename_i start _ there a opened _ _ wellFormed
    obtain rfl := start.symm
    have whole := RecordStore.open_ok there opened wellFormed
    have same := RecordStore.open_disk whole
    refine ⟨by simp [RecordStore.opened, whole, Except.map], by simp +zetaDelta [same]⟩
  -- a database that holds no well formed record
  · rename_i start _ there a opened _ e illFormed
    obtain rfl := start.symm
    obtain ⟨d', r⟩ := a
    have there' : u.disk.exists? (Disk.locate p) = true := by simpa using there
    refine ⟨⟨e, rfl, ?_⟩, ?_⟩
    · simp [RecordStore.opened, RecordStore.open, there', opened, illFormed, bind, Except.bind, Except.map]
    · rcases RecordStore.record_disk there' opened with rfl | ⟨dir, rfl⟩
      · exact .inl rfl
      · exact .inr ⟨dir, rfl⟩
  -- the database does not open
  · rename_i start _ there e failed
    obtain rfl := start.symm
    have there' : u.disk.exists? (Disk.locate p) = true := by simpa using there
    refine ⟨⟨e, rfl, ?_⟩, .inl rfl⟩
    simp [RecordStore.opened, RecordStore.open, there', failed, bind, Except.bind, Except.map]

/-- Opening a record as an attempt answers what `RecordStore.opened` reads, and never stops. -/
theorem Sys.attempt_openRecord (p : String) (u : JobSystem) :
    ⦃fun s => ⌜s = u⌝⦄ Sys.attempt (Sys.openRecord p)
    ⦃post⟨fun res s => ⌜res = (⟨u.config.storage⟩ : RecordStore).opened u.disk p ∧ Reopening u s p⌝,
      fun _ _ => ⌜False⌝⟩⦄ := by
  have opens := Sys.openRecord_opened p u
  mvcgen [Sys.attempt, Sys.recover, opens, -Sys.attempt_keepsHeld, -Sys.openRecord_keepsHeld]
  · intro opened same
    exact ⟨opened.symm, .inl same⟩
  · rename_i e _ _ failed
    obtain ⟨⟨e', same, opened⟩, state⟩ := failed
    cases same
    exact ⟨opened.symm, state⟩
  -- what the open stops with is a fault, which the attempt catches
  · rename_i stop notFault _ _ failed
    obtain ⟨⟨e', rfl, -⟩, -⟩ := failed
    exact notFault e' rfl

namespace JobIndex

variable {ix ix' : JobIndex} {i : Nat}

/-- An update changes the row of its id in place and leaves the job, the record and the
status the row stands for. -/
theorem update_modifies {u : IndexUpdate} (ok : ix.update i u = .ok ix') :
    ∃ f : IndexRow → IndexRow, (∀ r, (f r).id = r.id ∧ (f r).project = r.project ∧
      (f r).storagePath = r.storagePath ∧ (f r).status = r.status) ∧ ix' = ix.modify i f := by
  unfold update at ok
  split at ok
  · cases ok
    refine ⟨id, fun r => ⟨rfl, rfl, rfl, rfl⟩, ?_⟩
    simp [modify]
  · split at ok
    · cases ok
    · cases ok
      refine ⟨_, fun r => ?_, rfl⟩
      simp only
      split <;> split <;> split <;> exact ⟨rfl, rfl, rfl, rfl⟩

theorem query_sublist (ix : JobIndex) (f : JobFilter) : (ix.query f).Sublist ix.rows := by
  rw [query_eq_take]
  exact (List.take_sublist _ _).trans List.filter_sublist

/-- The row a loop over some rows of the index has reached is listed, is a row of the index,
and, where ids are unique, is not one of the rows the loop went over before. -/
theorem cursor (unique : (ix.rows.map (·.id)).Nodup) {rows : List IndexRow} (sub : rows.Sublist ix.rows)
    {pref suff : List IndexRow} {cur : IndexRow} (split : rows = pref ++ cur :: suff) :
    cur ∈ rows ∧ cur ∈ ix.rows ∧ cur ∉ pref := by
  have listed : cur ∈ rows := by simp [split]
  refine ⟨listed, sub.subset listed, fun mem => ?_⟩
  rw [split] at sub
  exact List.disjoint_of_nodup_append ((unique.of_map _).sublist sub) mem (by simp)

end JobIndex

namespace Project

/-- What repairing finds of a row's record. -/
inductive Finding where
  /-- Nothing that could hold a record is at its path. -/
  | missing
  /-- Something is there, and it does not open as a record. -/
  | unopened
  /-- The record. -/
  | opened (r : Record)

namespace Finding

def isMissing : Finding → Bool
  | missing => true
  | _ => false

def isUnopened : Finding → Bool
  | unopened => true
  | _ => false

/-- The status the record holds, when it opened and its status reads. -/
def stored : Finding → Option Status
  | opened r => r.storedStatus.toOption
  | _ => none

end Finding

/-- What repairing finds at a record's path on a disk. -/
def finding (store : RecordStore) (d : Disk) (path : String) : Finding :=
  if RecordStore.exists d path then
    match store.opened d path with
    | .ok r => .opened r
    | .error _ => .unopened
  else .missing

theorem finding_reopened {store : RecordStore} {d d' : Disk} (re : Disk.Reopened d d') (path : String) :
    finding store d' path = finding store d path := by
  simp only [finding, re.exists, RecordStore.opened_of_reopened re]

/-- The report of a repair that went over `rows`, finding on `d` what it finds: the rows it
moved with their old and new statuses, the rows it deleted and the rows it skipped, each in
the order of the rows. -/
def repairReport (store : RecordStore) (d : Disk) (rows : List IndexRow) : RepairReport where
  updated := rows.filterMap fun row =>
    ((finding store d row.storagePath).stored.filter (· != row.status)).map fun st => (row.id, row.status, st)
  removed := (rows.filter fun row => (finding store d row.storagePath).isMissing).map (·.id)
  skipped := (rows.filter fun row => (finding store d row.storagePath).isUnopened).map (·.id)

/-- A record a repair stops at: its status does not read, or it moves the row to `aborted` and
its failure does not read. -/
def Stops (r : Record) (row : IndexRow) : Prop :=
  (∃ e, r.storedStatus = .error e) ∨
    r.storedStatus = .ok .aborted ∧ row.status ≠ .aborted ∧ ∃ e, r.storedFailure = .error e

/-- A record that opens, but that a repair cannot read through. -/
def Unreadable (store : RecordStore) (d : Disk) (row : IndexRow) : Prop :=
  ∃ r, finding store d row.storagePath = .opened r ∧ Stops r row

/-! ### The index as the repair leaves it -/

/-- What repairing made of a row it went over: the same job and record, with the status the
record holds where the record opens. -/
structure RowRepaired (found : Finding) (row row' : IndexRow) : Prop where
  id : row'.id = row.id
  project : row'.project = row.project
  storagePath : row'.storagePath = row.storagePath
  status : ∀ r, found = .opened r → r.storedStatus = .ok row'.status

/-! The rows of an index paired with the rows of another, each with the same id. -/

section Paired

variable {R : IndexRow → IndexRow → Prop} (sameId : ∀ a b, R a b → b.id = a.id)
include sameId

theorem ids_of_forall₂ {l l' : List IndexRow} (paired : List.Forall₂ R l l') :
    l'.map (·.id) = l.map (·.id) := by
  induction paired with
  | nil => rfl
  | cons related _ ih => simp [sameId _ _ related, ih]

theorem find?_of_forall₂ {l l' : List IndexRow} (paired : List.Forall₂ R l l') (unique : (l.map (·.id)).Nodup) :
    ∀ a ∈ l, ∃ b, l'.find? (·.id = a.id) = some b ∧ R a b := by
  induction paired with
  | nil => intro a mem; cases mem
  | @cons a' b' rest rest' related _ ih =>
    intro a mem
    rw [List.map_cons, List.nodup_cons] at unique
    rcases List.mem_cons.1 mem with rfl | later
    · exact ⟨b', by simp [sameId _ _ related], related⟩
    · -- `a` comes later, so the row paired with the first one has another id
      have other : b'.id ≠ a.id := by
        rw [sameId _ _ related]
        exact fun same => unique.1 (same ▸ List.mem_map_of_mem later)
      rw [List.find?_cons_of_neg (by simpa using other)]
      exact ih unique.2 a later

theorem find?_none_of_forall₂ {l l' : List IndexRow} (paired : List.Forall₂ R l l') {i : Nat}
    (absent : i ∉ l.map (·.id)) : l'.find? (·.id = i) = none := by
  rw [List.find?_eq_none]
  intro b mem same
  rw [← ids_of_forall₂ sameId paired] at absent
  exact absent (List.mem_map.2 ⟨b, mem, by simpa using same⟩)

omit sameId in
theorem exists_of_mem_forall₂ {l l' : List IndexRow} (paired : List.Forall₂ R l l') {b : IndexRow} (mem : b ∈ l') :
    ∃ a ∈ l, R a b := by
  induction paired with
  | nil => cases mem
  | @cons a b' rest rest' related _ ih =>
    rcases List.mem_cons.1 mem with rfl | later
    · exact ⟨a, List.mem_cons_self, related⟩
    · obtain ⟨a', mem', related'⟩ := ih later
      exact ⟨a', List.mem_cons_of_mem a mem', related'⟩

end Paired

section Repairing

variable {store : RecordStore} {d : Disk} {ix₀ ix ix' : JobIndex} {done : List IndexRow} {row a b : IndexRow}

/-- How a row stands to the row it was, once the repair went over the rows `done`. -/
def RowAfter (store : RecordStore) (d : Disk) (done : List IndexRow) (row row' : IndexRow) : Prop :=
  (row ∈ done → RowRepaired (finding store d row.storagePath) row row') ∧ (row ∉ done → row' = row)

/-- Whether a row is still there once the repair went over the rows `done`. -/
def kept (store : RecordStore) (d : Disk) (done : List IndexRow) (row : IndexRow) : Bool :=
  !(decide (row ∈ done) && (finding store d row.storagePath).isMissing)

/-- The index `ix` as the repair leaves the index `ix₀` once it went over the rows `done`,
finding on `d` what it finds. -/
def Repairing (store : RecordStore) (d : Disk) (ix₀ : JobIndex) (done : List IndexRow) (ix : JobIndex) : Prop :=
  List.Forall₂ (RowAfter store d done) (ix₀.rows.filter (kept store d done)) ix.rows

theorem RowAfter.id (after : RowAfter store d done a b) : b.id = a.id := by
  by_cases mem : a ∈ done
  · exact (after.1 mem).id
  · rw [after.2 mem]

theorem RowAfter.project (after : RowAfter store d done a b) : b.project = a.project := by
  by_cases mem : a ∈ done
  · exact (after.1 mem).project
  · rw [after.2 mem]

theorem RowAfter.storagePath (after : RowAfter store d done a b) : b.storagePath = a.storagePath := by
  by_cases mem : a ∈ done
  · exact (after.1 mem).storagePath
  · rw [after.2 mem]

theorem RowAfter.extend (after : RowAfter store d done a b) (other : a ≠ row) :
    RowAfter store d (done ++ [row]) a b := by
  have same : a ∈ done ++ [row] ↔ a ∈ done := by simp [other]
  exact ⟨fun mem => after.1 (same.1 mem), fun mem => after.2 fun mem' => mem (same.2 mem')⟩

theorem kept_extend (other : a ≠ row) : kept store d (done ++ [row]) a = kept store d done a := by
  simp [kept, other]

theorem repairing_start : Repairing store d ix₀ [] ix₀ := by
  unfold Repairing
  rw [List.filter_eq_self.2 fun a _ => by simp [kept]]
  exact List.forall₂_same.2 fun a _ => ⟨fun mem => absurd mem List.not_mem_nil, fun _ => rfl⟩

variable (unique : (ix₀.rows.map (·.id)).Nodup)
include unique

theorem eq_of_id_eq (mem : a ∈ ix₀.rows) (mem' : b ∈ ix₀.rows) (same : a.id = b.id) : a = b :=
  List.inj_on_of_nodup_map unique mem mem' same

theorem Repairing.nodup (rep : Repairing store d ix₀ done ix) : (ix.rows.map (·.id)).Nodup := by
  rw [ids_of_forall₂ (fun _ _ after => RowAfter.id after) rep]
  exact unique.sublist (List.filter_sublist.map _)

theorem Repairing.get?_kept (rep : Repairing store d ix₀ done ix) (mem : a ∈ ix₀.rows)
    (there : kept store d done a) : ∃ b, ix.get? a.id = some b ∧ RowAfter store d done a b :=
  find?_of_forall₂ (fun _ _ after => RowAfter.id after) rep (unique.sublist (List.filter_sublist.map _)) a
    (List.mem_filter.2 ⟨mem, there⟩)

theorem Repairing.get?_gone (rep : Repairing store d ix₀ done ix) (mem : a ∈ ix₀.rows) (gone : a ∈ done)
    (missing : finding store d a.storagePath = .missing) : ix.get? a.id = none := by
  refine find?_none_of_forall₂ (fun _ _ after => RowAfter.id after) rep fun listed => ?_
  obtain ⟨x, inFiltered, same⟩ := List.mem_map.1 listed
  obtain ⟨inRows, there⟩ := List.mem_filter.1 inFiltered
  rw [eq_of_id_eq unique inRows mem same] at there
  simp [kept, gone, missing, Finding.isMissing] at there

/-- A row whose record is missing is deleted. -/
theorem Repairing.delete (rep : Repairing store d ix₀ done ix) (mem : row ∈ ix₀.rows) (fresh : row ∉ done)
    (missing : finding store d row.storagePath = .missing) :
    Repairing store d ix₀ (done ++ [row]) (ix.delete row.id).1 := by
  unfold Repairing at rep ⊢
  -- the rows kept are those kept before, less the one deleted
  have left : ix₀.rows.filter (kept store d (done ++ [row])) =
      (ix₀.rows.filter (kept store d done)).filter (·.id != row.id) := by
    rw [List.filter_filter]
    refine List.filter_congr fun a inRows => ?_
    by_cases same : a = row
    · subst same
      simp [kept, fresh, missing, Finding.isMissing]
    · have other : a.id ≠ row.id := fun ids => same (eq_of_id_eq unique inRows mem ids)
      simp [kept_extend same, other]
  rw [left]
  have filtered := List.rel_filter (p := (·.id != row.id)) (q := (·.id != row.id))
    (fun a b after => by simp [RowAfter.id after]) rep
  refine ((List.forall₂_and_left _ _).2 ⟨fun a listed => ?_, filtered⟩).imp fun a b ⟨other, after⟩ => after.extend other
  rintro rfl
  simp at listed

omit unique in
/-- A row whose record is there and does not open, or holds the row's own status, stays as
it is. -/
theorem Repairing.keep (rep : Repairing store d ix₀ done ix) (fresh : row ∉ done)
    (present : (finding store d row.storagePath).isMissing = false)
    (same : ∀ r, finding store d row.storagePath = .opened r → r.storedStatus = .ok row.status) :
    Repairing store d ix₀ (done ++ [row]) ix := by
  unfold Repairing at rep ⊢
  have left : ix₀.rows.filter (kept store d (done ++ [row])) = ix₀.rows.filter (kept store d done) := by
    refine List.filter_congr fun a _ => ?_
    by_cases here : a = row
    · subst here
      simp [kept, fresh, present]
    · exact kept_extend here
  rw [left]
  refine rep.imp fun a b after => ?_
  by_cases here : a = row
  · subst here
    obtain rfl : b = a := after.2 fresh
    exact ⟨fun _ => ⟨rfl, rfl, rfl, same⟩, fun out => absurd (by simp) out⟩
  · exact after.extend here

/-- A row whose record holds another status, and that status reads, is moved to it. -/
theorem Repairing.force (rep : Repairing store d ix₀ done ix) (mem : row ∈ ix₀.rows) (fresh : row ∉ done)
    {r : Record} (opened : finding store d row.storagePath = .opened r) {st : Status}
    (read : r.storedStatus = .ok st) :
    ∃ ix', ix.forceStatus row.id st = .ok ix' ∧ Repairing store d ix₀ (done ++ [row]) ix' := by
  obtain ⟨b, found, -⟩ := rep.get?_kept unique mem (by simp [kept, fresh])
  refine ⟨_, JobIndex.forceStatus_found found st, ?_⟩
  unfold Repairing at rep ⊢
  have left : ix₀.rows.filter (kept store d (done ++ [row])) = ix₀.rows.filter (kept store d done) := by
    refine List.filter_congr fun a _ => ?_
    by_cases here : a = row
    · subst here
      simp [kept, fresh, opened, Finding.isMissing]
    · exact kept_extend here
  rw [left]
  show List.Forall₂ _ _ (ix.rows.map _)
  rw [List.forall₂_map_right_iff]
  refine ((List.forall₂_and_left _ _).2 ⟨fun a listed => (List.mem_filter.1 listed).1, rep⟩).imp
    fun a b' ⟨inRows, after⟩ => ?_
  by_cases here : b'.id = row.id
  · -- the row moved is the row gone over, which was as it had been
    obtain rfl : a = row := eq_of_id_eq unique inRows mem (after.id ▸ here)
    obtain rfl : b' = a := after.2 fresh
    simp only [if_true]
    refine ⟨fun _ => ⟨JobIndex.statusWritten_id _ _, (JobIndex.statusWritten_record _ _).1,
      (JobIndex.statusWritten_record _ _).2, fun r' found' => ?_⟩, fun out => absurd (by simp) out⟩
    rw [opened] at found'
    cases found'
    rw [JobIndex.statusWritten_status]
    exact read
  · simp only [here, if_false]
    exact after.extend fun same => here (same ▸ after.id)

theorem Repairing.update (rep : Repairing store d ix₀ done ix) (mem : row ∈ ix₀.rows) (gone : row ∈ done)
    {u : IndexUpdate} (ok : ix.update row.id u = .ok ix') : Repairing store d ix₀ done ix' := by
  obtain ⟨f, keeps, rfl⟩ := JobIndex.update_modifies ok
  unfold Repairing at rep ⊢
  show List.Forall₂ _ _ (ix.rows.map _)
  rw [List.forall₂_map_right_iff]
  refine ((List.forall₂_and_left _ _).2 ⟨fun a listed => (List.mem_filter.1 listed).1, rep⟩).imp
    fun a b ⟨inRows, after⟩ => ?_
  by_cases here : b.id = row.id
  · obtain rfl : a = row := eq_of_id_eq unique inRows mem (after.id ▸ here)
    simp only [here, if_true]
    obtain ⟨sameId, sameProject, samePath, sameStatus⟩ := keeps b
    have repaired := after.1 gone
    exact ⟨fun _ => ⟨sameId.trans repaired.id, sameProject.trans repaired.project,
      samePath.trans repaired.storagePath, fun r found => sameStatus ▸ repaired.status r found⟩,
      fun out => absurd gone out⟩
  · simp only [here, if_false]
    exact after

end Repairing

theorem JobFilter.admits_ofProject (p : String) (recursive : Bool) (r : IndexRow) :
    (JobFilter.ofProject p recursive).admits r = JobFilter.projectMatches p recursive r.project := by
  simp [JobFilter.admits, JobFilter.ofProject]

theorem JobIndex.query_ofProject (ix : JobIndex) (p : String) (recursive : Bool) :
    ix.query (.ofProject p recursive) = ix.rows.filter fun r => JobFilter.projectMatches p recursive r.project := by
  show ix.rows.filter (JobFilter.ofProject p recursive).admits = _
  congr 1
  funext r
  exact JobFilter.admits_ofProject p recursive r

/-- A project's rows after the repair are the rows it listed before and kept, in order. -/
theorem Repairing.query {store : RecordStore} {d : Disk} {ix₀ ix : JobIndex} {done : List IndexRow}
    (rep : Repairing store d ix₀ done ix) (p : String) (recursive : Bool) :
    List.Forall₂ (RowAfter store d done) ((ix₀.query (.ofProject p recursive)).filter (kept store d done))
      (ix.query (.ofProject p recursive)) := by
  rw [JobIndex.query_ofProject, JobIndex.query_ofProject, List.filter_comm]
  exact List.rel_filter (fun a b after => by simp [RowAfter.project after]) rep

theorem repairReport_nil (store : RecordStore) (d : Disk) : repairReport store d [] = {} := rfl

/-- Going over one more row adds at most one entry to the report. -/
theorem repairReport_append (store : RecordStore) (d : Disk) (done : List IndexRow) (row : IndexRow) :
    repairReport store d (done ++ [row]) =
      { updated := (repairReport store d done).updated ++
          (((finding store d row.storagePath).stored.filter (· != row.status)).map
            fun st => (row.id, row.status, st)).toList
        removed := (repairReport store d done).removed ++
          if (finding store d row.storagePath).isMissing then [row.id] else []
        skipped := (repairReport store d done).skipped ++
          if (finding store d row.storagePath).isUnopened then [row.id] else [] } := by
  simp only [repairReport, List.filterMap_append, List.filter_append, List.map_append, RepairReport.mk.injEq]
  refine ⟨?_, ?_, ?_⟩
  · cases moved : (finding store d row.storagePath).stored.filter (· != row.status) <;> simp [moved]
  · cases missing : (finding store d row.storagePath).isMissing <;> simp [missing]
  · cases unopened : (finding store d row.storagePath).isUnopened <;> simp [unopened]

/-! ### The state a repair runs through -/

/-- What holds once the repair that started in `v` went over the rows `done` and gathered the
report `rep`, in the state `s`: only the index and the disk changed, the disk shows the
records it showed, the report is that of the rows gone over, and the index is as the repair
leaves it. -/
structure RepairState (v : JobSystem) (done : List IndexRow) (rep : RepairReport) (s : JobSystem) : Prop where
  frame : s = { v with index := s.index, disk := s.disk }
  disk : Disk.Reopened v.disk s.disk
  report : rep = repairReport ⟨v.config.storage⟩ v.disk done
  index : Repairing ⟨v.config.storage⟩ v.disk v.index done s.index

namespace RepairState

variable {v s s' : JobSystem} {done : List IndexRow} {rep : RepairReport} {row : IndexRow}

theorem start (v : JobSystem) : RepairState v [] {} v :=
  ⟨rfl, .refl _, (repairReport_nil _ _).symm, repairing_start⟩

theorem config (st : RepairState v done rep s) : s.config = v.config := by
  rw [st.frame]

theorem finding_eq (st : RepairState v done rep s) (path : String) :
    finding ⟨s.config.storage⟩ s.disk path = finding ⟨v.config.storage⟩ v.disk path := by
  rw [st.config, finding_reopened st.disk]

theorem unreadable_iff (st : RepairState v done rep s) (row : IndexRow) :
    Unreadable ⟨s.config.storage⟩ s.disk row ↔ Unreadable ⟨v.config.storage⟩ v.disk row := by
  simp only [Unreadable, st.finding_eq]

variable {path : String}

theorem reopen (st : RepairState v done rep s) (opening : Reopening s s' path) : RepairState v done rep s' := by
  rcases opening with rfl | ⟨dir, rfl⟩
  · exact st
  · exact ⟨by rw [st.frame], st.disk.trans (Disk.reopened_put dir), st.report, st.index⟩

variable (unique : (v.index.rows.map (·.id)).Nodup) (listed : row ∈ v.index.rows) (fresh : row ∉ done)
include unique listed fresh

theorem delete (st : RepairState v done rep s) (missing : finding ⟨v.config.storage⟩ v.disk row.storagePath = .missing) :
    RepairState v (done ++ [row]) { rep with removed := rep.removed ++ [row.id] }
      { s with index := (s.index.delete row.id).1 } := by
  refine ⟨?_, st.disk, ?_, st.index.delete unique listed fresh missing⟩
  · rw [st.frame]
  · rw [repairReport_append, st.report]
    simp [missing, Finding.isMissing, Finding.isUnopened, Finding.stored]

omit unique listed in
/-- A row whose record does not open is skipped and reported. -/
theorem skip (st : RepairState v done rep s)
    (unopened : finding ⟨v.config.storage⟩ v.disk row.storagePath = .unopened) :
    RepairState v (done ++ [row]) { rep with skipped := rep.skipped ++ [row.id] } s := by
  refine ⟨st.frame, st.disk, ?_, st.index.keep fresh (by simp [unopened, Finding.isMissing]) ?_⟩
  · rw [repairReport_append, st.report]
    simp [unopened, Finding.isMissing, Finding.isUnopened, Finding.stored]
  · intro r found
    rw [unopened] at found
    cases found

omit unique listed in
/-- A row whose record holds the row's status stays as it is. -/
theorem same {r : Record} (st : RepairState v done rep s)
    (found : finding ⟨v.config.storage⟩ v.disk row.storagePath = .opened r)
    (read : r.storedStatus = .ok row.status) : RepairState v (done ++ [row]) rep s := by
  refine ⟨st.frame, st.disk, ?_, st.index.keep fresh (by simp [found, Finding.isMissing]) ?_⟩
  · rw [repairReport_append, st.report]
    simp [found, Finding.isMissing, Finding.isUnopened, Finding.stored, read, Except.toOption, Option.filter_some]
  · intro r' found'
    rw [found] at found'
    cases found'
    exact read

/-- A row whose record holds another status that reads is moved to it and reported. -/
theorem force {r : Record} (st : RepairState v done rep s)
    (found : finding ⟨v.config.storage⟩ v.disk row.storagePath = .opened r)
    {st' : Status} (read : r.storedStatus = .ok st') (moved : st' ≠ row.status) :
    ∃ ix', s.index.forceStatus row.id st' = .ok ix' ∧
      RepairState v (done ++ [row]) { rep with updated := rep.updated ++ [(row.id, row.status, st')] }
        { s with index := ix' } := by
  obtain ⟨ix', forced, repairing⟩ := st.index.force unique listed fresh found read
  refine ⟨ix', forced, ⟨by rw [st.frame], st.disk, ?_, repairing⟩⟩
  rw [repairReport_append, st.report]
  simp [found, Finding.isMissing, Finding.isUnopened, Finding.stored, read, Except.toOption, Option.filter_some,
    bne_iff_ne.2 moved]

omit fresh in
theorem update (st : RepairState v done rep s) (gone : row ∈ done) {u : IndexUpdate} {ix' : JobIndex}
    (ok : s.index.update row.id u = .ok ix') : RepairState v done rep { s with index := ix' } :=
  ⟨by rw [st.frame], st.disk, st.report, st.index.update unique listed gone ok⟩

end RepairState

/-! ### One row, then every row -/

theorem Record.storedFailure_of_readOpt {r : Record} {e : JobError} (failed : r.readOpt Layout.failure = .error e) :
    r.storedFailure = .error e := by
  simp [Record.storedFailure, failed, bind, Except.bind]

theorem Record.storedFailure_of_read {r : Record} {v : Json} {e : JobError}
    (found : r.readOpt Layout.failure = .ok (some v)) (failed : readValue Failure.read v = .error e) :
    r.storedFailure = .error e := by
  simp [Record.storedFailure, found, failed, bind, Except.bind, Option.mapM]

theorem JobIndex.forceStatus_ne_error {ix : JobIndex} {i : Nat} (present : ix.get? i ≠ none) (st : Status)
    (e : JobError) : ix.forceStatus i st ≠ .error e := by
  obtain ⟨r, found⟩ := Option.ne_none_iff_exists'.1 present
  rw [JobIndex.forceStatus_found found]
  intro same
  cases same

theorem JobIndex.forceStatus_keeps_row {ix ix' : JobIndex} {i : Nat} {st : Status}
    (forced : ix.forceStatus i st = .ok ix') : ix'.get? i ≠ none := by
  cases found : ix.get? i with
  | none => simp [JobIndex.forceStatus, found, throw, throwThe, MonadExceptOf.throw] at forced
  | some r =>
    obtain ⟨ix'', forced', there⟩ := (JobIndex.statusWrite_row found st st).1
    rw [forced] at forced'
    cases forced'
    simp [there]

/-- Copying a record's failure into a row that is there changes at most that row, and fails
only where the failure does not read. -/
theorem copyFailure_spec (id : Nat) (r : Record) (u : JobSystem) :
    ⦃fun s => ⌜s = u ∧ u.index.get? id ≠ none⌝⦄ copyFailure id r
    ⦃post⟨fun _ s => ⌜s = u ∨ ∃ upd ix', u.index.update id upd = .ok ix' ∧ s = { u with index := ix' }⌝,
      fun _ _ => ⌜∃ e, r.storedFailure = .error e⌝⟩⦄ := by
  mvcgen [copyFailure, Sys.updateRow, -Sys.updateRow_keepsHeld]
  -- the failure reads, and the row is given its summary
  · rename_i ix updated _
    obtain ⟨rfl, -⟩ := ‹_ = u ∧ _›
    exact .inr ⟨_, ix, updated, rfl⟩
  · rename_i e failed
    obtain ⟨rfl, present⟩ := ‹_ = u ∧ _›
    exact absurd failed (JobIndex.update_ne_error present e)
  -- the failure does not read
  · rename_i found v some e failed
    exact ⟨e, Record.storedFailure_of_read (some ▸ found) failed⟩
  -- the record holds no failure
  · exact .inl ‹_ = u ∧ _›.1
  · rename_i e failed
    exact ⟨e, Record.storedFailure_of_readOpt failed⟩

/-- What following the record `r` does to a row from `u`: nothing where the record holds the
row's status, and otherwise a move of the row to the status the record holds, which may then be
given a reason. -/
def Followed (u : JobSystem) (row : IndexRow) (r : Record) (rep rep' : RepairReport) (s : JobSystem) : Prop :=
  r.storedStatus = .ok row.status ∧ rep' = rep ∧ s = u ∨
    ∃ st ix, r.storedStatus = .ok st ∧ st ≠ row.status ∧ u.index.forceStatus row.id st = .ok ix ∧
      rep' = { rep with updated := rep.updated ++ [(row.id, row.status, st)] } ∧
      (s = { u with index := ix } ∨ ∃ upd ix', ix.update row.id upd = .ok ix' ∧ s = { u with index := ix' })

theorem followRecord_cases (rep : RepairReport) (row : IndexRow) (r : Record) (u : JobSystem) :
    ⦃fun s => ⌜s = u ∧ u.index.get? row.id ≠ none⌝⦄ followRecord rep row r
    ⦃post⟨fun rep' s => ⌜Followed u row r rep rep' s⌝, fun _ _ => ⌜Stops r row⌝⟩⦄ := by
  have copies := fun w => copyFailure_spec row.id r w
  mvcgen [followRecord, Sys.storedStatus_eq, Sys.forceStatus, copies, -Sys.storedStatus_keepsHeld,
    -Sys.forceStatus_keepsHeld]
  -- the record holds the row's status
  · rename_i start st read same
    obtain ⟨rfl, -⟩ := start
    exact .inl ⟨same ▸ read, rfl, rfl⟩
  -- the row moved to `aborted` is there to be given a reason
  · rename_i forced _ _ _
    exact ⟨trivial, JobIndex.forceStatus_keeps_row forced⟩
  · rename_i start st read moved ix forced _ _ _ _ _ copied
    obtain ⟨rfl, -⟩ := start
    exact .inr ⟨st, ix, read, moved, forced, rfl, copied⟩
  · rename_i read moved _ forced _ _ aborted _ _
    exact fun failed => .inr ⟨aborted ▸ read, fun same => moved (aborted.trans same.symm), failed⟩
  -- the record holds another status than `aborted`
  · rename_i start st read moved ix forced _ _ _
    obtain ⟨rfl, -⟩ := start
    exact .inr ⟨st, ix, read, moved, forced, rfl, .inl rfl⟩
  · rename_i start _ _ _ e failed
    exact absurd failed (JobIndex.forceStatus_ne_error (start.1 ▸ start.2) _ e)
  -- the status does not read
  · rename_i e failed
    exact .inl ⟨e, failed⟩

section Found

variable {store : RecordStore} {d : Disk} {p : String}

theorem finding_missing (gone : RecordStore.exists d p = false) : finding store d p = .missing := by
  simp [finding, gone]

theorem finding_unopened (there : RecordStore.exists d p = true) {e : JobError} (failed : store.opened d p = .error e) :
    finding store d p = .unopened := by
  simp [finding, there, failed]

theorem finding_opened (there : RecordStore.exists d p = true) {r : Record} (opened : store.opened d p = .ok r) :
    finding store d p = .opened r := by
  simp [finding, there, opened]

end Found

/-- What repairing one row does from `u`, by what it finds of the row's record: a row whose
record is missing is deleted; opening the record may make a plain directory an empty database;
a row whose record does not open is skipped; and a row whose record opens follows it. -/
theorem repairRow_cases (rep : RepairReport) (row : IndexRow) (u : JobSystem) :
    ⦃fun s => ⌜s = u ∧ u.index.get? row.id ≠ none⌝⦄ repairRow rep row
    ⦃post⟨fun rep' s => ⌜finding ⟨u.config.storage⟩ u.disk row.storagePath = .missing ∧
          rep' = { rep with removed := rep.removed ++ [row.id] } ∧ s = { u with index := (u.index.delete row.id).1 } ∨
        ∃ u', Reopening u u' row.storagePath ∧
          (finding ⟨u.config.storage⟩ u.disk row.storagePath = .unopened ∧
              rep' = { rep with skipped := rep.skipped ++ [row.id] } ∧ s = u' ∨
            ∃ r, finding ⟨u.config.storage⟩ u.disk row.storagePath = .opened r ∧ Followed u' row r rep rep' s)⌝,
      fun _ _ => ⌜Unreadable ⟨u.config.storage⟩ u.disk row⌝⟩⦄ := by
  have deletes := Sys.deleteRow_exact
  have opens := Sys.attempt_openRecord
  have follows := fun r w => followRecord_cases rep row r w
  mvcgen -trivial [repairRow, Sys.disk, deletes, opens, follows, -Sys.deleteRow_keepsHeld, -Sys.attempt_keepsHeld]
  -- the record is missing: the row is deleted
  · rename_i start gone _ _ deleted
    obtain ⟨rfl, -⟩ := start
    exact .inl ⟨finding_missing (by simpa using gone), trivial, deleted⟩
  · exact fun _ no => no.elim
  -- the record does not open: the row is skipped
  · rename_i start there _ _ _ s opened
    obtain ⟨rfl, -⟩ := start
    exact .inr ⟨s, opened.2, .inl ⟨finding_unopened (by simpa using there) opened.1.symm, trivial, rfl⟩⟩
  -- the record opens: the row follows it
  · rename_i start _ _ _ _ _ opened
    exact ⟨trivial, opened.2.index ▸ start.1 ▸ start.2⟩
  · rename_i start there _ r _ s opened _ _
    obtain ⟨rfl, -⟩ := start
    exact fun followed => .inr ⟨s, opened.2, .inr ⟨r, finding_opened (by simpa using there) opened.1.symm,
      followed⟩⟩
  · rename_i start there _ r _ _ opened _ _
    obtain ⟨rfl, -⟩ := start
    exact fun stops => ⟨r, finding_opened (by simpa using there) opened.1.symm, stops⟩

namespace RepairState

variable {v s s' : JobSystem} {done : List IndexRow} {rep rep' : RepairReport} {row : IndexRow}
  (unique : (v.index.rows.map (·.id)).Nodup) (listed : row ∈ v.index.rows) (fresh : row ∉ done)
include unique listed fresh

/-- A row that follows its record, which opened, ends up as the repair leaves it. -/
theorem follow (st : RepairState v done rep s) {r : Record}
    (found : finding ⟨v.config.storage⟩ v.disk row.storagePath = .opened r) (followed : Followed s row r rep rep' s') :
    RepairState v (done ++ [row]) rep' s' := by
  rcases followed with ⟨read, rfl, rfl⟩ | ⟨stored, ix, read, moved, forced, rfl, copied⟩
  · exact st.same fresh found read
  · obtain ⟨ix', forced', moved'⟩ := st.force unique listed fresh found read moved
    rw [forced] at forced'
    cases forced'
    rcases copied with rfl | ⟨upd, ix'', updated, rfl⟩
    · exact moved'
    · exact moved'.update unique listed (by simp) updated

/-- Repairing a row the repair has not gone over keeps the state, or stops at a record it
cannot read through. -/
theorem step (st : RepairState v done rep s) :
    ⦃fun t => ⌜t = s⌝⦄ repairRow rep row
    ⦃post⟨fun rep' t => ⌜RepairState v (done ++ [row]) rep' t⌝,
      fun _ _ => ⌜Unreadable ⟨v.config.storage⟩ v.disk row⌝⟩⦄ := by
  obtain ⟨row', there, -⟩ := st.index.get?_kept unique listed (by simp [kept, fresh])
  refine Sys.triple_conseq (repairRow_cases rep row s) (fun t start => ⟨start, by simp [there]⟩) ?_ ?_
  · rintro rep' t (⟨missing, rfl, rfl⟩ | ⟨u, opening, ⟨unopened, rfl, rfl⟩ | ⟨r, found, followed⟩⟩)
    · exact st.delete unique listed fresh (st.finding_eq _ ▸ missing)
    · exact (st.skip fresh (st.finding_eq _ ▸ unopened)).reopen opening
    · exact (st.reopen opening).follow unique listed fresh (st.finding_eq _ ▸ found) followed
  · rintro _ t unread
    exact (st.unreadable_iff row).1 unread

end RepairState

/-- Going over rows of the index, each with an id of its own, in turn. -/
theorem repairRows {v : JobSystem} (unique : (v.index.rows.map (·.id)).Nodup) {rows : List IndexRow}
    (sub : rows.Sublist v.index.rows) :
    ⦃fun s => ⌜RepairState v [] {} s⌝⦄ rows.foldlM repairRow {}
    ⦃post⟨fun rep s => ⌜RepairState v rows rep s⌝,
      fun _ _ => ⌜∃ row ∈ rows, Unreadable ⟨v.config.storage⟩ v.disk row⌝⟩⦄ := by
  let inv : Invariant rows RepairReport (.except Stop (.arg JobSystem .pure)) :=
    post⟨fun loop s => ⌜RepairState v ( List.Cursor.prefix loop.1) loop.2 s⌝,
      fun _ _ => ⌜∃ row ∈ rows, Unreadable ⟨v.config.storage⟩ v.disk row⌝⟩
  refine Spec.foldlM_list inv fun pref cur suff split rep => ?_
  obtain ⟨listed, row, fresh⟩ := JobIndex.cursor unique sub split
  exact Sys.triple_pinned fun s st => Sys.triple_conseq (st.step unique row fresh) (fun _ same => same)
    (fun _ _ after => after) fun _ _ unread => ⟨cur, listed, unread⟩

/-- A repair of a project tree whose index rows have an id each goes over every row of the
tree and ends in the state that going over them describes. -/
theorem repair_spec (p : Project) (v : JobSystem) (unique : (v.index.rows.map (·.id)).Nodup) :
    ⦃fun s => ⌜s = v⌝⦄ p.repair
    ⦃post⟨fun rep s => ⌜RepairState v (v.index.query (.ofProject p.path true)) rep s⌝,
      fun _ _ => ⌜∃ row ∈ v.index.query (.ofProject p.path true), Unreadable ⟨v.config.storage⟩ v.disk row⌝⟩⦄ := by
  have rows := repairRows unique (v.index.query_sublist (.ofProject p.path true))
  mvcgen [Project.repair, Sys.query, -Spec.foldlM_list, -Sys.query_keepsHeld]
  rename_i s start
  subst start
  exact rows s (RepairState.start s)

/-! ### What a repair leaves -/

namespace RepairState

variable {v s : JobSystem} {done : List IndexRow} {rep : RepairReport} {row : IndexRow}

theorem repairReport_eq (st : RepairState v done rep s) (rows : List IndexRow) :
    repairReport ⟨s.config.storage⟩ s.disk rows = repairReport ⟨v.config.storage⟩ v.disk rows := by
  simp only [repairReport, st.finding_eq]

variable (unique : (v.index.rows.map (·.id)).Nodup) (listed : row ∈ v.index.rows) (gone : row ∈ done)
include unique listed gone

/-- A row the repair went over whose record opens holds the status its record holds. -/
theorem get?_opened (st : RepairState v done rep s) {r : Record}
    (found : finding ⟨v.config.storage⟩ v.disk row.storagePath = .opened r) :
    ∃ row', s.index.get? row.id = some row' ∧ r.storedStatus = .ok row'.status := by
  obtain ⟨row', here, after⟩ := st.index.get?_kept unique listed (by simp [kept, gone, found, Finding.isMissing])
  exact ⟨row', here, (after.1 gone).status r found⟩

theorem get?_missing (st : RepairState v done rep s)
    (missing : finding ⟨v.config.storage⟩ v.disk row.storagePath = .missing) : s.index.get? row.id = none :=
  st.index.get?_gone unique listed gone missing

end RepairState

section Again

variable {store : RecordStore} {d : Disk} {done : List IndexRow} {a b : IndexRow}

theorem RowRepaired.readable (repaired : RowRepaired (finding store d a.storagePath) a b) :
    ¬ Unreadable store d b := by
  rintro ⟨r, found, unread⟩
  rw [repaired.storagePath] at found
  have read := repaired.status r found
  rcases unread with ⟨e, failed⟩ | ⟨aborted, moved, -⟩
  · rw [read] at failed
    cases failed
  · rw [read] at aborted
    exact moved (Except.ok.inj aborted)

/-- Going again over the rows a repair made, on the disk it found them on: nothing is moved or
deleted, and the rows skipped are the rows skipped before. -/
theorem repairReport_repaired {rows rows' : List IndexRow} (paired : List.Forall₂ (RowAfter store d done) rows rows')
    (gone : ∀ a ∈ rows, a ∈ done) (present : ∀ a ∈ rows, (finding store d a.storagePath).isMissing = false) :
    repairReport store d rows' = { skipped := (repairReport store d rows).skipped } := by
  -- each row made is paired with a row gone over, whose record is there
  have made : ∀ b ∈ rows', ∃ a ∈ rows, RowRepaired (finding store d a.storagePath) a b := by
    intro b mem
    obtain ⟨a, listed, after⟩ := exists_of_mem_forall₂ paired mem
    exact ⟨a, listed, after.1 (gone a listed)⟩
  simp only [repairReport, RepairReport.mk.injEq]
  refine ⟨List.filterMap_eq_nil_iff.2 fun b mem => ?_, ?_, ?_⟩
  · obtain ⟨a, -, repaired⟩ := made b mem
    rw [repaired.storagePath]
    cases found : finding store d a.storagePath with
    | opened r => simp [Finding.stored, repaired.status r found, Except.toOption]
    | missing => rfl
    | unopened => rfl
  · have none : rows'.filter (fun row => (finding store d row.storagePath).isMissing) = [] := by
      refine List.filter_eq_nil_iff.2 fun b mem => ?_
      obtain ⟨a, listed, repaired⟩ := made b mem
      simp [repaired.storagePath, present a listed]
    rw [none, List.map_nil]
  · refine ids_of_forall₂ (fun _ _ after => RowAfter.id after) (List.rel_filter (fun a b after => ?_) paired)
    simp only [after.storagePath]

theorem repairReport_kept (rows : List IndexRow) :
    (repairReport store d (rows.filter (kept store d done))).skipped = (repairReport store d rows).skipped := by
  simp only [repairReport, List.filter_filter]
  congr 1
  refine List.filter_congr fun a _ => ?_
  cases found : finding store d a.storagePath <;> simp [found, kept, Finding.isMissing, Finding.isUnopened]

end Again

/-- Once a repair went over every row of a project tree, a second repair of the tree changes
no row and reports only the rows the first one skipped. -/
theorem RepairState.repair_again {v s : JobSystem} {rep : RepairReport} {p : Project}
    (st : RepairState v (v.index.query (.ofProject p.path true)) rep s) (unique : (v.index.rows.map (·.id)).Nodup) :
    (p.repair.run.run s).1 = .ok { skipped := rep.skipped } := by
  have paired := st.index.query p.path true
  have gone : ∀ a ∈ (v.index.query (.ofProject p.path true)).filter
      (kept ⟨v.config.storage⟩ v.disk (v.index.query (.ofProject p.path true))), a ∈ v.index.query (.ofProject p.path true) :=
    fun a mem => (List.mem_filter.1 mem).1
  have present : ∀ a ∈ (v.index.query (.ofProject p.path true)).filter
      (kept ⟨v.config.storage⟩ v.disk (v.index.query (.ofProject p.path true))),
      (finding ⟨v.config.storage⟩ v.disk a.storagePath).isMissing = false := by
    intro a mem
    obtain ⟨listed, there⟩ := List.mem_filter.1 mem
    simpa [kept, listed] using there
  have again := Sys.of_triple (repair_spec p s (st.index.nodup unique)) s rfl
  rcases result : p.repair.run.run s with ⟨_ | rep', s'⟩ <;> rw [result] at again
  · -- every row the second repair meets holds the status of its record, so it reads through
    obtain ⟨b, mem, unread⟩ := again
    obtain ⟨a, kept, after⟩ := exists_of_mem_forall₂ paired mem
    exact ((after.1 (gone a kept)).readable ((st.unreadable_iff b).1 unread)).elim
  · rw [again.report, st.repairReport_eq, repairReport_repaired paired gone present, repairReport_kept, st.report]

/-- A system whose one row, of job 1 in the project `/p`, has a plain directory where its
record should be. -/
def unopenedRecordSystem : JobSystem :=
  { (default : JobSystem) with
    index :=
      { rows := [{ (default : IndexRow) with id := 1, project := "/p", jobName := "j", storagePath := "/p/j.jrk" }]
        lastId := 1 }
    disk := { nodes := [(["p"], .dir), (["p", "j.jrk"], .dir)] } }

/-- The first repair of that system opens the directory as an empty database and skips the
row, and so does the second. -/
theorem repair_again_skips_unopened :
    let twice : Sys (RepairReport × RepairReport) := do
      let first ← Project.repair ⟨"/p"⟩
      let second ← Project.repair ⟨"/p"⟩
      pure (first, second)
    ((twice.run.run unopenedRecordSystem).1.toOption.map fun reports =>
      (reports.1.skipped, reports.2.updated, reports.2.removed, reports.2.skipped)) = some ([1], [], [], [1]) := by
  decide +kernel

end Project

end JobFlow

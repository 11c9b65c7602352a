import Mathlib
import JobFlow.Proofs.Index.Names
import JobFlow.Proofs.System.Masters
import JobFlow.Proofs.System.Transitions

/-!
# The first save of a job

The first save of a handle gives the job an id: it checks the input and the settings, refuses
a name that is a sub-project or whose record is already on disk, adds an `initialized` row,
writes a new record at `created`, and moves the row to `created`.
-/

open Std.Do

set_option mvcgen.warning false

namespace JobFlow

namespace Disk

variable {d d' : Disk} {x : List String}

/-- Making directories leaves a directory, or a record database, at the path and at every
path above it, and keeps every one there was. -/
theorem createDirAll_dirs (ok : d.createDirAll x = .ok d') :
    (∀ q, (∃ m, d.entry? q = some m ∧ m.isDir) → ∃ m, d'.entry? q = some m ∧ m.isDir) ∧
      ∀ q ∈ prefixes x ++ [x], ∃ m, d'.entry? q = some m ∧ m.isDir := by
  unfold createDirAll at ok
  generalize prefixes x ++ [x] = qs at ok
  induction qs generalizing d with
  | nil =>
    cases ok
    exact ⟨fun _ dir => dir, by simp⟩
  | cons q rest ih =>
    rw [List.foldlM_cons] at ok
    obtain ⟨d₁, step, later⟩ := bind_eq_ok.1 ok
    obtain ⟨kept, made⟩ := ih later
    -- the step leaves a directory at `q` and keeps the others; the later steps keep it
    have first : (∀ q', (∃ m, d.entry? q' = some m ∧ m.isDir) → ∃ m, d₁.entry? q' = some m ∧ m.isDir) ∧
        ∃ m, d₁.entry? q = some m ∧ m.isDir := by
      by_cases top : q.isEmpty
      · simp only [top, if_true, pure, Except.pure, Except.ok.injEq] at step
        subst step
        exact ⟨fun _ dir => dir, .dir, by simp [ entry?, top], rfl⟩
      have full : q ≠ [] := by simpa using top
      simp only [top, Bool.false_eq_true, if_false] at step
      cases found : d.lookup q with
      | error e => simp [found, throw, throwThe, MonadExceptOf.throw] at step
      | ok n =>
        cases n with
        | some n =>
          by_cases dir : n.isDir
          · simp only [found, dir, if_true, pure, Except.pure, Except.ok.injEq] at step
            subst step
            exact ⟨fun _ dir => dir, n, (lookup_eq_some.1 found).2, dir⟩
          · simp [found, dir, throw, throwThe, MonadExceptOf.throw] at step
        | none =>
          simp only [found, pure, Except.pure, Except.ok.injEq] at step
          subst step
          refine ⟨fun q' ⟨m, here, dir⟩ => ?_, .dir, by rw [entry_put, if_pos ⟨full, rfl⟩], rfl⟩
          rw [entry_put]
          split
          · exact ⟨.dir, rfl, rfl⟩
          · exact ⟨m, here, dir⟩
    refine ⟨fun q' dir => kept q' (first.1 q' dir), fun q' mem => ?_⟩
    rcases List.mem_cons.1 mem with rfl | later
    · exact kept q' first.2
    · exact made q' later

theorem lookup_createDirAll (ok : d.createDirAll x = .ok d') :
    ∃ m, d'.lookup x = .ok (some m) ∧ m.isDir := by
  have made := (createDirAll_dirs ok).2
  obtain ⟨m, here, dir⟩ := made x (List.mem_append_right _ (List.mem_singleton_self x))
  exact ⟨m, lookup_eq_some.2 ⟨fun q mem => made q (List.mem_append_left _ mem), here⟩, dir⟩

theorem node?_drop_self (full : x ≠ []) : (d.drop x).node? x = none := by
  cases found : (d.drop x).lookup x with
  | error e => simp [node?, found]
  | ok n =>
    cases n with
    | none => simp [node?, found]
    | some m =>
      have here := (lookup_eq_some.1 found).2
      rw [entry_drop, if_pos ⟨full, List.prefix_refl x⟩] at here
      cases here

end Disk

namespace RecordStore

variable {d d' : Disk} {p : String}

theorem locate_ne_nil (fresh : RecordStore.exists d p = false) : Disk.locate p ≠ [] := by
  intro top
  simp [RecordStore.exists, top, Disk.isDir, Disk.node?, Disk.lookup, Disk.prefixes, Disk.entry?, Node.isDir]
    at fresh

theorem openDb_new {ps : Pairs} (fresh : RecordStore.exists d p = false) (ok : openDb d p = .ok (d', ps)) :
    ps = [] ∧ d'.lookup (Disk.locate p) = .ok (some (.records [])) := by
  unfold openDb at ok
  simp only [throw, throwThe, MonadExceptOf.throw, pure, Except.pure] at ok
  -- a database or a directory at the path would be a record
  have notDir : ∀ n : Node, n.isDir → d.lookup (Disk.locate p) ≠ .ok (some n) := fun n dir found => by
    simp [RecordStore.exists, Disk.isDir, Disk.node?, found, dir] at fresh
  split at ok
  · cases ok
  · exact absurd ‹_› (notDir _ rfl)
  · exact absurd ‹_› (notDir _ rfl)
  · cases ok
  · split at ok
    · rename_i made
      cases ok
      obtain ⟨m, found, -⟩ := Disk.lookup_createDirAll made
      exact ⟨rfl, Disk.lookup_put_self (Disk.lookup_eq_some.1 found).1 (locate_ne_nil fresh)⟩
    · cases ok

/-- Removing a record leaves no record at its path, whether the removal goes through or not. -/
theorem exists_remove (full : Disk.locate p ≠ []) :
    match RecordStore.remove d p false with
    | .ok d' => RecordStore.exists d' p = false
    | .error _ => RecordStore.exists d p = false := by
  -- where the path is missing or blocked, nothing is reachable there
  have unreachable : ∀ e, d.lookup (Disk.locate p) = .error e → RecordStore.exists d p = false := fun e found => by
    simp [RecordStore.exists, Disk.isDir, Disk.node?, found]
  unfold RecordStore.remove Disk.removeDirAll
  cases found : d.lookup (Disk.locate p) with
  | error e =>
    by_cases missing : e = .noEntry
    · subst missing
      simpa [bind, Except.bind, pure, Except.pure, found] using unreachable _ found
    · cases e <;> simp_all [bind, Except.bind, throw, throwThe, MonadExceptOf.throw]
  | ok n =>
    rcases n with _ | _ | _ | _
    · simpa [bind, Except.bind, throw, throwThe, MonadExceptOf.throw, pure, Except.pure, found] using
        show RecordStore.exists d p = false by simp [RecordStore.exists, Disk.isDir, Disk.node?, found]
    · simp [bind, Except.bind, pure, Except.pure, RecordStore.exists, Disk.isDir, Disk.node?_drop_self full]
    · simp [bind, Except.bind, throw, throwThe, MonadExceptOf.throw, RecordStore.exists, Disk.isDir, Disk.node?,
        found, Node.isDir]
    · simp [bind, Except.bind, pure, Except.pure, RecordStore.exists, Disk.isDir, Disk.node?_drop_self full]

end RecordStore

namespace JobIndex

variable {ix : JobIndex}

theorem find?_of_taken {p n : String} (free : ix.taken p n = false) : ix.find? p n = none := by
  simp only [taken, List.any_eq_false] at free
  exact List.find?_eq_none.2 fun r mem => by simpa using free r mem

theorem find?_delete_place {p n : String} (free : ix.taken p n = false) (row : IndexRow) :
    ((ix.place row).delete row.id).1.find? p n = none := by
  simp only [taken, List.any_eq_false] at free
  refine List.find?_eq_none.2 fun r mem => ?_
  obtain ⟨placed, other⟩ := List.mem_filter.1 mem
  rcases List.mem_cons.1 ((place_perm ix row).mem_iff.1 placed) with rfl | old
  · simp at other
  · simpa using free r old

theorem updateStatus_fullName (i id : Nat) (old new : Status) :
    ((ix.updateStatus i old new).1.get? id).map IndexRow.fullName = (ix.get? id).map IndexRow.fullName := by
  unfold updateStatus
  split
  · split
    · rw [get?_modify]
      swap
      · exact fun r => lifecycle_id _ _
      split
      · simp only [Option.map_map]
        congr 1
        funext r
        simp only [Function.comp, lifecycle_fullName]
        rfl
      · rfl
    · rfl
  · rfl

end JobIndex

namespace Layout

open RecordPath

/-- The segments of the bookkeeping's path. -/
def genericAt : List String := ["generic"]

theorem valid_genericAt : Valid genericAt := by unfold Valid; decide

theorem normalize_generic : normalize generic = .ok (ofSegments genericAt) := by
  have spelled : generic = ofSegments genericAt := by decide +kernel
  rw [spelled]
  exact normalize_ofSegments valid_genericAt

end Layout

namespace GenericRecord

theorem toJson_sorted (g : GenericRecord) : g.toJson.Sorted := by
  unfold toJson
  -- the server settings and the failure are objects in order; every other member is a leaf
  cases g.failure with
  | none =>
    refine Json.sorted_mkObj fun kv mem => ?_
    simp only [List.mem_cons, List.not_mem_nil, or_false] at mem
    rcases mem with rfl | rfl | rfl | rfl | rfl | rfl | rfl | rfl <;>
      first
      | exact g.server.toJson_sorted
      | exact Json.Sorted.of_not_obj fun fs => by simp [Json.ofOptNat_ne_obj, Json.ofNat]
  | some f =>
    refine Json.sorted_mkObj fun kv mem => ?_
    simp only [List.mem_append, List.mem_cons, List.not_mem_nil, or_false] at mem
    rcases mem with (rfl | rfl | rfl | rfl | rfl | rfl | rfl | rfl) | rfl <;>
      first
      | exact g.server.toJson_sorted
      | exact f.toJson_sorted
      | exact Json.Sorted.of_not_obj fun fs => by simp [Json.ofOptNat_ne_obj, Json.ofNat]

theorem toJson_status (g : GenericRecord) : g.toJson.at? ["status"] = some (.str g.status.name) := by
  unfold toJson
  cases g.failure <;> simp [Json.mkObj, Json.at?_cons, Json.field?_eq_lookup, Json.fields, Json.lookup_insertField]

end GenericRecord

/-- The writes of a new record leave the bookkeeping's status at the status's path. -/
theorem newRecordWrites_status {g : GenericRecord} {input t' : Json}
    (ok : [(Layout.generic, g.toJson), (Layout.input, input)].foldlM
      (fun t kv => (RecordTree.ScopedCall.write kv.1 kv.2).apply [] t) (.obj []) = .ok t') :
    t'.at? Layout.statusAt = some (.str g.status.name) := by
  simp only [List.foldlM_cons, List.foldlM_nil] at ok
  obtain ⟨t₁, first, rest⟩ := Disk.bind_eq_ok.1 ok
  obtain ⟨t₂, second, done⟩ := Disk.bind_eq_ok.1 rest
  cases done
  rw [RecordTree.apply_write Layout.normalize_generic Layout.valid_genericAt] at first
  rw [RecordTree.apply_write Layout.normalize_input Layout.valid_inputAt] at second
  -- the input goes beside the bookkeeping, which holds the status below it
  rw [RecordTree.write_eq_setAt (by decide) second, RecordTree.write_eq_setAt (by decide) first,
    Json.at?_setAt_of_apart (by decide) (by decide), show Layout.statusAt = Layout.genericAt ++ ["status"] from rfl,
    Json.at?_setAt_append]
  exact g.toJson_status

theorem Record.rootMeta_empty (p : String) (cfg : StorageConfig) : (⟨p, [], cfg⟩ : Record).rootMeta = .ok none := by
  have empty : RecordPath.normalize "" = .ok "" := RecordPath.normalize_ofSegments RecordPath.valid_nil
  simp [Record.rootMeta, Record.groupMeta, empty, bind, Except.bind, Pairs.get?, pure, Except.pure]

/-- Opening the store's record where there is none gives an empty record in a new database. -/
theorem RecordStore.record_new {store : RecordStore} {d : Disk} {p : String} {a : Disk × Record}
    (fresh : RecordStore.exists d p = false) (ok : store.record d p = .ok a) :
    a.2 = ⟨p, [], store.config⟩ ∧ a.1.lookup (Disk.locate p) = .ok (some (.records [])) := by
  unfold RecordStore.record at ok
  obtain ⟨⟨d₁, ps⟩, opened, made⟩ := Disk.bind_eq_ok.1 ok
  cases made
  obtain ⟨rfl, found⟩ := RecordStore.openDb_new fresh opened
  exact ⟨rfl, found⟩

/-- Making a record where there is none: it gets its root tags and is stored at its path; only
the disk changes. -/
theorem Sys.createRecord_new (p typeName name version : String) (v : JobSystem) :
    ⦃fun s => ⌜s = v ∧ RecordStore.exists v.disk p = false⌝⦄ Sys.createRecord p typeName name version
    ⦃post⟨fun r s => ⌜(∃ d, s = { v with disk := d }) ∧ (∃ tags, r = ⟨p, [(RecordKey.group "", tags)], v.config.storage⟩) ∧
        s.disk.lookup (Disk.locate p) = .ok (some (.records r.pairs))⌝,
      fun e s => ⌜e.IsFault ∧ s = v⌝⟩⦄ := by
  mvcgen [Sys.createRecord, Sys.openDb, Sys.records, Sys.config, Sys.disk, Sys.setDisk, Sys.ofOutcome, Sys.fail,
    -Sys.createRecord_keepsHeld, -Sys.openDb_keepsHeld]
  all_goals obtain ⟨rfl, fresh⟩ := ‹_ = v ∧ RecordStore.exists v.disk p = false›
  -- the record opened where there was none is empty: it has no root tags, and gets them
  · obtain ⟨opened, -⟩ := RecordStore.record_new fresh ‹RecordStore.record _ _ _ = .ok _›
    have rooted := ‹Record.rootMeta _ = .ok _›
    rw [opened, Record.rootMeta_empty] at rooted
    simp_all
  · obtain ⟨opened, -⟩ := RecordStore.record_new fresh ‹RecordStore.record _ _ _ = .ok _›
    have rooted := ‹Record.rootMeta _ = .ok _›
    rw [opened, Record.rootMeta_empty] at rooted
    simp_all
  · obtain ⟨opened, found⟩ := RecordStore.record_new fresh ‹RecordStore.record _ _ _ = .ok _›
    simp +zetaDelta only [opened, Pairs.insert]
    exact ⟨⟨_, rfl⟩, ⟨_, rfl⟩, Disk.lookup_save found⟩
  · obtain ⟨opened, -⟩ := RecordStore.record_new fresh ‹RecordStore.record _ _ _ = .ok _›
    have rooted := ‹Record.rootMeta _ = .error _›
    rw [opened, Record.rootMeta_empty] at rooted
    cases rooted
  · exact ⟨trivial, rfl⟩


/-- Writing the record of a job saved for the first time where there is no record: when it goes
through, the record at the job's path reads back `created`. -/
theorem Job.writeNewRecord_spec (j : Job) (id : Nat) (inputSorted : ∀ kv ∈ j.input, kv.2.Sorted) (v : JobSystem) :
    ⦃fun s => ⌜s = v ∧ RecordStore.exists v.disk j.identity.storagePath = false⌝⦄ j.writeNewRecord id
    ⦃post⟨fun _ s => ⌜(∃ d, s = { v with disk := d }) ∧
        ∃ r, (⟨id, j.name, j.identity.storagePath⟩ : JobContext).Stored s r ∧
          (do readValue Status.read (← r.read Layout.status)) = .ok .created⌝,
      fun e s => ⌜e.IsFault ∧ ∃ d, s = { v with disk := d }⌝⟩⦄ := by
  have creates := fun typePath => Sys.createRecord_new j.identity.storagePath typePath j.name j.runnable.version v
  mvcgen [Job.writeNewRecord, Sys.ofOutcome, Sys.fail, creates, Sys.writeScoped, Sys.saveRecord, Sys.disk, Sys.setDisk,
    -Job.writeNewRecord_keepsHeld, -Sys.writeScoped_keepsHeld, -Sys.saveRecord_keepsHeld, -Sys.createRecord_keepsHeld]
  · rename_i r g _ made _ written _
    obtain ⟨⟨d, rfl⟩, ⟨tags, rfl⟩, found⟩ := made
    -- the new record holds the empty tree, so it holds what the writes make of it
    have wrote := Record.writes_holds (RecordTree.holds_new j.identity.storagePath v.config.storage tags)
      [(Layout.generic, g.toJson), (Layout.input, Json.mkObj j.input)] (fun kv mem => by
        simp only [List.mem_cons, List.not_mem_nil, or_false] at mem
        rcases mem with rfl | rfl
        · exact g.toJson_sorted
        · exact Json.sorted_mkObj inputSorted)
    cases applied : [(Layout.generic, g.toJson), (Layout.input, Json.mkObj j.input)].foldlM
        (fun t kv => (RecordTree.ScopedCall.write kv.1 kv.2).apply [] t) (.obj []) with
    | error e =>
      simp only [applied] at wrote
      rw [wrote] at written
      cases written
    | ok t' =>
      simp only [applied] at wrote
      obtain ⟨r', write, holds, path, config⟩ := wrote
      rw [write] at written
      cases written
      have stored := Disk.lookup_save (r := r') (by rw [path]; exact found)
      rw [path] at stored
      refine ⟨⟨_, rfl⟩, r', ⟨path, config, stored⟩, ?_⟩
      exact Record.readStatus holds (newRecordWrites_status applied)
  · obtain ⟨d, rfl⟩ := ‹(∃ d, _ = _) ∧ _›.1
    exact ⟨trivial, d, rfl⟩
  · rintro fault rfl
    exact ⟨fault, _, rfl⟩
  · obtain ⟨rfl, -⟩ := ‹_ = v ∧ _›
    exact ⟨trivial, _, rfl⟩

/-- A new row is added under an id that no row has, when its name is free in its project;
only the index changes. -/
theorem Sys.insertRow_new (n : NewRow) (v : JobSystem) :
    ⦃fun s => ⌜s = v⌝⦄ Sys.insertRow n
    ⦃post⟨fun i s => ⌜v.index.taken n.project n.jobName = false ∧ ∃ row : IndexRow, row.id = i ∧
        row.fullName = (n.project, n.jobName) ∧ row.status = n.status ∧ (∀ r ∈ v.index.rows, r.id ≠ i) ∧
        s = { v with index := v.index.place row }⌝,
      fun e s => ⌜e.IsFault ∧ s = v⌝⟩⦄ := by
  mvcgen [Sys.insertRow, Sys.index, Sys.setIndex, Sys.ofOutcome, Sys.fail, -Sys.insertRow_keepsHeld]
  all_goals obtain rfl := (‹_ = v›).symm
  · obtain ⟨free, fresh, row, rowId, rowProject, rowName, rowStatus, placed⟩ :=
      JobIndex.insert_ok ‹v.index.insert n = Except.ok _›
    refine ⟨free, row, rowId, by simp [IndexRow.fullName, rowProject, rowName], rowStatus, fresh, ?_⟩
    simp +zetaDelta only [placed]

/-- A status move of a row: refused as told when the index is set to fail moves to `new`, and
otherwise made on the index alone. -/
theorem Sys.updateStatus_exact (i : Nat) (old new : Status) (v : JobSystem) :
    ⦃fun s => ⌜s = v⌝⦄ Sys.updateStatus i old new
    ⦃post⟨fun _ s => ⌜v.fault ≠ some new ∧ s = { v with index := (v.index.updateStatus i old new).1 }⌝,
      fun e s => ⌜v.fault = some new ∧ e = .fault (.internal s!"injected index fault on {old} -> {new}") ∧ s = v⌝⟩⦄ := by
  mvcgen [Sys.updateStatus, Sys.index, Sys.setIndex, Sys.fail, -Sys.updateStatus_keepsHeld]
  all_goals obtain rfl := (‹_ = v›).symm
  · exact ⟨‹_›, trivial, rfl⟩
  · exact ⟨‹_›, rfl⟩

/-- Deleting a row changes the index alone. -/
theorem Sys.deleteRow_exact (i : Nat) (v : JobSystem) :
    ⦃fun s => ⌜s = v⌝⦄ Sys.deleteRow i
    ⦃post⟨fun _ s => ⌜s = { v with index := (v.index.delete i).1 }⌝, fun e _ => ⌜e.IsFault ∧ False⌝⟩⦄ := by
  mvcgen [Sys.deleteRow, Sys.index, Sys.setIndex, -Sys.deleteRow_keepsHeld]
  obtain rfl := (‹_ = v›).symm
  rfl

/-- Removing a record as an attempt never fails, and leaves no record at its path below the
top; only the disk changes. -/
theorem Sys.removeRecord_gone (p : String) (v : JobSystem) :
    ⦃fun s => ⌜s = v⌝⦄ Sys.attempt (Sys.removeRecord p)
    ⦃post⟨fun _ s => ⌜(∃ d, s = { v with disk := d }) ∧ (Disk.locate p ≠ [] → RecordStore.exists s.disk p = false)⌝,
      fun _ _ => ⌜False⌝⟩⦄ := by
  mvcgen [Sys.attempt, Sys.recover, Sys.removeRecord, Sys.disk, Sys.setDisk, Sys.ofOutcome, Sys.fail,
    -Sys.attempt_keepsHeld, -Sys.removeRecord_keepsHeld]
  all_goals obtain rfl := (‹_ = v›).symm
  · have gone := RecordStore.exists_remove (d := v.disk) (p := p)
    exact ⟨⟨_, rfl⟩, fun full => by simpa [‹RecordStore.remove _ _ _ = _›] using gone full⟩
  · have gone := RecordStore.exists_remove (d := v.disk) (p := p)
    exact ⟨⟨_, rfl⟩, fun full => by simpa [‹RecordStore.remove _ _ _ = _›] using gone full⟩

namespace Job

/-- The handle after its first save gave it the id `id`. -/
def savedAs (j : Job) (id : Nat) : Job :=
  { j with identity := { j.identity with jobId := some id }, status := .created }

/-- What a first save of `j` leaves under the id `id`: the row of `id` names the job in its
project with the status `st`, and at the job's path a record database holds the status
`created`. -/
structure Registered (j : Job) (id : Nat) (st : Status) (s : JobSystem) : Prop where
  name : (s.index.get? id).map IndexRow.fullName = some (j.identity.project, j.name)
  row : (s.index.get? id).map (·.status) = some st
  record : ∃ r, (⟨id, j.name, j.identity.storagePath⟩ : JobContext).Stored s r ∧
    (do readValue Status.read (← r.read Layout.status)) = .ok .created

/-- A row placed under an id no row had, for the job, beside a record that reads back
`created`, registers the job with the row's status. -/
theorem registered_of_placed {j : Job} {s : JobSystem} {ix : JobIndex} {row : IndexRow} {r : Record}
    (placed : s.index = ix.place row) (fresh : ∀ r ∈ ix.rows, r.id ≠ row.id)
    (rowName : row.fullName = (j.identity.project, j.name))
    (stored : (⟨row.id, j.name, j.identity.storagePath⟩ : JobContext).Stored s r)
    (status : (do readValue Status.read (← r.read Layout.status)) = .ok .created) :
    j.Registered row.id row.status s := by
  have found : s.index.get? row.id = some row := placed ▸ JobIndex.get?_place_self row fresh
  exact ⟨by simp [found, rowName], by simp [found], r, stored, status⟩

/-- The move of the row from `initialized` to `created` keeps the job registered, as `created`. -/
theorem Registered.updateStatus {j : Job} {id : Nat} {s : JobSystem} (registered : j.Registered id .initialized s) :
    j.Registered id .created { s with index := (s.index.updateStatus id .initialized .created).1 } := by
  obtain ⟨name, row, r, stored, status⟩ := registered
  refine ⟨?_, ?_, r, ⟨stored.path, stored.config, stored.pairs⟩, status⟩
  · rw [JobIndex.updateStatus_fullName]
    exact name
  · rw [JobIndex.updateStatus_status, if_pos ⟨rfl, row⟩]

/-- The first save of a handle registers the job or takes back what it did. -/
theorem save_registers_or_rolls_back (j : Job) (unsaved : j.identity.jobId = none) (inputSorted : ∀ kv ∈ j.input, kv.2.Sorted)
    (u : JobSystem) :
    ⦃fun j' s => ⌜j' = j ∧ s = u⌝⦄ Job.save
    ⦃post⟨fun id j' s => ⌜j' = j.savedAs id ∧ j.Registered id .created s⌝,
      fun e j' s => ⌜(j' = j ∧ s.index.find? j.identity.project j.name = u.index.find? j.identity.project j.name ∧
          RecordStore.exists s.disk j.identity.storagePath = RecordStore.exists u.disk j.identity.storagePath) ∨
        (u.fault = some .created ∧ e = .fault (.internal "injected index fault on initialized -> created") ∧
          ∃ id, j' = j.savedAs id ∧ j.Registered id .initialized s)⌝⟩⦄ := by
  -- the save reads the handle first; from there on it is the handle given, which has no id
  unfold Job.save
  refine Triple.bind _ _ (Q := fun j' h s => ⌜j' = j ∧ h = j ∧ s = u⌝)
    (by mvcgen; exact ⟨‹_ ∧ _›.1, ‹_ ∧ _›⟩) fun j' => ?_
  by_cases same : j' = j
  · subst same
    simp only [unsaved]
    have inserts := fun n v => Sys.insertRow_new n v
    have writes := fun i v => Sys.attempt_spec (Job.writeNewRecord_spec j' i inputSorted v)
    have deletes := fun i v => Sys.attempt_spec (Sys.deleteRow_exact i v)
    have removes := fun v => Sys.removeRecord_gone j'.identity.storagePath v
    have moves := fun i v => Sys.updateStatus_exact i .initialized .created v
    mvcgen -trivial [inserts, writes, deletes, removes, moves, Sys.isDir, Sys.disk, Sys.ofOutcome, Sys.fail,
      -Sys.isDir_keepsHeld, -Sys.attempt_keepsHeld, -Sys.insertRow_keepsHeld, -Sys.updateStatus_keepsHeld]
    -- a sub-project or a stray record of the name: refused before anything changes
    · obtain ⟨-, rfl, rfl⟩ := ‹True ∧ _ = j' ∧ _ = u›
      exact .inl ⟨rfl, rfl, rfl⟩
    · obtain ⟨-, rfl, rfl⟩ := ‹True ∧ _ = j' ∧ _ = u›
      exact .inl ⟨rfl, rfl, rfl⟩
    -- the new row changed the index alone, so there is still no record at the job's path
    · obtain ⟨-, row, -, -, -, -, rfl⟩ := ‹_ ∧ ∃ row : IndexRow, _›
      exact ⟨trivial, by simpa using ‹¬RecordStore.exists _ _ = true›⟩
    -- the record could not be written: the row and whatever was written are taken back out
    · rename_i pre _ _ _ _ _ fresh _ _ inserted _ _ _ failedWrite written deleteResult _ deleted _ _ removed
      obtain ⟨-, handle, state⟩ := pre
      obtain rfl := handle.symm
      obtain rfl := state.symm
      obtain ⟨free, row, rfl, -, -, -, rfl⟩ := inserted
      subst failedWrite
      obtain ⟨d, rfl⟩ := written
      cases deleteResult with
      | error => exact deleted.elim
      | ok =>
        obtain rfl := deleted
        have full := RecordStore.locate_ne_nil (by simpa using fresh)
        refine .inl ⟨rfl, ?_, ?_⟩
        · rw [JobIndex.find?_of_taken free]
          obtain ⟨⟨d', rfl⟩, -⟩ := removed
          exact JobIndex.find?_delete_place free row
        · rw [removed.2 full]
          simpa using fresh
    -- the row is moved to `created` beside the record that says so
    · rename_i pre _ _ _ _ _ _ _ _ inserted _ _ wroteOk written _ _ _ moved
      obtain ⟨-, handle, state⟩ := pre
      obtain rfl := handle.symm
      obtain rfl := state.symm
      obtain ⟨free, row, rfl, rowName, rowStatus, fresh, rfl⟩ := inserted
      subst wroteOk
      obtain ⟨⟨d, rfl⟩, r, stored, status⟩ := written
      obtain ⟨-, rfl⟩ := moved
      exact ⟨rfl, (rowStatus ▸ registered_of_placed rfl fresh rowName stored status).updateStatus⟩
    -- the index refuses the last move: the handle is saved and the row stays `initialized`
    · rename_i pre _ _ _ _ _ _ _ _ inserted _ _ wroteOk written _ _ _
      obtain ⟨-, handle, state⟩ := pre
      obtain rfl := handle.symm
      obtain rfl := state.symm
      intro faulty refused moved
      obtain ⟨free, row, rfl, rowName, rowStatus, fresh, rfl⟩ := inserted
      subst wroteOk
      obtain ⟨⟨d, rfl⟩, r, stored, status⟩ := written
      subst moved
      exact .inr ⟨faulty, by rw [refused]; rfl, row.id, rfl, rowStatus ▸ registered_of_placed rfl fresh rowName stored status⟩
    -- a name already taken, or checks of the input and the settings that fail: nothing changes
    · obtain ⟨-, rfl, rfl⟩ := ‹True ∧ _ = j' ∧ _ = u›
      intro _ state
      obtain rfl := state
      exact .inl ⟨rfl, rfl, rfl⟩
    · obtain ⟨-, rfl, rfl⟩ := ‹True ∧ _ = j' ∧ _ = u›
      exact .inl ⟨rfl, rfl, rfl⟩
    · obtain ⟨-, rfl, rfl⟩ := ‹True ∧ _ = j' ∧ _ = u›
      exact .inl ⟨rfl, rfl, rfl⟩
  · intro j'' s pre
    exact absurd pre.1 same

/-- A handle with an empty input and no id meets the conditions of a first save. -/
theorem save_registers_or_rolls_back_empty_input :
    (default : Job).identity.jobId = none ∧ (∀ kv ∈ (default : Job).input, kv.2.Sorted) ∧
    ⦃fun j' s => ⌜j' = default ∧ s = default⌝⦄ Job.save
    ⦃post⟨fun id j' s => ⌜j' = (default : Job).savedAs id ∧ (default : Job).Registered id .created s⌝,
      fun e j' s => ⌜(j' = default ∧
          s.index.find? (default : Job).identity.project (default : Job).name =
            (default : JobSystem).index.find? (default : Job).identity.project (default : Job).name ∧
          RecordStore.exists s.disk (default : Job).identity.storagePath =
            RecordStore.exists (default : JobSystem).disk (default : Job).identity.storagePath) ∨
        ((default : JobSystem).fault = some .created ∧
          e = .fault (.internal "injected index fault on initialized -> created") ∧
          ∃ id, j' = (default : Job).savedAs id ∧ (default : Job).Registered id .initialized s)⌝⟩⦄ := by
  have noInput : ∀ kv ∈ (default : Job).input, kv.2.Sorted := fun kv mem =>
    absurd (show kv ∈ ([] : List (String × Json)) from mem) List.not_mem_nil
  exact ⟨rfl, noInput, save_registers_or_rolls_back default rfl noInput default⟩

end Job

end JobFlow

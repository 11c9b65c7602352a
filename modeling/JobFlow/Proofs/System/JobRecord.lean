import Mathlib
import JobFlow.System.Pipeline
import JobFlow.Proofs.System.Claim
import JobFlow.Proofs.Record.JobEntries
import JobFlow.Proofs.Disk.Records

/-!
# One job's record and row

`JobContext.Shows c t st s` says what the system `s` shows of the job of `c`: its record is a
database that holds the tree `t` and opens as a job record, its row has the status `st`, and
the index takes every move.
-/

open Std.Do

set_option mvcgen.warning false

namespace JobFlow

namespace JobIndex

variable {ix ix' : JobIndex} {i id : Nat}

/-- A status move rewrites the row of its id when the row has the expected status. -/
theorem updateStatus_status (ix : JobIndex) (i id : Nat) (old new : Status) :
    ((ix.updateStatus i old new).1.get? id).map (·.status) =
      if i = id ∧ (ix.get? id).map (·.status) = some old then some new else (ix.get? id).map (·.status) := by
  unfold updateStatus
  split
  · rename_i r found
    split
    · rename_i moved
      dsimp only
      rw [get?_modify]
      swap
      · exact fun r => lifecycle_id _ _
      by_cases same : i = id
      · subst same
        simp [found, moved, lifecycle_status]
      · simp [same]
    · rename_i stays
      by_cases same : i = id
      · subst same
        simp [found, stays]
      · simp [same]
  · rename_i missing
    by_cases same : i = id
    · subst same
      simp [missing]
    · simp [same]

theorem updateStatus_moved (ix : JobIndex) (i : Nat) (old new : Status) :
    (ix.updateStatus i old new).2 = true ↔ (ix.get? i).map (·.status) = some old := by
  unfold updateStatus
  split
  · rename_i r found
    split
    · rename_i moved
      simp [found, moved]
    · rename_i stays
      simp [found, stays]
  · rename_i missing
    simp [missing]

theorem forceStatus_status {s : Status} (ok : ix.forceStatus i s = .ok ix') (id : Nat) :
    (ix'.get? id).map (·.status) = if i = id then some s else (ix.get? id).map (·.status) := by
  unfold forceStatus at ok
  split at ok
  · rename_i r found
    cases ok
    rw [get?_modify]
    swap
    · exact fun r => lifecycle_id _ _
    by_cases same : i = id
    · subst same
      simp [found, lifecycle_status]
    · simp [same]
  · cases ok

theorem update_status {u : IndexUpdate} (ok : ix.update i u = .ok ix') (id : Nat) :
    (ix'.get? id).map (·.status) = (ix.get? id).map (·.status) := by
  unfold update at ok
  split at ok
  · cases ok
    rfl
  · split at ok
    · cases ok
    · cases ok
      rw [get?_modify]
      swap
      · intro r
        dsimp only
        split <;> split <;> split <;> rfl
      split
      · rename_i same
        subst same
        cases (ix.get? i) <;> simp
        split <;> split <;> split <;> rfl
      · rfl

theorem update_ne_error {u : IndexUpdate} (found : ix.get? i ≠ none) (e : JobError) : ix.update i u ≠ .error e := by
  unfold update
  split
  · intro failed
    cases failed
  · split
    · contradiction
    · intro failed
      cases failed

end JobIndex

theorem Record.withScoped_path {α : Type} {r r' : Record} {f : Scope → Outcome (Scope × α)} {a : α}
    (ok : r.withScoped f = .ok (r', a)) : r'.path = r.path := by
  unfold Record.withScoped at ok
  obtain ⟨root, -, rest⟩ := Disk.bind_eq_ok.1 ok
  obtain ⟨⟨staged, a'⟩, -, done⟩ := Disk.bind_eq_ok.1 rest
  cases done
  rfl

theorem Record.write_path {r r' : Record} {p : String} {v : Json} (ok : r.write p v = .ok r') : r'.path = r.path := by
  unfold Record.write at ok
  obtain ⟨⟨r₁, _⟩, committed, done⟩ := Disk.bind_eq_ok.1 ok
  cases done
  exact Record.withScoped_path committed

namespace JobContext

/-- `r` is the record of `c` as the disk of `s` stores it. -/
structure Stored (c : JobContext) (s : JobSystem) (r : Record) : Prop where
  path : r.path = c.storagePath
  config : r.config = s.config.storage
  pairs : s.disk.lookup (Disk.locate c.storagePath) = .ok (some (.records r.pairs))

/-- In `s`, the record of `c` holds the tree `t` and opens as a job record, the row of `c`
has the status `st`, and the index takes every move. -/
structure Shows (c : JobContext) (t : Json) (st : Status) (s : JobSystem) : Prop where
  record : ∃ r, c.Stored s r ∧ RecordTree.Holds t r ∧ r.checkFormat = .ok ()
  row : (s.index.get? c.jobId).map (·.status) = some st
  fault : s.fault = none

/-- The job of `c` is on its way: its record holds `t` with a status that has not ended
written in it, and its row shows that status. -/
def Midway (c : JobContext) (t : Json) (s : JobSystem) : Prop :=
  ∃ x : Status, x.isTerminal = false ∧ c.Shows (t.setAt Layout.statusAt (.str x.name)) x s

variable {c : JobContext} {t : Json} {st : Status} {s : JobSystem}

theorem Stored.eq_mk {r : Record} (stored : c.Stored s r) : r = ⟨c.storagePath, r.pairs, s.config.storage⟩ := by
  obtain ⟨path, config, -⟩ := stored
  cases r
  simp_all

/-- The job's record is there, and opening it finds the record that holds the job's tree. -/
theorem Shows.opens (shows : c.Shows t st s) :
    s.disk.exists? (Disk.locate c.storagePath) = true ∧ ∃ r, (⟨s.config.storage⟩ : RecordStore).record s.disk c.storagePath =
      .ok (s.disk, r) ∧ c.Stored s r ∧ RecordTree.Holds t r ∧ r.checkFormat = .ok () := by
  obtain ⟨r, stored, holds, format⟩ := shows.record
  refine ⟨by simp [Disk.exists?, Disk.node?, stored.pairs], r, ?_, stored, holds, format⟩
  unfold RecordStore.record
  rw [Disk.openDb_found stored.pairs, stored.eq_mk]
  rfl

theorem Shows.setDisk (shows : c.Shows t st s) {d : Disk} (keeps : Disk.Keeps (Disk.locate c.storagePath) s.disk d) :
    c.Shows t st { s with disk := d } := by
  obtain ⟨⟨r, stored, holds, format⟩, row, fault⟩ := shows
  exact ⟨⟨r, ⟨stored.path, stored.config, keeps _ stored.pairs⟩, holds, format⟩, row, fault⟩

/-- An index that keeps the status of the job's row shows the same row. -/
theorem Shows.setIndex (shows : c.Shows t st s) {ix : JobIndex}
    (row : (ix.get? c.jobId).map (·.status) = (s.index.get? c.jobId).map (·.status)) :
    c.Shows t st { s with index := ix } := by
  obtain ⟨⟨r, stored, holds, format⟩, before, fault⟩ := shows
  exact ⟨⟨r, ⟨stored.path, stored.config, stored.pairs⟩, holds, format⟩, row.trans before, fault⟩

/-- Saving a record at the job's path, holding `t'`, shows `t'`. -/
theorem Shows.save (shows : c.Shows t st s) {r : Record} {t' : Json} (path : r.path = c.storagePath)
    (config : r.config = s.config.storage) (holds : RecordTree.Holds t' r) (format : r.checkFormat = .ok ()) :
    c.Shows t' st { s with disk := RecordStore.save s.disk r } := by
  obtain ⟨⟨r₀, stored, -, -⟩, row, fault⟩ := shows
  have found := stored.pairs
  rw [← path] at found
  refine ⟨⟨r, ⟨path, config, ?_⟩, holds, format⟩, row, fault⟩
  rw [← path]
  exact Disk.lookup_save found

theorem Shows.move {src : Status} (shows : c.Shows t src s) (dst : Status) :
    c.Shows t dst { s with index := (s.index.updateStatus c.jobId src dst).1 } := by
  obtain ⟨⟨r, stored, holds, format⟩, row, fault⟩ := shows
  refine ⟨⟨r, ⟨stored.path, stored.config, stored.pairs⟩, holds, format⟩, ?_, fault⟩
  simp [JobIndex.updateStatus_status, row]

theorem Shows.ne_of_running (shows : c.Shows t st s) (rowEnded : st.isTerminal) {m : Nat} {row : IndexRow}
    (found : s.index.get? m = some row) (running : row.status = .running) : m ≠ c.jobId := by
  intro same
  have status := shows.row
  rw [← same, found] at status
  simp only [Option.map_some, Option.some.injEq] at status
  rw [← status, running] at rowEnded
  cases rowEnded

theorem Shows.present (shows : c.Shows t st s) : s.index.get? c.jobId ≠ none :=
  fun missing => by simpa [missing] using shows.row

end JobContext

/-- A library error, as opposed to a wait that never ends. -/
def Stop.IsFault : Stop → Prop
  | .fault _ => True
  | .stall _ => False

@[simp, grind .] theorem Stop.isFault_fault (e : JobError) : (Stop.fault e).IsFault := trivial

/-- A run of `x` from a state that shows the job of `c` with its record holding `t` and its
row at `st` ends in one that still does, whether `x` returns or fails, and when it fails it
fails with a library error. -/
abbrev Sys.Spares {α : Type} (c : JobContext) (t : Json) (st : Status) (x : Sys α) : Prop :=
  ⦃fun s => ⌜c.Shows t st s⌝⦄ x ⦃post⟨fun _ s => ⌜c.Shows t st s⌝, fun e s => ⌜e.IsFault ∧ c.Shows t st s⌝⟩⦄

/-- A run of `x` from a state that shows the job of `c` returns, in a state that still shows
it. -/
abbrev Sys.SparesAndReturns {α : Type} (c : JobContext) (t : Json) (st : Status) (x : Sys α) : Prop :=
  ⦃fun s => ⌜c.Shows t st s⌝⦄ x ⦃post⟨fun _ s => ⌜c.Shows t st s⌝, fun _ _ => ⌜False⌝⟩⦄

namespace Sys

variable (c : JobContext) (t : Json) (st : Status)

/-- Opening a record keeps the job's record. -/
theorem openRecord_shows (p : String) :
    ⦃fun s => ⌜c.Shows t st s⌝⦄ openRecord p
    ⦃post⟨fun r s => ⌜c.Shows t st s ∧ r.path = p ∧ r.config = s.config.storage ∧
        (Disk.locate p = Disk.locate c.storagePath → RecordTree.Holds t r ∧ r.checkFormat = .ok ())⌝,
      fun e s => ⌜e.IsFault ∧ c.Shows t st s⌝⟩⦄ := by
  mvcgen [openRecord, openDb]
  · rename_i shows _ _ a opened _ _ format
    obtain ⟨path, config⟩ := Disk.record_path opened
    refine ⟨shows.setDisk (Disk.keeps_record opened), path, config, fun same => ⟨?_, format⟩⟩
    -- the database opened is the job's, so the record holds the job's tree
    obtain ⟨r, stored, holds, -⟩ := shows.record
    have pairs := Disk.record_found opened (same ▸ stored.pairs)
    have sameConfig : a.2.config = r.config := config.trans stored.config.symm
    exact ⟨by rw [pairs, sameConfig]; exact holds.stores, holds.wf⟩
  · exact ⟨trivial, JobContext.Shows.setDisk ‹_› (Disk.keeps_record ‹_›)⟩

theorem readAs_spares {α : Type} (r : Record) (p : String) (reader : String → Doc → DocRead α) :
    Spares c t st (readAs r p reader) := by
  mvcgen [readAs]

theorem storedStatus_spares (r : Record) : Spares c t st (storedStatus r) := by
  mvcgen [storedStatus, readAs_spares]

theorem query_spares (f : JobFilter) : Spares c t st (query f) := by
  mvcgen [query]

/-- What `attempt x` returns: the value of `x` with what holds after it, or a library error of
`x` with what holds after that; it passes on nothing `x` stops with, when those are faults. -/
theorem attempt_spec {α : Type} {x : Sys α} {P : JobSystem → Prop} {Q : α → JobSystem → Prop}
    {E : JobSystem → Prop} (spec : ⦃fun s => ⌜P s⌝⦄ x ⦃post⟨fun a s => ⌜Q a s⌝, fun e s => ⌜e.IsFault ∧ E s⌝⟩⦄) :
    ⦃fun s => ⌜P s⌝⦄ attempt x
    ⦃post⟨fun r s => ⌜match r with | .ok a => Q a s | .error _ => E s⌝, fun _ _ => ⌜False⌝⟩⦄ := by
  mvcgen [attempt, recover, spec]
  · exact fun holds => holds
  · exact ‹_ ∧ _›.2
  · rename_i stop notFault _ _ failed
    cases stop with
    | fault e => exact notFault e rfl
    | stall w => exact failed.1

theorem attempt_spares {α : Type} {x : Sys α} (spares : Spares c t st x) :
    SparesAndReturns c t st (attempt x) := by
  mvcgen [attempt, recover, spares]
  · exact fun shows => shows
  · exact ‹_ ∧ _›.2
  -- what `attempt` passes on is a stall, which `x` never stops with
  · rename_i stop notFault _ _ failed
    cases stop with
    | fault e => exact notFault e rfl
    | stall w => exact failed.1

theorem updateRow_spares (i : Nat) (u : IndexUpdate) : Spares c t st (updateRow i u) := by
  mvcgen [updateRow]
  rename_i shows _ updated _
  exact shows.setIndex (JobIndex.update_status updated c.jobId)

/-- Writing in a scope on a record elsewhere keeps the job's. -/
theorem writeScoped_elsewhere (r : Record) (ws : List (String × Json)) :
    ⦃fun s => ⌜c.Shows t st s ∧ Disk.locate r.path ≠ Disk.locate c.storagePath⌝⦄ writeScoped r ws
    ⦃post⟨fun _ s => ⌜c.Shows t st s⌝, fun e s => ⌜e.IsFault ∧ c.Shows t st s⌝⟩⦄ := by
  mvcgen [writeScoped, saveRecord]
  · rename_i mine _ committed _
    have path := Record.withScoped_path committed
    exact mine.1.setDisk (Disk.keeps_save (path ▸ mine.2))
  · exact ⟨trivial, ‹_ ∧ _›.1⟩

/-- Writing a value into a record elsewhere keeps the job's. -/
theorem writeRecord_elsewhere (r : Record) (p : String) (v : Json) :
    ⦃fun s => ⌜c.Shows t st s ∧ Disk.locate r.path ≠ Disk.locate c.storagePath⌝⦄ writeRecord r p v
    ⦃post⟨fun _ s => ⌜c.Shows t st s⌝, fun e s => ⌜e.IsFault ∧ c.Shows t st s⌝⟩⦄ := by
  mvcgen [writeRecord, saveRecord]
  · rename_i mine _ written _
    have path := Record.write_path written
    exact mine.1.setDisk (Disk.keeps_save (path ▸ mine.2))
  · exact ⟨trivial, ‹_ ∧ _›.1⟩

/-- Moving another row keeps the job's. -/
theorem updateStatus_other (i : Nat) (old new : Status) :
    ⦃fun s => ⌜c.Shows t st s ∧ i ≠ c.jobId⌝⦄ updateStatus i old new
    ⦃post⟨fun _ s => ⌜c.Shows t st s⌝, fun e s => ⌜e.IsFault ∧ c.Shows t st s⌝⟩⦄ := by
  mvcgen [updateStatus]
  · exact ⟨trivial, ‹_ ∧ _›.1⟩
  · rename_i other _ _ _
    exact other.1.setIndex (by rw [JobIndex.updateStatus_status, if_neg fun hit => other.2 hit.1])

theorem forceStatus_other (i : Nat) (s : Status) :
    ⦃fun s => ⌜c.Shows t st s ∧ i ≠ c.jobId⌝⦄ forceStatus i s
    ⦃post⟨fun _ s => ⌜c.Shows t st s⌝, fun e s => ⌜e.IsFault ∧ c.Shows t st s⌝⟩⦄ := by
  mvcgen [forceStatus]
  · rename_i other _ forced _
    exact other.1.setIndex (by rw [JobIndex.forceStatus_status forced, if_neg other.2])
  · exact ⟨trivial, ‹_ ∧ _›.1⟩

end Sys

namespace Job

variable (c : JobContext) (t : Json) (st : Status)

theorem fromStorage_spares (p : String) : Sys.Spares c t st (fromStorage p) := by
  have opens := Sys.openRecord_shows c t st
  mvcgen [fromStorage, opens, Sys.readAs_spares]
  all_goals exact ‹_ ∧ _›.1

end Job

namespace Master

variable (c : JobContext) (t : Json) (st : Status)

theorem children_spares (m : Nat) : Sys.Spares c t st (children m) := by
  mvcgen [children, Sys.query_spares]

end Master

namespace JobContext

variable (c : JobContext) (t : Json) (st : Status)

/-- Reading the status of any job's record keeps the job's; where the record read is the
job's, the status read is the one its tree holds. -/
theorem storedStatus_read (c' : JobContext) {st₀ : Status} (found : t.at? Layout.statusAt = some (.str st₀.name)) :
    ⦃fun s => ⌜c.Shows t st s⌝⦄ c'.storedStatus
    ⦃post⟨fun v s => ⌜c.Shows t st s ∧ (Disk.locate c'.storagePath = Disk.locate c.storagePath → v = st₀)⌝,
      fun e s => ⌜e.IsFault ∧ c.Shows t st s⌝⟩⦄ := by
  have opens := Sys.openRecord_shows c t st
  mvcgen [JobContext.storedStatus, JobContext.record, Sys.storedStatus, Sys.readAs, opens]
  · rename_i r v read _ opened
    refine ⟨opened.1, fun same => ?_⟩
    have reads := read.symm.trans (Record.readStatus (opened.2.2.2 same).1 found)
    injection reads
  · exact ⟨trivial, ‹_ ∧ _›.1⟩

/-- Another job's moves keep the job's record and row. -/
theorem syncIndex_other (c' : JobContext) (src dst : Status) :
    ⦃fun s => ⌜c.Shows t st s ∧ c'.jobId ≠ c.jobId⌝⦄ c'.syncIndex src dst
    ⦃post⟨fun _ s => ⌜c.Shows t st s⌝, fun e s => ⌜e.IsFault ∧ c.Shows t st s⌝⟩⦄ := by
  mvcgen [syncIndex, Sys.updateStatus_other]

theorem transition_other (c' : JobContext) (src dst : Status) :
    ⦃fun s => ⌜c.Shows t st s ∧ c'.jobId ≠ c.jobId ∧ Disk.locate c'.storagePath ≠ Disk.locate c.storagePath⌝⦄
    c'.transition src dst
    ⦃post⟨fun _ s => ⌜c.Shows t st s⌝, fun e s => ⌜e.IsFault ∧ c.Shows t st s⌝⟩⦄ := by
  have opens := Sys.openRecord_shows c t st
  mvcgen [transition, JobContext.record, opens, Sys.storedStatus_spares, Sys.writeRecord_elsewhere,
    syncIndex_other]
  all_goals grind

theorem abort_other (c' : JobContext) (f : Failure) :
    ⦃fun s => ⌜c.Shows t st s ∧ c'.jobId ≠ c.jobId ∧ Disk.locate c'.storagePath ≠ Disk.locate c.storagePath⌝⦄
    c'.abort f
    ⦃post⟨fun _ s => ⌜c.Shows t st s⌝, fun e s => ⌜e.IsFault ∧ c.Shows t st s⌝⟩⦄ := by
  have opens := Sys.openRecord_shows c t st
  mvcgen [abort, JobContext.record, opens, Sys.storedStatus_spares, Sys.updateRow_spares,
    Sys.writeScoped_elsewhere, Sys.updateStatus_other, Sys.forceStatus_other]
  all_goals grind

end JobContext

namespace Master

variable {c : JobContext} {t : Json} {st st₀ : Status}

theorem refresh_spares (found : t.at? Layout.statusAt = some (.str st₀.name)) (ended : st₀.isTerminal)
    (rowEnded : st.isTerminal) (m : Nat) : Sys.Spares c t st (refresh m) := by
  have read := fun c' => JobContext.storedStatus_read c t st c' found
  have opens := Sys.openRecord_shows c t st
  mvcgen [refresh, read, Job.fromStorage_spares, Master.children_spares, JobContext.open, JobContext.abort_other,
    JobContext.transition_other, JobContext.record, opens, Sys.writeScoped_elsewhere]
  all_goals grind [JobContext.Shows.ne_of_running]

end Master

section Others

variable {c : JobContext} {t : Json} {st st₀ : Status}

namespace Pipeline

theorem notifyMaster_spares (found : t.at? Layout.statusAt = some (.str st₀.name)) (ended : st₀.isTerminal)
    (rowEnded : st.isTerminal) (c' : JobContext) : Sys.SparesAndReturns c t st (notifyMaster c') := by
  have refreshes := Master.refresh_spares (c := c) found ended rowEnded
  have attempts := fun {α : Type} (x : Sys α) => Sys.attempt_spares c t st (x := x)
  have opens := Sys.openRecord_shows c t st
  mvcgen [notifyMaster, JobContext.record, opens, Sys.readAs_spares, refreshes, attempts]
  exact ‹_ ∧ _›.1

/-- Collecting a command's output changes nothing; what it answers is the collector's value
read from the disk, as an output. -/
theorem collectOutput_reads (s : ScriptJob) (wd : String) :
    ⦃fun sys => ⌜c.Shows t st sys⌝⦄ collectOutput s wd
    ⦃post⟨fun r sys => ⌜c.Shows t st sys ∧
        ∀ out, r = .ok out → ∃ v, s.collect sys.disk wd = .ok v ∧ out = commandOutput v⌝,
      fun _ _ => ⌜False⌝⟩⦄ := by
  mvcgen [collectOutput]
  · exact ⟨‹_›, fun _ failed => nomatch failed⟩
  · rename_i shows v collected
    refine ⟨shows, fun out read => ⟨v, collected, ?_⟩⟩
    cases read
    rfl

end Pipeline

/-- Packing the working directory of a job keeps a record that lies outside it. -/
theorem Job.compress_spares (j : Job)
    (outside : ¬ Disk.locate j.identity.workingDirectory <+: Disk.locate c.storagePath) :
    Sys.Spares c t st j.compress := by
  have opens := Sys.openRecord_shows c t st
  mvcgen [Job.compress, Job.ensureIdle, Job.record, opens, Sys.storedStatus_spares]
  · exact ‹_ ∧ _›.1
  · exact ‹c.Shows t st _›.setDisk (Disk.keeps_pack outside ‹_›)

theorem openLog_spares (wd name : String) : Sys.Spares c t st (openLog wd name) := by
  mvcgen [openLog]
  exact ‹c.Shows t st _›.setDisk (Disk.keeps_writeFile ‹_›)

/-- Running a job's command keeps a record that the command itself spares. -/
theorem runExecutable_spares (c' : JobContext) (s : ScriptJob) (input : List (String × Json)) (server : ServerConfig)
    (wd : String) (shell : ∀ line, s.command server = .ok line → ∀ d, Disk.Keeps (Disk.locate c.storagePath) d
      (Shell.runLine d wd (commandEnv c' server wd) (Path.join wd stdoutFile) (Path.join wd stderrFile) line).1) :
    Sys.Spares c t st (runExecutable c' s input server wd) := by
  mvcgen [runExecutable, openLog_spares]
  -- the input files are written, or one of them fails: either way below the working directory
  · exact (‹c.Shows t st _›.setDisk (Disk.keeps_createDirAll ‹_›)).setDisk (Disk.keeps_inputFiles _ _ _)
  · exact (‹c.Shows t st _›.setDisk (Disk.keeps_createDirAll ‹_›)).setDisk (Disk.keeps_inputFiles _ _ _)
  -- the command ran, whatever it came to
  · exact ‹c.Shows t st _›.setDisk (shell _ ‹_› _)
  · exact ‹c.Shows t st _›.setDisk (shell _ ‹_› _)
  · exact ‹c.Shows t st _›.setDisk (shell _ ‹_› _)
  · exact (‹c.Shows t st _›.setDisk (Disk.keeps_createDirAll ‹_›)).setDisk (Disk.keeps_inputFiles _ _ _)

end Others

/-! ### The job's own moves -/

namespace JobContext

variable (c : JobContext) (t : Json) (st : Status)

/-- The job's record opens as the record that holds its tree, and nothing changes. -/
theorem record_shows :
    ⦃fun s => ⌜c.Shows t st s⌝⦄ c.record
    ⦃post⟨fun r s => ⌜c.Shows t st s ∧ c.Stored s r ∧ RecordTree.Holds t r ∧ r.checkFormat = .ok ()⌝,
      fun _ _ => ⌜False⌝⟩⦄ := by
  mvcgen [JobContext.record, Sys.openRecord, Sys.openDb]
  · rename_i shows _ missing
    exact absurd shows.opens.1 (by simpa using missing)
  · rename_i shows _ _ a opened _ _ _
    obtain ⟨r, found, stored, holds, format⟩ := shows.opens.2
    rw [found] at opened
    cases opened
    exact ⟨shows, stored, holds, format⟩
  · rename_i shows _ _ a opened _ _ failed
    obtain ⟨r, found, -, -, format⟩ := shows.opens.2
    rw [found] at opened
    cases opened
    rw [format] at failed
    cases failed
  · rename_i shows _ _ _ failed
    obtain ⟨r, found, -⟩ := shows.opens.2
    rw [found] at failed
    cases failed

/-- The record's status is read as its tree holds it. -/
theorem storedStatus_holds {r : Record} {x : Status} (found : t.at? Layout.statusAt = some (.str x.name)) :
    ⦃fun s => ⌜c.Shows t st s ∧ c.Stored s r ∧ RecordTree.Holds t r ∧ r.checkFormat = .ok ()⌝⦄
    Sys.storedStatus r
    ⦃post⟨fun v s => ⌜v = x ∧ c.Shows t st s ∧ c.Stored s r ∧ RecordTree.Holds t r ∧ r.checkFormat = .ok ()⌝,
      fun _ _ => ⌜False⌝⟩⦄ := by
  mvcgen [Sys.storedStatus, Sys.readAs]
  · rename_i read _ mine
    rw [Record.readStatus mine.2.2.1 found] at read
    cases read
    exact ⟨rfl, mine⟩
  · rename_i failed _ mine
    rw [Record.readStatus mine.2.2.1 found] at failed
    cases failed

/-- Writing a status into the job's record, where its tree holds one. -/
theorem writeStatus_shows {r : Record} {x : Json} (found : t.at? Layout.statusAt = some x) (v : Status) :
    ⦃fun s => ⌜c.Shows t st s ∧ c.Stored s r ∧ RecordTree.Holds t r ∧ r.checkFormat = .ok ()⌝⦄
    Sys.writeRecord r Layout.status (.str v.name)
    ⦃post⟨fun _ s => ⌜c.Shows (t.setAt Layout.statusAt (.str v.name)) st s⌝, fun _ _ => ⌜False⌝⟩⦄ := by
  mvcgen [Sys.writeRecord, Sys.saveRecord]
  · rename_i mine _ written _
    obtain ⟨shows, stored, holds, format⟩ := mine
    obtain ⟨r', write, holds', path, config, format'⟩ := Record.writeStatus holds format found v
    rw [write] at written
    cases written
    exact shows.save (path.trans stored.path) (config.trans stored.config) holds' format'
  · rename_i mine _ failed
    obtain ⟨-, -, holds, format⟩ := mine
    obtain ⟨r', write, -⟩ := Record.writeStatus holds format found v
    rw [write] at failed
    cases failed

/-- The index moves the job's row from the status it shows. -/
theorem updateStatus_shows (src dst : Status) :
    ⦃fun s => ⌜c.Shows t src s⌝⦄ Sys.updateStatus c.jobId src dst
    ⦃post⟨fun moved s => ⌜moved = true ∧ c.Shows t dst s⌝, fun _ _ => ⌜False⌝⟩⦄ := by
  mvcgen [Sys.updateStatus]
  · rename_i shows _ faulted
    rw [shows.fault] at faulted
    cases faulted
  · exact ⟨(JobIndex.updateStatus_moved _ _ _ _).2 ‹c.Shows t src _›.row, ‹c.Shows t src _›.move dst⟩

/-- Recording a failure and the aborted status in the job's record, where its tree holds a
status. -/
theorem writeFailure_shows {r : Record} {x : Json} (found : t.at? Layout.statusAt = some x) (f : Failure) :
    ⦃fun s => ⌜c.Shows t st s ∧ c.Stored s r ∧ RecordTree.Holds t r ∧ r.checkFormat = .ok ()⌝⦄
    Sys.writeScoped r [(Layout.failure, f.toJson), (Layout.status, .str Status.aborted.name)]
    ⦃post⟨fun _ s => ⌜c.Shows ((t.setAt Layout.failureAt f.toJson).setAt Layout.statusAt
        (.str Status.aborted.name)) st s⌝, fun _ _ => ⌜False⌝⟩⦄ := by
  mvcgen [Sys.writeScoped, Sys.saveRecord]
  · rename_i mine _ committed _
    obtain ⟨shows, stored, holds, format⟩ := mine
    obtain ⟨r', write, holds', path, config, format'⟩ := Record.writeFailure holds format found f
    rw [write] at committed
    cases committed
    exact shows.save (path.trans stored.path) (config.trans stored.config) holds' format'
  · rename_i mine _ failed
    obtain ⟨-, -, holds, format⟩ := mine
    obtain ⟨r', write, -⟩ := Record.writeFailure holds format found f
    rw [write] at failed
    cases failed

/-- Writing an output into the job's record: a sorted output whose names are all valid is
then in the tree; one with a bad name fails and leaves the system as it was. -/
theorem writeOutput_shows {r : Record} {out : Json} (sorted : out.Sorted) :
    ⦃fun s => ⌜c.Shows t st s ∧ c.Stored s r ∧ RecordTree.Holds t r ∧ r.checkFormat = .ok ()⌝⦄
    Sys.writeScoped r [(Layout.output, out)]
    ⦃post⟨fun _ s => ⌜c.Shows (t.setAt Layout.outputAt out) st s⌝, fun e s => ⌜e.IsFault ∧ c.Shows t st s⌝⟩⦄ := by
  mvcgen [Sys.writeScoped, Sys.saveRecord]
  · rename_i mine _ committed _
    obtain ⟨shows, stored, holds, format⟩ := mine
    have written := Record.writeOutput holds format sorted
    cases bad : out.firstBadName with
    | none =>
      simp only [bad] at written
      obtain ⟨r', write, holds', path, config, format'⟩ := written
      rw [write] at committed
      cases committed
      exact shows.save (path.trans stored.path) (config.trans stored.config) holds' format'
    | some k =>
      simp only [bad] at written
      rw [written] at committed
      cases committed
  · exact ⟨trivial, ‹_ ∧ _›.1⟩

theorem updateRow_shows (u : IndexUpdate) :
    ⦃fun s => ⌜c.Shows t st s⌝⦄ Sys.updateRow c.jobId u ⦃post⟨fun _ s => ⌜c.Shows t st s⌝, fun _ _ => ⌜False⌝⟩⦄ := by
  mvcgen [Sys.updateRow]
  · rename_i shows _ updated _
    exact shows.setIndex (JobIndex.update_status updated c.jobId)
  · rename_i shows _ failed
    exact JobIndex.update_ne_error shows.present _ failed

theorem syncIndex_shows (src dst : Status) :
    ⦃fun s => ⌜c.Shows t src s⌝⦄ c.syncIndex src dst ⦃post⟨fun _ s => ⌜c.Shows t dst s⌝, fun _ _ => ⌜False⌝⟩⦄ := by
  have moves := updateStatus_shows c t src dst
  mvcgen [JobContext.syncIndex, moves]
  -- the row moves, so the branches that look at it again are never taken
  all_goals grind

/-- A move the graph allows, from the status the record and the row show, writes the new
status into the record and moves the row after it. -/
theorem transition_shows {src dst : Status} (allowed : Status.check src dst c.label = .ok ())
    (found : t.at? Layout.statusAt = some (.str src.name)) :
    ⦃fun s => ⌜c.Shows t src s⌝⦄ c.transition src dst
    ⦃post⟨fun _ s => ⌜c.Shows (t.setAt Layout.statusAt (.str dst.name)) dst s⌝, fun _ _ => ⌜False⌝⟩⦄ := by
  have opens := record_shows c t src
  have reads := fun r => storedStatus_holds c t src (r := r) found
  have writes := fun r => writeStatus_shows c t src (r := r) found dst
  have syncs := syncIndex_shows c (t.setAt Layout.statusAt (.str dst.name)) src dst
  mvcgen [JobContext.transition, opens, reads, writes, syncs]
  -- the record holds `src`, so only the branch that writes `dst` is taken
  all_goals grind

/-- Aborting a job whose status has not ended records the failure and moves record and row
to `aborted`. -/
theorem abort_shows {x : Status} (running : x.isTerminal = false)
    (found : t.at? Layout.statusAt = some (.str x.name)) (f : Failure) :
    ⦃fun s => ⌜c.Shows t x s⌝⦄ c.abort f
    ⦃post⟨fun v s => ⌜v = .aborted ∧ c.Shows ((t.setAt Layout.failureAt f.toJson).setAt Layout.statusAt
        (.str Status.aborted.name)) .aborted s⌝, fun _ _ => ⌜False⌝⟩⦄ := by
  have opens := record_shows c t x
  have reads := fun r => storedStatus_holds c t x (r := r) found
  have writes := fun r => writeFailure_shows c t x (r := r) found f
  have moves := fun y => updateStatus_shows c ((t.setAt Layout.failureAt f.toJson).setAt Layout.statusAt
    (.str Status.aborted.name)) y .aborted
  have updates := updateRow_shows c ((t.setAt Layout.failureAt f.toJson).setAt Layout.statusAt
    (.str Status.aborted.name)) .aborted
  mvcgen [JobContext.abort, opens, reads, writes, moves, updates, Sys.forceStatus]
  -- the record holds `x`, which has not ended, and the row moves from it
  all_goals grind

/-- Aborting a job on its way writes the failure and `aborted` over the tree it set out with. -/
theorem abort_midway (f : Failure) :
    ⦃fun s => ⌜c.Midway t s⌝⦄ c.abort f
    ⦃post⟨fun v s => ⌜v = .aborted ∧ c.Shows ((t.setAt Layout.failureAt f.toJson).setAt Layout.statusAt
        (.str Status.aborted.name)) .aborted s⌝, fun _ _ => ⌜False⌝⟩⦄ := by
  apply Triple.iff.mpr
  rintro s ⟨x, running, shows⟩
  have spec := abort_shows c _ running (Json.at?_setAt_self t Layout.statusAt _) f
  rw [Json.setAt_shadow Layout.statusAt_apart_failureAt.1 Layout.statusAt_apart_failureAt.2] at spec
  exact spec s shows

end JobContext

end JobFlow

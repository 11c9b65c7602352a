import Mathlib
import JobFlow.Proofs.Disk.Paths
import JobFlow.Proofs.System.Repair

/-!
# Rebuilding the index

`Project.rebuild` walks the directories below a project (`Disk.recordsBelow`), opens every
record it finds there and adds back a row for each whose job the index does not hold yet,
under the id the record keeps.
-/

open Std.Do

set_option mvcgen.warning false

namespace JobFlow

namespace Disk

variable {d d' : Disk}

/-- The directories right below a directory, as listing it reads them. -/
def subdirs (d : Disk) (p : String) : Outcome (List String) :=
  match d.lookup (locate p) with
  | .ok (some n) =>
    if n.isDir then .ok ((d.children (locate p)).filter fun c => d.isDir (locate p ++ [c]))
    else .error (.io OsError.notDirectory.text)
  | .ok none => .error (.io OsError.noEntry.text)
  | .error e => .error (.io e.text)

/-- What the directory `name` right below `dir` adds to the records found: itself if it is a
record, what `deeper` finds below it unless it is a working directory, and else nothing. -/
def recordPiece (suf dir : String) (deeper : String → Outcome (List String)) (name : String) :
    Outcome (List String) :=
  if name.endsWith suf then .ok [Path.join dir name]
  else if !name.endsWith "_files" then deeper (Path.join dir name)
  else .ok []

/-- The record directories below a directory, looking at most `fuel` levels deep and never
inside records or working directories, directory by directory in the order listed. -/
def recordsBelow (d : Disk) (suf : String) : Nat → String → Outcome (List String)
  | 0, _ => .ok []
  | fuel + 1, dir => do
    let pieces ← (← d.subdirs dir).mapM (recordPiece suf dir (d.recordsBelow suf fuel))
    pure pieces.flatten

theorem subdirs_of_reopened (re : Reopened d d') (perm : d'.paths.Perm d.paths) (p : String) :
    d'.subdirs p = d.subdirs p := by
  have listed : (d'.children (locate p)).filter (fun c => d'.isDir (locate p ++ [c])) =
      (d.children (locate p)).filter (fun c => d.isDir (locate p ++ [c])) := by
    simp only [children_eq_of_perm perm, re.isDir]
  unfold subdirs
  rcases re (locate p) with same | ⟨dir, db⟩
  · rw [same, listed]
  · rw [dir, db, listed]
    rfl

/-- The records below a directory that lists, from what each directory below it adds. -/
theorem recordsBelow_listed {suf dir : String} {names : List String} (listing : d.subdirs dir = .ok names)
    (fuel : Nat) : d.recordsBelow suf (fuel + 1) dir =
      (do let pieces ← names.mapM (recordPiece suf dir (d.recordsBelow suf fuel)); pure pieces.flatten) := by
  simp only [recordsBelow, listing]
  rfl

theorem recordsBelow_of_reopened (re : Reopened d d') (perm : d'.paths.Perm d.paths) (suf : String) :
    ∀ fuel dir, d'.recordsBelow suf fuel dir = d.recordsBelow suf fuel dir
  | 0, _ => rfl
  | fuel + 1, dir => by
    have deeper : d'.recordsBelow suf fuel = d.recordsBelow suf fuel :=
      funext (recordsBelow_of_reopened re perm suf fuel)
    simp only [recordsBelow, subdirs_of_reopened re perm, deeper]

/-! ### Where the records found stand -/

/-- Every name on the disk is a plain name: not empty, not `.` or `..`, and without a `/`. -/
def Named (d : Disk) : Prop := ∀ q ∈ d.paths, RecordPath.Valid q

theorem mem_children {p : List String} {n : String} (mem : n ∈ d.children p) : p ++ [n] ∈ d.paths := by
  rw [children_eq, List.mem_mergeSort, List.mem_filterMap] at mem
  obtain ⟨k, listed, named⟩ := mem
  unfold nameBelow at named
  split at named
  · rename_i under
    obtain ⟨pre, -⟩ := under
    have whole : k = p ++ k.drop p.length := by
      have lead : p <+: k := by simpa [below] using pre
      obtain ⟨rest, rfl⟩ := lead
      simp
    split at named
    · rename_i last
      cases named
      rwa [whole, last] at listed
    · cases named
  · cases named

theorem segment_of_subdirs (named : d.Named) {dir : String} {names : List String} (listing : d.subdirs dir = .ok names)
    {n : String} (mem : n ∈ names) : RecordPath.Segment n := by
  unfold subdirs at listing
  split at listing
  · split at listing
    · cases listing
      have listed := mem_children (List.mem_filter.1 mem).1
      exact (RecordPath.valid_append.1 (named _ listed)).2 n (List.mem_singleton_self n)
    · cases listing
  · cases listing
  · cases listing

theorem locate_join_segment (dir : String) {n : String} (seg : RecordPath.Segment n) :
    locate (Path.join dir n) = locate dir ++ [n] := by
  have one : RecordPath.ofSegments [n] = n := by simp [RecordPath.ofSegments]
  rw [← one]
  exact locate_join dir (RecordPath.valid_cons.2 ⟨seg, RecordPath.valid_nil⟩) (List.cons_ne_nil n [])

end Disk

theorem Except.mem_of_mapM {α β ε : Type} {f : α → Except ε β} :
    ∀ {l : List α} {out : List β}, l.mapM f = .ok out → ∀ y ∈ out, ∃ x ∈ l, f x = .ok y
  | [], out, mapped, y, mem => by
    simp only [List.mapM_nil] at mapped
    cases mapped
    cases mem
  | x :: l, out, mapped, y, mem => by
    simp only [List.mapM_cons, bind, Except.bind] at mapped
    cases here : f x with
    | error e => simp [here] at mapped
    | ok b =>
      cases rest : l.mapM f with
      | error e => simp [here, rest] at mapped
      | ok bs =>
        simp only [here, rest, pure, Except.pure, Except.ok.injEq] at mapped
        subst mapped
        rcases List.mem_cons.1 mem with rfl | later
        · exact ⟨x, List.mem_cons_self, here⟩
        · obtain ⟨x', mem', found⟩ := Except.mem_of_mapM rest y later
          exact ⟨x', List.mem_cons_of_mem x mem', found⟩

namespace Disk

/-- On a named disk every record found below a directory has a path below the top. -/
theorem locate_ne_nil_of_found {d : Disk} (named : d.Named) {suf : String} :
    ∀ {fuel : Nat} {dir : String} {paths : List String}, d.recordsBelow suf fuel dir = .ok paths →
      ∀ path ∈ paths, locate path ≠ []
  | 0, _, paths, found, path, mem => by
    cases found
    cases mem
  | fuel + 1, dir, paths, found, path, mem => by
    cases listing : d.subdirs dir with
    | error e => simp [recordsBelow, listing, bind, Except.bind] at found
    | ok names =>
      rw [recordsBelow_listed listing] at found
      cases mapped : names.mapM (recordPiece suf dir (d.recordsBelow suf fuel)) with
      | error e => simp [mapped, bind, Except.bind] at found
      | ok pieces =>
        simp only [mapped, bind, Except.bind, pure, Except.pure, Except.ok.injEq] at found
        subst found
        obtain ⟨piece, inPieces, inPiece⟩ := List.mem_flatten.1 mem
        obtain ⟨name, listed, made⟩ := Except.mem_of_mapM mapped piece inPieces
        unfold recordPiece at made
        split at made
        · -- a record right below: its path adds its name
          cases made
          obtain rfl := List.mem_singleton.1 inPiece
          rw [locate_join_segment dir (segment_of_subdirs named listing listed)]
          exact List.append_ne_nil_of_right_ne_nil _ (List.cons_ne_nil _ _)
        · split at made
          · exact locate_ne_nil_of_found named made path inPiece
          · cases made
            cases inPiece

end Disk

theorem Except.mapM_snoc {α β ε : Type} {f : α → Except ε β} {pref : List α} {done : List β}
    (before : pref.mapM f = .ok done) {cur : α} {b : β} (here : f cur = .ok b) :
    (pref ++ [cur]).mapM f = .ok (done ++ [b]) := by
  simp [List.mapM_append, before, here, bind, Except.bind, pure, Except.pure]

theorem Except.mapM_stops {α β ε : Type} {f : α → Except ε β} {pref : List α} {done : List β}
    (before : pref.mapM f = .ok done) {cur : α} {e : ε} (here : f cur = .error e) (suff : List α) :
    (pref ++ cur :: suff).mapM f = .error e := by
  simp [List.mapM_append, before, here, bind, Except.bind]

/-- Listing a directory reads the disk and changes nothing. -/
theorem Sys.subdirectories_spec (p : String) (u : JobSystem) :
    ⦃fun s => ⌜s = u⌝⦄ Sys.subdirectories p
    ⦃post⟨fun names s => ⌜u.disk.subdirs p = .ok names ∧ s = u⌝,
      fun e s => ⌜(∃ e', e = .fault e' ∧ u.disk.subdirs p = .error e') ∧ s = u⌝⟩⦄ := by
  mvcgen [Sys.subdirectories, Sys.disk, Sys.fail]
  · rename_i start loc _ found dir
    subst start
    simp only [loc] at found ⊢
    exact ⟨by simp [Disk.subdirs, found, dir], trivial⟩
  · rename_i start loc _ found notDir
    subst start
    simp only [loc] at found
    exact ⟨⟨_, rfl, by simp [Disk.subdirs, found, notDir]⟩, rfl⟩
  · rename_i start loc found
    subst start
    simp only [loc] at found
    exact ⟨⟨_, rfl, by simp [Disk.subdirs, found]⟩, rfl⟩
  · rename_i start loc e found
    subst start
    simp only [loc] at found
    exact ⟨⟨_, rfl, by simp [Disk.subdirs, found]⟩, rfl⟩

/-- One directory of the walk adds what `Disk.recordPiece` says it adds, where the walk below
it reads as `below` does, and changes nothing. -/
theorem Project.findAt_spec (suf dir : String) {deeper : String → Sys (List String)}
    {below : String → Outcome (List String)} (u : JobSystem)
    (deeps : ∀ path, ⦃fun s => ⌜s = u⌝⦄ deeper path
      ⦃post⟨fun found s => ⌜below path = .ok found ∧ s = u⌝,
        fun e s => ⌜(∃ e', e = .fault e' ∧ below path = .error e') ∧ s = u⌝⟩⦄)
    (found : List String) (name : String) :
    ⦃fun s => ⌜s = u⌝⦄ Project.findAt suf deeper dir found name
    ⦃post⟨fun found' s => ⌜(∃ piece, Disk.recordPiece suf dir below name = .ok piece ∧ found' = found ++ piece) ∧
        s = u⌝,
      fun e s => ⌜(∃ e', e = .fault e' ∧ Disk.recordPiece suf dir below name = .error e') ∧ s = u⌝⟩⦄ := by
  mvcgen [Project.findAt, deeps]
  -- a record right below adds itself
  · rename_i record _ start
    exact ⟨⟨[Path.join dir name], by simp [Disk.recordPiece, record], rfl⟩, start⟩
  -- a working directory adds nothing
  · rename_i notRecord wd _ start
    exact ⟨⟨[], by simp [Disk.recordPiece, notRecord, wd], by simp⟩, start⟩
  -- any other directory adds what the walk finds below it
  · rename_i notRecord notWd _ _ _ _ walked
    obtain ⟨walked, same⟩ := walked
    exact ⟨⟨_, by simpa [Disk.recordPiece, notRecord, notWd] using walked, rfl⟩, same⟩
  · rename_i notRecord notWd _ _ _ _
    rintro ⟨e', rfl, failed⟩ same
    exact ⟨⟨e', rfl, by simpa [Disk.recordPiece, notRecord, notWd] using failed⟩, same⟩

/-- Going over the directories `names` right below `dir` in turn gathers what each one adds,
and changes nothing. -/
theorem Project.findAll_spec (suf dir : String) {deeper : String → Sys (List String)}
    {below : String → Outcome (List String)} (u : JobSystem)
    (deeps : ∀ path, ⦃fun s => ⌜s = u⌝⦄ deeper path
      ⦃post⟨fun found s => ⌜below path = .ok found ∧ s = u⌝,
        fun e s => ⌜(∃ e', e = .fault e' ∧ below path = .error e') ∧ s = u⌝⟩⦄)
    (names : List String) :
    ⦃fun s => ⌜s = u⌝⦄ names.foldlM (Project.findAt suf deeper dir) []
    ⦃post⟨fun found s => ⌜(∃ pieces, names.mapM (Disk.recordPiece suf dir below) = .ok pieces ∧
        found = pieces.flatten) ∧ s = u⌝,
      fun e s => ⌜(∃ e', e = .fault e' ∧ names.mapM (Disk.recordPiece suf dir below) = .error e') ∧ s = u⌝⟩⦄ := by
  -- what the directories gone over add is gathered, and the state is left as it was
  let inv : Invariant names (List String) (.except Stop (.arg JobSystem .pure)) :=
    post⟨fun loop s => ⌜(∃ pieces, ( List.Cursor.prefix loop.1).mapM (Disk.recordPiece suf dir below) = .ok pieces ∧
        loop.2 = pieces.flatten) ∧ s = u⌝,
      fun e s => ⌜(∃ e', e = .fault e' ∧ names.mapM (Disk.recordPiece suf dir below) = .error e') ∧ s = u⌝⟩
  refine Sys.triple_conseq (Spec.foldlM_list inv ?_) (fun _ same => ⟨⟨[], rfl, rfl⟩, same⟩) (fun _ _ done => done)
    fun _ _ stop => stop
  intro pref cur suff split found
  refine Sys.triple_pinned ?_
  rintro s ⟨⟨pieces, gathered, rfl⟩, start⟩
  refine Sys.triple_conseq (Project.findAt_spec suf dir u deeps pieces.flatten cur)
    (fun _ same => same.trans start) ?_ ?_
  · rintro _ t ⟨⟨piece, made, rfl⟩, same⟩
    exact ⟨⟨pieces ++ [piece], Except.mapM_snoc gathered made, by simp⟩, same⟩
  · rintro _ t ⟨⟨e', rfl, failed⟩, same⟩
    exact ⟨⟨e', rfl, split ▸ Except.mapM_stops gathered failed suff⟩, same⟩

/-- The walk below a directory finds what `Disk.recordsBelow` finds, and changes nothing. -/
theorem Project.findRecords_spec (suf : String) (u : JobSystem) : ∀ fuel dir,
    ⦃fun s => ⌜s = u⌝⦄ Project.findRecords suf fuel dir
    ⦃post⟨fun found s => ⌜u.disk.recordsBelow suf fuel dir = .ok found ∧ s = u⌝,
      fun e s => ⌜(∃ e', e = .fault e' ∧ u.disk.recordsBelow suf fuel dir = .error e') ∧ s = u⌝⟩⦄
  | 0, dir => by mvcgen [Project.findRecords]
  | fuel + 1, dir => by
    have listing := Sys.subdirectories_spec dir u
    have gathers := Project.findAll_spec suf dir u (findRecords_spec suf u fuel)
    mvcgen [Project.findRecords, listing, gathers, -Spec.foldlM_list]
    · rename_i listed
      exact listed.2
    -- the directory lists: the walk gathers what each directory below adds
    · rename_i listed _ _
      rintro ⟨pieces, gathered, rfl⟩ same
      refine ⟨?_, same⟩
      rw [Disk.recordsBelow_listed listed.1, gathered]
      rfl
    · rename_i listed _ _
      rintro ⟨e', rfl, failed⟩ same
      refine ⟨⟨e', rfl, ?_⟩, same⟩
      rw [Disk.recordsBelow_listed listed.1, failed]
      rfl
    -- the directory does not list
    · rintro ⟨e', rfl, failed⟩ same
      refine ⟨⟨e', rfl, ?_⟩, same⟩
      simp only [Disk.recordsBelow, failed]
      rfl

/-! ### What a rebuild reads -/

/-- The generic part of a record, read as the system reads it. -/
def Record.generic (r : Record) : Outcome GenericRecord := do
  readValue GenericRecord.read (← r.read Layout.generic)

theorem Sys.readAs_generic (r : Record) :
    Sys.readAs r Layout.generic GenericRecord.read = Sys.ofOutcome r.generic := rfl

namespace Project

/-- The project of a record at `path` found below `p`: the directory the record stands in. -/
def projectOf (p : Project) (path : String) : String := (Path.parent? path).getD p.path

/-- The paths of the records a rebuild of `p` finds in the system `u`. -/
def recordPaths (p : Project) (u : JobSystem) : Outcome (List String) :=
  u.disk.recordsBelow ("." ++ u.config.storage.extension) (u.disk.nodes.length + 1) p.path

/-- An index covers the job of a record when a row holds the job's id, or its name in its
project. -/
def Covers (ix : JobIndex) (project : String) (g : GenericRecord) : Prop :=
  ∃ row ∈ ix.rows, row.id = g.jobId ∨ row.project = project ∧ row.jobName = g.jobName

/-- The row a rebuild adds back for the record at `path` whose generic part is `g`. -/
def rebuiltRow (p : Project) (ext path : String) (g : GenericRecord) : Outcome IndexRow := do
  let project := p.projectOf path
  let identity ← Identity.make project g.jobName g.jobType ext
  pure
    { id := g.jobId, project, jobName := g.jobName, jobType := g.jobType, status := g.status,
      workingDirectory := identity.workingDirectory, storagePath := path, masterId := g.masterId,
      queueId := g.server.queueId, reason := g.failure.map Failure.summary }

/-- The record at `path` on the disk of `u`, when it opens, has a generic part that reads, and
its job is covered by the index `ix`. -/
def Covered (p : Project) (u : JobSystem) (ix : JobIndex) (path : String) : Prop :=
  ∀ r, (⟨u.config.storage⟩ : RecordStore).opened u.disk path = .ok r →
    ∃ g, r.generic = .ok g ∧ Covers ix (p.projectOf path) g

/-- A row rebuilt from the record at one of the paths `done` on the disk of `u`, whose job the
index of `u` does not cover. -/
def Rebuilt (p : Project) (u : JobSystem) (done : List String) (row : IndexRow) : Prop :=
  ∃ path ∈ done, ∃ r g, (⟨u.config.storage⟩ : RecordStore).opened u.disk path = .ok r ∧ r.generic = .ok g ∧
    ¬ Covers u.index (p.projectOf path) g ∧ p.rebuiltRow u.config.storage.extension path g = .ok row

/-- Where a rebuild from `u` stops: in the walk, or at a record that opens and whose generic
part does not read, or whose job the index does not cover and whose row cannot be made. -/
def Stuck (p : Project) (u : JobSystem) : Prop :=
  match p.recordPaths u with
  | .error _ => True
  | .ok paths => ∃ path ∈ paths, ∃ r, (⟨u.config.storage⟩ : RecordStore).opened u.disk path = .ok r ∧
      ((∃ e, r.generic = .error e) ∨ ∃ g, r.generic = .ok g ∧ ¬ Covers u.index (p.projectOf path) g ∧
        ∃ e, p.rebuiltRow u.config.storage.extension path g = .error e)

section Covers

variable {ix ix' : JobIndex} {project : String} {g : GenericRecord}

theorem covers_of_get? (held : (ix.get? g.jobId).isSome) : Covers ix project g := by
  obtain ⟨row, mem, same⟩ := List.find?_isSome.1 held
  exact ⟨row, mem, .inl (by simpa using same)⟩

theorem covers_of_find? (held : (ix.find? project g.jobName).isSome) : Covers ix project g := by
  obtain ⟨row, mem, same⟩ := List.find?_isSome.1 held
  exact ⟨row, mem, .inr (by simpa using same)⟩

theorem not_covers (freeId : ix.get? g.jobId = none) (freeName : ix.find? project g.jobName = none) :
    ¬ Covers ix project g := by
  rintro ⟨row, mem, held | ⟨sameProject, sameName⟩⟩
  · have found : (ix.get? g.jobId).isSome := List.find?_isSome.2 ⟨row, mem, by simpa using held⟩
    rw [freeId] at found
    cases found
  · have found : (ix.find? project g.jobName).isSome :=
      List.find?_isSome.2 ⟨row, mem, by simp [sameProject, sameName]⟩
    rw [freeName] at found
    cases found

theorem Covers.mono (covers : Covers ix project g) (grows : ∀ row ∈ ix.rows, row ∈ ix'.rows) :
    Covers ix' project g := by
  obtain ⟨row, mem, held⟩ := covers
  exact ⟨row, grows row mem, held⟩

end Covers

/-- A made row stands for the record's job, at the record's path. -/
theorem rebuiltRow_ok {p : Project} {ext path : String} {g : GenericRecord} {row : IndexRow}
    (made : p.rebuiltRow ext path g = .ok row) :
    row.id = g.jobId ∧ row.project = p.projectOf path ∧ row.jobName = g.jobName ∧ row.storagePath = path := by
  unfold rebuiltRow at made
  cases identity : Identity.make (p.projectOf path) g.jobName g.jobType ext with
  | error e => simp [identity, bind, Except.bind] at made
  | ok i =>
    simp only [identity, bind, Except.bind, pure, Except.pure, Except.ok.injEq] at made
    subst made
    exact ⟨rfl, rfl, rfl, rfl⟩

theorem JobIndex.restore_free {ix : JobIndex} {row : IndexRow} (freeId : ix.get? row.id = none)
    (freeName : ix.find? row.project row.jobName = none) : ix.restore row = .ok (ix.place row) := by
  have noId : ix.rows.any (·.id = row.id) = false := by
    simpa [JobIndex.get?, List.find?_eq_none] using freeId
  have noName : ix.taken row.project row.jobName = false := by
    simpa [JobIndex.taken, JobIndex.find?, List.find?_eq_none] using freeName
  simp [JobIndex.restore, noId, noName, pure, Except.pure]

/-! ### The state a rebuild runs through -/

/-- What holds once the rebuild of `p` that started in `u` went over the record paths `done`
and added back the ids `ids`, in the state `s`: only the index and the disk changed, the disk
shows the directories and records it showed, the index holds its rows and the rows added back,
each rebuilt from a record, and the job of every record gone over is covered. -/
structure RebuildState (p : Project) (u : JobSystem) (done : List String) (ids : List Nat) (s : JobSystem) :
    Prop where
  frame : s = { u with index := s.index, disk := s.disk }
  disk : Disk.Reopened u.disk s.disk
  paths : s.disk.paths.Perm u.disk.paths
  added : ∃ rows, s.index.rows.Perm (rows ++ u.index.rows) ∧ rows.map (·.id) = ids ∧
    ∀ row ∈ rows, Rebuilt p u done row
  covered : ∀ path ∈ done, Covered p u s.index path

theorem Rebuilt.mono {p : Project} {u : JobSystem} {done done' : List String} {row : IndexRow}
    (rebuilt : Rebuilt p u done row) (sub : done ⊆ done') : Rebuilt p u done' row := by
  obtain ⟨path, mem, rest⟩ := rebuilt
  exact ⟨path, sub mem, rest⟩

theorem Rebuilt.extend {p : Project} {u : JobSystem} {done : List String} {row : IndexRow}
    (rebuilt : Rebuilt p u done row) (path : String) : Rebuilt p u (done ++ [path]) row :=
  rebuilt.mono (List.subset_append_left _ _)

theorem Covered.mono {p : Project} {u : JobSystem} {ix ix' : JobIndex} {path : String}
    (covered : Covered p u ix path) (grows : ∀ row ∈ ix.rows, row ∈ ix'.rows) : Covered p u ix' path := by
  intro r opened
  obtain ⟨g, read, covers⟩ := covered r opened
  exact ⟨g, read, covers.mono grows⟩

namespace RebuildState

variable {p : Project} {u s s' : JobSystem} {done : List String} {ids : List Nat} {path : String}

theorem start (p : Project) (u : JobSystem) : RebuildState p u [] [] u :=
  ⟨rfl, .refl _, .refl _, ⟨[], .refl _, rfl, fun _ mem => absurd mem List.not_mem_nil⟩,
    fun _ mem => absurd mem List.not_mem_nil⟩

theorem config (st : RebuildState p u done ids s) : s.config = u.config := by
  rw [st.frame]

theorem opened_eq (st : RebuildState p u done ids s) (path : String) :
    (⟨s.config.storage⟩ : RecordStore).opened s.disk path = (⟨u.config.storage⟩ : RecordStore).opened u.disk path := by
  rw [st.config, RecordStore.opened_of_reopened st.disk]

/-- What the system reads opening a record in the state reached, it reads where the rebuild
started. -/
theorem opened_record (st : RebuildState p u done ids s) {o : Outcome Record}
    (opened : o = (⟨s.config.storage⟩ : RecordStore).opened s.disk path) :
    (⟨u.config.storage⟩ : RecordStore).opened u.disk path = o :=
  (st.opened_eq path).symm.trans opened.symm

theorem grows (st : RebuildState p u done ids s) : ∀ row ∈ u.index.rows, row ∈ s.index.rows := by
  obtain ⟨rows, perm, -, -⟩ := st.added
  exact fun row mem => perm.symm.subset (List.mem_append_right rows mem)

/-- Whatever opening a record below the top did to the disk keeps the state. -/
theorem reopen (st : RebuildState p u done ids s) (nodup : u.disk.paths.Nodup) (full : Disk.locate path ≠ [])
    (opening : Reopening s s' path) :
    RebuildState p u done ids s' := by
  rcases opening with rfl | ⟨dir, rfl⟩
  · exact st
  · have listed := Disk.mem_paths_of_lookup dir full
    exact ⟨by rw [st.frame], st.disk.trans (Disk.reopened_put dir),
      (Disk.paths_put (st.paths.nodup_iff.2 nodup) listed _).trans st.paths, st.added, st.covered⟩

theorem covered_extend (st : RebuildState p u done ids s) {ix : JobIndex} (here : Covered p u ix path)
    (grows : ∀ row ∈ s.index.rows, row ∈ ix.rows) : ∀ path' ∈ done ++ [path], Covered p u ix path' := by
  intro path' mem
  rcases List.mem_append.1 mem with before | now
  · exact (st.covered path' before).mono grows
  · rw [List.mem_singleton.1 now]
    exact here

/-- A path whose record does not open is passed over. -/
theorem skip (st : RebuildState p u done ids s) {e : JobError}
    (failed : (⟨u.config.storage⟩ : RecordStore).opened u.disk path = .error e) :
    RebuildState p u (done ++ [path]) ids s := by
  obtain ⟨rows, perm, named, rebuilt⟩ := st.added
  refine ⟨st.frame, st.disk, st.paths, ⟨rows, perm, named, fun row mem => (rebuilt row mem).extend path⟩,
    st.covered_extend (fun r opened => ?_) fun _ => id⟩
  rw [failed] at opened
  cases opened

/-- A record whose job the index covers is passed over. -/
theorem held (st : RebuildState p u done ids s) {r : Record} {g : GenericRecord}
    (opened : (⟨u.config.storage⟩ : RecordStore).opened u.disk path = .ok r) (read : r.generic = .ok g)
    (covers : Covers s.index (p.projectOf path) g) : RebuildState p u (done ++ [path]) ids s := by
  obtain ⟨rows, perm, named, rebuilt⟩ := st.added
  refine ⟨st.frame, st.disk, st.paths, ⟨rows, perm, named, fun row mem => (rebuilt row mem).extend path⟩,
    st.covered_extend (fun r' opened' => ?_) fun _ => id⟩
  rw [opened] at opened'
  cases opened'
  exact ⟨g, read, covers⟩

/-- A record whose job no row holds by id or by name is not covered where the rebuild started. -/
theorem uncovered (st : RebuildState p u done ids s) {g : GenericRecord} {project : String}
    (freeId : s.index.get? g.jobId = none) (freeName : s.index.find? project g.jobName = none) :
    ¬ Covers u.index project g :=
  fun covers => not_covers freeId freeName (covers.mono st.grows)

/-- A record whose job no row holds by id or by name, and whose row is made, is added back. -/
theorem restore (st : RebuildState p u done ids s) {r : Record} {g : GenericRecord} {row : IndexRow}
    (opened : (⟨u.config.storage⟩ : RecordStore).opened u.disk path = .ok r) (read : r.generic = .ok g)
    (freeId : s.index.get? g.jobId = none) (freeName : s.index.find? (p.projectOf path) g.jobName = none)
    (made : p.rebuiltRow u.config.storage.extension path g = .ok row) :
    ∃ ix', s.index.restore row = .ok ix' ∧
      RebuildState p u (done ++ [path]) (ids ++ [g.jobId]) { s with index := ix' } := by
  obtain ⟨rowId, rowProject, rowName, -⟩ := rebuiltRow_ok made
  have placed : s.index.restore row = .ok (s.index.place row) :=
    JobIndex.restore_free (by rw [rowId]; exact freeId) (by rw [rowProject, rowName]; exact freeName)
  obtain ⟨rows, perm, named, rebuilt⟩ := st.added
  have gained : (s.index.place row).rows.Perm ((rows ++ [row]) ++ u.index.rows) := by
    rw [List.append_assoc, List.singleton_append]
    exact (JobIndex.place_perm _ _).trans ((perm.cons row).trans List.perm_middle.symm)
  have grows : ∀ row' ∈ s.index.rows, row' ∈ (s.index.place row).rows := fun row' mem =>
    (JobIndex.place_perm _ _).symm.subset (List.mem_cons_of_mem row mem)
  refine ⟨_, placed, ⟨by rw [st.frame], st.disk, st.paths, ⟨rows ++ [row], gained, by simp [named, rowId], ?_⟩,
    st.covered_extend (fun r' opened' => ?_) grows⟩⟩
  · intro row' mem
    rcases List.mem_append.1 mem with before | now
    · exact (rebuilt row' before).extend path
    · rw [List.mem_singleton.1 now]
      exact ⟨path, by simp, r, g, opened, read, st.uncovered freeId freeName, made⟩
  · rw [opened] at opened'
    cases opened'
    exact ⟨g, read, row, (JobIndex.place_perm _ _).symm.subset List.mem_cons_self, .inl rowId⟩

end RebuildState

/-! ### A whole rebuild -/

theorem rebuiltRow_eq {p : Project} {ext path : String} {g : GenericRecord} {identity : Identity}
    (made : Identity.make (p.projectOf path) g.jobName g.jobType ext = .ok identity) :
    p.rebuiltRow ext path g = .ok
      { id := g.jobId, project := p.projectOf path, jobName := g.jobName, jobType := g.jobType, status := g.status,
        workingDirectory := identity.workingDirectory, storagePath := path, masterId := g.masterId,
        queueId := g.server.queueId, reason := g.failure.map Failure.summary } := by
  simp [rebuiltRow, made, bind, Except.bind, pure, Except.pure]

theorem rebuiltRow_error {p : Project} {ext path : String} {g : GenericRecord} {e : JobError}
    (unmade : Identity.make (p.projectOf path) g.jobName g.jobType ext = .error e) :
    p.rebuiltRow ext path g = .error e := by
  simp [rebuiltRow, unmade, bind, Except.bind]

/-- The path a rebuild has reached is one of the paths it found, below the top on a named disk. -/
theorem cursor_found {d : Disk} (named : d.Named) {suf : String} {fuel : Nat} {dir : String}
    {found pref suff : List String} {cur : String} (listing : d.recordsBelow suf fuel dir = .ok found)
    (split : found.mergeSort pathBefore = pref ++ cur :: suff) : cur ∈ found ∧ Disk.locate cur ≠ [] := by
  have listed : cur ∈ found := List.mem_mergeSort.1 (by rw [split]; simp)
  exact ⟨listed, Disk.locate_ne_nil_of_found named listing cur listed⟩

theorem stuck_of {p : Project} {u : JobSystem} {found : List String} (listing : p.recordPaths u = .ok found)
    {path : String} (listed : path ∈ found) {r : Record}
    (opened : (⟨u.config.storage⟩ : RecordStore).opened u.disk path = .ok r)
    (why : (∃ e, r.generic = .error e) ∨ ∃ g, r.generic = .ok g ∧ ¬ Covers u.index (p.projectOf path) g ∧
      ∃ e, p.rebuiltRow u.config.storage.extension path g = .error e) : Stuck p u := by
  unfold Stuck
  rw [listing]
  exact ⟨path, listed, r, opened, why⟩

/-- A record at `path`, found by the rebuild and opened, is passed over when the index covers
its job and has its row added back otherwise; a generic part that does not read, or a row that
cannot be made, stops the rebuild. -/
theorem restoreRecord_spec {p : Project} {u : JobSystem} {found done : List String} {ids : List Nat}
    {path : String} {r : Record} (listing : p.recordPaths u = .ok found) (listed : path ∈ found) :
    ⦃fun t => ⌜RebuildState p u done ids t ∧ (⟨u.config.storage⟩ : RecordStore).opened u.disk path = .ok r⌝⦄
    p.restoreRecord u.config.storage.extension ids path r
    ⦃post⟨fun ids' t => ⌜RebuildState p u (done ++ [path]) ids' t⌝, fun _ _ => ⌜Stuck p u⌝⟩⦄ := by
  refine Sys.triple_pinned ?_
  rintro s ⟨st, opened⟩
  mvcgen [Project.restoreRecord, Sys.readAs_generic, Sys.row?, Sys.findByName, Sys.restoreRow, Sys.index,
    Sys.setIndex, -Sys.readAs_keepsHeld, -Sys.findByName_keepsHeld]
  -- the index holds the record's id, or its name in its project: the record is passed over
  · rename_i g read heldId
    obtain rfl := ‹_ = s›
    exact st.held opened read (covers_of_get? heldId)
  · rename_i g read _ _ heldName
    obtain rfl := ‹_ = s›
    exact st.held opened read (covers_of_find? heldName)
  -- the job is not indexed: its row is added back
  · rename_i g read freeId _ freeName identity made ix restored _
    obtain rfl := ‹_ = s›
    obtain ⟨ix', placed, st'⟩ := st.restore opened read (Option.not_isSome_iff_eq_none.1 freeId)
      (Option.not_isSome_iff_eq_none.1 freeName) (rebuiltRow_eq made)
    obtain rfl : ix' = ix := Except.ok.inj (placed.symm.trans restored)
    exact st'
  · rename_i g read freeId _ freeName identity made e failed
    obtain rfl := ‹_ = s›
    obtain ⟨ix', placed, -⟩ := st.restore opened read (Option.not_isSome_iff_eq_none.1 freeId)
      (Option.not_isSome_iff_eq_none.1 freeName) (rebuiltRow_eq made)
    cases placed.symm.trans failed
  -- the row cannot be made, or the generic part does not read: the rebuild stops
  · rename_i g read freeId _ freeName e unmade
    obtain rfl := ‹_ = s›
    exact stuck_of listing listed opened (.inr ⟨g, read, st.uncovered (Option.not_isSome_iff_eq_none.1 freeId)
      (Option.not_isSome_iff_eq_none.1 freeName), e, rebuiltRow_error unmade⟩)
  · rename_i e unread
    exact stuck_of listing listed opened (.inl ⟨e, unread⟩)

/-- A path the rebuild found, below the top: a record that opens is passed over or added back,
and one that does not open is passed over. -/
theorem restoreFound_spec {p : Project} {u : JobSystem} {found done : List String} {ids : List Nat}
    {path : String} (nodup : u.disk.paths.Nodup) (listing : p.recordPaths u = .ok found) (listed : path ∈ found)
    (full : Disk.locate path ≠ []) :
    ⦃fun t => ⌜RebuildState p u done ids t⌝⦄ p.restoreFound u.config.storage.extension ids path
    ⦃post⟨fun ids' t => ⌜RebuildState p u (done ++ [path]) ids' t⌝, fun _ _ => ⌜Stuck p u⌝⟩⦄ := by
  refine Sys.triple_pinned fun s st => ?_
  have opens := Sys.attempt_openRecord path s
  have restores := fun r => @restoreRecord_spec p u found done ids path r listing listed
  mvcgen [Project.restoreFound, opens, restores, -Sys.attempt_keepsHeld]
  · rename_i opened
    exact ⟨st.reopen nodup full opened.2, st.opened_record opened.1⟩
  · rename_i unopened
    exact (st.reopen nodup full unopened.2).skip (st.opened_record unopened.1)

/-- Going over the record paths found, in the order the rebuild sorts them. -/
theorem rebuildPaths {p : Project} {u : JobSystem} {found : List String} (nodup : u.disk.paths.Nodup)
    (named : u.disk.Named) (listing : p.recordPaths u = .ok found) :
    ⦃fun s => ⌜RebuildState p u [] [] s⌝⦄
    (found.mergeSort pathBefore).foldlM (p.restoreFound u.config.storage.extension) []
    ⦃post⟨fun ids s => ⌜RebuildState p u (found.mergeSort pathBefore) ids s⌝, fun _ _ => ⌜Stuck p u⌝⟩⦄ := by
  let inv : Invariant (found.mergeSort pathBefore) (List Nat) (.except Stop (.arg JobSystem .pure)) :=
    post⟨fun loop s => ⌜RebuildState p u ( List.Cursor.prefix loop.1) loop.2 s⌝, fun _ _ => ⌜Stuck p u⌝⟩
  refine Spec.foldlM_list inv fun pref cur suff split ids => ?_
  obtain ⟨listed, full⟩ := cursor_found named listing split
  exact restoreFound_spec nodup listing listed full

theorem rebuild_spec (p : Project) (u : JobSystem) (nodup : u.disk.paths.Nodup) (named : u.disk.Named) :
    ⦃fun s => ⌜s = u⌝⦄ p.rebuild
    ⦃post⟨fun ids s => ⌜∃ paths, p.recordPaths u = .ok paths ∧ RebuildState p u (paths.mergeSort pathBefore) ids s⌝,
      fun _ _ => ⌜Stuck p u⌝⟩⦄ := by
  mvcgen [Project.rebuild, Project.suffix, Sys.config, Sys.disk, Project.findRecords_spec, -Spec.foldlM_list]
  -- the walk found the records: they are gone over in turn
  · rename_i found
    obtain rfl := ‹_ = u›.symm
    intro s listing same
    subst s
    exact Sys.triple_conseq (rebuildPaths nodup named listing) (fun _ start => start)
      (fun ids _ st => ⟨found, listing, st⟩) (fun _ _ stuck => stuck) u (RebuildState.start p u)
  -- the walk stops
  · obtain rfl := ‹_ = u›.symm
    rintro ⟨e', -, failed⟩ -
    unfold Stuck
    rw [show p.recordPaths u = .error e' from failed]
    trivial

/-- Once a rebuild went over every record it found, on a disk whose paths are unique and hold
plain names, a second rebuild finds the same records, all covered, and adds nothing back. -/
theorem RebuildState.rebuild_again {p : Project} {u s : JobSystem} {found : List String} {ids : List Nat}
    (st : RebuildState p u (found.mergeSort pathBefore) ids s) (listing : p.recordPaths u = .ok found)
    (nodup : u.disk.paths.Nodup) (named : u.disk.Named) : (p.rebuild.run.run s).1 = .ok [] := by
  have sameCount : s.disk.nodes.length = u.disk.nodes.length := by simpa using st.paths.length_eq
  have sameListing : p.recordPaths s = .ok found := by
    rw [← listing]
    unfold recordPaths
    rw [st.config, Disk.recordsBelow_of_reopened st.disk st.paths, sameCount]
  -- every record found is covered, so the second rebuild neither adds a row nor stops
  have covered : ∀ path ∈ found.mergeSort pathBefore, ∀ r,
      (⟨s.config.storage⟩ : RecordStore).opened s.disk path = .ok r →
        ∃ g, r.generic = .ok g ∧ Covers s.index (p.projectOf path) g :=
    fun path mem r opened => st.covered path mem r ((st.opened_eq path).symm.trans opened)
  have again := Sys.of_triple
    (rebuild_spec p s (st.paths.nodup_iff.2 nodup) fun q mem => named q (st.paths.subset mem)) s rfl
  rcases result : p.rebuild.run.run s with ⟨_ | ids', s'⟩ <;> rw [result] at again
  · unfold Stuck at again
    rw [sameListing] at again
    obtain ⟨path, listed, r, opened, why⟩ := again
    obtain ⟨g, read, covers⟩ := covered path (List.mem_mergeSort.2 listed) r opened
    rcases why with ⟨e, unread⟩ | ⟨g', read', uncovered, -⟩
    · rw [read] at unread
      cases unread
    · rw [read] at read'
      cases read'
      exact (uncovered covers).elim
  · obtain ⟨paths, listing', st'⟩ := again
    rw [sameListing] at listing'
    cases listing'
    obtain ⟨rows, -, named', rebuilt⟩ := st'.added
    have none : rows = [] := List.eq_nil_iff_forall_not_mem.2 fun row mem => by
      obtain ⟨path, listed, r, g, opened, read, uncovered, -⟩ := rebuilt row mem
      obtain ⟨g', read', covers⟩ := covered path listed r opened
      rw [read] at read'
      cases read'
      exact uncovered covers
    rw [← named', none]
    rfl

/-- A rebuild of a project on a disk whose paths are unique and hold plain names. -/
theorem rebuild_restores_records (p : Project) (v : JobSystem) (nodup : v.disk.paths.Nodup)
    (named : v.disk.Named) :
    match p.rebuild.run.run v with
    | (.ok ids, s) => ∃ found, p.recordPaths v = .ok found ∧
        (∀ path ∈ found, Covered p v s.index path) ∧
        (∃ rows, s.index.rows.Perm (rows ++ v.index.rows) ∧ rows.map (·.id) = ids ∧
          ∀ row ∈ rows, Rebuilt p v found row) ∧
        (p.rebuild.run.run s).1 = .ok []
    | (.error _, _) => Stuck p v := by
  have run := Sys.of_triple (rebuild_spec p v nodup named) v rfl
  rcases result : p.rebuild.run.run v with ⟨_ | ids, s⟩ <;> rw [result] at run
  · exact run
  · obtain ⟨found, listing, st⟩ := run
    obtain ⟨rows, perm, named', rebuilt⟩ := st.added
    exact ⟨found, listing, fun path mem => st.covered path (List.mem_mergeSort.2 mem),
      ⟨rows, perm, named', fun row mem => (rebuilt row mem).mono fun _ listed => List.mem_mergeSort.1 listed⟩,
      st.rebuild_again listing nodup named⟩

/-- Repairing and rebuilding the index of a project tree, from an index whose rows have an id
each and a disk whose paths are unique and hold plain names. -/
theorem repair_and_rebuild_follow_records (p : Project) (v : JobSystem) (unique : (v.index.rows.map (·.id)).Nodup)
    (nodup : v.disk.paths.Nodup) (named : v.disk.Named) :
    (match p.repair.run.run v with
      | (.ok rep, s) =>
        (∀ row ∈ v.index.query (.ofProject p.path true), ∀ r,
          finding ⟨v.config.storage⟩ v.disk row.storagePath = .opened r →
            ∃ row', s.index.get? row.id = some row' ∧ r.storedStatus = .ok row'.status) ∧
        (∀ row ∈ v.index.query (.ofProject p.path true),
          finding ⟨v.config.storage⟩ v.disk row.storagePath = .missing → s.index.get? row.id = none) ∧
        rep = repairReport ⟨v.config.storage⟩ v.disk (v.index.query (.ofProject p.path true)) ∧
        (p.repair.run.run s).1 = .ok { skipped := rep.skipped }
      | (.error _, _) => ∃ row ∈ v.index.query (.ofProject p.path true), Unreadable ⟨v.config.storage⟩ v.disk row) ∧
    (match p.rebuild.run.run v with
      | (.ok ids, s) => ∃ found, p.recordPaths v = .ok found ∧
          (∀ path ∈ found, Covered p v s.index path) ∧
          (∃ rows, s.index.rows.Perm (rows ++ v.index.rows) ∧ rows.map (·.id) = ids ∧
            ∀ row ∈ rows, Rebuilt p v found row) ∧
          (p.rebuild.run.run s).1 = .ok []
      | (.error _, _) => Stuck p v) := by
  refine ⟨?_, rebuild_restores_records p v nodup named⟩
  have run := Sys.of_triple (repair_spec p v unique) v rfl
  rcases result : p.repair.run.run v with ⟨_ | rep, s⟩ <;> rw [result] at run
  · exact run
  · have listed : ∀ row ∈ v.index.query (.ofProject p.path true), row ∈ v.index.rows := fun row mem =>
      (v.index.query_sublist _).subset mem
    exact ⟨fun row mem _ found => run.get?_opened unique (listed row mem) mem found,
      fun row mem missing => run.get?_missing unique (listed row mem) mem missing, run.report,
      run.repair_again unique⟩

/-- On the system whose one row has a plain directory where its record should be, the
hypotheses hold, and a second repair skips the rows the first one skipped. -/
theorem repair_and_rebuild_on_unopened_record :
    (unopenedRecordSystem.index.rows.map (·.id)).Nodup ∧ unopenedRecordSystem.disk.paths.Nodup ∧
      unopenedRecordSystem.disk.Named ∧
      ∀ rep s, (Project.repair ⟨"/p"⟩).run.run unopenedRecordSystem = (.ok rep, s) →
        ((Project.repair ⟨"/p"⟩).run.run s).1 = .ok { skipped := rep.skipped } := by
  have unique : (unopenedRecordSystem.index.rows.map (·.id)).Nodup := by decide
  have nodup : unopenedRecordSystem.disk.paths.Nodup := by decide
  have named : unopenedRecordSystem.disk.Named := by
    unfold Disk.Named RecordPath.Valid RecordPath.Segment
    decide
  refine ⟨unique, nodup, named, fun rep s ran => ?_⟩
  have holds := (repair_and_rebuild_follow_records ⟨"/p"⟩ unopenedRecordSystem unique nodup named).1
  rw [ran] at holds
  exact holds.2.2.2

end Project

end JobFlow

import Mathlib
import JobFlow.System.Project
import JobFlow.Proofs.System.FirstSave

/-!
# Removing a job with everything below it

`Project.removeTree` removes the children of a job before the job itself, each child with its
own children first, and gives up with `Project.tooDeep` once the children nest deeper than the
levels it was given.
-/

open Std.Do

set_option mvcgen.warning false

namespace JobFlow

namespace JobIndex

/-- The row of `c` names `m` as its master. -/
def ChildOf (ix : JobIndex) (c m : Nat) : Prop := ∃ r ∈ ix.rows, r.id = c ∧ r.masterId = some m

/-- No job is its own ancestor: no chain of master links leads from a job back to it. -/
def Acyclic (ix : JobIndex) : Prop := ∀ id, ¬ Relation.TransGen ix.ChildOf id id

/-- `ix'` is `ix` with the rows of some ids taken out. -/
def Pruned (ix ix' : JobIndex) : Prop := ∃ gone : List Nat, ix'.rows = ix.rows.filter (fun r => r.id ∉ gone)

open Classical in
/-- The number of jobs below `m`: the ids of rows from which a chain of master links leads
to `m`. -/
noncomputable def below (ix : JobIndex) (m : Nat) : Nat :=
  ((ix.rows.map (·.id)).toFinset.filter fun c => Relation.TransGen ix.ChildOf c m).card

variable {ix ix' ix'' : JobIndex}

theorem childOf_of_mem_query {c : IndexRow} {m : Nat} (mem : c ∈ ix.query (JobFilter.childrenOf m)) :
    ix.ChildOf c.id m := by
  simp only [query, JobFilter.childrenOf, List.mem_filter] at mem
  obtain ⟨mem, admits⟩ := mem
  refine ⟨c, mem, rfl, ?_⟩
  simpa [JobFilter.admits] using admits

theorem Acyclic.of_master_lt (lower : ∀ r ∈ ix.rows, ∀ m ∈ r.masterId, m < r.id) : ix.Acyclic := by
  -- along a chain of links the ids only go down
  have descends : ∀ {c m}, Relation.TransGen ix.ChildOf c m → m < c := by
    intro c m chain
    induction chain with
    | single child =>
      obtain ⟨r, mem, rfl, master⟩ := child
      exact lower r mem _ master
    | tail _ child earlier =>
      obtain ⟨r, mem, rfl, master⟩ := child
      have := lower r mem _ master
      omega
  exact fun id loop => (descends loop).false

section Pruned

theorem Pruned.refl (ix : JobIndex) : ix.Pruned ix := ⟨[], by simp⟩

theorem Pruned.trans (first : ix.Pruned ix') (second : ix'.Pruned ix'') : ix.Pruned ix'' := by
  obtain ⟨gone, first⟩ := first
  obtain ⟨gone', second⟩ := second
  refine ⟨gone ++ gone', ?_⟩
  rw [second, first, List.filter_filter]
  apply List.filter_congr
  intro r _
  simp [Bool.and_comm]

theorem Pruned.delete (pruned : ix.Pruned ix') (i : Nat) : ix.Pruned (ix'.delete i).1 := by
  refine pruned.trans ⟨[i], ?_⟩
  simp only [JobIndex.delete]
  apply List.filter_congr
  intro r _
  simp [bne, beq_eq_decide]

theorem ChildOf.of_pruned (pruned : ix.Pruned ix') {c m : Nat} (child : ix'.ChildOf c m) : ix.ChildOf c m := by
  obtain ⟨gone, rows⟩ := pruned
  obtain ⟨r, mem, rid, master⟩ := child
  rw [rows] at mem
  exact ⟨r, List.mem_of_mem_filter mem, rid, master⟩

end Pruned

section Below

theorem below_le_length (ix : JobIndex) (m : Nat) : ix.below m ≤ ix.rows.length := by
  classical
  unfold below
  calc _ ≤ (ix.rows.map (·.id)).toFinset.card := Finset.card_filter_le _ _
    _ ≤ (ix.rows.map (·.id)).length := List.toFinset_card_le _
    _ = ix.rows.length := List.length_map _

theorem below_lt_of_childOf (acyclic : ix.Acyclic) {c m : Nat} (child : ix.ChildOf c m) :
    ix.below c < ix.below m := by
  classical
  unfold below
  apply Finset.card_lt_card
  refine ⟨fun z member => ?_, fun contains => ?_⟩
  · simp only [Finset.mem_filter] at member ⊢
    exact ⟨member.1, member.2.tail child⟩
  · obtain ⟨r, mem, rid, _⟩ := child
    have listed : c ∈ (ix.rows.map (·.id)).toFinset.filter fun z => Relation.TransGen ix.ChildOf z m := by
      simp only [Finset.mem_filter, List.mem_toFinset, List.mem_map]
      exact ⟨⟨r, mem, rid⟩, .single ⟨r, mem, rid, ‹_›⟩⟩
    exact acyclic c (Finset.mem_filter.mp (contains listed)).2

end Below

end JobIndex

theorem RecordStore.remove_ne_internal (d : Disk) (p : String) (isOpen : Bool) (m : String) :
    RecordStore.remove d p isOpen ≠ .error (.internal m) := by
  unfold RecordStore.remove
  cases isOpen
  · -- a missing record is no fault; any other failure of the disk is an I/O error
    simp only [Bool.false_eq_true, ↓reduceIte]
    split <;> simp [pure, Except.pure, throw, throwThe, MonadExceptOf.throw]
  · simp [throw, throwThe, MonadExceptOf.throw, bind, Except.bind]

namespace Disk

/-- `d'` is `d` with entries taken out: every path names in `d'` what it names in `d`. -/
def Shrinks (d d' : Disk) : Prop := ∀ p n, d'.node? p = some n → d.node? p = some n

variable {d d' d'' : Disk} {x p : List String}

theorem Shrinks.refl (d : Disk) : Shrinks d d := fun _ _ found => found

theorem Shrinks.trans (first : Shrinks d d') (second : Shrinks d' d'') : Shrinks d d'' :=
  fun p n found => first p n (second p n found)

theorem entry_of_entry_drop {q : List String} {m : Node} (found : Disk.entry? (d.drop x) q = some m) :
    d.entry? q = some m := by
  rw [entry_drop] at found
  split at found
  · cases found
  · exact found

theorem shrinks_drop (d : Disk) (x : List String) : Shrinks d (d.drop x) := by
  intro p n found
  cases dropped : (d.drop x).lookup p with
  | error e => simp [node?, dropped] at found
  | ok o =>
    simp only [node?, dropped] at found
    subst found
    -- the entries that make the path reachable after the drop were all there before it
    obtain ⟨above, here⟩ := lookup_eq_some.1 dropped
    have before : d.lookup p = .ok (some n) := by
      refine lookup_eq_some.2 ⟨fun q mem => ?_, entry_of_entry_drop here⟩
      obtain ⟨m, atQ, dir⟩ := above q mem
      exact ⟨m, entry_of_entry_drop atQ, dir⟩
    simp [node?, before]

theorem shrinks_removeDirAll (ok : d.removeDirAll x = .ok d') : Shrinks d d' := by
  unfold removeDirAll at ok
  obtain ⟨found, -, ok⟩ := bind_eq_ok.1 ok
  split at ok
  · cases ok
  · cases ok
  · cases ok
    exact shrinks_drop d x

theorem Shrinks.exists? (shrinks : Shrinks d d') (absent : d.exists? p = false) : d'.exists? p = false := by
  unfold Disk.exists? at absent ⊢
  cases found : d'.node? p with
  | none => rfl
  | some n => simp [shrinks p n found] at absent

theorem Shrinks.isDir (shrinks : Shrinks d d') (notDir : d.isDir p = false) : d'.isDir p = false := by
  unfold Disk.isDir at notDir ⊢
  cases found : d'.node? p with
  | none => rfl
  | some n => simpa [shrinks p n found] using notDir

theorem Shrinks.isFile (shrinks : Shrinks d d') (notFile : d.isFile p = false) : d'.isFile p = false := by
  unfold Disk.isFile at notFile ⊢
  cases found : d'.node? p with
  | none => rfl
  | some n => simpa [shrinks p n found] using notFile

theorem removeDirAll_of_exists (present : d.exists? x = true) (notFile : d.isFile x = false) :
    d.removeDirAll x = .ok (d.drop x) := by
  unfold exists? node? at present
  unfold isFile node? at notFile
  unfold removeDirAll
  cases found : d.lookup x with
  | error e => simp [found] at present
  | ok n =>
    rcases n with _ | _ | _ | _
    · simp [found] at present
    · simp [bind, Except.bind, pure, Except.pure]
    · simp [found] at notFile
    · simp [bind, Except.bind, pure, Except.pure]

end Disk

theorem RecordStore.exists_of_remove_error {d : Disk} {p : String} {e : JobError}
    (failed : RecordStore.remove d p false = .error e) : RecordStore.exists d p = false := by
  unfold RecordStore.remove Disk.removeDirAll at failed
  cases found : d.lookup (Disk.locate p) with
  | error e' => simp [RecordStore.exists, Disk.isDir, Disk.node?, found]
  | ok n =>
    rcases n with _ | _ | _ | _
    · simp [RecordStore.exists, Disk.isDir, Disk.node?, found]
    · simp [found, bind, Except.bind, pure, Except.pure] at failed
    · simp [RecordStore.exists, Disk.isDir, Disk.node?, found, Node.isDir]
    · simp [found, bind, Except.bind, pure, Except.pure] at failed

theorem RecordStore.shrinks_remove {d d' : Disk} {p : String} (ok : RecordStore.remove d p false = .ok d') :
    Disk.Shrinks d d' := by
  unfold RecordStore.remove at ok
  simp only [Bool.false_eq_true, ↓reduceIte] at ok
  split at ok
  · cases ok
    exact Disk.shrinks_removeDirAll ‹_›
  · cases ok
    exact Disk.Shrinks.refl d
  · simp [throw, throwThe, MonadExceptOf.throw] at ok

theorem Sys.removeRecord_shrinks (p : String) (v : JobSystem) :
    ⦃fun s => ⌜s = v⌝⦄ Sys.removeRecord p
    ⦃post⟨fun _ s => ⌜∃ d, s = { v with disk := d } ∧ Disk.Shrinks v.disk d ∧
        (Disk.locate p ≠ [] → RecordStore.exists d p = false)⌝,
      fun _ _ => ⌜RecordStore.exists v.disk p = false⌝⟩⦄ := by
  mvcgen [Sys.removeRecord, -Sys.removeRecord_keepsHeld]
  · rename_i s start d removed _
    obtain rfl := start
    refine ⟨d, rfl, RecordStore.shrinks_remove removed, fun full => ?_⟩
    have gone := RecordStore.exists_remove (d := s.disk) (p := p) full
    rwa [removed] at gone
  · rename_i s start e failed
    obtain rfl := start
    exact RecordStore.exists_of_remove_error failed

theorem Disk.exists?_removeDirAll {d d' : Disk} {x : List String} (full : x ≠ []) (ok : d.removeDirAll x = .ok d') :
    d'.exists? x = false := by
  unfold removeDirAll at ok
  obtain ⟨found, -, ok⟩ := bind_eq_ok.1 ok
  split at ok
  · cases ok
  · cases ok
  · cases ok
    simp [Disk.exists?, node?_drop_self full]

/-- Removing a directory that is there fails only where it is a file, on the disk it shrank
from too. -/
theorem Disk.isFile_of_removeDirAll_error {d d' : Disk} {x : List String} (present : d'.exists? x = true)
    (shrinks : Disk.Shrinks d d') {e : OsError}
    (failed : Except.map (fun d => (d, ())) (d'.removeDirAll x) = .error e) : d.isFile x = true := by
  by_contra notFile
  rw [Disk.removeDirAll_of_exists present (shrinks.isFile (Bool.eq_false_iff.2 notFile))] at failed
  cases failed

namespace Project

/-- How a removal stops when the children nest deeper than its levels. -/
def tooDeep : Stop := .fault (.internal "children nest too deep")

variable {ix : JobIndex}

/-- Removing the children of `id` one after another, from the state `u`, keeps what each
removal of a child keeps. -/
theorem removeChildren_spec {remove : Nat → Sys Unit} {id : Nat} {u : JobSystem}
    {I : List IndexRow → List IndexRow → JobSystem → Prop} {E : Stop → JobSystem → Prop}
    (step : ∀ pref cur suff, u.index.query (JobFilter.childrenOf id) = pref ++ cur :: suff →
      ⦃fun s => ⌜I pref (cur :: suff) s⌝⦄ remove cur.id ⦃post⟨fun _ s => ⌜I (pref ++ [cur]) suff s⌝, fun e s => ⌜E e s⌝⟩⦄) :
    ⦃fun s => ⌜s = u ∧ I [] (u.index.query (JobFilter.childrenOf id)) s⌝⦄ removeChildren remove id
    ⦃post⟨fun _ s => ⌜I (u.index.query (JobFilter.childrenOf id)) [] s⌝, fun e s => ⌜E e s⌝⟩⦄ := by
  mvcgen [removeChildren, Sys.query, -Spec.forIn_list, -Sys.query_keepsHeld]
  rename_i s start
  obtain ⟨rfl, start⟩ := start
  let inv : Invariant (s.index.query (JobFilter.childrenOf id)) PUnit (.except Stop (.arg JobSystem .pure)) :=
    post⟨fun loop t => ⌜I ( List.Cursor.prefix loop.1) loop.1.suffix t⌝, fun e t => ⌜E e t⌝⟩
  refine Spec.forIn_list inv (fun pref cur suff split _ => ?_) s start
  have removes := step pref cur suff split
  mvcgen [removes]

/-- Removing a job's own record, working directory and row from `u`: it takes entries off the
disk and the row out of the index, and leaves no record or working directory below the top. It
fails only at a working directory that is a file, with an I/O error and the index as it was. -/
theorem removeOwn_cases (id : Nat) (row : IndexRow) (u : JobSystem) :
    ⦃fun s => ⌜s = u⌝⦄ removeOwn id row
    ⦃post⟨fun _ s => ⌜∃ d, s = { u with disk := d, index := (u.index.delete id).1 } ∧ Disk.Shrinks u.disk d ∧
        (Disk.locate row.storagePath ≠ [] → RecordStore.exists d row.storagePath = false) ∧
        (Disk.locate row.workingDirectory ≠ [] → d.exists? (Disk.locate row.workingDirectory) = false)⌝,
      fun e s => ⌜(∃ m, e = .fault (.io m)) ∧ s.index = u.index ∧
        u.disk.isFile (Disk.locate row.workingDirectory) = true⌝⟩⦄ := by
  have removes := fun p w => Sys.removeRecord_shrinks p w
  mvcgen [removeOwn, Sys.disk, removes, Sys.pathExists, Sys.onDisk, Sys.setDisk, Sys.deleteRow, Sys.index,
    Sys.setIndex, -Sys.removeRecord_keepsHeld, -Sys.pathExists_keepsHeld, -Sys.deleteRow_keepsHeld]
  -- the record was there and is removed, and so is the working directory
  · rename_i removed _ _ d₃ _ dirRemoved _ _
    obtain rfl := ‹_ = u›
    obtain ⟨d₂, rfl, shrinks₂, record₂⟩ := removed
    obtain ⟨d₃', removedDir, same⟩ := Disk.map_eq_ok.1 dirRemoved
    cases same
    have shrinks₃ := Disk.shrinks_removeDirAll removedDir
    exact ⟨d₃, rfl, shrinks₂.trans shrinks₃, fun full => shrinks₃.isDir (record₂ full),
      fun full => Disk.exists?_removeDirAll full removedDir⟩
  · rename_i removed _ present e failed
    obtain rfl := ‹_ = u›
    obtain ⟨d₂, rfl, shrinks₂, -⟩ := removed
    exact ⟨⟨_, rfl⟩, rfl, Disk.isFile_of_removeDirAll_error present shrinks₂ failed⟩
  -- the record was there, the working directory was not
  · rename_i removed _ absent _
    obtain rfl := ‹_ = u›
    obtain ⟨d₂, rfl, shrinks₂, record₂⟩ := removed
    exact ⟨d₂, rfl, shrinks₂, record₂, fun _ => Bool.eq_false_iff.2 absent⟩
  · rename_i there _ _
    intro absent
    rw [there] at absent
    cases absent
  -- the record was not there, the working directory was
  · rename_i absent _ _ d₃ _ dirRemoved _ _
    obtain rfl := ‹_ = u›
    obtain ⟨d₃', removedDir, same⟩ := Disk.map_eq_ok.1 dirRemoved
    cases same
    have shrinks₃ := Disk.shrinks_removeDirAll removedDir
    exact ⟨d₃, rfl, shrinks₃, fun _ => shrinks₃.isDir (Bool.eq_false_iff.2 absent),
      fun full => Disk.exists?_removeDirAll full removedDir⟩
  · rename_i present e failed
    obtain rfl := ‹_ = u›
    exact ⟨⟨_, rfl⟩, rfl, Disk.isFile_of_removeDirAll_error present (.refl _) failed⟩
  -- neither was there
  · rename_i absent _ absentDir _
    obtain rfl := ‹_ = u›
    exact ⟨_, rfl, .refl _, fun _ => Bool.eq_false_iff.2 absent, fun _ => Bool.eq_false_iff.2 absentDir⟩

/-- The conflict a removal meets at an active job. -/
def activeConflict (r : IndexRow) : JobError :=
  .conflict s!"job {r.jobName} is {r.status}; cancel it before removing it"

/-- One level of a removal from the state `u`: a missing row or an active job stops it where it
starts; otherwise the children go first, then the job's own record, working directory and row. -/
theorem removeTree_step {f id : Nat} {u : JobSystem} {I : JobSystem → Prop} {Q : Unit → JobSystem → Prop}
    {E : Stop → JobSystem → Prop}
    (missing : u.index.get? id = none → E (.fault (.notFound s!"job {id} in index")) u)
    (active : ∀ r, u.index.get? id = some r → r.status.isActive = true → E (.fault (activeConflict r)) u)
    (children : ∀ r, u.index.get? id = some r → r.status.isActive = false →
      ⦃fun s => ⌜s = u⌝⦄ removeChildren (removeTree f) id ⦃post⟨fun _ s => ⌜I s⌝, fun e s => ⌜E e s⌝⟩⦄)
    (own : ∀ r, u.index.get? id = some r → r.status.isActive = false →
      ⦃fun s => ⌜I s⌝⦄ removeOwn id r ⦃post⟨fun a s => ⌜Q a s⌝, fun e s => ⌜E e s⌝⟩⦄) :
    ⦃fun s => ⌜s = u⌝⦄ removeTree (f + 1) id ⦃post⟨fun a s => ⌜Q a s⌝, fun e s => ⌜E e s⌝⟩⦄ := by
  rcases found : u.index.get? id with _ | r
  · have row := Sys.row_missing found
    mvcgen [removeTree, row, -Sys.row]
    rintro rfl rfl
    exact missing found
  -- with the row read, the rest runs from `u` on it
  · refine Sys.triple_bind_pinned (Sys.row_found found) ?_
    cases idle : r.status.isActive
    · have loop := children r found idle
      have last := own r found idle
      mvcgen [loop, last]
    · have refused := active r found idle
      mvcgen
      obtain rfl := ‹_ = u›
      exact refused

theorem removeTree_spec (acyclic : ix.Acyclic) (f : Nat) : ∀ id,
    ⦃fun s => ⌜ix.Pruned s.index ∧ ix.below id < f⌝⦄ removeTree f id
    ⦃post⟨fun _ s => ⌜ix.Pruned s.index⌝, fun e s => ⌜ix.Pruned s.index ∧ e ≠ tooDeep⌝⟩⦄ := by
  induction f with
  | zero =>
    intro id
    mvcgen [removeTree]
    omega
  | succ f deeper =>
    intro id
    refine Sys.triple_pinned fun u ⟨pruned, fits⟩ => ?_
    -- every child lies below `id` in `ix`, so fewer jobs lie below it than below `id`
    have child : ∀ c ∈ u.index.query (JobFilter.childrenOf id), ix.ChildOf c.id id :=
      fun c mem => (JobIndex.childOf_of_mem_query mem).of_pruned pruned
    have children := @removeChildren_spec (removeTree f) id u (fun _ _ s => ix.Pruned s.index)
      (fun e s => ix.Pruned s.index ∧ e ≠ tooDeep) fun pref cur suff split =>
        Sys.triple_conseq (deeper cur.id)
          (fun s pruned' => ⟨pruned', lt_of_lt_of_le
            (JobIndex.below_lt_of_childOf acyclic (child cur (by simp [split]))) (Nat.le_of_lt_succ fits)⟩)
          (fun _ _ pruned' => pruned') fun _ _ stopped => stopped
    refine removeTree_step (I := fun s => ix.Pruned s.index) ?_ ?_ ?_ ?_
    -- a missing row or an active job stops the removal before it changes anything
    · exact fun _ => ⟨pruned, by simp [tooDeep]⟩
    · exact fun _ _ _ => ⟨pruned, by simp [tooDeep, activeConflict]⟩
    · exact fun _ _ _ => Sys.triple_conseq children (fun _ same => ⟨same, same ▸ pruned⟩)
        (fun _ _ pruned' => pruned') fun _ _ stop => stop
    -- the job's own row goes last
    · intro r _ _
      refine Sys.triple_pinned fun w pruned' => Sys.triple_conseq (removeOwn_cases id r w) (fun _ same => same) ?_ ?_
      · rintro _ _ ⟨d, rfl, -⟩
        exact pruned'.delete id
      · rintro _ _ ⟨⟨m, rfl⟩, same, -⟩
        exact ⟨same ▸ pruned', by simp [tooDeep]⟩

theorem removeJob_spec (acyclic : ix.Acyclic) (id : Nat) :
    ⦃fun s => ⌜s.index = ix⌝⦄ removeJob id ⦃post⟨fun _ _ => ⌜True⌝, fun e _ => ⌜e ≠ tooDeep⌝⟩⦄ := by
  have tree := removeTree_spec acyclic
  mvcgen [removeJob, tree]
  · rename_i start
    subst start
    exact ⟨.refl _, Nat.lt_succ_of_le (JobIndex.below_le_length _ id)⟩
  · exact fun _ other => other

/-- Removing a job never runs out of levels when the master links of the index have no loop:
however it ends, it does not end with `tooDeep`. -/
theorem removeJob_terminates {s : JobSystem} (acyclic : s.index.Acyclic) (id : Nat) :
    ((removeJob id).run.run s).1 ≠ .error tooDeep := by
  have ended := Sys.of_triple (removeJob_spec acyclic id) s rfl
  revert ended
  rcases (removeJob id).run.run s with ⟨_ | e, _⟩
  · exact fun other same => other (Except.error.inj same)
  · simp

/-- A master with one child: removing the master goes into the child and back within its
levels. -/
theorem removeJob_terminates_on_child :
    JobIndex.Acyclic { rows := [{ (default : IndexRow) with id := 1 }, { (default : IndexRow) with id := 2, masterId := some 1 }] } ∧
      ((removeJob 1).run.run
        { (default : JobSystem) with
          index := { rows := [{ (default : IndexRow) with id := 1 }, { (default : IndexRow) with id := 2, masterId := some 1 }] } }).1
        ≠ .error tooDeep := by
  have acyclic : JobIndex.Acyclic
      { rows := [{ (default : IndexRow) with id := 1 }, { (default : IndexRow) with id := 2, masterId := some 1 }] } :=
    JobIndex.Acyclic.of_master_lt (by decide)
  exact ⟨acyclic, removeJob_terminates acyclic 1⟩

end Project

end JobFlow

import Mathlib
import JobFlow.Proofs.System.Removal
import JobFlow.Proofs.System.FirstSave

/-!
# What removing a job takes away

`Project.removeTree` looks at one job at a time: it refuses a job that is active, removes the
children of a job that is not, each with its own children first, and then the job's record,
its working directory and its row.
-/

open Std.Do

set_option mvcgen.warning false

namespace JobFlow

namespace JobIndex

variable {ix ix' ix'' : JobIndex} {c d e i m : Nat}

/-- The job `e` had a row in `ix` and has none in `ix'`. -/
def Gone (ix ix' : JobIndex) (e : Nat) : Prop := e ∈ ix.rows.map (·.id) ∧ e ∉ ix'.rows.map (·.id)

/-- The rows taken out of `ix` took the rows below them along: a job that lost its row is
below no job that kept one. -/
def Closed (ix ix' : JobIndex) : Prop :=
  ∀ d e, Relation.TransGen ix.ChildOf d e → Gone ix ix' e → Gone ix ix' d

theorem Pruned.mem_ids (pruned : ix.Pruned ix') (present : i ∈ ix'.rows.map (·.id)) : i ∈ ix.rows.map (·.id) := by
  obtain ⟨gone, rows⟩ := pruned
  rw [rows] at present
  obtain ⟨r, mem, rfl⟩ := List.mem_map.1 present
  exact List.mem_map_of_mem (List.mem_of_mem_filter mem)

theorem Pruned.mem_rows (pruned : ix.Pruned ix') {r : IndexRow} (mem : r ∈ ix.rows)
    (present : r.id ∈ ix'.rows.map (·.id)) : r ∈ ix'.rows := by
  obtain ⟨gone, rows⟩ := pruned
  rw [rows] at present ⊢
  obtain ⟨r', mem', same⟩ := List.mem_map.1 present
  have kept := (List.mem_filter.1 mem').2
  exact List.mem_filter.2 ⟨mem, by simpa [same] using kept⟩

theorem Pruned.get? (pruned : ix.Pruned ix') {r : IndexRow} (found : ix'.get? i = some r) : ix.get? i = some r := by
  obtain ⟨gone, rows⟩ := pruned
  unfold JobIndex.get? at found ⊢
  rw [rows, List.find?_filter] at found
  have kept : r.id ∉ gone ∧ r.id = i := by simpa using List.find?_some found
  -- the rows of the id were all kept, so the first one is the same
  rw [← found]
  apply List.find?_congr
  intro r' _
  by_cases same : r'.id = i
  · simp [same, ← kept.2, kept.1]
  · simp [same]

theorem Gone.pruned (gone : Gone ix ix' e) (pruned : ix'.Pruned ix'') : Gone ix ix'' e :=
  ⟨gone.1, fun present => gone.2 (pruned.mem_ids present)⟩

theorem Gone.get? (gone : Gone ix ix' e) : ix'.get? e = none :=
  List.find?_eq_none.2 fun r mem same => gone.2 (List.mem_map.2 ⟨r, mem, by simpa using same⟩)

theorem Closed.refl (ix : JobIndex) : Closed ix ix := fun _ _ _ gone => absurd gone.1 gone.2

theorem Gone.of_delete (gone : Gone ix (ix'.delete i).1 e) (other : e ≠ i) : Gone ix ix' e := by
  refine ⟨gone.1, fun present => gone.2 ?_⟩
  obtain ⟨r, mem, rfl⟩ := List.mem_map.1 present
  refine List.mem_map_of_mem (List.mem_filter.2 ⟨mem, ?_⟩)
  simpa using other

theorem gone_or_listed (pruned : ix.Pruned ix') (child : ix.ChildOf c m) :
    Gone ix ix' c ∨ c ∈ (ix'.query (JobFilter.childrenOf m)).map (·.id) := by
  obtain ⟨r, mem, rfl, master⟩ := child
  by_cases present : r.id ∈ ix'.rows.map (·.id)
  · refine .inr (List.mem_map_of_mem ?_)
    simp only [query, JobFilter.childrenOf, List.mem_filter]
    exact ⟨pruned.mem_rows mem present, by simp [JobFilter.admits, master]⟩
  · exact .inl ⟨List.mem_map_of_mem mem, present⟩

theorem Closed.below (closed : Closed ix ix') (children : ∀ c, ix.ChildOf c m → Gone ix ix' c) :
    ∀ d, Relation.TransGen ix.ChildOf d m → Gone ix ix' d := by
  intro d chain
  -- the last link of the chain is a child of `m`
  cases chain with
  | single child => exact children d child
  | tail chain child => exact closed _ _ chain (children _ child)

theorem Closed.delete (closed : Closed ix ix') (below : ∀ d, Relation.TransGen ix.ChildOf d i → Gone ix ix' d) :
    Closed ix (ix'.delete i).1 := by
  have pruned : ix'.Pruned (ix'.delete i).1 := (Pruned.refl ix').delete i
  intro d e chain gone
  by_cases here : e = i
  · subst here
    exact (below d chain).pruned pruned
  · -- another job lost its row before
    exact (closed d e chain (gone.of_delete here)).pruned pruned

theorem ChildOf.master_unique (unique : (ix.rows.map (·.id)).Nodup) {m' : Nat} (first : ix.ChildOf c m)
    (second : ix.ChildOf c m') : m = m' := by
  obtain ⟨r, mem, rfl, master⟩ := first
  obtain ⟨r', mem', same, master'⟩ := second
  obtain rfl : r' = r := List.inj_on_of_nodup_map unique mem' mem same
  exact Option.some.inj (master.symm.trans master')

/-- No child of `m` lies below another child of `m`, when the master links have no loop. -/
theorem ChildOf.eq_of_below (acyclic : ix.Acyclic) (unique : (ix.rows.map (·.id)).Nodup) {c' : Nat}
    (child : ix.ChildOf c m) (other : ix.ChildOf c' m) (below : Relation.ReflTransGen ix.ChildOf c c') :
    c = c' := by
  rcases Relation.ReflTransGen.cases_head below with same | ⟨x, up, rest⟩
  · exact same
  · -- the chain from `c` goes up through `m`, and from there down to its child `c'` closes a loop
    obtain rfl : x = m := (up.master_unique unique child)
    exact absurd (Relation.TransGen.tail' rest other) (acyclic x)

theorem Pruned.nodup (pruned : ix.Pruned ix') (unique : (ix.rows.map (·.id)).Nodup) :
    (ix'.rows.map (·.id)).Nodup := by
  obtain ⟨gone, rows⟩ := pruned
  rw [rows]
  exact (List.filter_sublist.map _).nodup unique

theorem nodup_children (unique : (ix.rows.map (·.id)).Nodup) (m : Nat) :
    ((ix.query (JobFilter.childrenOf m)).map (·.id)).Nodup := by
  simp only [query, JobFilter.childrenOf]
  exact (List.filter_sublist.map _).nodup unique

theorem get?_isSome (present : i ∈ ix.rows.map (·.id)) : (ix.get? i).isSome := by
  obtain ⟨r, mem, rfl⟩ := List.mem_map.1 present
  exact List.find?_isSome.2 ⟨r, mem, by simp⟩

end JobIndex

namespace Project

variable {ix : JobIndex} {s : JobSystem}

/-- Every job of `ix` that lost its row was not active, and has no record and no working
directory left. -/
def Cleared (ix : JobIndex) (s : JobSystem) : Prop :=
  ∀ e r, ix.get? e = some r → e ∉ s.index.rows.map (·.id) →
    r.status.isActive = false ∧ RecordStore.exists s.disk r.storagePath = false ∧
      s.disk.exists? (Disk.locate r.workingDirectory) = false

/-- How far a removal from the index `ix` has come: rows only went, and took the rows below
them along, with their records and working directories. -/
def Clearing (ix : JobIndex) (s : JobSystem) : Prop := ix.Pruned s.index ∧ ix.Closed s.index ∧ Cleared ix s

theorem Clearing.start (s : JobSystem) : Clearing s.index s := by
  refine ⟨.refl _, .refl _, fun e r found absent => absurd ?_ absent⟩
  have rid : r.id = e := by simpa using List.find?_some found
  exact rid ▸ List.mem_map_of_mem (List.mem_of_find?_eq_some found)

theorem Clearing.shrink (clearing : Clearing ix s) {d : Disk} (shrinks : Disk.Shrinks s.disk d) :
    Clearing ix { s with disk := d } := by
  refine ⟨clearing.1, clearing.2.1, fun e r found absent => ?_⟩
  obtain ⟨idle, record, wd⟩ := clearing.2.2 e r found absent
  exact ⟨idle, shrinks.isDir record, shrinks.exists? wd⟩

/-- Once every child of `i` lost its row, taking out the row of `i`, which is not active and
whose record and working directory are gone, keeps the removal on course, and `i` has then lost
its row. -/
theorem Clearing.delete (clearing : Clearing ix s) {i : Nat} {r : IndexRow} (found : ix.get? i = some r)
    (children : ∀ c, ix.ChildOf c i → ix.Gone s.index c) (idle : r.status.isActive = false)
    (record : RecordStore.exists s.disk r.storagePath = false)
    (wd : s.disk.exists? (Disk.locate r.workingDirectory) = false) :
    Clearing ix { s with index := (s.index.delete i).1 } ∧ ix.Gone (s.index.delete i).1 i := by
  obtain ⟨pruned, closed, cleared⟩ := clearing
  have rid : r.id = i := by simpa using List.find?_some found
  have listed : i ∈ ix.rows.map (·.id) := rid ▸ List.mem_map_of_mem (List.mem_of_find?_eq_some found)
  have dropped : i ∉ (s.index.delete i).1.rows.map (·.id) := by
    simp [JobIndex.delete]
  refine ⟨⟨pruned.delete i, closed.delete (closed.below children), fun e r' found' absent => ?_⟩, listed, dropped⟩
  by_cases here : e = i
  · subst here
    rw [found] at found'
    cases found'
    exact ⟨idle, record, wd⟩
  · refine cleared e r' found' fun present => absent ?_
    obtain ⟨q, mem, rfl⟩ := List.mem_map.1 present
    refine List.mem_map_of_mem (List.mem_filter.2 ⟨mem, ?_⟩)
    simpa using here

/-- The end of removing `id`, whose row in `v` is `r`: once the loop over its children is
through and its record and working directory are gone, deleting its row leaves `id` gone. -/
theorem Clearing.finish {v : JobSystem} {id : Nat} {r : IndexRow} (start : Clearing ix v)
    (found : v.index.get? id = some r) (idle : r.status.isActive = false)
    (loop : Clearing ix s ∧ v.index.Pruned s.index ∧
      ∀ c, ix.ChildOf c id → ix.Gone s.index c ∨ c ∈ ([] : List IndexRow).map (·.id))
    (record : RecordStore.exists s.disk r.storagePath = false)
    (wd : s.disk.exists? (Disk.locate r.workingDirectory) = false) :
    Clearing ix { s with index := (s.index.delete id).1 } ∧ ix.Gone (s.index.delete id).1 id ∧
      v.index.Pruned (s.index.delete id).1 := by
  obtain ⟨clearing, pruned, children⟩ := loop
  obtain ⟨cleared, gone⟩ := clearing.delete (start.1.get? found)
    (fun c child => (children c child).resolve_right (by simp)) idle record wd
  exact ⟨cleared, gone, pruned.delete id⟩

end Project

namespace Project

variable {ix : JobIndex}

theorem removeTree_clears (paths : ∀ r ∈ ix.rows, Disk.locate r.storagePath ≠ [] ∧ Disk.locate r.workingDirectory ≠ [])
    (f : Nat) : ∀ id v,
    ⦃fun s => ⌜s = v ∧ Clearing ix v⌝⦄ removeTree f id
    ⦃post⟨fun _ s => ⌜Clearing ix s ∧ ix.Gone s.index id ∧ v.index.Pruned s.index⌝, fun _ _ => ⌜True⌝⟩⦄ := by
  induction f with
  | zero =>
    intro id v
    mvcgen [removeTree]
  | succ f deeper =>
    intro id v
    refine Sys.triple_pinned ?_
    rintro u ⟨same, clearing⟩
    subst same
    -- a child removed with everything below it is gone and stays gone; the others are still listed
    have children := @removeChildren_spec (removeTree f) id u
      (fun _ suff s => Clearing ix s ∧ u.index.Pruned s.index ∧
        ∀ c, ix.ChildOf c id → ix.Gone s.index c ∨ c ∈ suff.map (·.id))
      (fun _ _ => True) fun pref cur suff _ => by
        refine Sys.triple_pinned ?_
        rintro s ⟨clearing, pruned₁, left⟩
        refine Sys.triple_conseq (deeper cur.id s) (fun _ same => ⟨same, clearing⟩) ?_ fun _ _ _ => trivial
        rintro _ t ⟨clearing', gone, pruned⟩
        refine ⟨clearing', pruned₁.trans pruned, fun c child => ?_⟩
        rcases left c child with goneBefore | listed
        · exact .inl (goneBefore.pruned pruned)
        · rcases List.mem_cons.1 listed with here | later
          · exact .inl (here ▸ gone)
          · exact .inr later
    refine removeTree_step (I := fun s => Clearing ix s ∧ u.index.Pruned s.index ∧
      ∀ c, ix.ChildOf c id → ix.Gone s.index c ∨ c ∈ ([] : List IndexRow).map (·.id))
      (fun _ => trivial) (fun _ _ _ => trivial) ?_ ?_
    -- the children left when the loop starts are those listed
    · intro _ _ _
      refine Sys.triple_conseq children ?_ (fun _ _ loop => loop) fun _ _ _ => trivial
      rintro _ rfl
      exact ⟨rfl, clearing, .refl _, fun c child => JobIndex.gone_or_listed clearing.1 child⟩
    -- the record and the working directory are gone, and then the row
    · intro r found idle
      refine Sys.triple_pinned fun w loop => Sys.triple_conseq (removeOwn_cases id r w) (fun _ same => same) ?_
        fun _ _ _ => trivial
      rintro _ _ ⟨d, rfl, shrinks, record, wd⟩
      have below := paths r (List.mem_of_find?_eq_some (clearing.1.get? found))
      exact clearing.finish found idle ⟨loop.1.shrink shrinks, loop.2⟩ (record below.1) (wd below.2)

/-- Nothing stands in the way of removing `id` from the index `ix` on the disk `d`: no job at
or below `id` is active, and none has a file where its working directory should be. -/
def Removable (ix : JobIndex) (d : Disk) (id : Nat) : Prop :=
  ∀ e r, Relation.ReflTransGen ix.ChildOf e id → ix.get? e = some r →
    r.status.isActive = false ∧ d.isFile (Disk.locate r.workingDirectory) = false

theorem Removable.shrink {d d' : Disk} {id : Nat} (removable : Removable ix d id) (shrinks : Disk.Shrinks d d') :
    Removable ix d' id :=
  fun e r below found => (removable e r below found).imp_right shrinks.isFile

theorem Removable.child {d : Disk} {c m : Nat} (removable : Removable ix d m) (child : ix.ChildOf c m) :
    Removable ix d c :=
  fun e r below found => removable e r (below.tail child) found

/-- A removal of `id` from the index `ix` that started in `v` is in `s`: it took out rows of
jobs at or below `id` only, and entries of the disk only. -/
def Confined (ix : JobIndex) (v s : JobSystem) (id : Nat) : Prop :=
  v.index.Pruned s.index ∧ Disk.Shrinks v.disk s.disk ∧
    ∀ e, JobIndex.Gone v.index s.index e → Relation.ReflTransGen ix.ChildOf e id

/-- The children of `id` left to remove when the loop over them reaches `cur` are all still
there: a child is removed with the jobs below it only, and no other child lies below it. -/
theorem child_ready (acyclic : ix.Acyclic) (unique : (ix.rows.map (·.id)).Nodup) {v s : JobSystem} {id : Nat}
    {pref suff : List IndexRow} {cur : IndexRow} (pruned : ix.Pruned v.index) (removable : Removable ix v.disk id)
    (listing : v.index.query (JobFilter.childrenOf id) = pref ++ cur :: suff)
    (loop : v.index.Pruned s.index ∧ Disk.Shrinks v.disk s.disk ∧
      ∀ e, JobIndex.Gone v.index s.index e → ∃ c ∈ pref, Relation.ReflTransGen ix.ChildOf e c.id) :
    ix.Pruned s.index ∧ (s.index.get? cur.id).isSome ∧ ix.ChildOf cur.id id ∧ Removable ix s.disk cur.id := by
  obtain ⟨pruned₁, shrinks, below⟩ := loop
  have listed : cur ∈ v.index.query (JobFilter.childrenOf id) := listing ▸ List.mem_append_right _ List.mem_cons_self
  have child : ix.ChildOf cur.id id := (JobIndex.childOf_of_mem_query listed).of_pruned pruned
  refine ⟨pruned.trans pruned₁, JobIndex.get?_isSome ?_, child, (removable.shrink shrinks).child child⟩
  by_contra absent
  have row : cur ∈ v.index.rows := by
    simp only [JobIndex.query, JobFilter.childrenOf, List.mem_filter] at listed
    exact listed.1
  -- a child removed before took `cur` along, so `cur` lies below it and is that child
  obtain ⟨c, mem, chain⟩ := below cur.id ⟨List.mem_map_of_mem row, absent⟩
  have sibling : ix.ChildOf c.id id :=
    (JobIndex.childOf_of_mem_query (listing ▸ List.mem_append_left _ mem)).of_pruned pruned
  have same : cur.id = c.id := child.eq_of_below acyclic unique sibling chain
  have distinct := JobIndex.nodup_children (pruned.nodup unique) id
  rw [listing, List.map_append, List.nodup_append] at distinct
  exact distinct.2.2 c.id (List.mem_map_of_mem mem) cur.id (by simp) same.symm

/-- After the removal of a child, the rows that went are of jobs below the children done. -/
theorem Confined.after_child {v s s' : JobSystem} {pref : List IndexRow} {cur : IndexRow}
    (loop : v.index.Pruned s.index ∧ Disk.Shrinks v.disk s.disk ∧
      ∀ e, JobIndex.Gone v.index s.index e → ∃ c ∈ pref, Relation.ReflTransGen ix.ChildOf e c.id)
    (confined : Confined ix s s' cur.id) :
    v.index.Pruned s'.index ∧ Disk.Shrinks v.disk s'.disk ∧
      ∀ e, JobIndex.Gone v.index s'.index e → ∃ c ∈ pref ++ [cur], Relation.ReflTransGen ix.ChildOf e c.id := by
  obtain ⟨pruned, shrinks, below⟩ := loop
  obtain ⟨pruned', shrinks', below'⟩ := confined
  refine ⟨pruned.trans pruned', shrinks.trans shrinks', fun e gone => ?_⟩
  by_cases present : e ∈ s.index.rows.map (·.id)
  · exact ⟨cur, by simp, below' e ⟨present, gone.2⟩⟩
  · obtain ⟨c, mem, chain⟩ := below e ⟨gone.1, present⟩
    exact ⟨c, List.mem_append_left _ mem, chain⟩

/-- Once the children of `id` are removed, deleting the row of `id` ends its removal. -/
theorem Confined.finish {v s t : JobSystem} {id : Nat} (pruned : ix.Pruned v.index)
    (loop : v.index.Pruned s.index ∧ Disk.Shrinks v.disk s.disk ∧
      ∀ e, JobIndex.Gone v.index s.index e →
        ∃ c ∈ v.index.query (JobFilter.childrenOf id), Relation.ReflTransGen ix.ChildOf e c.id)
    (index : t.index = (s.index.delete id).1) (shrinks : Disk.Shrinks s.disk t.disk) : Confined ix v t id := by
  obtain ⟨pruned₁, shrinks₁, below⟩ := loop
  refine ⟨index ▸ pruned₁.delete id, shrinks₁.trans shrinks, fun e gone => ?_⟩
  by_cases here : e = id
  · exact here ▸ .refl
  · rw [index] at gone
    obtain ⟨c, mem, chain⟩ := below e (gone.of_delete here)
    exact chain.tail ((JobIndex.childOf_of_mem_query mem).of_pruned pruned)

/-- Removing a job at or below which nothing stands in the way goes through, taking out rows
of jobs at or below it only. -/
theorem removeTree_succeeds (acyclic : ix.Acyclic) (unique : (ix.rows.map (·.id)).Nodup) (f : Nat) :
    ∀ id v, ⦃fun s => ⌜s = v ∧ ix.Pruned v.index ∧ (v.index.get? id).isSome ∧ ix.below id < f ∧
      Removable ix v.disk id⌝⦄ removeTree f id
    ⦃post⟨fun _ s => ⌜Confined ix v s id⌝, fun _ _ => ⌜False⌝⟩⦄ := by
  induction f with
  | zero =>
    intro id v
    mvcgen [removeTree]
    rename_i s start
    exact absurd start.2.2.2.1 (Nat.not_lt_zero _)
  | succ f deeper =>
    intro id v
    refine Sys.triple_pinned ?_
    rintro u ⟨same, pruned, present, fits, removable⟩
    subst same
    obtain ⟨r, found⟩ := Option.isSome_iff_exists.1 present
    have idle := (removable id r .refl (pruned.get? found)).1
    -- each child can be removed in turn, and takes only the jobs below it along
    have children := @removeChildren_spec (removeTree f) id u
      (fun pref _ s => u.index.Pruned s.index ∧ Disk.Shrinks u.disk s.disk ∧
        ∀ e, JobIndex.Gone u.index s.index e → ∃ c ∈ pref, Relation.ReflTransGen ix.ChildOf e c.id)
      (fun _ _ => False) fun pref cur suff listing => Sys.triple_pinned fun s loop => by
        obtain ⟨pruned', present', child, removable'⟩ := child_ready acyclic unique pruned removable listing loop
        have lower := JobIndex.below_lt_of_childOf acyclic child
        exact Sys.triple_conseq (deeper cur.id s) (fun _ same => ⟨same, pruned', present', by omega, removable'⟩)
          (fun _ _ confined => Confined.after_child loop confined) fun _ _ stop => stop
    refine removeTree_step (I := fun s => u.index.Pruned s.index ∧ Disk.Shrinks u.disk s.disk ∧
      ∀ e, JobIndex.Gone u.index s.index e →
        ∃ c ∈ u.index.query (JobFilter.childrenOf id), Relation.ReflTransGen ix.ChildOf e c.id) ?_ ?_ ?_ ?_
    -- the row is there, and the job is not active
    · intro missing
      simp [missing] at present
    · intro r found active
      rw [(removable id r .refl (pruned.get? found)).1] at active
      cases active
    · intro _ _ _
      refine Sys.triple_conseq children ?_ (fun _ _ loop => loop) fun _ _ stop => stop
      rintro _ rfl
      exact ⟨rfl, .refl _, .refl _, fun e gone => absurd gone.1 gone.2⟩
    -- the record and the working directory are removed where they are; a working directory that
    -- is no file always is
    · intro r found _
      refine Sys.triple_pinned fun w loop => Sys.triple_conseq (removeOwn_cases id r w) (fun _ same => same) ?_ ?_
      · rintro _ _ ⟨d, rfl, shrinks, -⟩
        exact Confined.finish pruned loop rfl shrinks
      · rintro _ _ ⟨-, -, isFile⟩
        rw [((removable.shrink loop.2.1) id r .refl (pruned.get? found)).2] at isFile
        cases isFile

theorem removeTree_refuses_active {v : JobSystem} {id : Nat} {r : IndexRow}
    (found : v.index.get? id = some r) (active : r.status.isActive = true) (f : Nat) :
    ⦃fun s => ⌜s = v⌝⦄ removeTree (f + 1) id
    ⦃post⟨fun _ _ => ⌜False⌝, fun e s => ⌜s = v ∧ e = .fault (activeConflict r)⌝⟩⦄ := by
  refine removeTree_step (I := fun _ => False) ?_ ?_ ?_ ?_
  · intro missing
    rw [found] at missing
    cases missing
  · intro r' found' _
    rw [found] at found'
    cases found'
    exact ⟨rfl, rfl⟩
  -- past the check, the job would have to be idle
  · intro r' found' idle
    rw [found] at found'
    cases found'
    rw [active] at idle
    cases idle
  · exact fun _ _ _ => Sys.triple_pinned fun _ impossible => impossible.elim

/-- An active job is refused before anything is removed. -/
theorem removeJob_refuses_active {v : JobSystem} {id : Nat} {r : IndexRow}
    (found : v.index.get? id = some r) (active : r.status.isActive = true) :
    ⦃fun s => ⌜s = v⌝⦄ removeJob id
    ⦃post⟨fun _ _ => ⌜False⌝, fun e s => ⌜s = v ∧ e = .fault (activeConflict r)⌝⟩⦄ := by
  have tree := removeTree_refuses_active found active
  mvcgen [removeJob, tree]

/-- A removal that succeeds took away the job, and with it everything `Clearing` keeps. -/
theorem removeJob_clears (v : JobSystem)
    (paths : ∀ r ∈ v.index.rows, Disk.locate r.storagePath ≠ [] ∧ Disk.locate r.workingDirectory ≠ [])
    (id : Nat) :
    ⦃fun s => ⌜s = v⌝⦄ removeJob id
    ⦃post⟨fun _ s => ⌜Clearing v.index s ∧ v.index.Gone s.index id⌝, fun _ _ => ⌜True⌝⟩⦄ := by
  have tree := removeTree_clears paths
  mvcgen [removeJob, tree]
  · rename_i s start
    subst start
    exact ⟨trivial, Clearing.start s⟩
  · exact fun clearing gone _ => ⟨clearing, gone⟩

/-- Removing a job at or below which nothing stands in the way goes through. -/
theorem removeJob_succeeds (v : JobSystem) (acyclic : v.index.Acyclic) (unique : (v.index.rows.map (·.id)).Nodup)
    {id : Nat} (present : (v.index.get? id).isSome) (removable : Removable v.index v.disk id) :
    ⦃fun s => ⌜s = v⌝⦄ removeJob id ⦃post⟨fun _ s => ⌜Confined v.index v s id⌝, fun _ _ => ⌜False⌝⟩⦄ := by
  have tree := removeTree_succeeds acyclic unique
  mvcgen [removeJob, tree]
  rename_i s start
  subst start
  exact ⟨rfl, .refl _, present, Nat.lt_succ_of_le (JobIndex.below_le_length _ id), removable⟩

/-- Removing an active job is refused with a conflict and changes nothing. -/
theorem removeJob_clears_or_refuses (s : JobSystem) (id : Nat) :
    (∀ r, s.index.get? id = some r → r.status.isActive →
      (removeJob id).run.run s = (.error (.fault (activeConflict r)), s)) ∧
    (s.index.Acyclic → (s.index.rows.map (·.id)).Nodup → (s.index.get? id).isSome → Removable s.index s.disk id →
      ∃ s', (removeJob id).run.run s = (.ok (), s')) ∧
    ((∀ r ∈ s.index.rows, Disk.locate r.storagePath ≠ [] ∧ Disk.locate r.workingDirectory ≠ []) →
      ∀ s', (removeJob id).run.run s = (.ok (), s') →
      ∀ d r, Relation.ReflTransGen s.index.ChildOf d id → s.index.get? d = some r →
        r.status.isActive = false ∧ s'.index.get? d = none ∧
          RecordStore.exists s'.disk r.storagePath = false ∧
          s'.disk.exists? (Disk.locate r.workingDirectory) = false) := by
  refine ⟨fun r found active => ?_, fun acyclic unique present removable => ?_,
    fun paths s' done d r below found => ?_⟩
  · have refused := Sys.of_triple (removeJob_refuses_active found active) s rfl
    revert refused
    rcases (removeJob id).run.run s with ⟨_ | _, s'⟩
    · rintro ⟨rfl, rfl⟩
      rfl
    · exact False.elim
  · have succeeds := Sys.of_triple (removeJob_succeeds s acyclic unique present removable) s rfl
    revert succeeds
    rcases (removeJob id).run.run s with ⟨_ | _, s'⟩
    · exact False.elim
    · exact fun _ => ⟨s', rfl⟩
  · have removed := Sys.of_triple (removeJob_clears s paths id) s rfl
    rw [done] at removed
    obtain ⟨⟨-, closed, cleared⟩, gone⟩ := removed
    -- the job itself is gone, and what lies below a gone job is gone with it
    have goneBelow : s.index.Gone s'.index d := by
      rcases Relation.reflTransGen_iff_eq_or_transGen.1 below with rfl | chain
      · exact gone
      · exact closed d id chain gone
    obtain ⟨idle, record, wd⟩ := cleared d r found goneBelow.2
    exact ⟨idle, goneBelow.get?, record, wd⟩

/-- A row of a job of the project `/p` that keeps its record and its working directory there. -/
def familyRow (id : Nat) (name : String) (status : Status) (master : Option Nat) : IndexRow :=
  { (default : IndexRow) with
    id, jobName := name, status, masterId := master
    storagePath := "/p/" ++ name ++ ".jrk", workingDirectory := "/p/" ++ name ++ "_files" }

/-- A master with two children, the second of them submitted. -/
def busyFamily : JobSystem :=
  { (default : JobSystem) with
    index := { rows := [familyRow 1 "m" .created none, familyRow 2 "a" .created (some 1),
      familyRow 3 "b" .submitted (some 1)] } }

theorem removeJob_refuses_busy_child :
    busyFamily.index.get? 3 = some (familyRow 3 "b" .submitted (some 1)) ∧
      (removeJob 3).run.run busyFamily =
        (.error (.fault (activeConflict (familyRow 3 "b" .submitted (some 1)))), busyFamily) := by
  have found : busyFamily.index.get? 3 = some (familyRow 3 "b" .submitted (some 1)) := by decide +kernel
  exact ⟨found, (removeJob_clears_or_refuses busyFamily 3).1 _ found rfl⟩

/-- Removing the master of the family above is refused at its submitted child, after the other
child was removed: the removal is not all or nothing. -/
theorem removeJob_busyFamily_half_done :
    busyFamily.index.rows.map (·.id) = [1, 2, 3] ∧
    (match ((removeJob 1).run.run busyFamily).1 with
      | .error (.fault e) => some e.text
      | _ => none) = some "Conflict: job b is submitted; cancel it before removing it" ∧
      ((removeJob 1).run.run busyFamily).2.index.rows.map (·.id) = [1, 3] := by
  decide +kernel

end Project

end JobFlow

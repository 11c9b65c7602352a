import Mathlib
import JobFlow.Proofs.System.JobRecord

/-!
# Redoing a move between statuses

A move of a job from `src` to `dst` writes the record first and moves the index row after it by
compare-and-swap.
-/

open Std.Do

set_option mvcgen.warning false

namespace JobFlow

/-- Setting the value a sorted tree already holds at a path gives the tree back. -/
theorem Json.setAt_of_at? : ∀ {p : List String} {t v : Json}, t.Sorted → t.at? p = some v → t.setAt p v = t
  | [], t, v, _, found => by
    cases found
    rfl
  | s :: rest, t, v, sorted, found => by
    rw [Json.at?_cons] at found
    obtain ⟨c, child, below⟩ := Option.bind_eq_some_iff.1 found
    have inner : c.Sorted := by simpa [child] using sorted.child s
    cases t with
    | obj fs =>
      simp only [Json.setAt, child, Option.getD_some, Json.setAt_of_at? inner below]
      show Json.obj (insertField s c fs) = .obj fs
      rw [insertField_of_lookup (sorted [] fs rfl) child]
    | _ => cases child

theorem Status.ne_of_check {src dst : Status} {job : String} (allowed : Status.check src dst job = .ok ()) :
    src ≠ dst := by
  rintro rfl
  cases src <;> simp [Status.check, Status.canMove, Status.successors, throw, throwThe, MonadExceptOf.throw] at allowed

/-- What an action promises at a state, read off its run. -/
theorem Sys.wp_run {α : Type} (x : Sys α) (Q : PostCond α (.except Stop (.arg JobSystem .pure))) (s : JobSystem) :
    (wp⟦x⟧ Q s).down ↔ match x.run.run s with
      | (.ok a, s') => (Q.1 a s').down
      | (.error e, s') => (Q.2.1 e s').down := by
  simp only [wp, ExceptT.run, StateT.run]
  rcases ran : x s with ⟨_ | a, s'⟩ <;> simp [ran, Id.run]

theorem Sys.triple_conseq {α : Type} {x : Sys α} {P P' : JobSystem → Prop} {Q Q' : α → JobSystem → Prop}
    {E E' : Stop → JobSystem → Prop}
    (spec : ⦃fun s => ⌜P' s⌝⦄ x ⦃post⟨fun a s => ⌜Q a s⌝, fun e s => ⌜E e s⌝⟩⦄)
    (pre : ∀ s, P s → P' s) (ok : ∀ a s, Q a s → Q' a s) (error : ∀ e s, E e s → E' e s) :
    ⦃fun s => ⌜P s⌝⦄ x ⦃post⟨fun a s => ⌜Q' a s⌝, fun e s => ⌜E' e s⌝⟩⦄ := by
  intro s start
  have ran := Sys.of_triple spec s (pre s start)
  refine (Sys.wp_run x _ s).2 ?_
  rcases result : x.run.run s with ⟨_ | a, s'⟩ <;> rw [result] at ran
  · exact error _ _ ran
  · exact ok _ _ ran

/-- A triple for every state it may start from gives the triple. -/
theorem Sys.triple_pinned {α : Type} {x : Sys α} {P : JobSystem → Prop}
    {Q : PostCond α (.except Stop (.arg JobSystem .pure))}
    (spec : ∀ u, P u → ⦃fun s => ⌜s = u⌝⦄ x ⦃Q⦄) : ⦃fun s => ⌜P s⌝⦄ x ⦃Q⦄ := by
  intro s start
  exact spec s start s rfl

/-- Two triples of one action give the triple of their conjunctions. -/
theorem Sys.triple_and {α : Type} {x : Sys α} {P P' : JobSystem → Prop} {Q Q' : α → JobSystem → Prop}
    {E E' : Stop → JobSystem → Prop}
    (first : ⦃fun s => ⌜P s⌝⦄ x ⦃post⟨fun a s => ⌜Q a s⌝, fun e s => ⌜E e s⌝⟩⦄)
    (second : ⦃fun s => ⌜P' s⌝⦄ x ⦃post⟨fun a s => ⌜Q' a s⌝, fun e s => ⌜E' e s⌝⟩⦄) :
    ⦃fun s => ⌜P s ∧ P' s⌝⦄ x ⦃post⟨fun a s => ⌜Q a s ∧ Q' a s⌝, fun e s => ⌜E e s ∧ E' e s⌝⟩⦄ := by
  intro s start
  have ran := Sys.of_triple first s start.1
  have ran' := Sys.of_triple second s start.2
  refine (Sys.wp_run x _ s).2 ?_
  rcases result : x.run.run s with ⟨_ | a, s'⟩ <;> rw [result] at ran ran'
  · exact ⟨ran, ran'⟩
  · exact ⟨ran, ran'⟩

/-- An action that answers `a` at `u` and changes nothing runs the rest on `a` from `u`. -/
theorem Sys.triple_bind_pinned {α β : Type} {x : Sys α} {k : α → Sys β} {u : JobSystem} {a : α}
    {Q : β → JobSystem → Prop} {E : Stop → JobSystem → Prop}
    (first : ⦃fun s => ⌜s = u⌝⦄ x ⦃post⟨fun b s => ⌜b = a ∧ s = u⌝, fun _ _ => ⌜False⌝⟩⦄)
    (rest : ⦃fun s => ⌜s = u⌝⦄ k a ⦃post⟨fun b s => ⌜Q b s⌝, fun e s => ⌜E e s⌝⟩⦄) :
    ⦃fun s => ⌜s = u⌝⦄ (x >>= k) ⦃post⟨fun b s => ⌜Q b s⌝, fun e s => ⌜E e s⌝⟩⦄ := by
  refine Triple.bind x k (Sys.triple_conseq first (fun _ same => same) (fun _ _ read => read)
    fun _ _ => False.elim) fun b => Sys.triple_pinned ?_
  rintro w ⟨rfl, rfl⟩
  exact rest

/-- The row of an id the index holds is read without a change. -/
theorem Sys.row_found {u : JobSystem} {id : Nat} {r : IndexRow} (found : u.index.get? id = some r) :
    ⦃fun s => ⌜s = u⌝⦄ Sys.row id ⦃post⟨fun r' s => ⌜r' = r ∧ s = u⌝, fun _ _ => ⌜False⌝⟩⦄ := by
  mvcgen [Sys.row, Sys.row?, Sys.index]
  · rename_i start _ read
    subst start
    rw [found] at read
    exact ⟨(Option.some.inj read).symm, rfl⟩
  · rename_i start missing
    subst start
    rw [found] at missing
    cases missing

/-- Reading the row of an id the index lacks fails, without a change. -/
theorem Sys.row_missing {u : JobSystem} {id : Nat} (missing : u.index.get? id = none) :
    ⦃fun s => ⌜s = u⌝⦄ Sys.row id
    ⦃post⟨fun _ _ => ⌜False⌝, fun e s => ⌜e = .fault (.notFound s!"job {id} in index") ∧ s = u⌝⟩⦄ := by
  mvcgen [Sys.row, Sys.row?, Sys.index]
  · rename_i start _ read
    subst start
    rw [missing] at read
    cases read

namespace JobIndex

theorem updateStatus_stays {ix : JobIndex} {i : Nat} {old new : Status}
    (other : (ix.get? i).map (·.status) ≠ some old) : (ix.updateStatus i old new).1 = ix := by
  unfold updateStatus
  split
  · rename_i r found
    have differs : r.status ≠ old := fun same => other (by simp [found, same])
    simp [differs]
  · rfl

end JobIndex

namespace JobContext

variable (c : JobContext) {t : Json} {st : Status}

/-- Opening the job's record finds the record that holds its tree, and changes nothing. -/
theorem record_exact (u : JobSystem) (shows : c.Shows t st u) :
    ⦃fun s => ⌜s = u⌝⦄ c.record
    ⦃post⟨fun r s => ⌜s = u ∧ c.Stored u r ∧ RecordTree.Holds t r ∧ r.checkFormat = .ok ()⌝, fun _ _ => ⌜False⌝⟩⦄ := by
  mvcgen [JobContext.record, Sys.openRecord, Sys.openDb]
  all_goals subst_vars
  · rename_i missing
    exact absurd shows.opens.1 (by simpa using missing)
  · rename_i a opened _ _ _
    obtain ⟨r, found, stored, holds, format⟩ := shows.opens.2
    rw [found] at opened
    cases opened
    exact ⟨rfl, stored, holds, format⟩
  · rename_i a opened _ _ failed
    obtain ⟨r, found, -, -, format⟩ := shows.opens.2
    rw [found] at opened
    cases opened
    rw [format] at failed
    cases failed
  · rename_i failed
    obtain ⟨r, found, -⟩ := shows.opens.2
    rw [found] at failed
    cases failed

/-- The record's status is read as its tree holds it, and nothing changes. -/
theorem storedStatus_exact (r : Record) {x : Status} (found : t.at? Layout.statusAt = some (.str x.name))
    (u : JobSystem) :
    ⦃fun s => ⌜s = u ∧ RecordTree.Holds t r⌝⦄ Sys.storedStatus r ⦃post⟨fun v s => ⌜v = x ∧ s = u⌝, fun _ _ => ⌜False⌝⟩⦄ := by
  mvcgen [Sys.storedStatus, Sys.readAs]
  · rename_i read _ mine
    rw [Record.readStatus mine.2 found] at read
    cases read
    exact ⟨rfl, mine.1⟩
  · rename_i failed _ mine
    rw [Record.readStatus mine.2 found] at failed
    cases failed

/-- Writing a status into the job's record, where its tree holds one, leaves the index as it
was. -/
theorem writeStatus_index (st : Status) (r : Record) {x : Json} (found : t.at? Layout.statusAt = some x) (v : Status)
    (ix : JobIndex) :
    ⦃fun s => ⌜(c.Shows t st s ∧ c.Stored s r ∧ RecordTree.Holds t r ∧ r.checkFormat = .ok ()) ∧ s.index = ix⌝⦄
    Sys.writeRecord r Layout.status (.str v.name)
    ⦃post⟨fun _ s => ⌜c.Shows (t.setAt Layout.statusAt (.str v.name)) st s ∧ s.index = ix⌝, fun _ _ => ⌜False⌝⟩⦄ := by
  mvcgen [Sys.writeRecord, Sys.saveRecord]
  · rename_i mine _ written _
    obtain ⟨⟨shows, stored, holds, format⟩, sameIndex⟩ := mine
    obtain ⟨r', write, holds', path, config, format'⟩ := Record.writeStatus holds format found v
    rw [write] at written
    cases written
    exact ⟨shows.save (path.trans stored.path) (config.trans stored.config) holds' format', sameIndex⟩
  · rename_i mine _ failed
    obtain ⟨⟨-, -, holds, format⟩, -⟩ := mine
    obtain ⟨r', write, -⟩ := Record.writeStatus holds format found v
    rw [write] at failed
    cases failed

/-- A move of the job's row that the index does not take leaves the system as it was: the row
did not show the status the move leaves. -/
theorem Shows.unmoved {c : JobContext} {T : Json} {r src dst : Status} {s : JobSystem} (shows : c.Shows T r s)
    (stayed : ¬(s.index.updateStatus c.jobId src dst).2 = true) :
    r ≠ src ∧ { s with index := (s.index.updateStatus c.jobId src dst).1 } = s := by
  have notSrc : r ≠ src := fun same => stayed ((JobIndex.updateStatus_moved _ _ _ _).2 (same ▸ shows.row))
  refine ⟨notSrc, ?_⟩
  rw [JobIndex.updateStatus_stays (shows.row ▸ mt Option.some.inj notSrc)]

theorem Shows.setAt_status {c : JobContext} {T : Json} {r x : Status} {s : JobSystem} (shows : c.Shows T r s)
    (found : T.at? Layout.statusAt = some (.str x.name)) : T.setAt Layout.statusAt (.str x.name) = T := by
  obtain ⟨rec, -, holds, -⟩ := shows.record
  exact Json.setAt_of_at? holds.wf.sorted found

/-- The index follows the record from whatever status the job's row shows: the row moves, or
stays at `dst`, when it shows `src` or `dst`; any other status is a conflict that changes
nothing. -/
theorem syncIndex_spec (T : Json) (r : Status) (ix : JobIndex) (src dst : Status) :
    ⦃fun s => ⌜c.Shows T r s ∧ s.index = ix⌝⦄ c.syncIndex src dst
    ⦃post⟨fun _ s => ⌜(r = src ∨ r = dst) ∧ c.Shows T dst s⌝,
      fun e s => ⌜¬(r = src ∨ r = dst) ∧ (∃ m, e = .fault (.conflict m)) ∧ c.Shows T r s ∧ s.index = ix⌝⟩⦄ := by
  mvcgen [syncIndex, Sys.updateStatus]
  -- the index takes every move
  · rename_i pre _ faulted
    rw [pre.1.fault] at faulted
    cases faulted
  -- the row showed `src` and moved
  · rename_i pre _ _ _ moved
    obtain ⟨shows, -⟩ := pre
    have atSrc := (JobIndex.updateStatus_moved _ _ _ _).1 moved
    rw [shows.row, Option.some.injEq] at atSrc
    subst atSrc
    exact ⟨.inl rfl, shows.move dst⟩
  -- otherwise the row stayed as it was, and it is read back
  · rename_i s pre _ _ moves stayed row found differs
    obtain ⟨shows, rfl⟩ := pre
    obtain ⟨notSrc, kept⟩ := shows.unmoved stayed
    have back : moves.2 = s := kept
    rw [back] at found ⊢
    have isRow : row.status = r := by simpa [found] using shows.row
    exact ⟨by rintro (same | same) <;> [exact notSrc same; exact differs (isRow.trans same)], ⟨_, rfl⟩, shows, rfl⟩
  · rename_i s pre _ _ moves stayed row found atDst
    obtain ⟨shows, -⟩ := pre
    obtain ⟨-, kept⟩ := shows.unmoved stayed
    have back : moves.2 = s := kept
    rw [back] at found ⊢
    have isRow : row.status = r := by simpa [found] using shows.row
    have atDst : r = dst := isRow.symm.trans (not_not.1 atDst)
    subst atDst
    exact ⟨.inr rfl, shows⟩
  · rename_i s pre _ _ moves stayed missing
    obtain ⟨shows, -⟩ := pre
    obtain ⟨-, kept⟩ := shows.unmoved stayed
    have back : moves.2 = s := kept
    rw [back] at missing
    exact absurd missing shows.present

/-- A move along an edge of the graph, on a job whose record holds the status `s` and whose row
shows `r`, with an index that takes every move. -/
theorem transition_spec {src dst : Status} (legal : Status.check src dst c.label = .ok ()) {s r : Status}
    (found : t.at? Layout.statusAt = some (.str s.name)) (u : JobSystem) (shows : c.Shows t r u) :
    ⦃fun v => ⌜v = u⌝⦄ c.transition src dst
    ⦃post⟨fun _ v => ⌜(s = src ∨ s = dst) ∧ (r = src ∨ r = dst) ∧
        c.Shows (t.setAt Layout.statusAt (.str dst.name)) dst v⌝,
      fun e v => ⌜(∃ m, e = .fault (.conflict m)) ∧
        if s = src ∨ s = dst then
          ¬(r = src ∨ r = dst) ∧ c.Shows (t.setAt Layout.statusAt (.str dst.name)) r v ∧ v.index = u.index
        else v = u⌝⟩⦄ := by
  have opens := record_exact c u shows
  have reads := fun rec => storedStatus_exact rec found u
  have writes := fun rec => writeStatus_index c r rec found dst u.index
  have syncs := syncIndex_spec c (t.setAt Layout.statusAt (.str dst.name)) r u.index src dst
  mvcgen [JobContext.transition, Sys.ofOutcome, legal, opens, reads, writes, syncs]
  · rename_i opened
    exact ⟨opened.1, opened.2.2.1⟩
  -- a record at neither status refuses the move before anything is written
  · rename_i stored _ neither _ read
    obtain ⟨rfl, rfl⟩ := read
    refine ⟨⟨_, rfl⟩, ?_⟩
    rw [if_neg (by rintro (same | same) <;> [exact neither.1 same; exact neither.2 same])]
  -- a record at `src` is moved to `dst`
  · rename_i opened _ _ _ _ _ _ read
    obtain ⟨-, rfl⟩ := read
    obtain ⟨-, stored, holds, format⟩ := opened
    exact ⟨⟨shows, stored, holds, format⟩, rfl⟩
  · intro moved shows'
    exact ⟨.inl ((‹_ = s ∧ _›.1).symm.trans ‹_ = src›), moved, shows'⟩
  · intro stuck conflict shows' sameIndex
    refine ⟨conflict, ?_⟩
    rw [if_pos (.inl ((‹_ = s ∧ _›.1).symm.trans ‹_ = src›))]
    exact ⟨stuck, shows', sameIndex⟩
  -- a record already at `dst` is left as it is
  · rename_i stored _ either _ notSrc _ read
    obtain ⟨rfl, rfl⟩ := read
    have atDst : stored = dst := by grind
    subst atDst
    rw [shows.setAt_status found]
    exact ⟨shows, rfl⟩
  · intro moved shows'
    exact ⟨.inr (by grind), moved, shows'⟩
  · intro stuck conflict shows' sameIndex
    refine ⟨conflict, ?_⟩
    rw [if_pos (.inr (by grind))]
    exact ⟨stuck, shows', sameIndex⟩

theorem transition_refused {src dst : Status} {e : JobError} (refused : Status.check src dst c.label = .error e)
    (u : JobSystem) : (c.transition src dst).run.run u = (.error (.fault e), u) := by
  simp [JobContext.transition, Sys.ofOutcome, refused, Sys.fail, throw, throwThe, MonadExceptOf.throw]
  rfl

/-- A row that already shows `dst` is left as it is, and the move goes through. -/
theorem syncIndex_settled {T : Json} {src dst : Status} (distinct : src ≠ dst) (u : JobSystem)
    (shows : c.Shows T dst u) :
    ⦃fun s => ⌜s = u⌝⦄ c.syncIndex src dst ⦃post⟨fun _ s => ⌜s = u⌝, fun _ _ => ⌜False⌝⟩⦄ := by
  mvcgen [syncIndex, Sys.updateStatus]
  all_goals subst_vars
  · rename_i faulted
    rw [shows.fault] at faulted
    cases faulted
  -- the row does not show `src`, so it does not move
  · rename_i moved
    have atSrc := (JobIndex.updateStatus_moved _ _ _ _).1 moved
    rw [shows.row, Option.some.injEq] at atSrc
    exact absurd atSrc.symm distinct
  · rename_i moves stayed row found differs
    have back := (shows.unmoved stayed).2
    change moves.2 = _ at back
    rw [back] at found
    exact differs (by simpa [found] using shows.row)
  · exact (shows.unmoved ‹_›).2
  · rename_i moves stayed missing
    have back := (shows.unmoved stayed).2
    change moves.2 = _ at back
    rw [back] at missing
    exact shows.present missing

/-- A move already made goes through again and changes nothing. -/
theorem transition_settled {src dst : Status} (legal : Status.check src dst c.label = .ok ())
    (found : t.at? Layout.statusAt = some (.str dst.name)) (u : JobSystem) (shows : c.Shows t dst u) :
    ⦃fun s => ⌜s = u⌝⦄ c.transition src dst ⦃post⟨fun _ s => ⌜s = u⌝, fun _ _ => ⌜False⌝⟩⦄ := by
  have distinct := Status.ne_of_check legal
  have opens := record_exact c u shows
  have reads := fun rec => storedStatus_exact rec found u
  have syncs := syncIndex_settled c distinct u shows
  mvcgen [JobContext.transition, Sys.ofOutcome, legal, opens, reads, syncs]
  · rename_i opened
    exact ⟨opened.1, opened.2.2.1⟩
  -- the record holds `dst`, which is not `src`: nothing is written
  · rename_i neither _ read
    exact neither.2 read.1
  · rename_i atSrc _ read
    exact absurd (atSrc.symm.trans read.1) distinct
  · exact ‹_ = dst ∧ _›.2

/-- A move from `src` to `dst`, made on a job whose record holds the status `s` and whose row
shows `r`, with an index that takes every move. -/
theorem transition_redoable (src dst : Status) (t : Json) (s r : Status) (u : JobSystem) :
    ⦃fun v => ⌜v = u ∧ c.Shows t r u ∧ t.at? Layout.statusAt = some (.str s.name)⌝⦄ c.transition src dst
    ⦃post⟨fun _ v => ⌜src.canMove dst ∧ (s = src ∨ s = dst) ∧ (r = src ∨ r = dst) ∧
        c.Shows (t.setAt Layout.statusAt (.str dst.name)) dst v ∧ (c.transition src dst).run.run v = (.ok (), v)⌝,
      fun e v => ⌜if src.canMove dst then
          (∃ m, e = .fault (.conflict m)) ∧
            if s = src ∨ s = dst then
              ¬(r = src ∨ r = dst) ∧ c.Shows (t.setAt Layout.statusAt (.str dst.name)) r v ∧ v.index = u.index
            else v = u
        else e = .fault (.invalidTransition c.label src dst) ∧ v = u⌝⟩⦄ := by
  apply Triple.iff.mpr
  rintro v ⟨rfl, shows, found⟩
  by_cases legal : src.canMove dst
  · have allowed : Status.check src dst c.label = .ok () := by simp [Status.check, legal]; rfl
    have spec := transition_spec c allowed found v shows v rfl
    refine (WP.wp (c.transition src dst)).mono _ _ ⟨fun _ v' done => ?_, fun e v' failed => ?_, trivial⟩ v spec
    · obtain ⟨moved, stays, shows'⟩ := done
      have again := Sys.of_triple (transition_settled c allowed (Json.at?_setAt_self _ _ _) v' shows') v' rfl
      refine ⟨legal, moved, stays, shows', ?_⟩
      revert again
      rcases (c.transition src dst).run.run v' with ⟨_ | _, v''⟩
      · exact False.elim
      · exact fun same => by rw [same]
    · simpa [legal] using failed
  · have refused : Status.check src dst c.label = .error (.invalidTransition c.label src dst) := by
      simp [Status.check, legal]; rfl
    rw [Sys.wp_run, transition_refused c refused]
    simp [legal]

end JobContext

end JobFlow

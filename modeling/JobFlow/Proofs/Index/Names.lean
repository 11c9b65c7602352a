import Mathlib
import JobFlow.Proofs.Index.Rows

/-!
# One row for each id and for each name

The index finds a row by its id (`JobIndex.get?`) and by its project and job name
(`JobIndex.find?`).
-/

namespace JobFlow

/-- The project and the name of a row's job: what `JobIndex.find?` looks a row up by. -/
def IndexRow.fullName (r : IndexRow) : String × String := (r.project, r.jobName)

namespace JobIndex

/-- One change of the index by one of its operations, as the system makes it. -/
inductive Step : JobIndex → JobIndex → Prop
  | insert {ix ix' : JobIndex} {n : NewRow} {id : Nat} : ix.insert n = .ok (ix', id) → Step ix ix'
  | restore {ix ix' : JobIndex} {r : IndexRow} : ix.restore r = .ok ix' → Step ix ix'
  | updateStatus (ix : JobIndex) (id : Nat) (old new : Status) : Step ix (ix.updateStatus id old new).1
  | forceStatus {ix ix' : JobIndex} {id : Nat} {s : Status} : ix.forceStatus id s = .ok ix' → Step ix ix'
  | claim (ix : JobIndex) (id : Nat) (expected : Status) (token : String) : Step ix (ix.claim id expected token).1
  | update {ix ix' : JobIndex} {id : Nat} {u : IndexUpdate} : ix.update id u = .ok ix' → Step ix ix'
  | requestCancel (ix : JobIndex) (id : Nat) : Step ix (ix.requestCancel id).1
  | delete (ix : JobIndex) (id : Nat) : Step ix (ix.delete id).1

/-- Each id, and each name in a project, has at most one row. -/
structure Keyed (ix : JobIndex) : Prop where
  ids : (ix.rows.map (·.id)).Nodup
  names : (ix.rows.map IndexRow.fullName).Nodup

variable {ix ix' : JobIndex}

theorem lifecycle_fullName (r : IndexRow) (s : Status) : (lifecycle r s).fullName = r.fullName := by
  unfold lifecycle
  split <;> split <;> rfl

theorem modify_map {β : Type} (ix : JobIndex) (i : Nat) {f : IndexRow → IndexRow} (g : IndexRow → β)
    (keeps : ∀ r, g (f r) = g r) : (ix.modify i f).rows.map g = ix.rows.map g := by
  unfold modify
  rw [List.map_map]
  apply List.map_congr_left
  intro r _
  by_cases here : r.id = i <;> simp [here, keeps]

theorem place_perm (ix : JobIndex) (row : IndexRow) : (ix.place row).rows.Perm (row :: ix.rows) := by
  unfold place
  simp only [List.partition_eq_filter_filter, List.append_assoc, List.singleton_append]
  exact List.perm_middle.trans (.cons _ (List.filter_append_perm _ _))

theorem fullName_not_mem_of_taken {p n : String} (free : ix.taken p n = false) :
    (p, n) ∉ ix.rows.map IndexRow.fullName := by
  simp only [taken, List.any_eq_false] at free
  simp only [List.mem_map, IndexRow.fullName, Prod.mk.injEq, not_exists, not_and]
  intro r mem sameProject sameName
  exact free r mem (by simp [sameProject, sameName])

section Keyed

theorem Keyed.empty : Keyed {} := ⟨List.nodup_nil, List.nodup_nil⟩

theorem Keyed.modify (keyed : ix.Keyed) (i : Nat) {f : IndexRow → IndexRow} (sameId : ∀ r, (f r).id = r.id)
    (sameName : ∀ r, (f r).fullName = r.fullName) : (ix.modify i f).Keyed := by
  refine ⟨?_, ?_⟩
  · rw [modify_map ix i _ sameId]
    exact keyed.ids
  · rw [modify_map ix i _ sameName]
    exact keyed.names

theorem Keyed.place (keyed : ix.Keyed) {row : IndexRow} (freshId : row.id ∉ ix.rows.map (·.id))
    (freshName : row.fullName ∉ ix.rows.map IndexRow.fullName) : (ix.place row).Keyed := by
  have perm := place_perm ix row
  refine ⟨?_, ?_⟩
  · rw [(perm.map _).nodup_iff]
    exact List.nodup_cons.2 ⟨freshId, keyed.ids⟩
  · rw [(perm.map _).nodup_iff]
    exact List.nodup_cons.2 ⟨freshName, keyed.names⟩

theorem Keyed.delete (keyed : ix.Keyed) (i : Nat) : (ix.delete i).1.Keyed :=
  ⟨keyed.ids.sublist (List.filter_sublist.map _), keyed.names.sublist (List.filter_sublist.map _)⟩

theorem Keyed.insert (keyed : ix.Keyed) {n : NewRow} {i : Nat} (ok : ix.insert n = .ok (ix', i)) : ix'.Keyed := by
  obtain ⟨free, fresh, row, rowId, rowProject, rowName, -, rfl⟩ := insert_ok ok
  have freshName : row.fullName ∉ ix.rows.map IndexRow.fullName := by
    simpa [IndexRow.fullName, rowProject, rowName] using fullName_not_mem_of_taken free
  refine keyed.place (fun mem => ?_) freshName
  obtain ⟨r, mem, same⟩ := List.mem_map.1 mem
  exact fresh r mem (same.trans rowId)

theorem Keyed.restore (keyed : ix.Keyed) {row : IndexRow} (ok : ix.restore row = .ok ix') : ix'.Keyed := by
  unfold JobIndex.restore at ok
  simp only [bind, Except.bind, pure, Except.pure] at ok
  split at ok
  · cases ok
  · rename_i free
    cases ok
    simp only [not_or, Bool.not_eq_true, List.any_eq_false] at free
    refine keyed.place (fun mem => ?_) (fullName_not_mem_of_taken free.2)
    obtain ⟨r, mem, same⟩ := List.mem_map.1 mem
    exact absurd same (by simpa using free.1 r mem)

theorem Keyed.updateStatus (keyed : ix.Keyed) (i : Nat) (old new : Status) : (ix.updateStatus i old new).1.Keyed := by
  unfold JobIndex.updateStatus
  split
  · split
    · exact keyed.modify i (fun r => by simp [lifecycle_id]) (fun r => by rw [lifecycle_fullName]; rfl)
    · exact keyed
  · exact keyed

theorem Keyed.forceStatus (keyed : ix.Keyed) {i : Nat} {s : Status} (ok : ix.forceStatus i s = .ok ix') : ix'.Keyed := by
  unfold JobIndex.forceStatus at ok
  split at ok
  · cases ok
    exact keyed.modify i (fun r => by simp [lifecycle_id]) (fun r => by rw [lifecycle_fullName]; rfl)
  · cases ok

theorem Keyed.claim (keyed : ix.Keyed) (i : Nat) (expected : Status) (token : String) :
    (ix.claim i expected token).1.Keyed := by
  unfold JobIndex.claim
  split
  · split
    · exact keyed.modify i (fun r => rfl) (fun r => rfl)
    · exact keyed
  · exact keyed

theorem Keyed.update (keyed : ix.Keyed) {i : Nat} {u : IndexUpdate} (ok : ix.update i u = .ok ix') : ix'.Keyed := by
  unfold JobIndex.update at ok
  split at ok
  · cases ok
    exact keyed
  · split at ok
    · cases ok
    · cases ok
      -- an update sets the master, the queue job and the reason, never the id or the name
      refine keyed.modify i (fun r => ?_) (fun r => ?_)
      all_goals
        simp only
        split <;> split <;> split <;> rfl

theorem Keyed.requestCancel (keyed : ix.Keyed) (i : Nat) : (ix.requestCancel i).1.Keyed := by
  unfold JobIndex.requestCancel
  split
  · exact keyed.modify i (fun r => rfl) (fun r => rfl)
  · exact keyed

theorem Keyed.step (keyed : ix.Keyed) (step : Step ix ix') : ix'.Keyed := by
  cases step with
  | insert ok => exact keyed.insert ok
  | restore ok => exact keyed.restore ok
  | updateStatus i old new => exact keyed.updateStatus i old new
  | forceStatus ok => exact keyed.forceStatus ok
  | claim i expected token => exact keyed.claim i expected token
  | update ok => exact keyed.update ok
  | requestCancel i => exact keyed.requestCancel i
  | delete i => exact keyed.delete i

theorem keyed_of_reachable (reach : Relation.ReflTransGen Step {} ix) : ix.Keyed := by
  induction reach with
  | refl => exact Keyed.empty
  | tail _ step keyed => exact keyed.step step

end Keyed

theorem row_unique (reach : Relation.ReflTransGen Step {} ix) {r r' : IndexRow} (mem : r ∈ ix.rows)
    (mem' : r' ∈ ix.rows) (same : r.id = r'.id ∨ (r.project = r'.project ∧ r.jobName = r'.jobName)) : r = r' := by
  have keyed := keyed_of_reachable reach
  rcases same with sameId | ⟨sameProject, sameName⟩
  · exact List.inj_on_of_nodup_map keyed.ids mem mem' sameId
  · exact List.inj_on_of_nodup_map keyed.names mem mem' (by simp [IndexRow.fullName, sameProject, sameName])

end JobIndex

end JobFlow

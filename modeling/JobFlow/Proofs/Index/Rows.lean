import Mathlib
import JobFlow.Index.Table

/-!
# How the index's operations change one job's row

Each operation of the index rewrites at most the row of the id it is given and leaves every
other row where `get?` finds it: a status move, a claim or an update rewrites that row in
place (`get?_modify`), a new row takes an id that no row has (`insert_fresh`, `get?_place`),
and a deletion drops only its own id.
-/

namespace JobFlow

namespace Status

/-- Claimed or ended: a job in one of these statuses is never claimed again. -/
def isHeld : Status → Bool
  | .busy | .running | .collect | .finished | .aborted | .notConverged => true
  | _ => false

theorem isHeld_of_isTerminal {s : Status} (ended : s.isTerminal) : s.isHeld := by
  cases s <;> simp_all [isTerminal, isHeld]

theorem isResumable_of_isHeld {s : Status} (held : s.isHeld) : s.isResumable = false := by
  cases s <;> simp_all [isResumable, isHeld]

end Status

namespace JobIndex

theorem lifecycle_id (r : IndexRow) (s : Status) : (lifecycle r s).id = r.id := by
  unfold lifecycle
  split <;> split <;> rfl

theorem lifecycle_status (r : IndexRow) (s : Status) : (lifecycle r s).status = r.status := by
  unfold lifecycle
  split <;> split <;> rfl

theorem get?_modify (ix : JobIndex) (i id : Nat) (f : IndexRow → IndexRow) (sameId : ∀ r, (f r).id = r.id) :
    (ix.modify i f).get? id = if i = id then (ix.get? id).map f else ix.get? id := by
  unfold get? modify
  rw [List.find?_map]
  -- the rewrite keeps ids, so the row sought is the same before and after it
  have same : ((fun r : IndexRow => decide (r.id = id)) ∘ fun r => if r.id = i then f r else r) =
      fun r => decide (r.id = id) := by
    funext r
    by_cases here : r.id = i <;> simp [here, sameId]
  rw [same]
  cases found : ix.rows.find? (fun r => decide (r.id = id)) with
  | none => split <;> rfl
  | some r =>
    have rid : r.id = id := by simpa using List.find?_some found
    by_cases here : i = id
    · simp [here, rid]
    · simp [here, rid, Ne.symm here]

/-- Splitting a list by a test that is constant on the elements sought loses none of them. -/
theorem find?_partition {α : Type} (p q : α → Bool) (same : ∀ a b, p a → p b → q a = q b) :
    ∀ l : List α, ((l.filter q).find? p).or ((l.filter (not ∘ q)).find? p) = l.find? p
  | [] => rfl
  | a :: l => by
    by_cases found : p a
    · have noneLeft : ¬ q a → (l.filter q).find? p = none := fun notQ =>
        List.find?_eq_none.2 fun b mem hb => notQ (by
          have := same a b found hb
          simp_all [List.mem_filter])
      by_cases side : q a
      · simp [side, found]
      · simp [side, found, noneLeft side]
    · have rest := find?_partition p q same l
      by_cases side : q a <;> simp_all

theorem get?_place (ix : JobIndex) (row : IndexRow) {id : Nat} (other : row.id ≠ id) :
    (ix.place row).get? id = ix.get? id := by
  unfold place get?
  simp only [List.partition_eq_filter_filter, List.append_assoc, List.singleton_append,
    List.find?_append, List.find?_cons, other, decide_false]
  -- every row of the id has the same key, so all of them fall on one side of the new row
  exact find?_partition _ _ (fun a b pa pb => by simp_all [IndexRow.key]) ix.rows

theorem get?_place_self {ix : JobIndex} (row : IndexRow) (fresh : ∀ r ∈ ix.rows, r.id ≠ row.id) :
    (ix.place row).get? row.id = some row := by
  unfold place get?
  have before : (ix.rows.filter (·.key < row.key)).find? (·.id = row.id) = none :=
    List.find?_eq_none.2 fun r mem => by simpa using fresh r (List.mem_filter.1 mem).1
  simp [List.partition_eq_filter_filter, List.find?_append, before]

theorem maxId_eq : maxId = 2 ^ 63 - 1 := rfl

theorem fresh_id {ix : JobIndex} {next : Int} (r : IndexRow) (below : r.key < next) (small : next ≤ maxId)
    (given : ix.lastId < maxId) : r.id ≠ (max next (ix.lastId + 1 : Nat)).toNat := by
  unfold IndexRow.key IndexRow.keyOf at below
  simp only [Nat.pow_eq] at below
  rw [maxId_eq] at small given
  split at below <;> omega

/-- A successful insertion found the name free in its project, and placed a row of that
name and status under an id that no row has. -/
theorem insert_ok {ix ix' : JobIndex} {n : NewRow} {i : Nat} (ok : ix.insert n = .ok (ix', i)) :
    ix.taken n.project n.jobName = false ∧ (∀ r ∈ ix.rows, r.id ≠ i) ∧
      ∃ row : IndexRow, row.id = i ∧ row.project = n.project ∧ row.jobName = n.jobName ∧ row.status = n.status ∧
        ix' = ix.place row := by
  unfold insert at ok
  simp only [bind, Except.bind, pure, Except.pure] at ok
  split at ok
  · cases ok
  · rename_i free
    split at ok
    · rename_i noKeys
      split at ok
      · cases ok
      · injection ok with ok
        obtain ⟨rfl, rfl⟩ := Prod.mk.inj ok
        refine ⟨by simpa using free, fun r mem => ?_, _, rfl, rfl, rfl, rfl, rfl⟩
        have : r.key ∈ ix.rows.map IndexRow.key := List.mem_map_of_mem mem
        simp_all
    · rename_i k top
      have bound := (List.max?_eq_some_iff.1 top).2
      split at ok
      · cases ok
      · split at ok
        · cases ok
        · injection ok with ok
          obtain ⟨rfl, rfl⟩ := Prod.mk.inj ok
          refine ⟨by simpa using free, fun r mem => fresh_id r ?_ (by omega) (by omega), _, rfl, rfl, rfl, rfl, rfl⟩
          have := bound r.key (List.mem_map_of_mem mem)
          omega

theorem insert_fresh {ix ix' : JobIndex} {n : NewRow} {i : Nat} (ok : ix.insert n = .ok (ix', i)) :
    (∀ r ∈ ix.rows, r.id ≠ i) ∧ ∃ row : IndexRow, row.id = i ∧ ix' = ix.place row := by
  obtain ⟨-, fresh, row, rowId, -, -, -, placed⟩ := insert_ok ok
  exact ⟨fresh, row, rowId, placed⟩

theorem get?_delete (ix : JobIndex) {i id : Nat} (other : i ≠ id) : (ix.delete i).1.get? id = ix.get? id := by
  unfold delete get?
  rw [List.find?_filter]
  congr 1
  funext r
  by_cases here : r.id = id
  · simp [here, Ne.symm other]
  · simp [here]

/-- The job's row is in the index and held. -/
def Held (ix : JobIndex) (id : Nat) : Prop := ∃ r, ix.get? id = some r ∧ r.status.isHeld

section Held

variable {ix : JobIndex} {id : Nat}

theorem Held.status_isHeld (held : ix.Held id) {r : IndexRow} (found : ix.get? id = some r) : r.status.isHeld := by
  obtain ⟨r', found', rHeld⟩ := held
  rw [found'] at found
  cases found
  exact rHeld

theorem Held.modify (held : ix.Held id) (i : Nat) {f : IndexRow → IndexRow} (sameId : ∀ r, (f r).id = r.id)
    (keeps : ∀ r, ix.get? id = some r → i = id → (f r).status.isHeld) : (ix.modify i f).Held id := by
  obtain ⟨r, found, rHeld⟩ := held
  rw [Held, get?_modify ix i id f sameId]
  split
  · rename_i here
    exact ⟨f r, by simp [found], keeps r found here⟩
  · exact ⟨r, found, rHeld⟩

theorem Held.updateStatus (held : ix.Held id) (i : Nat) {old new : Status} (moves : old.isHeld → new.isHeld) :
    (ix.updateStatus i old new).1.Held id := by
  unfold JobIndex.updateStatus
  split
  · rename_i r' atI
    split
    · rename_i fromOld
      refine held.modify i (fun r => by simp [lifecycle_id]) fun r found here => ?_
      -- the row moves only when it shows `old`, so a held row shows a held `old`
      subst here
      obtain ⟨r, found', rHeld⟩ := held
      rw [found'] at atI found
      cases atI
      cases found
      simpa [lifecycle_status] using moves (fromOld ▸ rHeld)
    · exact held
  · exact held

theorem Held.forceStatus (held : ix.Held id) {i : Nat} {s : Status} {ix' : JobIndex} (heldStatus : s.isHeld)
    (ok : ix.forceStatus i s = .ok ix') : ix'.Held id := by
  unfold JobIndex.forceStatus at ok
  split at ok
  · cases ok
    exact held.modify i (fun r => by simp [lifecycle_id]) fun r _ _ => by simpa [lifecycle_status] using heldStatus
  · cases ok

theorem Held.forceStatus_ne_error (held : ix.Held id) (s : Status) (e : JobError) :
    ix.forceStatus id s ≠ .error e := by
  obtain ⟨r, found, _⟩ := held
  simp [JobIndex.forceStatus, found, pure, Except.pure]

theorem Held.claim (held : ix.Held id) (i : Nat) (expected : Status) (token : String) :
    (ix.claim i expected token).1.Held id := by
  unfold JobIndex.claim
  split
  · split
    · exact held.modify i (fun r => rfl) fun r _ _ => rfl
    · exact held
  · exact held

theorem Held.update (held : ix.Held id) {i : Nat} {u : IndexUpdate} {ix' : JobIndex} (ok : ix.update i u = .ok ix') :
    ix'.Held id := by
  unfold JobIndex.update at ok
  split at ok
  · cases ok
    exact held
  · split at ok
    · cases ok
    · cases ok
      refine held.modify i (fun r => ?_) fun r found _ => ?_
      · simp only
        split <;> split <;> split <;> rfl
      · obtain ⟨r', found', rHeld⟩ := held
        rw [found'] at found
        cases found
        simp only
        split <;> split <;> split <;> exact rHeld

theorem Held.insert (held : ix.Held id) {n : NewRow} {ix' : JobIndex} {i : Nat} (ok : ix.insert n = .ok (ix', i)) :
    ix'.Held id ∧ i ≠ id := by
  obtain ⟨fresh, row, rowId, rfl⟩ := insert_fresh ok
  obtain ⟨r, found, rHeld⟩ := held
  have other : i ≠ id := by
    have mem : r ∈ ix.rows := List.mem_of_find?_eq_some found
    have rid : r.id = id := by simpa using List.find?_some found
    exact fun same => fresh r mem (rid.trans same.symm)
  exact ⟨⟨r, by rw [get?_place ix row (rowId ▸ other), found], rHeld⟩, other⟩

theorem Held.delete (held : ix.Held id) {i : Nat} (other : i ≠ id) : (ix.delete i).1.Held id := by
  obtain ⟨r, found, rHeld⟩ := held
  exact ⟨r, by rw [get?_delete ix other, found], rHeld⟩

end Held

end JobIndex

end JobFlow

import Mathlib
import JobFlow.Proofs.Index.Names

/-!
# Start and end stamps of a row

A status write stamps a row as the index's update statement does: the start stamp keeps the
first value it was given, `COALESCE(started_at, now)`, so only a move to `running` of a row
without one sets it (`lifecycle_startedAt`); the end stamp takes the clock at every move to a
status that ends the job, `COALESCE(now, finished_at)`, whatever it held before
(`lifecycle_finishedAt`).
-/

namespace JobFlow

namespace JobIndex

variable {ix ix' : JobIndex} {id : Nat} {r r' : IndexRow}

theorem lifecycle_startedAt (r : IndexRow) (s : Status) :
    (lifecycle r s).startedAt = r.startedAt.or (if s = .running then some .now else none) := by
  by_cases running : s = .running <;> cases start : r.startedAt <;>
    simp_all [lifecycle, apply_ite IndexRow.startedAt, Status.isTerminal]

theorem lifecycle_finishedAt (r : IndexRow) (s : Status) :
    (lifecycle r s).finishedAt = (if s.isTerminal then some .now else none).or r.finishedAt := by
  by_cases ends : s.isTerminal <;> simp_all [lifecycle, apply_ite IndexRow.finishedAt]

/-- The row a status write to `s` leaves: the status, the time of the change and the stamps. -/
def statusWritten (r : IndexRow) (s : Status) : IndexRow :=
  lifecycle { r with status := s, updatedAt := .now } s

theorem statusWritten_id (r : IndexRow) (s : Status) : (statusWritten r s).id = r.id := by
  simp [statusWritten, lifecycle_id]

theorem statusWritten_status (r : IndexRow) (s : Status) : (statusWritten r s).status = s := by
  simp [statusWritten, lifecycle_status]

theorem statusWritten_record (r : IndexRow) (s : Status) :
    (statusWritten r s).project = r.project ∧ (statusWritten r s).storagePath = r.storagePath := by
  unfold statusWritten lifecycle
  split <;> split <;> exact ⟨rfl, rfl⟩

theorem statusWritten_startedAt (r : IndexRow) (s : Status) :
    (statusWritten r s).startedAt = r.startedAt.or (if s = .running then some .now else none) :=
  lifecycle_startedAt _ s

theorem statusWritten_finishedAt (r : IndexRow) (s : Status) :
    (statusWritten r s).finishedAt = (if s.isTerminal then some .now else none).or r.finishedAt :=
  lifecycle_finishedAt _ s

theorem forceStatus_found (found : ix.get? id = some r) (s : Status) :
    ix.forceStatus id s = .ok (ix.modify id (statusWritten · s)) := by
  simp only [forceStatus, found]
  rfl

/-- A forced write to a row that is there succeeds, and it and a compare-and-swap that finds
the expected status leave the row as `statusWritten` says; a compare-and-swap that finds
another status leaves it alone. -/
theorem statusWrite_row (found : ix.get? id = some r) (s old : Status) :
    (∃ ix', ix.forceStatus id s = .ok ix' ∧ ix'.get? id = some (statusWritten r s)) ∧
      (ix.updateStatus id old s).1.get? id = if r.status = old then some (statusWritten r s) else some r := by
  have written : (ix.modify id (fun r => statusWritten r s)).get? id = some (statusWritten r s) := by
    rw [get?_modify ix id id _ (statusWritten_id · s), if_pos rfl, found]
    rfl
  refine ⟨⟨_, forceStatus_found found s, written⟩, ?_⟩
  · unfold updateStatus
    simp only [found]
    by_cases same : r.status = old
    · simp only [same, if_true]
      exact written
    · simp only [same, if_false]
      exact found

/-- The changes one operation may make to the stamps of a row it keeps: the start stamp stays,
or a row without one moved to `running` gets the clock; the end stamp stays, or a row moved to
a status that ends the job gets the clock. -/
structure Stamped (r r' : IndexRow) : Prop where
  started : r'.startedAt = r.startedAt ∨ r.startedAt = none ∧ r'.status = .running ∧ r'.startedAt = some .now
  finished : r'.finishedAt = r.finishedAt ∨ r'.status.isTerminal ∧ r'.finishedAt = some .now

namespace Stamped

theorem refl (r : IndexRow) : Stamped r r := ⟨.inl rfl, .inl rfl⟩

theorem statusWritten (r : IndexRow) (s : Status) : Stamped r (statusWritten r s) := by
  refine ⟨?_, ?_⟩
  · -- a start stamp that is set wins over the clock
    cases start : r.startedAt with
    | some t => exact .inl (by simp [statusWritten_startedAt, start])
    | none =>
      by_cases running : s = .running
      · exact .inr ⟨rfl, by simp [statusWritten_status, running], by simp [statusWritten_startedAt, start, running]⟩
      · exact .inl (by simp [statusWritten_startedAt, start, running])
  · -- the clock wins over an end stamp that is set
    by_cases ends : s.isTerminal
    · exact .inr ⟨by simpa [statusWritten_status] using ends, by simp [statusWritten_finishedAt, ends]⟩
    · exact .inl (by simp [statusWritten_finishedAt, ends])

theorem modify {f : IndexRow → IndexRow} (i : Nat) (sameId : ∀ r, (f r).id = r.id) (moves : ∀ r, Stamped r (f r))
    (before : ix.get? id = some r) (after : (ix.modify i f).get? id = some r') : Stamped r r' := by
  rw [get?_modify ix i id f sameId, before] at after
  split at after
  · cases after
    exact moves r
  · cases after
    exact refl r

theorem of_keeps {f : IndexRow → IndexRow} (keeps : ∀ r, (f r).startedAt = r.startedAt ∧ (f r).finishedAt = r.finishedAt)
    (r : IndexRow) : Stamped r (f r) :=
  ⟨.inl (keeps r).1, .inl (keeps r).2⟩

theorem place {row : IndexRow} (other : row.id ≠ id) (before : ix.get? id = some r)
    (after : (ix.place row).get? id = some r') : Stamped r r' := by
  rw [get?_place ix row other, before] at after
  cases after
  exact refl r

theorem step (step : Step ix ix') (before : ix.get? id = some r) (after : ix'.get? id = some r') :
    Stamped r r' := by
  have mem : r ∈ ix.rows := List.mem_of_find?_eq_some before
  have rid : r.id = id := by simpa using List.find?_some before
  cases step with
  | insert ok =>
    obtain ⟨fresh, row, rowId, rfl⟩ := insert_fresh ok
    -- the new row draws an id no row has, so not the one found before
    have other : row.id ≠ id := fun same => fresh r mem (rid.trans (same.symm.trans rowId))
    exact place other before after
  | @restore _ row ok =>
    simp only [restore, bind, Except.bind, pure, Except.pure] at ok
    split at ok
    · cases ok
    · rename_i free
      cases ok
      -- a restored row takes an id no row has
      have other : row.id ≠ id := fun same => free (Or.inl (List.any_eq_true.2 ⟨r, mem, by simp [rid, same]⟩))
      exact place other before after
  | updateStatus i old new =>
    unfold JobIndex.updateStatus at after
    split at after
    · split at after
      · exact modify i (statusWritten_id · new) (statusWritten · new) before after
      · rw [before] at after
        cases after
        exact refl r
    · rw [before] at after
      cases after
      exact refl r
  | forceStatus ok =>
    unfold JobIndex.forceStatus at ok
    split at ok
    · cases ok
      exact modify _ (statusWritten_id · _) (statusWritten · _) before after
    · cases ok
  | claim i expected token =>
    unfold JobIndex.claim at after
    split at after
    · split at after
      · dsimp only at after
        exact modify i (by intro; rfl) (of_keeps (by intro; exact ⟨rfl, rfl⟩)) before after
      · rw [before] at after
        cases after
        exact refl r
    · rw [before] at after
      cases after
      exact refl r
  | update ok =>
    unfold JobIndex.update at ok
    split at ok
    · cases ok
      rw [before] at after
      cases after
      exact refl r
    · split at ok
      · cases ok
      · cases ok
        -- an update sets the master, the queue job and the reason, never a stamp
        refine modify _ (fun r => ?_) (of_keeps fun r => ?_) before after
        · simp only
          split <;> split <;> split <;> rfl
        · simp only
          split <;> split <;> split <;> exact ⟨rfl, rfl⟩
  | requestCancel i =>
    unfold JobIndex.requestCancel at after
    split at after
    · dsimp only at after
      exact modify i (by intro; rfl) (of_keeps (by intro; exact ⟨rfl, rfl⟩)) before after
    · rw [before] at after
      cases after
      exact refl r
  | delete i =>
    by_cases here : i = id
    · subst here
      simp only [delete, get?, List.find?_filter] at after
      rw [List.find?_eq_none.2 (by simp)] at after
      cases after
    · rw [get?_delete ix here, before] at after
      cases after
      exact refl r

end Stamped

theorem insert_placed {n : NewRow} (ok : ix.insert n = .ok (ix', id)) :
    ∃ row : IndexRow, row.id = id ∧ row.startedAt = none ∧ row.finishedAt = none ∧ ix' = ix.place row := by
  unfold insert at ok
  simp only [bind, Except.bind, pure, Except.pure] at ok
  split at ok
  · cases ok
  · split at ok
    · split at ok
      · cases ok
      · injection ok with ok
        obtain ⟨rfl, rfl⟩ := Prod.mk.inj ok
        exact ⟨_, rfl, rfl, rfl, rfl⟩
    · split at ok
      · cases ok
      · split at ok
        · cases ok
        · injection ok with ok
          obtain ⟨rfl, rfl⟩ := Prod.mk.inj ok
          exact ⟨_, rfl, rfl, rfl, rfl⟩

theorem insert_unstamped {n : NewRow} (ok : ix.insert n = .ok (ix', id)) (found : ix'.get? id = some r) :
    r.startedAt = none ∧ r.finishedAt = none := by
  obtain ⟨fresh, -⟩ := insert_fresh ok
  obtain ⟨row, rfl, started, finished, rfl⟩ := insert_placed ok
  rw [get?_place_self row fresh] at found
  cases found
  exact ⟨started, finished⟩

/-- How the index stamps a row `r` it holds. -/
theorem stamps_coalesce {ix : JobIndex} {i : Nat} {r : IndexRow} (found : ix.get? i = some r) (s : Status) :
    (∀ (n : NewRow) ix' i' r', ix.insert n = .ok (ix', i') → ix'.get? i' = some r' →
      r'.startedAt = none ∧ r'.finishedAt = none) ∧
    (∀ ix' r', Step ix ix' → ix'.get? i = some r' → Stamped r r') ∧
    (∃ ix', ix.forceStatus i s = .ok ix' ∧ ix'.get? i = some (statusWritten r s)) ∧
    (ix.updateStatus i r.status s).1.get? i = some (statusWritten r s) ∧
    (statusWritten r s).startedAt = r.startedAt.or (if s = .running then some .now else none) ∧
    (statusWritten r s).finishedAt = (if s.isTerminal then some .now else none).or r.finishedAt := by
  obtain ⟨forced, swapped⟩ := statusWrite_row found s r.status
  refine ⟨fun _ _ _ _ ok inserted => insert_unstamped ok inserted, fun _ _ step after => Stamped.step step found after,
    forced, by simpa using swapped, statusWritten_startedAt r s, statusWritten_finishedAt r s⟩

/-- A row that ended `finished` at a recorded time, as a restore brings it back. -/
def endedRow : IndexRow :=
  { (default : IndexRow) with id := 1, status := .finished, finishedAt := some (.at "2001-01-01T00:00:00.000000Z") }

/-- Forcing the status the row already ended in stamps its end again with the clock. -/
theorem forceStatus_restamps_ended :
    (({} : JobIndex).place endedRow).get? 1 = some endedRow ∧
      ∃ ix', (({} : JobIndex).place endedRow).forceStatus 1 .finished = .ok ix' ∧
        ix'.get? 1 = some (statusWritten endedRow .finished) ∧
        (statusWritten endedRow .finished).finishedAt = some .now := by
  have found : (({} : JobIndex).place endedRow).get? 1 = some endedRow := rfl
  obtain ⟨-, -, forced, -, -, finished⟩ := stamps_coalesce found .finished
  exact ⟨found, forced.imp fun _ forced => ⟨forced.1, forced.2, by rw [finished]; rfl⟩⟩

end JobIndex

end JobFlow

import Mathlib
import JobFlow.System.Context
import JobFlow.Proofs.Index.Rows

/-!
# What one claim does

A claim draws a token, reads the status the job's record holds, and then tries to move the
job's index row to `busy` with that token.
-/

open Std.Do

set_option mvcgen.warning false

namespace JobFlow

/-! The reads and writes every action is built from are unfolded where they are used. -/

attribute [spec] Sys.fail Sys.stall Sys.ofOutcome Sys.config Sys.disk Sys.setDisk Sys.onDisk Sys.records
  Sys.index Sys.setIndex Sys.row? Sys.row Sys.scheduler? Sys.setScheduler Sys.newToken

/-- A triple about an action of the system, read as a fact about one run. -/
theorem Sys.of_triple {α : Type} {P : JobSystem → Prop} {Q : α → JobSystem → Prop}
    {E : Stop → JobSystem → Prop} {x : Sys α}
    (spec : ⦃fun s => ⌜P s⌝⦄ x ⦃post⟨fun a s => ⌜Q a s⌝, fun e s => ⌜E e s⌝⟩⦄) (s : JobSystem) (start : P s) :
    match x.run.run s with
    | (.ok a, s') => Q a s'
    | (.error e, s') => E e s' := by
  have := spec s start
  simp [wp, ExceptT.run, StateT.run] at this
  change match (x s).run with
    | (.ok a, s') => Q a s'
    | (.error e, s') => E e s'
  generalize (x s).run = result at this ⊢
  rcases result with ⟨_ | a, s'⟩ <;> exact this

theorem Record.checkFormat_empty (p : String) (cfg : StorageConfig) (u : Unit) :
    (⟨p, [], cfg⟩ : Record).checkFormat ≠ .ok u := by
  unfold Record.checkFormat Record.rootMeta Record.groupMeta
  cases RecordPath.normalize "" <;> simp [bind, Except.bind, Pairs.get?, pure, Except.pure]

theorem RecordStore.openDb_fresh {d d' : Disk} {p : String} {ps : Pairs} (ok : openDb d p = .ok (d', ps)) :
    d' = d ∨ ps = [] := by
  unfold openDb at ok
  dsimp only at ok
  split at ok <;> (try split at ok) <;> simp_all [throw, throwThe, MonadExceptOf.throw, pure, Except.pure]

theorem RecordStore.open_disk {s : RecordStore} {d d' : Disk} {p : String} {r : Record}
    (ok : s.open d p = .ok (d', r)) : d' = d := by
  unfold RecordStore.open RecordStore.record at ok
  cases opened : openDb d p with
  | error e =>
    simp only [opened, bind, Except.bind] at ok
    split at ok <;> cases ok
  | ok v =>
    obtain ⟨d₀, ps⟩ := v
    simp only [opened, bind, Except.bind, pure, Except.pure] at ok
    split at ok
    · simp [throw, throwThe, MonadExceptOf.throw] at ok
    · split at ok
      · cases ok
      · rename_i wellFormed
        cases ok
        -- a database made empty holds no root, so it is not a well formed record
        rcases openDb_fresh opened with same | empty
        · exact same
        · subst empty
          exact absurd wellFormed (Record.checkFormat_empty p s.config _)

theorem RecordStore.open_ok {s : RecordStore} {d : Disk} {p : String} {a : Disk × Record} {u : Unit}
    (there : ¬(!d.exists? (Disk.locate p)) = true) (opened : s.record d p = .ok a)
    (wellFormed : a.2.checkFormat = .ok u) : s.open d p = .ok a := by
  simp_all [RecordStore.open, bind, Except.bind, pure, Except.pure]

/-- Opening a record reads the disk as the store's own opening does. -/
theorem Sys.openRecord_spec (p : String) (u : JobSystem) :
    ⦃fun s => ⌜s = u⌝⦄ Sys.openRecord p
    ⦃post⟨fun r s => ⌜(⟨u.config.storage⟩ : RecordStore).open u.disk p = .ok (u.disk, r) ∧ s = u⌝,
      fun e s => ⌜(∃ e', e = .fault e' ∧ (⟨u.config.storage⟩ : RecordStore).open u.disk p = .error e') ∧
        s.index = u.index ∧ s.claims = u.claims⌝⟩⦄ := by
  mvcgen [Sys.openRecord, Sys.openDb]
  all_goals subst_vars
  · simp_all [RecordStore.open, bind, Except.bind, throw, throwThe, MonadExceptOf.throw]
  · have whole := RecordStore.open_ok ‹_› ‹_› ‹_›
    have same := RecordStore.open_disk whole
    exact ⟨by rw [whole, ← same], by simp +zetaDelta [same]⟩
  · simp_all +zetaDelta [RecordStore.open, bind, Except.bind]
  · simp_all [RecordStore.open, bind, Except.bind]

/-- The row of `id` is `busy` with a claimant's token. -/
def JobIndex.ClaimedBy (ix : JobIndex) (id : Nat) (token : String) : Prop :=
  ∃ r, ix.get? id = some r ∧ r.status = .busy ∧ r.claimToken = some token

theorem JobIndex.ClaimedBy.held {ix : JobIndex} {id : Nat} {token : String} (claimed : ix.ClaimedBy id token) :
    ix.Held id := by
  obtain ⟨r, found, busy, _⟩ := claimed
  exact ⟨r, found, by simp [busy, Status.isHeld]⟩

namespace JobContext

/-- A claim on a held row is refused with a conflict and changes nothing. -/
theorem claimRetry_refused (c : JobContext) (token : String) (total : Nat) {u : JobSystem}
    (held : u.index.Held c.jobId) (n : Nat) :
    ⦃fun s => ⌜s = u⌝⦄ c.claimRetry token total n
    ⦃post⟨fun _ _ => ⌜False⌝, fun e s => ⌜(∃ m, e = .fault (.conflict m)) ∧ s = u⌝⟩⦄ := by
  cases n with
  | zero =>
    mvcgen [claimRetry]
    subst_vars
    exact ⟨⟨_, rfl⟩, rfl⟩
  | succ n =>
    mvcgen [claimRetry]
    all_goals subst_vars
    · exact ⟨⟨_, rfl⟩, rfl⟩
    · exact ⟨⟨_, rfl⟩, rfl⟩
    -- a held row can be neither resumed nor missing
    · have stuck := Status.isResumable_of_isHeld (held.status_isHeld ‹_›)
      exact absurd stuck (by simpa using ‹¬(!_) = true›)
    · obtain ⟨r, found, _⟩ := held
      exact absurd found (by simp [‹_ = none›])

end JobContext

end JobFlow

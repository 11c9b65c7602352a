import Mathlib
import JobFlow.Proofs.System.Suspension

/-!
# Cancelling a job

`Project.cancelJob` raises the cancel flag of the job's row. A job that no runner holds is
aborted at once; a runner that holds the job sees the flag at its next check and aborts the job
there, before any output is written.
-/

open Std.Do

set_option mvcgen.warning false

namespace JobFlow

namespace JobIndex

theorem requestCancel_get? (ix : JobIndex) (i id : Nat) :
    (ix.requestCancel i).1.get? id =
      if i = id then (ix.get? id).map fun r => { r with cancelRequested := true, updatedAt := .now }
      else ix.get? id := by
  unfold requestCancel
  split
  · exact get?_modify ix i id _ fun _ => rfl
  · rename_i missing
    split
    · rename_i same
      subst same
      simp [missing]
    · rfl

theorem requestCancel_status (ix : JobIndex) (i id : Nat) :
    ((ix.requestCancel i).1.get? id).map (·.status) = (ix.get? id).map (·.status) := by
  rw [requestCancel_get?]
  split
  · rw [Option.map_map]
    rfl
  · rfl

theorem mark_requestCancel {ix : JobIndex} {i : Nat} {n : String × String} {b : Bool}
    (marked : ix.mark i = some (n, b)) : (ix.requestCancel i).1.mark i = some (n, true) := by
  obtain ⟨r, found, same⟩ := Option.map_eq_some_iff.1 marked
  simp only [Prod.mk.injEq] at same
  simp [mark, requestCancel_get?, found, same.1]

end JobIndex

namespace JobContext

variable {c : JobContext} {t : Json} {st : Status} {s : JobSystem}

/-- The row of the job of `c` names the job and its record, and asks for a cancel. -/
def Flagged (c : JobContext) (s : JobSystem) : Prop :=
  s.index.mark c.jobId = some ((c.jobName, c.storagePath), true)

/-- The job of `c` was aborted with the failure `f` from the tree `t` its record held: the record
holds `t` with `f` and `aborted` written in it and nothing else, and the row shows `aborted`. -/
def AbortedFrom (c : JobContext) (t : Json) (f : Failure) (s : JobSystem) : Prop :=
  c.Shows ((t.setAt Layout.failureAt f.toJson).setAt Layout.statusAt (.str Status.aborted.name)) .aborted s

/-- The row of the job of `c` holds the id that the queue gave the job. -/
def Queued (c : JobContext) (s : JobSystem) : Prop :=
  ∃ r, s.index.get? c.jobId = some r ∧ r.queueId.isSome

theorem Flagged.named (flagged : c.Flagged s) : c.Named s := ⟨true, flagged⟩

theorem Named.requestCancel (named : c.Named s) : c.Flagged { s with index := (s.index.requestCancel c.jobId).1 } := by
  obtain ⟨b, marked⟩ := named
  exact JobIndex.mark_requestCancel marked

theorem Shows.requestCancel (shows : c.Shows t st s) (i : Nat) :
    c.Shows t st { s with index := (s.index.requestCancel i).1 } :=
  shows.setIndex (JobIndex.requestCancel_status _ _ _)

/-- A row that asks for a cancel is read as one, and reading it changes nothing. -/
theorem cancelRequested_flagged {P : JobSystem → Prop} :
    ⦃fun s => ⌜P s ∧ c.Flagged s⌝⦄ c.cancelRequested
    ⦃post⟨fun b s => ⌜b = true ∧ P s ∧ c.Flagged s⌝, fun _ _ => ⌜False⌝⟩⦄ := by
  mvcgen [JobContext.cancelRequested, -JobContext.cancelRequested_keepsHeld]
  rename_i before
  obtain ⟨r, found, same⟩ := Option.map_eq_some_iff.1 before.2
  simp only [Prod.mk.injEq] at same
  simp [found, same.2, before]

end JobContext

theorem Sys.cancelInQueue_keepsMark (id : Nat) (m : Option ((String × String) × Bool)) (q : String) :
    Sys.KeepsMark id m (Sys.cancelInQueue q) := by
  mvcgen [Sys.cancelInQueue]

namespace Project

variable {c : JobContext} {T : Json} {st : Status}

/-- Cancelling a job that a runner holds, busy, running or in `collect`, raises the flag of its
row, leaves its record and the status of its row as they are, and answers that status. -/
theorem cancelJob_held (held : st = .busy ∨ st = .running ∨ st = .collect) :
    ⦃fun s => ⌜c.Shows T st s ∧ c.Named s⌝⦄ cancelJob c.jobId
    ⦃post⟨fun st' s => ⌜st' = st ∧ c.Shows T st s ∧ c.Flagged s⌝, fun _ _ => ⌜False⌝⟩⦄ := by
  refine Sys.triple_pinned ?_
  rintro u ⟨shows, named⟩
  obtain ⟨r, found, status⟩ := Option.map_eq_some_iff.1 shows.row
  unfold cancelJob
  refine Sys.triple_bind_pinned (Sys.row_found found) ?_
  have queue := fun q => Sys.triple_and (Sys.cancelInQueue_spares c T st q)
    (Sys.cancelInQueue_keepsMark c.jobId (some ((c.jobName, c.storagePath), true)) q)
  -- the row's status keeps the job from being aborted here
  rcases held with rfl | rfl | rfl <;>
  · simp only [status]
    mvcgen [Sys.requestCancel, Sys.index, Sys.setIndex, queue, -Sys.cancelInQueue_spares]
    -- the row is flagged and keeps its status, before and after the queue is told
    · obtain rfl := ‹_ = u›
      exact ⟨shows.requestCancel c.jobId, named.requestCancel⟩
    · exact fun never _ => never
    · obtain rfl := ‹_ = u›
      exact ⟨trivial, shows.requestCancel c.jobId, named.requestCancel⟩

/-- Cancelling a job that no runner holds, initialized, created or suspended, or submitted to a
queue, aborts it at once with the failure `cancelled`. -/
theorem cancelJob_aborts (found : T.at? Layout.statusAt = some (.str st.name))
    (idle : st = .initialized ∨ st = .created ∨ st = .suspended ∨ st = .submitted) :
    ⦃fun s => ⌜c.Shows T st s ∧ c.Named s ∧ (st = .submitted → c.Queued s)⌝⦄ cancelJob c.jobId
    ⦃post⟨fun st' s => ⌜st' = .aborted ∧ c.AbortedFrom T Failure.cancelled s⌝, fun _ _ => ⌜False⌝⟩⦄ := by
  refine Sys.triple_pinned ?_
  rintro u ⟨shows, named, queued⟩
  obtain ⟨r, present, status⟩ := Option.map_eq_some_iff.1 shows.row
  obtain ⟨name, path⟩ := named.row present
  unfold cancelJob
  refine Sys.triple_bind_pinned (Sys.row_found present) ?_
  have ongoing : st.isTerminal = false := by
    rcases idle with rfl | rfl | rfl | rfl <;> rfl
  have queue := fun q => Sys.cancelInQueue_spares c T st q
  have opens := JobContext.record_shows c T st
  have aborts := JobContext.abort_shows c T ongoing found Failure.cancelled
  simp only [status, name, path, JobContext.open_self]
  rcases (show (st = .initialized ∨ st = .created ∨ st = .suspended) ∨ st = .submitted by tauto) with idle | rfl
  -- a job that no runner holds is aborted, whether the queue had it or not
  · rcases idle with rfl | rfl | rfl <;>
    · mvcgen [Sys.requestCancel, Sys.index, Sys.setIndex, queue, opens, aborts, -JobContext.record_keepsHeld,
        -JobContext.abort_keepsHeld]
      · obtain rfl := ‹_ = u›
        exact shows.requestCancel c.jobId
      · exact ‹c.Shows T _ _ ∧ _›.1
      · obtain rfl := ‹_ = u›
        exact shows.requestCancel c.jobId
      · exact ‹c.Shows T _ _ ∧ _›.1
  -- a job submitted to a queue is taken out of it first
  · obtain ⟨r', present', given⟩ := queued rfl
    rw [present, Option.some.injEq] at present'
    subst present'
    obtain ⟨q, given⟩ := Option.isSome_iff_exists.1 given
    simp only [given]
    mvcgen [Sys.requestCancel, Sys.index, Sys.setIndex, queue, opens, aborts, -JobContext.record_keepsHeld,
      -JobContext.abort_keepsHeld]
    · obtain rfl := ‹_ = u›
      exact shows.requestCancel c.jobId
    · exact ‹c.Shows T _ _ ∧ _›.1

/-- Cancelling a job whose row shows a status that has ended changes nothing, and answers that
status. -/
theorem cancelJob_ended {u : JobSystem} {id : Nat} {r : IndexRow} (found : u.index.get? id = some r)
    (ended : r.status.isTerminal) :
    ⦃fun s => ⌜s = u⌝⦄ cancelJob id ⦃post⟨fun st s => ⌜st = r.status ∧ s = u⌝, fun _ _ => ⌜False⌝⟩⦄ := by
  unfold cancelJob
  refine Sys.triple_bind_pinned (Sys.row_found found) ?_
  simp only [ended, if_true]
  mvcgen

end Project

namespace Pipeline

/-- The body of `j` is a function that answers a value on the job's input. -/
def Answers (j : Job) : Prop :=
  ∃ fn v, j.runnable.body = .function fn ∧ fn j.input = .ok v

theorem Step.status_held (q : Step) : q.status = .busy ∨ q.status = .running ∨ q.status = .collect := by
  cases q <;> decide

theorem Step.four_le_left {q : Step} (early : 3 ≤ q.left) (notLast : q ≠ .secondCheck) : 4 ≤ q.left := by
  cases q <;> simp_all [Step.left]

theorem Step.early_cases {p : Step} (early : 6 ≤ p.left) : p = .start ∨ p = .firstCheck := by
  cases p <;> simp_all [Step.left]

/-- What the steps answer when a cancel comes in time: a failure, which is `cancelled` for a
body that answers, or (`none`) a fault, which only a body that does not answer can meet. -/
def CancelAnswer (j : Job) : Option (Except Failure Status) → Prop
  | some a => ∃ f, a = .error f ∧ (Answers j → f = Failure.cancelled)
  | none => ¬Answers j

section Cancelled

variable {c : JobContext} {j : Job} {t : Json}

/-- Up to the second check, the steps of a body that answers go on, or stop at a check with a
cancel, and never fail. -/
theorem step_answers (answers : Answers j) (found : t.at? Layout.statusAt = some (.str Status.busy.name))
    {q : Step} (early : 3 ≤ q.left) (out : Json) :
    ⦃fun s => ⌜Before c j t (some q) out s⌝⦄ step j c .busy out q
    ⦃post⟨fun r _ => ⌜r = .error (.error Failure.cancelled) ∨ ∃ out', r = .ok out'⌝, fun _ _ => ⌜False⌝⟩⦄ := by
  obtain ⟨fn, v, body, ok⟩ := answers
  cases q with
  | start =>
    have starts := @JobContext.transition_shows c t .busy .running rfl found
    simp only [Before, Step.tree, Step.status]
    mvcgen [step, starts, -JobContext.transition_keepsHeld]
    · exact ‹_ ∧ _›.1
    · exact .inr ⟨_, rfl⟩
  | firstCheck =>
    mvcgen [step, JobContext.cancelRequested, -JobContext.cancelRequested_keepsHeld]
    · exact .inl trivial
    · exact .inr ⟨_, rfl⟩
  | invoke =>
    -- the function answers, so the body goes on to the move to `collect`
    simp only [step, body, ok]
    mvcgen
    exact .inr ⟨_, rfl⟩
  | collect =>
    have collects := @JobContext.transition_shows c (t.setAt Layout.statusAt (.str Status.running.name))
      .running .collect rfl (Json.at?_setAt_self _ _ _)
    simp only [Before, Step.tree, Step.status]
    mvcgen [step, collects, -JobContext.transition_keepsHeld]
    · exact ‹_ ∧ _›.1
    · exact .inr ⟨_, rfl⟩
  | secondCheck =>
    simp only [step, body]
    mvcgen [JobContext.cancelRequested, -JobContext.cancelRequested_keepsHeld]
    · exact .inl trivial
    · exact .inr ⟨_, rfl⟩
  | write | finish => exact absurd early (by decide)

theorem firstCheck_flagged {P : JobSystem → Prop} (src : Status) (out : Json) :
    ⦃fun s => ⌜P s ∧ c.Flagged s⌝⦄ step j c src out .firstCheck
    ⦃post⟨fun r s => ⌜r = .error (.error Failure.cancelled) ∧ P s ∧ c.Flagged s⌝, fun _ _ => ⌜False⌝⟩⦄ := by
  have reads := @JobContext.cancelRequested_flagged c P
  mvcgen [step, reads, -JobContext.cancelRequested_keepsHeld]
  · rename_i read
    exact ⟨trivial, read.2⟩
  · rename_i notCancelled _ read
    exact absurd read.1 notCancelled

/-- The second check, on a row that asks for a cancel, never lets the steps go on. -/
theorem secondCheck_flagged {q : Step} (last : q = .secondCheck) (src : Status) (out : Json) :
    ⦃fun s => ⌜c.Flagged s⌝⦄ step j c src out q ⦃post⟨fun r _ => ⌜∀ out', r ≠ .ok out'⌝, fun _ _ => ⌜True⌝⟩⦄ := by
  subst last
  have reads := @JobContext.cancelRequested_flagged c fun _ => True
  have collects := fun sj => collectOutput_keepsMark c.jobId (some ((c.jobName, c.storagePath), true)) sj
    j.identity.workingDirectory
  mvcgen [step, reads, collects, -JobContext.cancelRequested_keepsHeld, -collectOutput_keepsHeld]
  -- the flag is read as raised, or a command's collector failed before the check
  all_goals simp_all [JobContext.Flagged]

theorem start_marked (found : t.at? Layout.statusAt = some (.str Status.busy.name)) (out : Json)
    (m : Option ((String × String) × Bool)) :
    ⦃fun s => ⌜c.Shows t .busy s ∧ s.index.mark c.jobId = m⌝⦄ step j c .busy out .start
    ⦃post⟨fun r s => ⌜r = .ok out ∧ c.Shows (t.setAt Layout.statusAt (.str Status.running.name)) .running s ∧
        s.index.mark c.jobId = m⌝, fun _ _ => ⌜False⌝⟩⦄ := by
  have moves := Sys.triple_and (@JobContext.transition_shows c t .busy .running rfl found)
    (JobContext.transition_keepsMark c.jobId m c .busy .running)
  mvcgen [step, moves, -JobContext.transition_keepsHeld]
  exact fun never _ => never

/-- A cancel that comes just before a step, while the runner holds the job, raises the flag of
the row and leaves the record and the status of the row as they were. -/
theorem meanwhile_cancel (q : Step) (out : Json) :
    ⦃fun s => ⌜c.Shows (q.tree t out) q.status s ∧ c.Named s⌝⦄ meanwhile q (Project.cancelJob c.jobId) q
    ⦃post⟨fun _ s => ⌜c.Shows (q.tree t out) q.status s ∧ c.Flagged s⌝, fun _ _ => ⌜False⌝⟩⦄ := by
  have cancels := Sys.attempt_spec (E := fun _ => False)
    (Triple.entails_wp_of_post (@Project.cancelJob_held c (q.tree t out) q.status (Step.status_held q))
      ⟨fun _ _ held => held.2, fun _ _ never => never.elim, trivial⟩)
  rw [meanwhile, if_pos rfl]
  mvcgen [cancels, -Sys.attempt_keepsHeld]
  rename_i r _ cancelled
  cases r with
  | ok => exact cancelled
  | error => exact cancelled.elim

/-- A step up to the second check, from a row with the mark it has: the step keeps the mark, does
not get past a second check that finds a cancel, and stops only as `CancelAnswer` says. -/
theorem marked_step (behaves : Behaves c j) (found : t.at? Layout.statusAt = some (.str Status.busy.name))
    {q : Step} (early : 3 ≤ q.left) (out : Json) (b : Bool) :
    ⦃fun s => ⌜Before c j t (some q) out s ∧ s.index.mark c.jobId = some ((c.jobName, c.storagePath), b)⌝⦄
    step j c .busy out q
    ⦃post⟨fun r s => ⌜match r with
        | .ok out' => Before c j t q.next out' s ∧ s.index.mark c.jobId = some ((c.jobName, c.storagePath), b) ∧
            (b = true → q ≠ .secondCheck)
        | .error a => Leaves c j t a s ∧ CancelAnswer j (some a)⌝,
      fun e s => ⌜e.IsFault ∧ c.Midway t s ∧ CancelAnswer j none⌝⟩⦄ := by
  apply Triple.iff.mpr
  rintro s ⟨before, mark⟩
  rw [Sys.wp_run]
  -- four facts of the one run of the step, read off the same result
  have moved := Sys.of_triple (step_spec c j t behaves found q out) s before
  have kept := Sys.of_triple (step_keepsMark (j := j) (c := c) c.jobId _ .busy out q) s mark
  have answered := fun answers => Sys.of_triple (step_answers answers found early out) s before
  have stops := fun (flagged : b = true) (last : q = .secondCheck) =>
    Sys.of_triple (secondCheck_flagged (j := j) last .busy out) s (flagged ▸ mark)
  revert moved kept answered stops
  rcases (step j c .busy out q).run.run s with ⟨_ | r, s'⟩
  · exact fun failed _ answered _ => ⟨failed.1, failed.2, answered⟩
  · intro moved kept answered stops
    cases r with
    | ok out' => exact ⟨moved, kept.1, fun flagged last => stops flagged last out' rfl⟩
    | error a =>
      obtain ⟨f, rfl⟩ := kept.2 _ rfl
      refine ⟨moved, f, rfl, fun answers => ?_⟩
      rcases answered answers with cancelled | ⟨_, never⟩
      · exact Except.error.inj (Except.error.inj cancelled)
      · cases never

variable {p : Step}

/-- Where a run stands before each step when a cancel comes just before the step `p`, at the
second check or before it: as `Before` says, up to the second check, with the row naming the job
up to `p` and asking for a cancel after it. -/
def CancelledBefore (c : JobContext) (j : Job) (t : Json) (p : Step) : Option Step → Json → JobSystem → Prop
  | some q, out, s => Before c j t (some q) out s ∧ 3 ≤ q.left ∧
      (p.left ≤ q.left ∧ c.Named s ∨ q.left < p.left ∧ c.Flagged s)
  | none, _, _ => False

/-- What a step answers when a cancel comes just before `p`: where the run stands before the next
step, or a stop as `CancelAnswer` says with the job on its way. -/
abbrev CancelledPost (c : JobContext) (j : Job) (t : Json) (p q : Step) :
    PostCond (Except (Except Failure Status) Json) (.except Stop (.arg JobSystem .pure)) :=
  post⟨fun r s => ⌜match r with
      | .ok out' => CancelledBefore c j t p q.next out' s
      | .error a => Leaves c j t a s ∧ CancelAnswer j (some a)⌝,
    fun e s => ⌜e.IsFault ∧ c.Midway t s ∧ CancelAnswer j none⌝⟩

theorem CancelledBefore.next {q : Step} {out : Json} {s : JobSystem} (early : 3 ≤ q.left)
    (notLast : q ≠ .secondCheck) (before : Before c j t q.next out s)
    (marked : p.left < q.left ∧ c.Named s ∨ q.left ≤ p.left ∧ c.Flagged s) :
    CancelledBefore c j t p q.next out s := by
  have more := Step.four_le_left early notLast
  obtain ⟨n, next⟩ := Step.next_of_left (show 1 < q.left by omega)
  have fewer := Step.left_next next
  rw [next] at before ⊢
  refine ⟨before, by omega, ?_⟩
  rcases marked with ⟨ahead, named⟩ | ⟨behind, flagged⟩
  · exact .inl ⟨by omega, named⟩
  · exact .inr ⟨by omega, flagged⟩

theorem step_before_cancel (behaves : Behaves c j) (found : t.at? Layout.statusAt = some (.str Status.busy.name))
    (inTime : 3 ≤ p.left) {q : Step} (ahead : p.left < q.left) (out : Json) (b : Bool) :
    ⦃fun s => ⌜Before c j t (some q) out s ∧ s.index.mark c.jobId = some ((c.jobName, c.storagePath), b)⌝⦄
    step j c .busy out q ⦃CancelledPost c j t p q⦄ := by
  -- the second check comes after `p`, so it is not this step
  have notLast : q ≠ .secondCheck := by
    rintro rfl
    exact absurd (inTime.trans_lt ahead) (lt_irrefl _)
  refine Triple.entails_wp_of_post (marked_step behaves found (inTime.trans ahead.le) out b)
    ⟨fun r _ moved => ?_, fun _ _ failed => failed, trivial⟩
  cases r with
  | ok out' =>
    obtain ⟨before', mark', -⟩ := moved
    exact CancelledBefore.next (inTime.trans ahead.le) notLast before' (.inl ⟨ahead, b, mark'⟩)
  | error a => exact moved

theorem step_after_cancel (behaves : Behaves c j) (found : t.at? Layout.statusAt = some (.str Status.busy.name))
    {q : Step} (early : 3 ≤ q.left) (notBefore : q.left ≤ p.left) (out : Json) :
    ⦃fun s => ⌜Before c j t (some q) out s ∧ c.Flagged s⌝⦄ step j c .busy out q ⦃CancelledPost c j t p q⦄ := by
  refine Triple.entails_wp_of_post (marked_step behaves found early out true)
    ⟨fun r _ moved => ?_, fun _ _ failed => failed, trivial⟩
  cases r with
  | ok out' =>
    obtain ⟨before, flagged, notLast⟩ := moved
    exact CancelledBefore.next early (notLast rfl) before (.inr ⟨notBefore, flagged⟩)
  | error a => exact moved

/-- The cancel just before `p` raises the flag of the row and leaves the rest as it was, and `p`
is taken from there. -/
theorem cancel_step (behaves : Behaves c j) (found : t.at? Layout.statusAt = some (.str Status.busy.name))
    (early : 3 ≤ p.left) (out : Json) :
    ⦃fun s => ⌜Before c j t (some p) out s ∧ c.Named s⌝⦄
    (do meanwhile p (Project.cancelJob c.jobId) p; step j c .busy out p) ⦃CancelledPost c j t p p⦄ := by
  have cancels := @meanwhile_cancel c t p out
  have goesOn := step_after_cancel (p := p) behaves found early le_rfl out
  mvcgen [cancels, goesOn]
  · rename_i pre
    exact ⟨pre.1.1, pre.2⟩
  · rename_i pre _ _ cancelled
    exact ⟨⟨cancelled.1, pre.1.2⟩, cancelled.2⟩

/-- Each step, with a cancel just before the step `p` at the second check or before it, takes the
run from where it stands to where it stands before the next step, or stops it as
`CancelAnswer` says. -/
theorem cancelled_step (behaves : Behaves c j) (found : t.at? Layout.statusAt = some (.str Status.busy.name))
    (inTime : 3 ≤ p.left) (q : Step) (out : Json) :
    ⦃fun s => ⌜CancelledBefore c j t p (some q) out s⌝⦄
    (do meanwhile p (Project.cancelJob c.jobId) q; step j c .busy out q) ⦃CancelledPost c j t p q⦄ := by
  apply Triple.iff.mpr
  rintro s ⟨before, early, ⟨notAfter, named⟩ | ⟨behind, flagged⟩⟩
  · rcases Nat.lt_or_eq_of_le notAfter with ahead | same
    · -- a step before `p`: nothing comes before it
      have other : q ≠ p := ne_of_apply_ne Step.left ahead.ne'
      obtain ⟨b, mark⟩ := named
      simp only [meanwhile, if_neg other, pure_bind]
      exact step_before_cancel behaves found inTime ahead out b s ⟨before, mark⟩
    · obtain rfl := Step.left_inj same
      exact cancel_step behaves found early out s ⟨before, named⟩
  · -- a step after `p`, from the row that asks for a cancel
    have other : q ≠ p := ne_of_apply_ne Step.left behind.ne
    simp only [meanwhile, if_neg other, pure_bind]
    exact step_after_cancel behaves found early behind.le out s ⟨before, flagged⟩

/-- A run reported with a failure aborted the job with it, from the tree it was claimed from. -/
theorem Ends.aborted {report : Report} {s : JobSystem} {f : Failure} (ends : Ends c j t report s)
    (failed : report.failure = some f) : report = ⟨c.jobId, .aborted, some f⟩ ∧ c.AbortedFrom t f s := by
  obtain ⟨same, ended⟩ := ends
  rw [failed] at ended
  obtain ⟨aborted, shows⟩ := ended
  rcases report with ⟨id, st, failure⟩
  dsimp only at same aborted failed
  subst same aborted failed
  exact ⟨rfl, shows⟩

/-- A cancel that comes at the second check or before it ends the run aborted, with no output
written: with `cancelled` for a body that answers, otherwise with the failure or fault of the
body. -/
theorem settleWith_cancelled (behaves : Behaves c j)
    (found : t.at? Layout.statusAt = some (.str Status.busy.name)) (inTime : 3 ≤ p.left) :
    ⦃fun s => ⌜c.Shows t .busy s ∧ c.Named s⌝⦄ settleWith (meanwhile p (Project.cancelJob c.jobId)) j c .busy
    ⦃post⟨fun report s => ⌜∃ f, report = ⟨c.jobId, .aborted, some f⟩ ∧ c.AbortedFrom t f s ∧
        (Answers j → f = Failure.cancelled)⌝, fun _ _ => ⌜False⌝⟩⦄ := by
  have run := runFrom_spec (cancelled_step behaves found inTime) (fun _ _ never => never.elim) (some .start) .null
  have steps : ⦃fun s => ⌜c.Shows t .busy s ∧ c.Named s⌝⦄ runStepsWith (meanwhile p (Project.cancelJob c.jobId)) j c .busy
      ⦃post⟨fun r s => ⌜Leaves c j t r s ∧ CancelAnswer j (some r)⌝,
        fun e s => ⌜e.IsFault ∧ c.Midway t s ∧ CancelAnswer j none⌝⟩⦄ :=
    Triple.entails_wp_of_pre run fun _ start => ⟨⟨start.1, trivial⟩, by decide, .inl ⟨Step.left_le p, start.2⟩⟩
  refine Triple.entails_wp_of_post (settleWith_reports steps) ⟨fun report _ ended => ?_, fun _ _ never => never, trivial⟩
  obtain ⟨ends, a, answer, reported⟩ := ended
  -- what the steps answered: a failure, or a fault; never a status
  rcases a with _ | (f | st)
  · obtain ⟨_, m, failed⟩ := reported
    obtain ⟨same, shows⟩ := ends.aborted failed
    exact ⟨_, same, shows, fun answers => absurd answers answer⟩
  · subst reported
    obtain ⟨f', same, cancelled⟩ := answer
    obtain rfl := Except.error.inj same
    obtain ⟨same, shows⟩ := ends.aborted rfl
    exact ⟨_, same, shows, cancelled⟩
  · obtain ⟨_, never, _⟩ := answer
    cases never

/-- Where a run stands before its first two steps when a cancel comes before the first check:
busy with the row naming the job, then running, with the row asking for a cancel once the cancel
has come. -/
def CancelledEarly (c : JobContext) (t : Json) (p : Step) : Option Step → Json → JobSystem → Prop
  | some .start, _, s => c.Shows t .busy s ∧ c.Named s
  | some .firstCheck, _, s => c.Shows (t.setAt Layout.statusAt (.str Status.running.name)) .running s ∧
      (p = .firstCheck ∧ c.Named s ∨ p = .start ∧ c.Flagged s)
  | _, _, _ => False

/-- The first two steps, with a cancel before the first check, whatever the body: the move to
`running` goes through, and the first check stops the run with `cancelled`. -/
theorem early_step (found : t.at? Layout.statusAt = some (.str Status.busy.name)) (early : 6 ≤ p.left)
    (q : Step) (out : Json) :
    ⦃fun s => ⌜CancelledEarly c t p (some q) out s⌝⦄
    (do meanwhile p (Project.cancelJob c.jobId) q; step j c .busy out q)
    ⦃post⟨fun r s => ⌜match r with
        | .ok out' => CancelledEarly c t p q.next out' s
        | .error a => Leaves c j t a s ∧ a = .error Failure.cancelled⌝, fun _ _ => ⌜False⌝⟩⦄ := by
  cases q with
  | start =>
    rcases Step.early_cases early with rfl | rfl
    · -- the cancel comes before the move to `running`
      have cancels := @meanwhile_cancel c t .start out
      have moves := start_marked (c := c) (j := j) found out (some ((c.jobName, c.storagePath), true))
      simp only [CancelledEarly, Step.next, Step.tree, Step.status] at cancels ⊢
      mvcgen [cancels, moves]
      rintro rfl shows flagged
      exact ⟨shows, .inr ⟨trivial, flagged⟩⟩
    · -- the cancel comes before the check: the move keeps the row naming the job
      simp only [CancelledEarly, Step.next, meanwhile, reduceCtorEq, if_false, pure_bind]
      refine Sys.triple_pinned ?_
      rintro u ⟨shows, b, mark⟩
      have moves := start_marked (c := c) (j := j) found out (some ((c.jobName, c.storagePath), b))
      mvcgen [moves]
      · obtain rfl := ‹_ = u›
        exact ⟨shows, mark⟩
      · rintro rfl shows' mark'
        exact ⟨shows', .inl ⟨trivial, b, mark'⟩⟩
  | firstCheck =>
    have checks := @firstCheck_flagged c j (c.Shows (t.setAt Layout.statusAt (.str Status.running.name)) .running)
      .busy out
    rcases Step.early_cases early with rfl | rfl
    · -- the cancel came before the move to `running`
      simp only [CancelledEarly, meanwhile, reduceCtorEq, if_false, pure_bind, false_and, true_and, false_or]
      mvcgen [checks]
      rintro rfl shows _
      exact ⟨⟨.running, rfl, shows⟩, rfl⟩
    · -- the cancel comes right before the check
      have cancels := @meanwhile_cancel c t .firstCheck out
      simp only [Step.tree, Step.status] at cancels
      simp only [CancelledEarly, reduceCtorEq, false_and, true_and, or_false]
      mvcgen [cancels, checks]
      rintro rfl shows _
      exact ⟨⟨.running, rfl, shows⟩, rfl⟩
  | invoke | collect | secondCheck | write | finish => exact fun _ never => never.elim

/-- A cancel that comes before the first check ends the run before the body, whatever the body:
the job is aborted with `cancelled`, and nothing else is written in its record. -/
theorem settleWith_cancelled_early (found : t.at? Layout.statusAt = some (.str Status.busy.name))
    (early : 6 ≤ p.left) :
    ⦃fun s => ⌜c.Shows t .busy s ∧ c.Named s⌝⦄ settleWith (meanwhile p (Project.cancelJob c.jobId)) j c .busy
    ⦃post⟨fun report s => ⌜report = ⟨c.jobId, .aborted, some Failure.cancelled⟩ ∧
        c.AbortedFrom t Failure.cancelled s⌝, fun _ _ => ⌜False⌝⟩⦄ := by
  have run := runFrom_spec (early_step (c := c) (j := j) found early) (fun _ _ never => never.elim) (some .start) .null
  have steps : ⦃fun s => ⌜c.Shows t .busy s ∧ c.Named s⌝⦄ runStepsWith (meanwhile p (Project.cancelJob c.jobId)) j c .busy
      ⦃post⟨fun r s => ⌜Leaves c j t r s ∧ some r = some (.error Failure.cancelled)⌝,
        fun e s => ⌜e.IsFault ∧ c.Midway t s ∧ (none : Option (Except Failure Status)) = some (.error Failure.cancelled)⌝⟩⦄ :=
    Triple.entails_wp_of_post run
      ⟨fun _ _ stopped => ⟨stopped.1, congrArg some stopped.2⟩, fun _ _ never => never.elim, trivial⟩
  refine Triple.entails_wp_of_post (settleWith_reports (A := fun a => a = some (.error Failure.cancelled)) steps)
    ⟨fun report _ ended => ?_, fun _ _ never => never, trivial⟩
  obtain ⟨ends, _, rfl, reported⟩ := ended
  subst reported
  exact ends.aborted rfl

end Cancelled

/-- A cancel against a job, wherever it comes: before the first check of a run that holds the job,
the run ends aborted with `cancelled` before the body, whatever the body; before the second
check, it ends aborted with no output written, with `cancelled` when the body answers. A job that
no runner holds is aborted at once, and a job that has ended is left as it is. -/
theorem cancel_stops_run_at_checks (behaves : Behaves c j)
    (found : t.at? Layout.statusAt = some (.str Status.busy.name)) :
    (∀ (j' : Job) (p : Step), 6 ≤ p.left →
      ⦃fun s => ⌜c.Shows t .busy s ∧ c.Named s⌝⦄ settleWith (meanwhile p (Project.cancelJob c.jobId)) j' c .busy
      ⦃post⟨fun report s => ⌜report = ⟨c.jobId, .aborted, some Failure.cancelled⟩ ∧
          c.AbortedFrom t Failure.cancelled s⌝, fun _ _ => ⌜False⌝⟩⦄) ∧
    (∀ p : Step, 3 ≤ p.left →
      ⦃fun s => ⌜c.Shows t .busy s ∧ c.Named s⌝⦄ settleWith (meanwhile p (Project.cancelJob c.jobId)) j c .busy
      ⦃post⟨fun report s => ⌜∃ f, report = ⟨c.jobId, .aborted, some f⟩ ∧ c.AbortedFrom t f s ∧
          (Answers j → f = Failure.cancelled)⌝, fun _ _ => ⌜False⌝⟩⦄) ∧
    (∀ (T : Json) (st : Status), T.at? Layout.statusAt = some (.str st.name) →
      (st = .initialized ∨ st = .created ∨ st = .suspended ∨ st = .submitted) →
      ⦃fun s => ⌜c.Shows T st s ∧ c.Named s ∧ (st = .submitted → c.Queued s)⌝⦄ Project.cancelJob c.jobId
      ⦃post⟨fun st' s => ⌜st' = .aborted ∧ c.AbortedFrom T Failure.cancelled s⌝, fun _ _ => ⌜False⌝⟩⦄) ∧
    (∀ (u : JobSystem) (r : IndexRow), u.index.get? c.jobId = some r → r.status.isTerminal →
      ⦃fun s => ⌜s = u⌝⦄ Project.cancelJob c.jobId
      ⦃post⟨fun st s => ⌜st = r.status ∧ s = u⌝, fun _ _ => ⌜False⌝⟩⦄) :=
  ⟨fun _ _ early => settleWith_cancelled_early found early, fun _ inTime => settleWith_cancelled behaves found inTime,
    fun _ _ status idle => Project.cancelJob_aborts status idle,
    fun _ _ present ended => Project.cancelJob_ended present ended⟩

/-- The job whose function answers an empty object, claimed from a record that shows it busy,
meets the hypotheses above. -/
theorem cancel_stops_run_at_checks_emptyObject :
    Behaves ⟨1, "j", "/p/j.jrk"⟩ emptyObjectJob ∧
      (Json.obj [("generic", .obj [("status", .str "busy")])]).at? Layout.statusAt = some (.str Status.busy.name) ∧
      (∀ (j' : Job) (p : Step), 6 ≤ p.left →
        ⦃fun s => ⌜JobContext.Shows ⟨1, "j", "/p/j.jrk"⟩ (.obj [("generic", .obj [("status", .str "busy")])]) .busy s ∧
            JobContext.Named ⟨1, "j", "/p/j.jrk"⟩ s⌝⦄
          settleWith (meanwhile p (Project.cancelJob 1)) j' ⟨1, "j", "/p/j.jrk"⟩ .busy
        ⦃post⟨fun report s => ⌜report = ⟨1, .aborted, some Failure.cancelled⟩ ∧
            JobContext.AbortedFrom ⟨1, "j", "/p/j.jrk"⟩ (.obj [("generic", .obj [("status", .str "busy")])])
              Failure.cancelled s⌝, fun _ _ => ⌜False⌝⟩⦄) ∧
      (∀ p : Step, 3 ≤ p.left →
        ⦃fun s => ⌜JobContext.Shows ⟨1, "j", "/p/j.jrk"⟩ (.obj [("generic", .obj [("status", .str "busy")])]) .busy s ∧
            JobContext.Named ⟨1, "j", "/p/j.jrk"⟩ s⌝⦄
          settleWith (meanwhile p (Project.cancelJob 1)) emptyObjectJob ⟨1, "j", "/p/j.jrk"⟩ .busy
        ⦃post⟨fun report s => ⌜∃ f, report = ⟨1, .aborted, some f⟩ ∧
            JobContext.AbortedFrom ⟨1, "j", "/p/j.jrk"⟩ (.obj [("generic", .obj [("status", .str "busy")])]) f s ∧
            (Answers emptyObjectJob → f = Failure.cancelled)⌝, fun _ _ => ⌜False⌝⟩⦄) ∧
      (∀ (T : Json) (st : Status), T.at? Layout.statusAt = some (.str st.name) →
        (st = .initialized ∨ st = .created ∨ st = .suspended ∨ st = .submitted) →
        ⦃fun s => ⌜JobContext.Shows ⟨1, "j", "/p/j.jrk"⟩ T st s ∧ JobContext.Named ⟨1, "j", "/p/j.jrk"⟩ s ∧
            (st = .submitted → JobContext.Queued ⟨1, "j", "/p/j.jrk"⟩ s)⌝⦄ Project.cancelJob 1
        ⦃post⟨fun st' s => ⌜st' = .aborted ∧ JobContext.AbortedFrom ⟨1, "j", "/p/j.jrk"⟩ T Failure.cancelled s⌝,
          fun _ _ => ⌜False⌝⟩⦄) ∧
      (∀ (u : JobSystem) (r : IndexRow), u.index.get? 1 = some r → r.status.isTerminal →
        ⦃fun s => ⌜s = u⌝⦄ Project.cancelJob 1 ⦃post⟨fun st s => ⌜st = r.status ∧ s = u⌝, fun _ _ => ⌜False⌝⟩⦄) :=
  ⟨emptyObjectJob_behaves _, rfl, cancel_stops_run_at_checks (c := ⟨1, "j", "/p/j.jrk"⟩)
    (t := .obj [("generic", .obj [("status", .str "busy")])]) (emptyObjectJob_behaves _) rfl⟩

end Pipeline

end JobFlow

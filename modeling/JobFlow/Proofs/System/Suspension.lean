import Mathlib
import JobFlow.Proofs.System.Steps
import JobFlow.Proofs.System.Transitions

/-!
# Suspending a job that a runner executes

`Project.suspendJob` parks a job that is created, submitted or running: it moves record and
row to `suspended` (`Project.suspendJob_running`), and tells no runner.
-/

open Std.Do

set_option mvcgen.warning false

namespace JobFlow

namespace JobContext

variable {c : JobContext} {t : Json} {st : Status} {s : JobSystem}

/-- The row of the job of `c` names the job and its record. -/
def Named (c : JobContext) (s : JobSystem) : Prop :=
  ∃ b, s.index.mark c.jobId = some ((c.jobName, c.storagePath), b)

/-- The job of `c` is parked: its record holds `t` with `suspended` written in it, and its row
shows `suspended`. -/
def Parked (c : JobContext) (t : Json) (s : JobSystem) : Prop :=
  c.Shows (t.setAt Layout.statusAt (.str Status.suspended.name)) .suspended s

theorem Parked.midway (parked : c.Parked t s) : c.Midway t s := ⟨.suspended, rfl, parked⟩

theorem parked_setAt_status (x : Json) : c.Parked (t.setAt Layout.statusAt x) s ↔ c.Parked t s := by
  rw [Parked, Parked, Json.setAt_setAt_self]

theorem Named.row (named : c.Named s) {r : IndexRow} (found : s.index.get? c.jobId = some r) :
    r.jobName = c.jobName ∧ r.storagePath = c.storagePath := by
  obtain ⟨b, mark⟩ := named
  simp only [JobIndex.mark, found, Option.map_some, Option.some.injEq, Prod.mk.injEq] at mark
  exact mark.1

theorem Shows.setScheduler (shows : c.Shows t st s) (q : Option Scheduler) : c.Shows t st { s with scheduler := q } := by
  obtain ⟨⟨r, stored, holds, format⟩, row, fault⟩ := shows
  exact ⟨⟨r, ⟨stored.path, stored.config, stored.pairs⟩, holds, format⟩, row, fault⟩

theorem Shows.setClaims (shows : c.Shows t st s) (n : Nat) : c.Shows t st { s with claims := n } := by
  obtain ⟨⟨r, stored, holds, format⟩, row, fault⟩ := shows
  exact ⟨⟨r, ⟨stored.path, stored.config, stored.pairs⟩, holds, format⟩, row, fault⟩

/-- Reading the job's row finds it at the status it shows, and changes nothing. -/
theorem row_shows (v : JobSystem) :
    ⦃fun s => ⌜s = v ∧ c.Shows t st v⌝⦄ Sys.row c.jobId
    ⦃post⟨fun r s => ⌜s = v ∧ v.index.get? c.jobId = some r ∧ r.status = st⌝, fun _ _ => ⌜False⌝⟩⦄ := by
  mvcgen [Sys.row, Sys.row?, Sys.index]
  · rename_i pre r found
    obtain ⟨rfl, shows⟩ := pre
    have status := shows.row
    rw [found] at status
    exact ⟨rfl, found, Option.some.inj status⟩
  · rename_i pre missing
    obtain ⟨rfl, shows⟩ := pre
    exact shows.present missing

theorem storedStatus_shows {x : Status} (found : t.at? Layout.statusAt = some (.str x.name)) :
    ⦃fun s => ⌜c.Shows t st s⌝⦄ c.storedStatus ⦃post⟨fun v s => ⌜v = x ∧ c.Shows t st s⌝, fun _ _ => ⌜False⌝⟩⦄ := by
  have opens := record_shows c t st
  have reads := fun r => storedStatus_holds c t st (r := r) found
  mvcgen [JobContext.storedStatus, opens, reads, -JobContext.storedStatus_keepsHeld,
    -JobContext.record_keepsHeld, -Sys.storedStatus_keepsHeld]
  exact fun same shows _ _ _ => ⟨same, shows⟩

/-- The move to `collect` of a parked job is refused: its record says `suspended` where the
move expects `running`, and nothing changes. -/
theorem collect_parked :
    ⦃fun s => ⌜c.Parked t s⌝⦄ c.transition .running .collect
    ⦃post⟨fun _ _ => ⌜False⌝, fun e s => ⌜(∃ m, e = .fault (.conflict m)) ∧ c.Parked t s⌝⟩⦄ := by
  apply Triple.iff.mpr
  intro u parked
  have legal : Status.check .running .collect c.label = .ok () := rfl
  have found : (t.setAt Layout.statusAt (.str Status.suspended.name)).at? Layout.statusAt =
      some (.str Status.suspended.name) := Json.at?_setAt_self _ _ _
  have spec := transition_spec c legal found u parked
  refine (WP.wp (c.transition .running .collect)).mono _ _ ⟨fun _ _ moved => ?_, fun e v refused => ?_, trivial⟩
    u (spec u rfl)
  · exact absurd moved.1 (by decide)
  · obtain ⟨conflict, same⟩ := refused
    rw [if_neg (by decide)] at same
    exact ⟨conflict, same ▸ parked⟩

theorem open_self (c : JobContext) : JobContext.open c.jobId c.jobName c.storagePath = (do let _ ← c.record; pure c) :=
  rfl

theorem Shows.held (shows : c.Shows t st s) (held : st.isHeld) : s.index.Held c.jobId := by
  obtain ⟨r, found, status⟩ := Option.map_eq_some_iff.1 shows.row
  exact ⟨r, found, status ▸ held⟩

/-- Claiming again a job whose row is held is refused, and changes nothing. -/
theorem claimRetry_shows (token : String) (total n : Nat) (held : st.isHeld) :
    ⦃fun s => ⌜c.Shows t st s⌝⦄ c.claimRetry token total n
    ⦃post⟨fun _ _ => ⌜False⌝, fun e s => ⌜(∃ m, e = .fault (.conflict m)) ∧ c.Shows t st s⌝⟩⦄ :=
  Sys.triple_pinned fun _ shows => Sys.triple_conseq (claimRetry_refused c token total (shows.held held) n)
    (fun _ same => same) (fun _ _ never => never) fun _ _ ⟨conflict, same⟩ => ⟨conflict, same ▸ shows⟩

/-- A claim on a job whose row is held, and whose record says that status, which has not ended,
is refused with a conflict and changes neither record nor row. -/
theorem claim_refused_shows (held : st.isHeld) (ongoing : st.isTerminal = false)
    (found : t.at? Layout.statusAt = some (.str st.name)) :
    ⦃fun s => ⌜c.Shows t st s⌝⦄ c.claim
    ⦃post⟨fun _ _ => ⌜False⌝, fun e s => ⌜(∃ m, e = .fault (.conflict m)) ∧ c.Shows t st s⌝⟩⦄ := by
  have reads := @storedStatus_shows c t st st found
  have refuses := fun token total n => @claimRetry_shows c t st token total n held
  -- the record says `st`, which has not ended, so the claim goes on to the row, which is held
  have ended : ∀ {r : Status}, r.isTerminal = true → r = st → False := by
    rintro r terminal rfl
    rw [ongoing] at terminal
    cases terminal
  mvcgen [JobContext.claim, reads, refuses, -JobContext.claim_keepsHeld, -JobContext.storedStatus_keepsHeld,
    -JobContext.claimRetry_keepsHeld]
  · exact ‹c.Shows t st _›.setClaims _
  · exact (ended ‹_› ‹_ = st ∧ _›.1).elim
  · exact (ended ‹_› ‹_ = st ∧ _›.1).elim
  · exact (ended ‹_› ‹_ = st ∧ _›.1).elim
  · exact fun _ => (ended ‹_› ‹_ = st ∧ _›.1).elim
  · exact ‹_ = st ∧ _›.2

end JobContext

theorem Sys.cancelInQueue_spares (c : JobContext) (t : Json) (st : Status) (q : String) :
    Sys.SparesAndReturns c t st (Sys.cancelInQueue q) := by
  mvcgen [Sys.cancelInQueue]
  exact ‹c.Shows t st _›.setScheduler _

namespace Project

variable {c : JobContext} {T : Json}

/-- Suspending a running job whose row names it parks it: record and row move to `suspended`,
and the suspension answers `suspended`. -/
theorem suspendJob_running (found : T.at? Layout.statusAt = some (.str Status.running.name)) :
    ⦃fun s => ⌜c.Shows T .running s ∧ c.Named s⌝⦄ suspendJob c.jobId
    ⦃post⟨fun st s => ⌜st = .suspended ∧ c.Parked T s⌝, fun _ _ => ⌜False⌝⟩⦄ := by
  unfold suspendJob
  -- the row read names the job, so the context opened from it is the job's own
  refine Triple.bind _ _ (Q := fun r s => ⌜r.status = .running ∧ (r.jobName = c.jobName ∧ r.storagePath = c.storagePath) ∧
    c.Shows T .running s⌝) ?_ fun r => ?_
  · have read := fun v => @JobContext.row_shows c T .running v
    mvcgen [read]
    · exact ⟨trivial, ‹_ ∧ _›.1⟩
    · rename_i pre _ _
      rintro rfl present status
      exact ⟨status, pre.2.row present, pre.1⟩
  by_cases mine : r.status = .running ∧ r.jobName = c.jobName ∧ r.storagePath = c.storagePath
  case neg =>
    apply Triple.iff.mpr
    rintro s ⟨status, named, -⟩
    exact absurd ⟨status, named⟩ mine
  obtain ⟨status, name, path⟩ := mine
  simp only [status, name, path, and_self, true_and, JobContext.open_self]
  have cancels := fun q => Sys.cancelInQueue_spares c T .running q
  have updates := fun u => JobContext.updateRow_shows c T .running u
  have opens : Sys.SparesAndReturns c T .running c.record :=
    Triple.entails_wp_of_post (JobContext.record_shows c T .running) ⟨fun _ _ opened => opened.1, fun _ _ never => never, trivial⟩
  have reads := @JobContext.storedStatus_shows c T .running .running found
  have moves : ∀ src, ⦃fun s => ⌜src = .running ∧ c.Shows T .running s⌝⦄ c.transition src .suspended
      ⦃post⟨fun _ s => ⌜c.Parked T s⌝, fun _ _ => ⌜False⌝⟩⦄ := by
    intro src
    apply Triple.iff.mpr
    rintro s ⟨rfl, shows⟩
    exact JobContext.transition_shows c T rfl found s shows
  mvcgen [cancels, updates, opens, reads, moves, -Sys.updateRow_keepsHeld,
    -JobContext.record_keepsHeld, -JobContext.storedStatus_keepsHeld, -JobContext.transition_keepsHeld]

/-- A job at a status that may not be suspended refuses the suspension, and nothing changes. -/
theorem suspendJob_refused {st : Status} (stays : ¬(st = .created ∨ st = .submitted ∨ st = .running)) :
    ⦃fun s => ⌜c.Shows T st s⌝⦄ suspendJob c.jobId
    ⦃post⟨fun _ _ => ⌜False⌝, fun e s => ⌜(∃ m, e = .fault (.conflict m)) ∧ c.Shows T st s⌝⟩⦄ := by
  unfold suspendJob
  refine Triple.bind _ _ (Q := fun r s => ⌜r.status = st ∧ c.Shows T st s⌝) ?_ fun r => ?_
  · have read := fun v => @JobContext.row_shows c T st v
    mvcgen [read]
    rename_i shows _ _
    rintro rfl - status
    exact ⟨status, shows⟩
  by_cases status : r.status = st
  case neg =>
    apply Triple.iff.mpr
    rintro s ⟨same, -⟩
    exact absurd same status
  have refused : (!decide (r.status = .created ∨ r.status = .submitted ∨ r.status = .running)) = true := by
    simpa [status] using stays
  simp only [refused, if_true]
  mvcgen [Sys.fail]
  exact ⟨⟨_, rfl⟩, ‹_ ∧ _›.2⟩

end Project

namespace Pipeline

theorem Step.left_le (q : Step) : q.left ≤ 7 := by
  cases q <;> decide

theorem Step.left_next {q n : Step} (next : q.next = some n) : n.left + 1 = q.left := by
  cases q <;> cases next <;> rfl

theorem Step.left_pos (q : Step) : 0 < q.left := by
  cases q <;> decide

theorem Step.next_of_left {q : Step} (notLast : 1 < q.left) : ∃ n, q.next = some n := by
  cases q <;> first | exact ⟨_, rfl⟩ | exact absurd notLast (by decide)

theorem Step.left_inj {p q : Step} (same : p.left = q.left) : p = q := by
  cases p <;> cases q <;> first | rfl | cases same

theorem Step.tree_running {q : Step} (running : q.status = .running) (t out : Json) :
    q.tree t out = t.setAt Layout.statusAt (.str Status.running.name) := by
  cases q <;> first | rfl | cases running

theorem Step.suspendable_iff (q : Step) :
    (q.status = .created ∨ q.status = .submitted ∨ q.status = .running) ↔ q.status = .running := by
  cases q <;> decide

variable {c : JobContext} {j : Job} {t : Json}

theorem meanwhile_spared {α : Type} {x : Sys α} {p : Step}
    (spares : ∀ T, T.at? Layout.statusAt = some (.str p.status.name) → Sys.Spares c T p.status x) :
    Spared c (meanwhile p x) := by
  intro q T status
  unfold meanwhile
  split
  · rename_i same
    subst same
    have attempts := Sys.attempt_spares c T q.status (spares T status)
    mvcgen [attempts, -Sys.attempt_keepsHeld]
  · mvcgen

/-- A suspension that comes while the job is busy, or once it is in `collect`, is refused and
changes nothing: the run ends as `settle` ends it. -/
theorem settleWith_suspension_refused (behaves : Behaves c j)
    (found : t.at? Layout.statusAt = some (.str Status.busy.name)) {p : Step} (notRunning : p.status ≠ .running) :
    ⦃fun s => ⌜c.Shows t .busy s⌝⦄ settleWith (meanwhile p (Project.suspendJob c.jobId)) j c .busy
    ⦃post⟨fun report s => ⌜Ends c j t report s⌝, fun _ _ => ⌜False⌝⟩⦄ := by
  have refused := fun T => Project.suspendJob_refused (c := c) (T := T)
    (fun suspendable => notRunning ((Step.suspendable_iff p).1 suspendable))
  refine settleWith_spec (meanwhile_spared fun T _ => ?_) behaves found
  exact Triple.entails_wp_of_post (refused T)
    ⟨fun _ _ never => never.elim, fun _ _ ⟨⟨_, conflict⟩, shows⟩ => ⟨conflict ▸ Stop.isFault_fault _, shows⟩, trivial⟩

/-- Another claim on the job, made before any step of its run, is refused and changes nothing:
the run ends as `settle` ends it. -/
theorem settleWith_claim_refused (behaves : Behaves c j)
    (found : t.at? Layout.statusAt = some (.str Status.busy.name)) (p : Step) :
    ⦃fun s => ⌜c.Shows t .busy s⌝⦄ settleWith (meanwhile p c.claim) j c .busy
    ⦃post⟨fun report s => ⌜Ends c j t report s⌝, fun _ _ => ⌜False⌝⟩⦄ := by
  -- before every step the job is busy, running or in `collect`: held, and not ended
  have held : p.status.isHeld := by cases p <;> rfl
  have ongoing : p.status.isTerminal = false := by cases p <;> rfl
  refine settleWith_spec (meanwhile_spared fun T status => ?_) behaves found
  exact Sys.triple_conseq (JobContext.claim_refused_shows held ongoing status) (fun _ shows => shows)
    (fun _ _ never => never.elim) fun _ _ ⟨⟨_, conflict⟩, shows⟩ => ⟨conflict ▸ Stop.isFault_fault _, shows⟩

/-- From a parked job, the running steps go on with the job still parked, or stop with it on its
way; the move to `collect` is refused, since the record no longer says `running`. -/
theorem step_parked (behaves : Behaves c j) {q : Step} (running : q.status = .running) (out : Json) :
    ⦃fun s => ⌜c.Parked t s⌝⦄ step j c .busy out q
    ⦃post⟨fun r s => ⌜match r with
        | .ok _ => (∃ n, q.next = some n ∧ n.status = .running) ∧ c.Parked t s
        | .error a => (∃ f, a = .error f) ∧ c.Midway t s⌝,
      fun e s => ⌜e.IsFault ∧ c.Midway t s⌝⟩⦄ := by
  cases q with
  | firstCheck =>
    mvcgen [step, JobContext.cancelRequested, -JobContext.cancelRequested_keepsHeld]
    -- a cancel was asked for: the job stops, parked
    exact ⟨⟨_, rfl⟩, ‹c.Parked t _›.midway⟩
  | invoke =>
    have runs := fun sj shell => @runExecutable_spares c (t.setAt Layout.statusAt (.str Status.suspended.name))
      .suspended c sj j.input j.server j.identity.workingDirectory shell
    mvcgen [step, runs, -runExecutable_keepsHeld]
    -- a function fails or panics
    · exact ⟨⟨_, rfl⟩, ‹c.Parked t _›.midway⟩
    · exact ⟨⟨_, rfl⟩, ‹c.Parked t _›.midway⟩
    -- a command runs and fails, or its run fails
    · exact behaves.shell _ ‹_›
    · exact ⟨⟨_, rfl⟩, JobContext.Parked.midway ‹_›⟩
    · exact fun fault shows => ⟨fault, JobContext.Parked.midway shows⟩
    -- a master is not run here
    · exact ⟨trivial, ‹c.Parked t _›.midway⟩
  | collect =>
    have refused := JobContext.collect_parked (c := c) (t := t)
    mvcgen [step, refused, -JobContext.transition_keepsHeld]
    rintro ⟨_, rfl⟩ parked
    exact ⟨trivial, parked.midway⟩
  | start | secondCheck | write | finish => cases running

/-- Where a run stands before each step when the job is suspended just before the running step
`p`: as `Before` says up to `p`, with the row naming the job, and parked from then on, before a
running step. -/
def SuspendedBefore (c : JobContext) (j : Job) (t : Json) (p : Step) : Option Step → Json → JobSystem → Prop
  | some q, out, s => (p.left ≤ q.left ∧ Before c j t (some q) out s ∧ c.Named s) ∨
      (q.left < p.left ∧ q.status = .running ∧ c.Parked t s)
  | none, _, _ => False

section Suspended

variable {p : Step}

/-- What a step answers when the job was suspended before `p`: where the run stands before the
next step, or a failure with the job on its way. -/
abbrev SuspendedPost (c : JobContext) (j : Job) (t : Json) (p q : Step) :
    PostCond (Except (Except Failure Status) Json) (.except Stop (.arg JobSystem .pure)) :=
  post⟨fun r s => ⌜match r with
      | .ok out' => SuspendedBefore c j t p q.next out' s
      | .error a => (∃ f, a = .error f) ∧ c.Midway t s⌝,
    fun e s => ⌜e.IsFault ∧ c.Midway t s⌝⟩

/-- A running step from a parked job, at or after `p`. -/
theorem parked_step (behaves : Behaves c j) {q : Step} (notAfter : q.left ≤ p.left) (running : q.status = .running)
    (out : Json) :
    ⦃fun s => ⌜c.Parked t s⌝⦄ step j c .busy out q ⦃SuspendedPost c j t p q⦄ := by
  refine Triple.entails_wp_of_post (step_parked behaves running out) ⟨fun r s done => ?_, fun _ _ failed => failed, trivial⟩
  cases r with
  | ok out' =>
    obtain ⟨⟨n, next, status⟩, parked⟩ := done
    have fewer := Step.left_next next
    simp only [next, SuspendedBefore]
    exact .inr ⟨by omega, status, parked⟩
  | error a => exact done

/-- A step before `p`: nothing comes before it, and it keeps the row's mark. -/
theorem named_step (behaves : Behaves c j) (found : t.at? Layout.statusAt = some (.str Status.busy.name))
    {q : Step} (ahead : p.left < q.left) (out : Json) :
    ⦃fun s => ⌜Before c j t (some q) out s ∧ c.Named s⌝⦄ step j c .busy out q ⦃SuspendedPost c j t p q⦄ := by
  apply Triple.iff.mpr
  rintro s ⟨before, b, mark⟩
  rw [Sys.wp_run]
  have moved := Sys.of_triple (step_spec c j t behaves found q out) s before
  have kept := Sys.of_triple (step_keepsMark (j := j) (c := c) c.jobId _ .busy out q) s mark
  revert moved kept
  rcases (step j c .busy out q).run.run s with ⟨_ | r, s'⟩
  · exact fun failed _ => failed
  · intro moved kept
    cases r with
    | ok out' =>
      -- a step before `p` is not the last
      obtain ⟨n, next⟩ := Step.next_of_left (lt_of_le_of_lt (Step.left_pos p) ahead)
      have fewer := Step.left_next next
      simp only [next] at moved ⊢
      exact .inl ⟨by omega, moved, b, kept.1⟩
    | error a =>
      obtain ⟨f, rfl⟩ := kept.2 _ rfl
      exact ⟨⟨f, rfl⟩, moved⟩

/-- The suspension just before the running step `p` parks the job, and `p` is taken from there. -/
theorem suspend_step (behaves : Behaves c j) (running : p.status = .running) (out : Json) :
    ⦃fun s => ⌜Before c j t (some p) out s ∧ c.Named s⌝⦄
    (do meanwhile p (Project.suspendJob c.jobId) p; step j c .busy out p) ⦃SuspendedPost c j t p p⦄ := by
  have parks := Project.suspendJob_running (c := c) (Json.at?_setAt_self t Layout.statusAt (.str Status.running.name))
  have suspends := Sys.attempt_spec (E := fun _ => False)
    (Triple.entails_wp_of_post parks ⟨fun _ _ parked => parked, fun _ _ never => never.elim, trivial⟩)
  have goesOn := parked_step (p := p) (t := t) behaves le_rfl running out
  simp only [meanwhile, Before, Step.tree_running running, running]
  mvcgen [suspends, goesOn, -Sys.attempt_keepsHeld]
  · rename_i pre _
    exact ⟨pre.1.1, pre.2⟩
  · -- the suspension went through, so the job is parked
    rename_i r _ suspended
    cases r with
    | ok => exact (JobContext.parked_setAt_status _).1 suspended.2
    | error => exact suspended.elim

/-- Each step, with the suspension just before the running step `p`, takes the run from where
it stands to where it stands before the next step, or stops it with the job on its way. -/
theorem suspended_step (behaves : Behaves c j) (found : t.at? Layout.statusAt = some (.str Status.busy.name))
    (running : p.status = .running) (q : Step) (out : Json) :
    ⦃fun s => ⌜SuspendedBefore c j t p (some q) out s⌝⦄
    (do meanwhile p (Project.suspendJob c.jobId) q; step j c .busy out q) ⦃SuspendedPost c j t p q⦄ := by
  apply Triple.iff.mpr
  rintro s (⟨notAfter, before, named⟩ | ⟨behind, atRunning, parked⟩)
  · rcases Nat.lt_or_eq_of_le notAfter with ahead | same
    · -- a step before `p`: nothing comes before it
      have other : q ≠ p := ne_of_apply_ne Step.left ahead.ne'
      simp only [meanwhile, if_neg other, pure_bind]
      exact named_step behaves found ahead out s ⟨before, named⟩
    · obtain rfl := Step.left_inj same
      exact suspend_step behaves running out s ⟨before, named⟩
  · -- a step after `p`, from the parked job
    have other : q ≠ p := ne_of_apply_ne Step.left behind.ne
    simp only [meanwhile, if_neg other, pure_bind]
    exact parked_step behaves behind.le atRunning out s parked

/-- A suspension that comes while the job is running parks it, and the runner that claimed it
then aborts it, whichever running step the suspension came before. -/
theorem settleWith_suspension_aborts (behaves : Behaves c j)
    (found : t.at? Layout.statusAt = some (.str Status.busy.name)) (running : p.status = .running) :
    ⦃fun s => ⌜c.Shows t .busy s ∧ c.Named s⌝⦄ settleWith (meanwhile p (Project.suspendJob c.jobId)) j c .busy
    ⦃post⟨fun report s => ⌜Ends c j t report s ∧ report.status = .aborted ∧ report.failure.isSome⌝,
      fun _ _ => ⌜False⌝⟩⦄ := by
  have run := runFrom_spec (suspended_step behaves found running) (fun _ _ never => never.elim) (some .start) .null
  -- the steps never answer a status: the move to `collect` fails at the latest
  have steps : ⦃fun s => ⌜c.Shows t .busy s ∧ c.Named s⌝⦄ runStepsWith (meanwhile p (Project.suspendJob c.jobId)) j c .busy
      ⦃post⟨fun r s => ⌜Leaves c j t r s ∧ ∀ st, some r ≠ some (.ok st)⌝,
        fun e s => ⌜e.IsFault ∧ c.Midway t s ∧ ∀ st, (none : Option (Except Failure Status)) ≠ some (.ok st)⌝⟩⦄ := by
    refine Triple.entails_wp_of_pre_post run (fun _ ⟨shows, named⟩ => .inl ⟨Step.left_le p, ⟨shows, trivial⟩, named⟩)
      ⟨fun r _ ⟨⟨f, stopped⟩, midway⟩ => ?_, fun _ _ ⟨fault, midway⟩ => ⟨fault, midway, nofun⟩, trivial⟩
    subst stopped
    exact ⟨midway, nofun⟩
  have reports := settleWith_reports (P := fun s => c.Shows t .busy s ∧ c.Named s)
    (A := fun a => ∀ st, a ≠ some (.ok st)) steps
  refine Triple.entails_wp_of_post reports ⟨fun report _ ⟨ends, a, notOk, reported⟩ => ?_, fun _ _ never => never, trivial⟩
  refine ⟨ends, ?_⟩
  match a, reported with
  | none, reported =>
    obtain ⟨aborted, m, failed⟩ := reported
    exact ⟨aborted, by rw [failed]; rfl⟩
  | some (.error f), reported =>
    subst reported
    exact ⟨rfl, rfl⟩
  | some (.ok st), _ => exact absurd rfl (notOk st)

end Suspended

/-- A runner claimed a job, and a suspension comes between two of its steps. -/
theorem suspension_parks_then_run_aborts (behaves : Behaves c j)
    (found : t.at? Layout.statusAt = some (.str Status.busy.name)) (p : Step) :
    ⦃fun s => ⌜c.Shows (t.setAt Layout.statusAt (.str Status.running.name)) .running s ∧ c.Named s⌝⦄
      Project.suspendJob c.jobId ⦃post⟨fun st s => ⌜st = .suspended ∧ c.Parked t s⌝, fun _ _ => ⌜False⌝⟩⦄ ∧
    ⦃fun s => ⌜c.Shows t .busy s ∧ c.Named s⌝⦄ settleWith (meanwhile p (Project.suspendJob c.jobId)) j c .busy
      ⦃post⟨fun report s => ⌜Ends c j t report s ∧
          (p.status = .running → report.status = .aborted ∧ report.failure.isSome)⌝, fun _ _ => ⌜False⌝⟩⦄ := by
  refine ⟨?_, ?_⟩
  · exact Triple.entails_wp_of_post (Project.suspendJob_running (Json.at?_setAt_self _ _ _))
      ⟨fun _ _ ⟨suspended, parked⟩ => ⟨suspended, (JobContext.parked_setAt_status _).1 parked⟩,
        fun _ _ never => never, trivial⟩
  by_cases running : p.status = .running
  · exact Triple.entails_wp_of_post (settleWith_suspension_aborts behaves found running)
      ⟨fun _ _ ⟨ends, aborted⟩ => ⟨ends, fun _ => aborted⟩, fun _ _ never => never, trivial⟩
  · -- the suspension is refused, and the row need not name the job for that
    exact Triple.entails_wp_of_pre_post (settleWith_suspension_refused behaves found running)
      (fun _ pre => pre.1) ⟨fun _ _ ends => ⟨ends, fun r => absurd r running⟩, fun _ _ never => never, trivial⟩

/-- The job whose function answers an empty object, claimed from a record that shows it busy and
suspended before its body runs, meets the hypotheses above. -/
theorem suspension_parks_then_run_aborts_invoke :
    Behaves ⟨1, "j", "/p/j.jrk"⟩ emptyObjectJob ∧
      (Json.obj [("generic", .obj [("status", .str "busy")])]).at? Layout.statusAt = some (.str Status.busy.name) ∧
      (⦃fun s => ⌜JobContext.Shows ⟨1, "j", "/p/j.jrk"⟩ ((Json.obj [("generic", .obj [("status", .str "busy")])]).setAt
          Layout.statusAt (.str Status.running.name)) .running s ∧ JobContext.Named ⟨1, "j", "/p/j.jrk"⟩ s⌝⦄
        Project.suspendJob 1 ⦃post⟨fun st s => ⌜st = .suspended ∧
          JobContext.Parked ⟨1, "j", "/p/j.jrk"⟩ (.obj [("generic", .obj [("status", .str "busy")])]) s⌝,
          fun _ _ => ⌜False⌝⟩⦄ ∧
      ⦃fun s => ⌜JobContext.Shows ⟨1, "j", "/p/j.jrk"⟩ (.obj [("generic", .obj [("status", .str "busy")])]) .busy s ∧
          JobContext.Named ⟨1, "j", "/p/j.jrk"⟩ s⌝⦄
        settleWith (meanwhile .invoke (Project.suspendJob 1)) emptyObjectJob ⟨1, "j", "/p/j.jrk"⟩ .busy
        ⦃post⟨fun report s => ⌜Ends ⟨1, "j", "/p/j.jrk"⟩ emptyObjectJob (.obj [("generic", .obj [("status", .str "busy")])])
            report s ∧ (Step.invoke.status = .running → report.status = .aborted ∧ report.failure.isSome)⌝,
          fun _ _ => ⌜False⌝⟩⦄) :=
  ⟨emptyObjectJob_behaves _, rfl, suspension_parks_then_run_aborts (c := ⟨1, "j", "/p/j.jrk"⟩)
    (t := .obj [("generic", .obj [("status", .str "busy")])]) (emptyObjectJob_behaves _) rfl .invoke⟩

end Pipeline

end JobFlow

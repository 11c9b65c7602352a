import Mathlib
import JobFlow.Proofs.System.Execution
import JobFlow.Proofs.System.Runners

/-!
# The steps of an execution, one at a time

`Pipeline.runSteps` is a line of seven steps: the move to `running`, a first look for a
cancel, the body, the move to `collect`, the collector of a command with a second look for a
cancel, the write of the output, and the move to the status the output calls for.
-/

open Std.Do

set_option mvcgen.warning false

namespace JobFlow

namespace JobIndex

/-- What the row of `id` says beside its status: the job and the record it names, and whether a
cancel was asked for. -/
def mark (ix : JobIndex) (id : Nat) : Option ((String × String) × Bool) :=
  (ix.get? id).map fun r => ((r.jobName, r.storagePath), r.cancelRequested)

theorem lifecycle_jobName (r : IndexRow) (s : Status) : (lifecycle r s).jobName = r.jobName := by
  unfold lifecycle
  split <;> split <;> rfl

theorem lifecycle_storagePath (r : IndexRow) (s : Status) : (lifecycle r s).storagePath = r.storagePath := by
  unfold lifecycle
  split <;> split <;> rfl

theorem lifecycle_cancelRequested (r : IndexRow) (s : Status) :
    (lifecycle r s).cancelRequested = r.cancelRequested := by
  unfold lifecycle
  split <;> split <;> rfl

theorem updateStatus_mark (ix : JobIndex) (i id : Nat) (old new : Status) :
    (ix.updateStatus i old new).1.mark id = ix.mark id := by
  unfold updateStatus mark
  split
  · split
    · dsimp only
      rw [get?_modify]
      swap
      · exact fun r => lifecycle_id _ _
      split
      · rename_i same
        subst same
        cases ix.get? i <;> simp [lifecycle_jobName, lifecycle_storagePath, lifecycle_cancelRequested]
      · rfl
    · rfl
  · rfl

end JobIndex

/-- A run of `x` keeps the mark `m` of the row of `id`, whether `x` returns or fails. -/
abbrev Sys.KeepsMark {α : Type} (id : Nat) (m : Option ((String × String) × Bool)) (x : Sys α) : Prop :=
  ⦃fun s => ⌜s.index.mark id = m⌝⦄ x ⦃post⟨fun _ s => ⌜s.index.mark id = m⌝, fun _ s => ⌜s.index.mark id = m⌝⟩⦄

namespace Sys

variable (id : Nat) (m : Option ((String × String) × Bool))

theorem openRecord_keepsMark (p : String) : KeepsMark id m (openRecord p) := by
  mvcgen [openRecord, openDb, -openRecord_keepsHeld, -openDb_keepsHeld]

theorem readAs_keepsMark {α : Type} (r : Record) (p : String) (reader : String → Doc → DocRead α) :
    KeepsMark id m (readAs r p reader) := by
  mvcgen [readAs, -readAs_keepsHeld]

theorem writeRecord_keepsMark (r : Record) (p : String) (v : Json) : KeepsMark id m (writeRecord r p v) := by
  mvcgen [writeRecord, saveRecord, -writeRecord_keepsHeld, -saveRecord_keepsHeld]

theorem writeScoped_keepsMark (r : Record) (ws : List (String × Json)) : KeepsMark id m (writeScoped r ws) := by
  mvcgen [writeScoped, saveRecord, -writeScoped_keepsHeld, -saveRecord_keepsHeld]

theorem updateStatus_keepsMark (i : Nat) (old new : Status) : KeepsMark id m (updateStatus i old new) := by
  mvcgen [updateStatus, -updateStatus_keepsHeld]
  rename_i before _ _ _
  rw [JobIndex.updateStatus_mark]
  exact before

end Sys

namespace JobContext

variable (id : Nat) (m : Option ((String × String) × Bool)) (c : JobContext)

theorem record_keepsMark : Sys.KeepsMark id m c.record := by
  mvcgen [JobContext.record, Sys.openRecord_keepsMark, -record_keepsHeld, -Sys.openRecord_keepsHeld]

theorem cancelRequested_keepsMark : Sys.KeepsMark id m c.cancelRequested := by
  mvcgen [cancelRequested, -cancelRequested_keepsHeld]

theorem transition_keepsMark (src dst : Status) : Sys.KeepsMark id m (c.transition src dst) := by
  mvcgen [transition, syncIndex, record_keepsMark, Sys.storedStatus, Sys.readAs_keepsMark, Sys.writeRecord_keepsMark,
    Sys.updateStatus_keepsMark, -transition_keepsHeld, -syncIndex_keepsHeld, -record_keepsHeld,
    -Sys.storedStatus_keepsHeld, -Sys.readAs_keepsHeld, -Sys.writeRecord_keepsHeld, -Sys.updateStatus_keepsHeld]
  all_goals simp_all

end JobContext

theorem runExecutable_keepsMark (id : Nat) (m : Option ((String × String) × Bool)) (c : JobContext) (s : ScriptJob) (input : List (String × Json))
    (server : ServerConfig) (wd : String) : Sys.KeepsMark id m (runExecutable c s input server wd) := by
  mvcgen [runExecutable, openLog, -runExecutable_keepsHeld, -openLog_keepsHeld]

theorem Pipeline.collectOutput_keepsMark (id : Nat) (m : Option ((String × String) × Bool)) (s : ScriptJob) (wd : String) :
    Sys.KeepsMark id m (collectOutput s wd) := by
  mvcgen [collectOutput, -collectOutput_keepsHeld]

namespace Pipeline

/-- The steps of an execution, in the order they are taken. -/
inductive Step where
  | start
  | firstCheck
  | invoke
  | collect
  | secondCheck
  | write
  | finish
  deriving DecidableEq, Repr

/-- The step after a step; the last has none. -/
def Step.next : Step → Option Step
  | .start => some .firstCheck
  | .firstCheck => some .invoke
  | .invoke => some .collect
  | .collect => some .secondCheck
  | .secondCheck => some .write
  | .write => some .finish
  | .finish => none

/-- How many steps are left from a step on, itself among them. -/
def Step.left : Step → Nat
  | .start => 7
  | .firstCheck => 6
  | .invoke => 5
  | .collect => 4
  | .secondCheck => 3
  | .write => 2
  | .finish => 1

/-- One step, given the output so far: `.ok` with the output to go on with, or `.error` with
what the steps answer when they stop here. -/
def step (j : Job) (c : JobContext) (src : Status) (out : Json) : Step → Sys (Except (Except Failure Status) Json)
  | .start => do
    c.transition src .running
    pure (.ok out)
  | .firstCheck => do
    if ← c.cancelRequested then return .error (.error Failure.cancelled)
    pure (.ok out)
  | .invoke =>
    match j.runnable.body with
    | .function f =>
      match f j.input with
      | .error (.error m) => pure (.error (.error (.plain .functionError m)))
      | .error (.panic m) => pure (.error (.error (.plain .panicked m)))
      | .ok v => pure (.ok (functionOutput v))
    | .executable s => do
      if let .error f ← runExecutable c s j.input j.server j.identity.workingDirectory then
        return .error (.error f)
      pure (.ok out)
    | .master => Sys.fail (.internal "master jobs are not executed")
  | .collect => do
    c.transition .running .collect
    pure (.ok out)
  | .secondCheck => do
    let out ← match j.runnable.body with
      | .executable s => do
        match ← collectOutput s j.identity.workingDirectory with
        | .error f => return .error (.error f)
        | .ok o => pure o
      | _ => pure out
    if ← c.cancelRequested then return .error (.error Failure.cancelled)
    pure (.ok out)
  | .write => do
    let _ ← Sys.writeScoped (← c.record) [(Layout.output, out)]
    pure (.ok out)
  | .finish => do
    c.transition .collect (finalStatus out)
    pure (.ok out)

/-- The steps from `q?` on, with `between q` before each step `q`. -/
def runFrom (between : Step → Sys Unit) (j : Job) (c : JobContext) (src : Status) :
    Option Step → Json → Sys (Except Failure Status)
  | none, out => pure (.ok (finalStatus out))
  | some q, out => do
    between q
    match ← step j c src out q with
    | .error r => pure r
    | .ok out' => runFrom between j c src q.next out'
termination_by q? => q?.elim 0 Step.left
decreasing_by cases q <;> decide

/-- The steps of an execution with `between q` before each step `q`. -/
def runStepsWith (between : Step → Sys Unit) (j : Job) (c : JobContext) (src : Status) :
    Sys (Except Failure Status) :=
  runFrom between j c src (some .start) .null

/-- `settle` over the steps with `between q` before each step `q`. -/
def settleWith (between : Step → Sys Unit) (j : Job) (c : JobContext) (src : Status) : Sys Report := do
  match ← Sys.attempt (runStepsWith between j c src) with
  | .ok (.ok st) => pure { jobId := c.jobId, status := st }
  | .ok (.error f) => do
    let st ← c.abort f
    pure { jobId := c.jobId, status := st, failure := some f }
  | .error e => do
    let f := Failure.plain .internal e.text
    let st ← c.abort f
    pure { jobId := c.jobId, status := st, failure := if st = .aborted then some f else none }

/-- Another process's action `x`, taken once, just before the step `p`; the run goes on
whether it succeeds or fails. -/
def meanwhile {α : Type} (p : Step) (x : Sys α) (q : Step) : Sys Unit :=
  if q = p then do let _ ← Sys.attempt x else pure ()

theorem runStepsWith_idle (j : Job) (c : JobContext) (src : Status) :
    runStepsWith (fun _ => pure ()) j c src = runSteps j c src := by
  unfold runStepsWith runSteps
  simp only [runFrom, Step.next, step, pure_bind, bind_assoc]
  refine bind_congr fun _ => ?_
  refine bind_congr fun cancelled => ?_
  -- the two texts agree step by step, once each branch of the body is taken
  cases cancelled
  case true => simp
  case false =>
    simp only [Bool.false_eq_true, if_false, pure_bind]
    cases j.runnable.body with
    | function f =>
      cases result : f j.input with
      | error e => cases e <;> simp [result]
      | ok v =>
        simp only [result, finalStatus, pure_bind, bind_assoc]
        refine bind_congr (m := Sys) fun _ => ?_
        refine bind_congr (m := Sys) fun again => ?_
        cases again <;> simp
    | executable s =>
      simp only [bind_assoc]
      refine bind_congr (m := Sys) fun ran => ?_
      cases ran with
      | error f => simp
      | ok u =>
        simp only [finalStatus, pure_bind]
        refine bind_congr fun _ => ?_
        refine bind_congr fun collected => ?_
        cases collected with
        | error f => simp
        | ok o =>
          simp only [bind_assoc]
          refine bind_congr fun again => ?_
          cases again <;> simp
    | master => simp [Sys.fail]

theorem settleWith_idle (j : Job) (c : JobContext) (src : Status) :
    settleWith (fun _ => pure ()) j c src = settle j c src := by
  unfold settleWith settle
  -- only the steps differ; the matches on what they answer are the same
  refine (congrArg (fun x => Sys.attempt x >>= _) (runStepsWith_idle j c src)).trans ?_
  rfl

section Run

variable {between : Step → Sys Unit} {j : Job} {c : JobContext} {src : Status}

/-- What each step keeps, the whole run keeps: `At (some q)` holds before the step `q` and
`At none` after the last, and a step that stops answers what `Done` asks. -/
theorem runFrom_spec {At : Option Step → Json → JobSystem → Prop} {Done : Except Failure Status → JobSystem → Prop}
    {Err : Stop → JobSystem → Prop}
    (steps : ∀ q out, ⦃fun s => ⌜At (some q) out s⌝⦄ (do between q; step j c src out q)
      ⦃post⟨fun r s => ⌜match r with
          | .ok out' => At q.next out' s
          | .error r => Done r s⌝, fun e s => ⌜Err e s⌝⟩⦄)
    (last : ∀ out s, At none out s → Done (.ok (finalStatus out)) s) (q? : Option Step) (out : Json) :
    ⦃fun s => ⌜At q? out s⌝⦄ runFrom between j c src q? out ⦃post⟨fun r s => ⌜Done r s⌝, fun e s => ⌜Err e s⌝⟩⦄ := by
  fun_induction runFrom between j c src q? out with
  | case1 out =>
    mvcgen
    exact last out _ ‹_›
  | case2 q out ih =>
    rw [← bind_assoc]
    refine Triple.bind _ _ (steps q out) fun r => ?_
    cases r with
    | error r => exact Triple.pure r .rfl
    | ok out' => exact ih out'

end Run

/-- The status the job shows before a step. -/
def Step.status : Step → Status
  | .start => .busy
  | .firstCheck | .invoke | .collect => .running
  | .secondCheck | .write | .finish => .collect

/-- The tree the job's record holds before a step, from the tree `t` it held when it was
claimed, with the output so far. -/
def Step.tree (t out : Json) : Step → Json
  | .start => t
  | .firstCheck | .invoke | .collect => t.setAt Layout.statusAt (.str Status.running.name)
  | .secondCheck | .write => t.setAt Layout.statusAt (.str Status.collect.name)
  | .finish => (t.setAt Layout.statusAt (.str Status.collect.name)).setAt Layout.outputAt out

/-- The record says, before each step, the status the step starts from. -/
theorem Step.tree_status {t : Json} (found : t.at? Layout.statusAt = some (.str Status.busy.name)) (out : Json) :
    ∀ q : Step, (q.tree t out).at? Layout.statusAt = some (.str q.status.name)
  | .start => found
  | .firstCheck | .invoke | .collect | .secondCheck | .write => Json.at?_setAt_self _ _ _
  | .finish => by
    rw [Step.tree, Json.at?_setAt_of_apart Layout.statusAt_apart_outputAt.2 Layout.statusAt_apart_outputAt.1,
      Json.at?_setAt_self]
    rfl

/-- What the body of `j` has given by the move to `collect`: a function's output; a command's
output is read after the move. -/
def Given (j : Job) (out : Json) : Prop :=
  match j.runnable.body with
  | .function _ => Produces j out
  | .executable _ => True
  | .master => False

/-- What the output so far is before a step. -/
def Step.Needs (j : Job) (out : Json) : Step → Prop
  | .start | .firstCheck | .invoke => True
  | .collect | .secondCheck => Given j out
  | .write | .finish => Produces j out

/-- Where a run of `j`, claimed from the tree `t`, stands before each step with the output so
far, and after the last. -/
def Before (c : JobContext) (j : Job) (t : Json) : Option Step → Json → JobSystem → Prop
  | some q, out, s => c.Shows (q.tree t out) q.status s ∧ q.Needs j out
  | none, out, s => EndedWell c j t (finalStatus out) s

/-- Where a run leaves the job when its steps answer `r`: ended well in the status answered, or
on its way. -/
def Leaves (c : JobContext) (j : Job) (t : Json) : Except Failure Status → JobSystem → Prop
  | .ok st, s => EndedWell c j t st s
  | .error _, s => c.Midway t s

section Stages

variable {c : JobContext} {j : Job} {t : Json}

theorem Behaves.sorted (behaves : Behaves c j) {out : Json} (produces : Produces j out) : out.Sorted := by
  unfold Produces at produces
  split at produces
  · rename_i f body
    obtain ⟨v, ok, rfl⟩ := produces
    exact functionOutput_sorted (behaves.function f body v ok)
  · rename_i sj body
    obtain ⟨d, v, ok, rfl⟩ := produces
    exact commandOutput_sorted (behaves.collect sj body d v ok)
  · exact produces.elim

variable (c j t)

/-- Each step takes the job from where it stands before it to where it stands before the next,
or stops with the job on its way. -/
theorem step_spec (behaves : Behaves c j) (found : t.at? Layout.statusAt = some (.str Status.busy.name))
    (q : Step) (out : Json) :
    ⦃fun s => ⌜Before c j t (some q) out s⌝⦄ step j c .busy out q
    ⦃post⟨fun r s => ⌜match r with
        | .ok out' => Before c j t q.next out' s
        | .error r => Leaves c j t r s⌝,
      fun e s => ⌜e.IsFault ∧ c.Midway t s⌝⟩⦄ := by
  have atCollect := Json.at?_setAt_self t Layout.statusAt (.str Status.collect.name)
  cases q with
  | start =>
    have starts := @JobContext.transition_shows c t .busy .running rfl found
    simp only [Before, Step.tree, Step.status, Step.Needs, Step.next, and_true]
    mvcgen [step, starts, -JobContext.transition_keepsHeld]
  | firstCheck =>
    simp only [Before, Step.tree, Step.status, Step.Needs, Step.next, and_true]
    mvcgen [step, JobContext.cancelRequested, -JobContext.cancelRequested_keepsHeld]
    -- a cancel was asked for: the job stops while running
    exact ⟨.running, rfl, ‹_›⟩
  | invoke =>
    have runs := fun s shell => @runExecutable_spares c (t.setAt Layout.statusAt (.str Status.running.name))
      .running c s j.input j.server j.identity.workingDirectory shell
    simp only [Before, Step.tree, Step.status, Step.Needs, Step.next, and_true]
    mvcgen [step, runs, -runExecutable_keepsHeld]
    -- a function fails or panics, or gives its output
    · exact ⟨.running, rfl, ‹_›⟩
    · exact ⟨.running, rfl, ‹_›⟩
    · refine ⟨‹_›, ?_⟩
      simp only [Given, ‹j.runnable.body = _›]
      exact produces_function ‹_› ‹_›
    -- a command runs and fails, or runs through
    · exact behaves.shell _ ‹_›
    · exact ⟨.running, rfl, ‹_›⟩
    · refine ⟨‹_›, ?_⟩
      simp only [Given, ‹j.runnable.body = _›]
    · exact fun fault shows => ⟨fault, .running, rfl, shows⟩
    -- a master is not run here
    · exact ⟨trivial, .running, rfl, ‹_›⟩
  | collect =>
    have collects := @JobContext.transition_shows c (t.setAt Layout.statusAt (.str Status.running.name))
      .running .collect rfl (Json.at?_setAt_self _ _ _)
    rw [Json.setAt_setAt_self] at collects
    simp only [Before, Step.tree, Step.status, Step.Needs, Step.next]
    mvcgen [step, collects, -JobContext.transition_keepsHeld]
    · exact ‹_ ∧ _›.1
    · exact ⟨‹_›, ‹_ ∧ _›.2⟩
  | secondCheck =>
    have reads := fun s => @collectOutput_reads c (t.setAt Layout.statusAt (.str Status.collect.name))
      .collect s j.identity.workingDirectory
    simp only [Before, Step.tree, Step.status, Step.Needs, Step.next]
    mvcgen [step, reads, JobContext.cancelRequested, -collectOutput_keepsHeld, -JobContext.cancelRequested_keepsHeld]
    · exact ‹_ ∧ _›.1
    -- a command's collector fails, a cancel was asked for, or its output is read
    · rename_i read
      exact ⟨.collect, rfl, read.1⟩
    · rename_i read _
      exact ⟨.collect, rfl, read.1⟩
    · rename_i read _
      obtain ⟨v, ok, rfl⟩ := read.2 _ rfl
      exact ⟨read.1, produces_command ‹_› ok⟩
    -- a function's output was given before the move
    · rename_i pre _
      exact ⟨.collect, rfl, pre.1⟩
    · rename_i notCommand body _ pre _
      refine ⟨pre.1, ?_⟩
      have given := pre.2
      unfold Given at given
      split at given
      · exact given
      · exact (notCommand _ (body.symm.trans ‹_›)).elim
      · exact given.elim
  | write =>
    have opens := JobContext.record_shows c (t.setAt Layout.statusAt (.str Status.collect.name)) .collect
    have writes := fun r (sorted : Json.Sorted out) =>
      JobContext.writeOutput_shows c (t.setAt Layout.statusAt (.str Status.collect.name)) .collect (r := r) sorted
    simp only [Before, Step.tree, Step.status, Step.Needs, Step.next]
    mvcgen [step, opens, writes, -JobContext.record_keepsHeld, -Sys.writeScoped_keepsHeld]
    · exact ‹_ ∧ _›.1
    · exact behaves.sorted ‹_ ∧ _›.2
    -- the output is written, or a bad name in it fails the write
    · exact ⟨‹_›, ‹_ ∧ _›.2⟩
    · exact fun fault shows => ⟨fault, .collect, rfl, shows⟩
  | finish =>
    have finishes := @JobContext.transition_shows c
      ((t.setAt Layout.statusAt (.str Status.collect.name)).setAt Layout.outputAt out)
      .collect (finalStatus out) (check_collect_final out _)
      (by rw [Json.at?_setAt_of_apart Layout.statusAt_apart_outputAt.2 Layout.statusAt_apart_outputAt.1, atCollect])
    simp only [Before, Step.tree, Step.status, Step.Needs, Step.next]
    mvcgen [step, finishes, -JobContext.transition_keepsHeld]
    · exact ‹_ ∧ _›.1
    · exact endedWell_of_written ‹_ ∧ _›.2 ‹_›

/-- A step changes no row but in its status, and a step that stops answers a failure, never a
status. -/
theorem step_keepsMark (id : Nat) (m : Option ((String × String) × Bool)) (src : Status) (out : Json) (q : Step) :
    ⦃fun s => ⌜s.index.mark id = m⌝⦄ step j c src out q
    ⦃post⟨fun r s => ⌜s.index.mark id = m ∧ ∀ a, r = .error a → ∃ f, a = .error f⌝,
      fun _ s => ⌜s.index.mark id = m⌝⟩⦄ := by
  cases q <;> mvcgen [step, JobContext.transition_keepsMark, JobContext.cancelRequested_keepsMark,
    runExecutable_keepsMark, collectOutput_keepsMark, JobContext.record_keepsMark, Sys.writeScoped_keepsMark,
    -JobContext.transition_keepsHeld, -JobContext.cancelRequested_keepsHeld, -runExecutable_keepsHeld,
    -collectOutput_keepsHeld, -JobContext.record_keepsHeld, -Sys.writeScoped_keepsHeld]
  -- each call keeps the mark it started from, which is the one the step started from
  all_goals simp_all

end Stages

/-- Actions between the steps that keep the job's record and row as the run leaves them before
each step, a record that says the status the row shows, and return. -/
def Spared (c : JobContext) (between : Step → Sys Unit) : Prop :=
  ∀ q T, T.at? Layout.statusAt = some (.str q.status.name) → Sys.SparesAndReturns c T q.status (between q)

/-- What the job's run is reported as when its steps answered `a`, or failed with a library
error (`none`). -/
def Reported (c : JobContext) : Option (Except Failure Status) → Report → Prop
  | some (.ok st), report => report = { jobId := c.jobId, status := st }
  | some (.error f), report => report = { jobId := c.jobId, status := .aborted, failure := some f }
  | none, report => report.status = .aborted ∧ ∃ m, report.failure = some (.plain .internal m)

section Spared

variable {c : JobContext} {j : Job} {t : Json} {between : Step → Sys Unit}

theorem Spared.before (spared : Spared c between) (found : t.at? Layout.statusAt = some (.str Status.busy.name))
    (q : Step) (out : Json) :
    ⦃fun s => ⌜Before c j t (some q) out s⌝⦄ between q
    ⦃post⟨fun _ s => ⌜Before c j t (some q) out s⌝, fun _ _ => ⌜False⌝⟩⦄ := by
  have spares := spared q (q.tree t out) (Step.tree_status found out q)
  simp only [Before]
  mvcgen [spares]
  · exact ‹_ ∧ _›.1
  · exact fun shows => ⟨shows, ‹_ ∧ _›.2⟩

/-- An action that spares the job, then a step. -/
theorem Spared.step_spec (spared : Spared c between) (behaves : Behaves c j)
    (found : t.at? Layout.statusAt = some (.str Status.busy.name)) (q : Step) (out : Json) :
    ⦃fun s => ⌜Before c j t (some q) out s⌝⦄ (do between q; step j c .busy out q)
    ⦃post⟨fun r s => ⌜match r with
        | .ok out' => Before c j t q.next out' s
        | .error r => Leaves c j t r s⌝, fun e s => ⌜e.IsFault ∧ c.Midway t s⌝⟩⦄ := by
  have hook := spared.before (j := j) found q out
  have moves := Pipeline.step_spec c j t behaves found q out
  mvcgen [hook, moves]

/-- The steps of a claimed job, with actions between them that spare it, leave it where the
steps of `runSteps` do. -/
theorem runStepsWith_spec (spared : Spared c between) (behaves : Behaves c j)
    (found : t.at? Layout.statusAt = some (.str Status.busy.name)) :
    ⦃fun s => ⌜c.Shows t .busy s⌝⦄ runStepsWith between j c .busy
    ⦃post⟨fun r s => ⌜Leaves c j t r s⌝, fun e s => ⌜e.IsFault ∧ c.Midway t s⌝⟩⦄ := by
  have run := runFrom_spec (spared.step_spec behaves found) (fun _ _ ended => ended) (some .start) .null
  exact Triple.entails_wp_of_pre run fun _ shows => ⟨shows, trivial⟩

/-- What is reported for what the steps answer: `settleWith` aborts the job from wherever the
steps left it on its way. -/
theorem settleWith_reports {P : JobSystem → Prop} {A : Option (Except Failure Status) → Prop}
    (steps : ⦃fun s => ⌜P s⌝⦄ runStepsWith between j c .busy
      ⦃post⟨fun r s => ⌜Leaves c j t r s ∧ A (some r)⌝, fun e s => ⌜e.IsFault ∧ c.Midway t s ∧ A none⌝⟩⦄) :
    ⦃fun s => ⌜P s⌝⦄ settleWith between j c .busy
    ⦃post⟨fun report s => ⌜Ends c j t report s ∧ ∃ a, A a ∧ Reported c a report⌝, fun _ _ => ⌜False⌝⟩⦄ := by
  have attempts := Sys.attempt_spec steps
  have aborts := fun f => JobContext.abort_midway c t f
  mvcgen [settleWith, attempts, aborts, -Sys.attempt_keepsHeld, -JobContext.abort_keepsHeld]
  -- the steps answered a status: it is reported as it is
  · rename_i answered
    exact ⟨⟨rfl, answered.1⟩, _, answered.2, rfl⟩
  -- they answered a failure: the job is aborted with it
  · exact ‹_ ∧ _›.1
  · rename_i answered _ _ aborted
    obtain ⟨rfl, shows⟩ := aborted
    exact ⟨⟨rfl, rfl, shows⟩, _, answered.2, rfl⟩
  -- they failed: the job is aborted with an internal failure
  · exact ‹_ ∧ _›.1
  · rename_i failed _ _ aborted
    obtain ⟨rfl, shows⟩ := aborted
    exact ⟨⟨rfl, by simpa using shows⟩, none, failed.2, rfl, _, rfl⟩

/-- A claimed job whose run is spared between its steps ends as `settle` ends it. -/
theorem settleWith_spec (spared : Spared c between) (behaves : Behaves c j)
    (found : t.at? Layout.statusAt = some (.str Status.busy.name)) :
    ⦃fun s => ⌜c.Shows t .busy s⌝⦄ settleWith between j c .busy
    ⦃post⟨fun report s => ⌜Ends c j t report s⌝, fun _ _ => ⌜False⌝⟩⦄ := by
  have steps := runStepsWith_spec spared behaves found
  have reports := @settleWith_reports c j t between _ (fun _ => True)
    (Triple.entails_wp_of_post steps ⟨fun _ _ leaves => ⟨leaves, trivial⟩, fun _ _ ⟨fault, midway⟩ => ⟨fault, midway, trivial⟩, trivial⟩)
  exact Triple.entails_wp_of_post reports ⟨fun _ _ ended => ended.1, fun _ _ never => never, trivial⟩

end Spared

end Pipeline

end JobFlow

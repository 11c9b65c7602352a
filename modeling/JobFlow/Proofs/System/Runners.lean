import Mathlib
import JobFlow.Proofs.System.Frames
import JobFlow.Proofs.System.Execution

/-!
# A job is claimed once

Every process that runs jobs leaves a held row held (`Sys.KeepsHeld`): a handle's run, which
saves, refreshes and starts jobs and executes the claimed ones, a wrapper process, and a run
by id.
-/

open Std.Do

set_option mvcgen.warning false

namespace JobFlow

theorem Status.isHeld_ite {c : Prop} [Decidable c] {a b : Status} (ha : a.isHeld) (hb : b.isHeld) :
    (if c then a else b).isHeld := by
  split
  · exact ha
  · exact hb

theorem aggregateStatus_isHeld (p : AggregatePolicy) (children : List Status) :
    (aggregateStatus p children).isHeld := by
  unfold aggregateStatus
  dsimp only
  split_ifs <;> rfl

namespace Job

variable (job : Nat)

@[spec] theorem record_keepsHeld (j : Job) : Sys.KeepsHeld job j.record := by
  mvcgen [Job.record]

@[spec] theorem fromStorage_keepsHeld (p : String) : Sys.KeepsHeld job (fromStorage p) := by
  mvcgen [fromStorage]

theorem loadById_keepsHeld (i : Nat) : Sys.KeepsHeld job (loadById i) := by
  mvcgen [loadById]

@[spec] theorem writeNewRecord_keepsHeld (j : Job) (i : Nat) : Sys.KeepsHeld job (j.writeNewRecord i) := by
  mvcgen [writeNewRecord]

@[spec] theorem save_keepsHeld : JobAct.KeepsHeld job save := by
  mvcgen [save]
  · exact ‹_ ∧ _›.1
  · exact fun _ _ => ‹_ ∧ _›.2

@[spec] theorem refresh_keepsHeld : JobAct.KeepsHeld job refresh := by
  mvcgen [refresh]

theorem act_keepsHeld {α : Type} (j : Job) {x : JobAct α} (keeps : JobAct.KeepsHeld job x) :
    Sys.KeepsHeld job (j.act x) := by
  mvcgen [act]
  all_goals exact JobAct.held_of_run keeps ‹_› ‹_›

@[spec] theorem compress_keepsHeld (j : Job) : Sys.KeepsHeld job j.compress := by
  mvcgen -trivial [compress, ensureIdle]
  all_goals assumption

end Job

namespace JobContext

variable (job : Nat)

@[spec] theorem open_keepsHeld (i : Nat) (name path : String) : Sys.KeepsHeld job (JobContext.open i name path) := by
  mvcgen [JobContext.open]

@[spec] theorem record_keepsHeld (c : JobContext) : Sys.KeepsHeld job c.record := by
  mvcgen [JobContext.record]

@[spec] theorem storedStatus_keepsHeld (c : JobContext) : Sys.KeepsHeld job c.storedStatus := by
  mvcgen [JobContext.storedStatus]

@[spec] theorem cancelRequested_keepsHeld (c : JobContext) : Sys.KeepsHeld job c.cancelRequested := by
  mvcgen [cancelRequested]

@[spec] theorem syncIndex_keepsHeld (c : JobContext) {src dst : Status} (moves : src.isHeld → dst.isHeld) :
    Sys.KeepsHeld job (c.syncIndex src dst) := by
  mvcgen [syncIndex]

@[spec] theorem transition_keepsHeld (c : JobContext) {src dst : Status} (moves : src.isHeld → dst.isHeld) :
    Sys.KeepsHeld job (c.transition src dst) := by
  mvcgen [transition]
  all_goals exact fun _ _ => moves

@[spec] theorem abort_keepsHeld (c : JobContext) (f : Failure) : Sys.KeepsHeld job (c.abort f) := by
  mvcgen [abort]
  exact fun _ => rfl

@[spec] theorem claimRetry_keepsHeld (c : JobContext) (token : String) (total : Nat) :
    ∀ n, Sys.KeepsHeld job (c.claimRetry token total n)
  | 0 => by mvcgen [claimRetry]
  | n + 1 => by
    have again := claimRetry_keepsHeld c token total n
    mvcgen [claimRetry, again]

@[spec] theorem claim_keepsHeld (c : JobContext) : Sys.KeepsHeld job c.claim := by
  mvcgen [claim]
  exact Status.isHeld_of_isTerminal ‹_›

end JobContext

@[spec] theorem openLog_keepsHeld (job : Nat) (wd name : String) : Sys.KeepsHeld job (openLog wd name) := by
  mvcgen [openLog]

@[spec] theorem runExecutable_keepsHeld (job : Nat) (c : JobContext) (s : ScriptJob) (input : List (String × Json))
    (server : ServerConfig) (wd : String) : Sys.KeepsHeld job (runExecutable c s input server wd) := by
  mvcgen -trivial [runExecutable]
  all_goals assumption

namespace Master

variable (job : Nat)

@[spec] theorem children_keepsHeld (m : Nat) : Sys.KeepsHeld job (children m) := by
  mvcgen [children]

@[spec] theorem refresh_keepsHeld (m : Nat) : Sys.KeepsHeld job (refresh m) := by
  mvcgen -trivial [refresh]
  all_goals first
    | assumption
    | exact fun _ => aggregateStatus_isHeld _ _
    | exact fun _ => rfl

@[spec] theorem waitForChildren_keepsHeld (m : Nat) (timeout : Option Duration) (cancelled : Bool) :
    Sys.KeepsHeld job (waitForChildren m timeout cancelled) := by
  mvcgen [waitForChildren]

end Master

namespace Pipeline

variable (job : Nat)

@[spec] theorem collectOutput_keepsHeld (s : ScriptJob) (wd : String) : Sys.KeepsHeld job (collectOutput s wd) := by
  mvcgen [collectOutput]

@[spec] theorem runSteps_keepsHeld (j : Job) (c : JobContext) (src : Status) :
    Sys.KeepsHeld job (runSteps j c src) := by
  mvcgen [runSteps]
  · exact fun _ => rfl
  all_goals exact fun _ => Status.isHeld_ite rfl rfl

@[spec] theorem notifyMaster_keepsHeld (c : JobContext) : Sys.KeepsHeld job (notifyMaster c) := by
  mvcgen [notifyMaster]

@[spec] theorem execute_keepsHeld (j : Job) (c : JobContext) (src : Status) :
    Sys.KeepsHeld job (execute j c src) := by
  mvcgen -trivial [execute, settle, wrapUp]
  all_goals assumption

end Pipeline

namespace Dispatch

variable (job : Nat)

attribute [spec] setStatus

@[spec] theorem preflight_keepsHeld (j : Job) : Sys.KeepsHeld job (preflight j) := by
  mvcgen [preflight]

@[spec] theorem runModal_keepsHeld (c : JobContext) : JobAct.KeepsHeld job (runModal c) := by
  mvcgen [runModal]

@[spec] theorem submitToQueue_keepsHeld (c : JobContext) : JobAct.KeepsHeld job (submitToQueue c) := by
  mvcgen [submitToQueue]

@[spec] theorem prepareManual_keepsHeld (c : JobContext) : JobAct.KeepsHeld job (prepareManual c) := by
  mvcgen [prepareManual]

theorem run_keepsHeld : ∀ n, (∀ opts : RunOptions, opts.allowRestart = false → JobAct.KeepsHeld job (run n opts)) ∧
    JobAct.KeepsHeld job (start n) ∧ JobAct.KeepsHeld job (startMaster n) ∧ JobAct.KeepsHeld job (startChildren n)
  | 0 => ⟨fun _ _ => by mvcgen [run], by mvcgen [start], by mvcgen [startMaster], by mvcgen [startChildren]⟩
  | n + 1 => by
    obtain ⟨run_n, start_n, master_n, children_n⟩ := run_keepsHeld n
    refine ⟨fun opts noRestart => ?_, ?_, ?_, ?_⟩
    · mvcgen [run, start_n]
      -- a run that may not restart never reaches the restart
      all_goals exact absurd ‹opts.allowRestart = true› (by rw [noRestart]; decide)
    · mvcgen [start, master_n]
    · mvcgen [startMaster, children_n]
    · -- the loop over the children runs each one from a state in which the row is held
      have load (i : Nat) : Sys.KeepsHeld job (Job.loadById i) := Job.loadById_keepsHeld job i
      have runChild (child : Job) : Sys.KeepsHeld job (child.act (run n {})) :=
        Job.act_keepsHeld job child (run_n {} rfl)
      mvcgen [startChildren, load, runChild] invariants
      · post⟨fun _ _ s => ⌜s.index.Held job⌝, fun _ _ s => ⌜s.index.Held job⌝⟩
      · post⟨fun _ _ s => ⌜s.index.Held job⌝, fun _ _ s => ⌜s.index.Held job⌝⟩
      all_goals exact fun held => held

@[spec] theorem runJob_keepsHeld (opts : RunOptions) (noRestart : opts.allowRestart = false) :
    JobAct.KeepsHeld job (runJob opts) := by
  have runs (n : Nat) := (run_keepsHeld job n).1 opts noRestart
  mvcgen [runJob, fuel, runs]

@[spec] theorem runRow_keepsHeld (row : IndexRow) : Sys.KeepsHeld job (runRow row) := by
  mvcgen [runRow]

@[spec] theorem wrapperRun_keepsHeld (wd : String) (i : Nat) : Sys.KeepsHeld job (wrapperRun wd i) := by
  mvcgen [wrapperRun]

@[spec] theorem runById_keepsHeld (i : Nat) : Sys.KeepsHeld job (runById i) := by
  mvcgen [runById]

end Dispatch

/-- A process that runs a job: a run of a handle, which never restarts the job, a wrapper
process given a working directory and an id, or a run by id. -/
inductive Runner where
  | handle (j : Job)
  | wrapper (wd : String) (id : Nat)
  | byId (id : Nat)

namespace Runner

/-- What a runner does to the system, whether it succeeds or fails. -/
def call : Runner → Sys Unit
  | .handle j => do let _ ← j.act (Dispatch.runJob {}); pure ()
  | .wrapper wd id => do let _ ← Dispatch.wrapperRun wd id; pure ()
  | .byId id => do let _ ← Dispatch.runById id; pure ()

/-- Runners one after another, each from the state the one before left, whether it failed
or not. -/
def runAll (rs : List Runner) (s : JobSystem) : JobSystem :=
  rs.foldl (fun s r => (r.call.run.run s).2) s

end Runner

end JobFlow

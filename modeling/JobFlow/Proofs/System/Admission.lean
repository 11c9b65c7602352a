import Mathlib
import JobFlow.Proofs.System.Runners

/-!
# Queue admission

A queued job is handed to the queuing system only after its queue is checked: the queue it
names, or else the default queue, must be declared, and that queue's limits must accept the
resources the job asks for (`QueueConfig.resolve_eq_ok_iff`, with `QueueLimits.check_eq_ok_iff`
for the limits).
-/

open Std.Do

set_option mvcgen.warning false

namespace JobFlow

/-! ### The limits of a queue -/

namespace QueueLimits

/-- The limits accept a resource request: at least the least number of cores, and no more than
each ceiling that is set, run time and memory counting only when the request names them. -/
def Accepts (l : QueueLimits) (r : Resources) : Prop :=
  l.coresMin ≤ r.cores ∧ (∀ m, l.coresMax = some m → r.cores ≤ m) ∧
    (∀ m t, l.runTimeMax = some m → r.runTime = some t → t ≤ m) ∧
    (∀ m k, l.memoryMaxMb = some m → r.memoryMb = some k → k ≤ m)

theorem check_eq_ok_iff (l : QueueLimits) (q : String) (s : ServerConfig) :
    l.check q s = .ok () ↔ l.Accepts (Resources.ofServer s) := by
  rcases l with ⟨coresMin, _ | coresMax, _ | runTimeMax, _ | memoryMaxMb⟩ <;>
    rcases s with ⟨_, _, cores, _, _, _ | runTime, _ | memoryMb, _, _, _⟩ <;>
    -- with the ceilings that are set known, each of the four checks is one comparison
    simp [check, Accepts, Resources.ofServer, bind, Except.bind, throw, throwThe, MonadExceptOf.throw, pure,
      Except.pure] <;> split_ifs <;> simp_all

theorem check_error {l : QueueLimits} {q : String} {s : ServerConfig} {e : JobError} (broken : l.check q s = .error e) :
    ∃ m, e = .configuration m := by
  unfold check at broken
  simp only [bind, Except.bind, pure, Except.pure, throw, throwThe, MonadExceptOf.throw] at broken
  -- one case per check and per ceiling that is set; each check that fails names the queue
  repeat' split at broken
  all_goals simp only [reduceCtorEq, Except.error.injEq] at broken <;> exact ⟨_, broken.symm⟩

end QueueLimits

/-! ### The queue of a job -/

namespace QueueConfig

variable {c : QueueConfig} {s : ServerConfig} {q : String}

/-- The configuration admits a request: it goes to the queue that the settings whose resources
it asks for choose, their own queue or else the default one; that queue is declared, and its
limits accept those resources. -/
def Admits (c : QueueConfig) (r : SubmitRequest) : Prop :=
  (∃ s : ServerConfig, (s.queue <|> c.defaultQueue) = some r.queue ∧ r.resources = Resources.ofServer s) ∧
    ∃ l, c.limits.lookup r.queue = some l ∧ l.Accepts r.resources

/-- A job goes to its own queue, or else to the default one, when that queue is declared and
its limits accept the job's resources. -/
theorem resolve_eq_ok_iff :
    c.resolve s = .ok q ↔
      (s.queue <|> c.defaultQueue) = some q ∧ ∃ l, c.limits.lookup q = some l ∧ l.Accepts (Resources.ofServer s) := by
  unfold resolve
  cases chosen : (s.queue <|> c.defaultQueue) with
  | none => simp [bind, Except.bind, throw, throwThe, MonadExceptOf.throw]
  | some q' =>
    -- the chosen queue is the answer once it is declared and its limits pass
    cases declared : c.limits.lookup q' with
    | none =>
      simp only [declared, bind, Except.bind, pure, Except.pure, throw, throwThe, MonadExceptOf.throw, reduceCtorEq,
        false_iff, Option.some.injEq, not_and]
      rintro rfl
      simp [declared]
    | some l =>
      have passes := QueueLimits.check_eq_ok_iff l q' s
      cases checked : l.check q' s with
      | error e =>
        simp only [declared, checked, bind, Except.bind, pure, Except.pure, reduceCtorEq, false_iff, Option.some.injEq,
          not_and]
        rintro rfl
        simp_all
      | ok u =>
        simp only [declared, checked, bind, Except.bind, pure, Except.pure, Except.ok.injEq, Option.some.injEq]
        exact ⟨fun named => ⟨named, l, named ▸ declared, passes.1 checked⟩, fun named => named.1⟩

theorem resolve_error {e : JobError} (rejected : c.resolve s = .error e) : ∃ m, e = .configuration m := by
  unfold resolve at rejected
  cases chosen : (s.queue <|> c.defaultQueue) with
  | none =>
    simp only [chosen, bind, Except.bind, throw, throwThe, MonadExceptOf.throw, Except.error.injEq] at rejected
    exact ⟨_, rejected.symm⟩
  | some q' =>
    cases declared : c.limits.lookup q' with
    | none =>
      simp only [chosen, declared, bind, Except.bind, pure, Except.pure, throw, throwThe, MonadExceptOf.throw,
        Except.error.injEq] at rejected
      exact ⟨_, rejected.symm⟩
    | some l =>
      cases checked : l.check q' s with
      | error e' =>
        simp only [chosen, declared, checked, bind, Except.bind, pure, Except.pure, Except.error.injEq] at rejected
        exact rejected ▸ QueueLimits.check_error checked
      | ok u => simp [chosen, declared, checked, bind, Except.bind, pure, Except.pure] at rejected

theorem admits_request (resolved : c.resolve s = .ok q) (id : Nat) (wd : String) :
    c.Admits (c.request q id wd s) := by
  obtain ⟨chosen, l, declared, accepts⟩ := resolve_eq_ok_iff.1 resolved
  exact ⟨⟨s, chosen, rfl⟩, l, declared, accepts⟩

end QueueConfig

/-! ### What the queuing system holds -/

/-- The requests the queuing system took, in the order it took them; none without one. -/
def JobSystem.submissions (s : JobSystem) : List SubmitRequest := (s.scheduler.map (·.submitted)).getD []

/-- The system's queues are configured by `cfg`, and its queuing system holds `base` and after
it only requests that `cfg` admits. -/
def JobSystem.Admitted (cfg : QueueConfig) (base : List SubmitRequest) (s : JobSystem) : Prop :=
  s.config.queue = cfg ∧ ∃ new, s.submissions = base ++ new ∧ ∀ r ∈ new, cfg.Admits r

theorem JobSystem.admitted_self (s : JobSystem) : s.Admitted s.config.queue s.submissions :=
  ⟨rfl, [], by simp, by simp⟩

theorem Scheduler.submit_submitted {q q' : Scheduler} {r : SubmitRequest} {id : String}
    (ok : q.submit r = .ok (q', id)) : q'.submitted = q.submitted ++ [r] := by
  unfold submit at ok
  split at ok
  · cases ok
  · cases ok
    rfl

/-- Handing an admitted request to the queuing system keeps the system admitted. -/
theorem JobSystem.Admitted.submit {cfg : QueueConfig} {base : List SubmitRequest} {s : JobSystem} {q q' : Scheduler}
    {r : SubmitRequest} {id : String} (admitted : s.Admitted cfg base) (current : s.scheduler = some q)
    (ok : q.submit r = .ok (q', id)) (admits : cfg.Admits r) :
    { s with scheduler := some q' }.Admitted cfg base := by
  obtain ⟨config, new, held, before⟩ := admitted
  refine ⟨config, new ++ [r], ?_, ?_⟩
  · simp only [submissions, current, Option.map_some, Option.getD_some] at held ⊢
    rw [Scheduler.submit_submitted ok, held, List.append_assoc]
  · intro r' mem
    rcases List.mem_append.1 mem with old | added
    · exact before r' old
    · rw [List.mem_singleton.1 added]
      exact admits

/-- A run of `x` from an admitted state ends in one, whether `x` returns or fails. -/
abbrev Sys.KeepsAdmitted {α : Type} (cfg : QueueConfig) (base : List SubmitRequest) (x : Sys α) : Prop :=
  ⦃fun s => ⌜s.Admitted cfg base⌝⦄ x ⦃post⟨fun _ s => ⌜s.Admitted cfg base⌝, fun _ s => ⌜s.Admitted cfg base⌝⟩⦄

/-- The same for an action on a handle, whatever the handle. -/
abbrev JobAct.KeepsAdmitted {α : Type} (cfg : QueueConfig) (base : List SubmitRequest) (x : JobAct α) : Prop :=
  ⦃fun _ s => ⌜s.Admitted cfg base⌝⦄ x
  ⦃post⟨fun _ _ s => ⌜s.Admitted cfg base⌝, fun _ _ s => ⌜s.Admitted cfg base⌝⟩⦄

/-- A triple about an action on a handle, read as a fact about one run. -/
theorem JobAct.of_triple {α : Type} {P : JobSystem → Prop} {Q : α → Job → JobSystem → Prop}
    {E : Stop → Job → JobSystem → Prop} {x : JobAct α}
    (spec : ⦃fun _ s => ⌜P s⌝⦄ x ⦃post⟨fun a j s => ⌜Q a j s⌝, fun e j s => ⌜E e j s⌝⟩⦄) (j : Job) (s : JobSystem)
    (start : P s) :
    match x.run j s with
    | ((.ok a, j'), s') => Q a j' s'
    | ((.error e, j'), s') => E e j' s' := by
  have := spec j s start
  simp [wp, ExceptT.run, StateT.run, Id.run] at this
  simp only [ExceptT.run]
  revert this
  generalize x j s = result
  rcases result with ⟨⟨_ | a, j'⟩, s'⟩ <;> exact fun after => after

theorem JobAct.admitted_of_run {α : Type} {cfg : QueueConfig} {base : List SubmitRequest} {x : JobAct α}
    (keeps : JobAct.KeepsAdmitted cfg base x) {j j' : Job} {s s' : JobSystem} {r : Except Stop α}
    (admitted : s.Admitted cfg base) (ran : x.run j s = ((r, j'), s')) : s'.Admitted cfg base := by
  have after := JobAct.of_triple keeps j s admitted
  rw [ran] at after
  rcases r with _ | _ <;> exact after

namespace JobAct

variable {α β : Type} {x : JobAct α} {f : α → JobAct β} {j j' : Job} {v v' : JobSystem} {err : Stop}

theorem run_bind_error (failed : x.run j v = ((.error err, j'), v')) : (x >>= f).run j v = ((.error err, j'), v') := by
  change StateT.run (StateT.run (ExceptT.run (x >>= f)) j) v = _
  change StateT.run (StateT.run (ExceptT.run x) j) v = _ at failed
  simp only [ExceptT.run_bind, StateT.run_bind, failed]
  rfl

theorem run_bind_ok {a : α} (ran : x.run j v = ((.ok a, j'), v')) : (x >>= f).run j v = (f a).run j' v' := by
  change StateT.run (StateT.run (ExceptT.run (x >>= f)) j) v = _
  change StateT.run (StateT.run (ExceptT.run x) j) v = _ at ran
  simp only [ExceptT.run_bind, StateT.run_bind, ran]
  rfl

theorem run_getThe_bind (g : Job → JobAct β) : (getThe Job >>= g).run j v = (g j).run j v := rfl

theorem run_liftM (y : Sys α) : (liftM y : JobAct α).run j v = (((y.run.run v).1, j), (y.run.run v).2) := by
  rfl

end JobAct

/-! ### Every action keeps the system admitted

The frame of each action is stated once and used by `mvcgen` through the rest of the section,
ahead of the frames of the held row. -/

section Frames

variable (cfg : QueueConfig) (base : List SubmitRequest)

@[local spec 2000] theorem Sys.attempt_keepsAdmitted {α : Type} {x : Sys α} (keeps : Sys.KeepsAdmitted cfg base x) :
    Sys.KeepsAdmitted cfg base (Sys.attempt x) := by
  mvcgen [Sys.attempt, Sys.recover, keeps, -Sys.attempt_keepsHeld]
  all_goals exact fun admitted => admitted

@[local spec 2000] theorem Sys.openDb_keepsAdmitted (p : String) : Sys.KeepsAdmitted cfg base (Sys.openDb p) := by
  mvcgen [Sys.openDb, -Sys.openDb_keepsHeld]

@[local spec 2000] theorem Sys.openRecord_keepsAdmitted (p : String) :
    Sys.KeepsAdmitted cfg base (Sys.openRecord p) := by
  mvcgen [Sys.openRecord, -Sys.openRecord_keepsHeld]

@[local spec 2000] theorem Sys.saveRecord_keepsAdmitted (r : Record) : Sys.KeepsAdmitted cfg base (Sys.saveRecord r) := by
  mvcgen [Sys.saveRecord, -Sys.saveRecord_keepsHeld]

@[local spec 2000] theorem Sys.createRecord_keepsAdmitted (p typeName name version : String) :
    Sys.KeepsAdmitted cfg base (Sys.createRecord p typeName name version) := by
  mvcgen [Sys.createRecord, -Sys.createRecord_keepsHeld]

@[local spec 2000] theorem Sys.writeRecord_keepsAdmitted (r : Record) (p : String) (v : Json) :
    Sys.KeepsAdmitted cfg base (Sys.writeRecord r p v) := by
  mvcgen [Sys.writeRecord, -Sys.writeRecord_keepsHeld]

@[local spec 2000] theorem Sys.writeScoped_keepsAdmitted (r : Record) (writes : List (String × Json)) :
    Sys.KeepsAdmitted cfg base (Sys.writeScoped r writes) := by
  mvcgen [Sys.writeScoped, -Sys.writeScoped_keepsHeld]

@[local spec 2000] theorem Sys.readAs_keepsAdmitted {α : Type} (r : Record) (p : String)
    (reader : String → Doc → DocRead α) : Sys.KeepsAdmitted cfg base (Sys.readAs r p reader) := by
  mvcgen [Sys.readAs, -Sys.readAs_keepsHeld]

@[local spec 2000] theorem Sys.storedStatus_keepsAdmitted (r : Record) :
    Sys.KeepsAdmitted cfg base (Sys.storedStatus r) := by
  mvcgen [Sys.storedStatus, -Sys.storedStatus_keepsHeld]

@[local spec 2000] theorem Sys.removeRecord_keepsAdmitted (p : String) :
    Sys.KeepsAdmitted cfg base (Sys.removeRecord p) := by
  mvcgen [Sys.removeRecord, -Sys.removeRecord_keepsHeld]

@[local spec 2000] theorem Sys.isDir_keepsAdmitted (p : String) : Sys.KeepsAdmitted cfg base (Sys.isDir p) := by
  mvcgen [Sys.isDir, -Sys.isDir_keepsHeld]

@[local spec 2000] theorem Sys.query_keepsAdmitted (f : JobFilter) : Sys.KeepsAdmitted cfg base (Sys.query f) := by
  mvcgen [Sys.query, -Sys.query_keepsHeld]

@[local spec 2000] theorem Sys.updateStatus_keepsAdmitted (i : Nat) (old new : Status) :
    Sys.KeepsAdmitted cfg base (Sys.updateStatus i old new) := by
  mvcgen [Sys.updateStatus, -Sys.updateStatus_keepsHeld]

@[local spec 2000] theorem Sys.forceStatus_keepsAdmitted (i : Nat) (st : Status) :
    Sys.KeepsAdmitted cfg base (Sys.forceStatus i st) := by
  mvcgen [Sys.forceStatus, -Sys.forceStatus_keepsHeld]

@[local spec 2000] theorem Sys.updateRow_keepsAdmitted (i : Nat) (u : IndexUpdate) :
    Sys.KeepsAdmitted cfg base (Sys.updateRow i u) := by
  mvcgen [Sys.updateRow, -Sys.updateRow_keepsHeld]

@[local spec 2000] theorem Sys.insertRow_keepsAdmitted (n : NewRow) : Sys.KeepsAdmitted cfg base (Sys.insertRow n) := by
  mvcgen [Sys.insertRow, -Sys.insertRow_keepsHeld]

@[local spec 2000] theorem Sys.deleteRow_keepsAdmitted (i : Nat) : Sys.KeepsAdmitted cfg base (Sys.deleteRow i) := by
  mvcgen [Sys.deleteRow, -Sys.deleteRow_keepsHeld]

@[local spec 2000] theorem Sys.claimRow_keepsAdmitted (i : Nat) (expected : Status) (token : String) :
    Sys.KeepsAdmitted cfg base (Sys.claimRow i expected token) := by
  mvcgen [Sys.claimRow, -Sys.claimRow_keepsHeld]

@[local spec 2000] theorem Job.record_keepsAdmitted (j : Job) : Sys.KeepsAdmitted cfg base j.record := by
  mvcgen [Job.record, -Job.record_keepsHeld]

@[local spec 2000] theorem Job.fromStorage_keepsAdmitted (p : String) :
    Sys.KeepsAdmitted cfg base (Job.fromStorage p) := by
  mvcgen [Job.fromStorage, -Job.fromStorage_keepsHeld]

@[local spec 2000] theorem Job.loadById_keepsAdmitted (i : Nat) : Sys.KeepsAdmitted cfg base (Job.loadById i) := by
  mvcgen [Job.loadById]

@[local spec 2000] theorem Job.writeNewRecord_keepsAdmitted (j : Job) (i : Nat) :
    Sys.KeepsAdmitted cfg base (j.writeNewRecord i) := by
  mvcgen [Job.writeNewRecord, -Job.writeNewRecord_keepsHeld]

@[local spec 2000] theorem Job.save_keepsAdmitted : JobAct.KeepsAdmitted cfg base Job.save := by
  mvcgen -trivial [Job.save, -Job.save_keepsHeld]
  all_goals assumption

@[local spec 2000] theorem Job.refresh_keepsAdmitted : JobAct.KeepsAdmitted cfg base Job.refresh := by
  mvcgen [Job.refresh, -Job.refresh_keepsHeld]

@[local spec 2000] theorem Job.compress_keepsAdmitted (j : Job) : Sys.KeepsAdmitted cfg base j.compress := by
  mvcgen -trivial [Job.compress, Job.ensureIdle, -Job.compress_keepsHeld]
  all_goals assumption

theorem Job.act_keepsAdmitted {α : Type} (j : Job) {x : JobAct α} (keeps : JobAct.KeepsAdmitted cfg base x) :
    Sys.KeepsAdmitted cfg base (j.act x) := by
  mvcgen [Job.act]
  all_goals exact JobAct.admitted_of_run keeps ‹_› ‹_›

@[local spec 2000] theorem JobContext.open_keepsAdmitted (i : Nat) (name path : String) :
    Sys.KeepsAdmitted cfg base (JobContext.open i name path) := by
  mvcgen [JobContext.open, -JobContext.open_keepsHeld]

@[local spec 2000] theorem JobContext.record_keepsAdmitted (c : JobContext) : Sys.KeepsAdmitted cfg base c.record := by
  mvcgen [JobContext.record, -JobContext.record_keepsHeld]

@[local spec 2000] theorem JobContext.storedStatus_keepsAdmitted (c : JobContext) :
    Sys.KeepsAdmitted cfg base c.storedStatus := by
  mvcgen [JobContext.storedStatus, -JobContext.storedStatus_keepsHeld]

@[local spec 2000] theorem JobContext.cancelRequested_keepsAdmitted (c : JobContext) :
    Sys.KeepsAdmitted cfg base c.cancelRequested := by
  mvcgen [JobContext.cancelRequested, -JobContext.cancelRequested_keepsHeld]

@[local spec 2000] theorem JobContext.syncIndex_keepsAdmitted (c : JobContext) (src dst : Status) :
    Sys.KeepsAdmitted cfg base (c.syncIndex src dst) := by
  mvcgen [JobContext.syncIndex, -JobContext.syncIndex_keepsHeld]

@[local spec 2000] theorem JobContext.transition_keepsAdmitted (c : JobContext) (src dst : Status) :
    Sys.KeepsAdmitted cfg base (c.transition src dst) := by
  mvcgen [JobContext.transition, -JobContext.transition_keepsHeld]

@[local spec 2000] theorem JobContext.abort_keepsAdmitted (c : JobContext) (f : Failure) :
    Sys.KeepsAdmitted cfg base (c.abort f) := by
  mvcgen [JobContext.abort, -JobContext.abort_keepsHeld]

@[local spec 2000] theorem JobContext.claimRetry_keepsAdmitted (c : JobContext) (token : String) (total : Nat) :
    ∀ n, Sys.KeepsAdmitted cfg base (c.claimRetry token total n)
  | 0 => by mvcgen [JobContext.claimRetry, -JobContext.claimRetry_keepsHeld]
  | n + 1 => by
    have again := JobContext.claimRetry_keepsAdmitted c token total n
    mvcgen [JobContext.claimRetry, again, -JobContext.claimRetry_keepsHeld]

@[local spec 2000] theorem JobContext.claim_keepsAdmitted (c : JobContext) : Sys.KeepsAdmitted cfg base c.claim := by
  mvcgen [JobContext.claim, -JobContext.claim_keepsHeld]

@[local spec 2000] theorem openLog_keepsAdmitted (wd name : String) : Sys.KeepsAdmitted cfg base (openLog wd name) := by
  mvcgen [openLog, -openLog_keepsHeld]

@[local spec 2000] theorem runExecutable_keepsAdmitted (c : JobContext) (s : ScriptJob)
    (input : List (String × Json)) (server : ServerConfig) (wd : String) :
    Sys.KeepsAdmitted cfg base (runExecutable c s input server wd) := by
  mvcgen [runExecutable, -runExecutable_keepsHeld]

@[local spec 2000] theorem Master.children_keepsAdmitted (m : Nat) : Sys.KeepsAdmitted cfg base (Master.children m) := by
  mvcgen [Master.children, -Master.children_keepsHeld]

@[local spec 2000] theorem Master.refresh_keepsAdmitted (m : Nat) : Sys.KeepsAdmitted cfg base (Master.refresh m) := by
  mvcgen [Master.refresh, -Master.refresh_keepsHeld]

@[local spec 2000] theorem Master.waitForChildren_keepsAdmitted (m : Nat) (timeout : Option Duration)
    (cancelled : Bool) : Sys.KeepsAdmitted cfg base (Master.waitForChildren m timeout cancelled) := by
  mvcgen [Master.waitForChildren, -Master.waitForChildren_keepsHeld]

@[local spec 2000] theorem Pipeline.collectOutput_keepsAdmitted (s : ScriptJob) (wd : String) :
    Sys.KeepsAdmitted cfg base (Pipeline.collectOutput s wd) := by
  mvcgen [Pipeline.collectOutput, -Pipeline.collectOutput_keepsHeld]

@[local spec 2000] theorem Pipeline.runSteps_keepsAdmitted (j : Job) (c : JobContext) (src : Status) :
    Sys.KeepsAdmitted cfg base (Pipeline.runSteps j c src) := by
  mvcgen [Pipeline.runSteps, -Pipeline.runSteps_keepsHeld]

@[local spec 2000] theorem Pipeline.notifyMaster_keepsAdmitted (c : JobContext) :
    Sys.KeepsAdmitted cfg base (Pipeline.notifyMaster c) := by
  mvcgen [Pipeline.notifyMaster, -Pipeline.notifyMaster_keepsHeld]

@[local spec 2000] theorem Pipeline.execute_keepsAdmitted (j : Job) (c : JobContext) (src : Status) :
    Sys.KeepsAdmitted cfg base (Pipeline.execute j c src) := by
  mvcgen [Pipeline.execute, Pipeline.settle, Pipeline.wrapUp, -Pipeline.execute_keepsHeld]

@[local spec 2000] theorem Dispatch.preflight_keepsAdmitted (j : Job) :
    Sys.KeepsAdmitted cfg base (Dispatch.preflight j) := by
  mvcgen [Dispatch.preflight, -Dispatch.preflight_keepsHeld]

@[local spec 2000] theorem Dispatch.runModal_keepsAdmitted (c : JobContext) :
    JobAct.KeepsAdmitted cfg base (Dispatch.runModal c) := by
  mvcgen [Dispatch.runModal, -Dispatch.runModal_keepsHeld]

@[local spec 2000] theorem Dispatch.prepareManual_keepsAdmitted (c : JobContext) :
    JobAct.KeepsAdmitted cfg base (Dispatch.prepareManual c) := by
  mvcgen [Dispatch.prepareManual, Sys.createDirAll, -Dispatch.prepareManual_keepsHeld, -Sys.createDirAll_keepsHeld]

@[local spec 2000] theorem Dispatch.submitToQueue_keepsAdmitted (c : JobContext) :
    JobAct.KeepsAdmitted cfg base (Dispatch.submitToQueue c) := by
  mvcgen -trivial [Dispatch.submitToQueue, Sys.createDirAll, -Dispatch.submitToQueue_keepsHeld,
    -Sys.createDirAll_keepsHeld]
  -- the request the queue accepted is the one the configuration resolves, which it admits
  · rename_i submitted _ _
    have admitted := ‹JobSystem.Admitted cfg base _›
    refine admitted.submit ‹_› submitted ?_
    rw [← admitted.1]
    exact QueueConfig.admits_request ‹_› _ _
  all_goals assumption

/-- Every run of the `Dispatch.run` family that may not restart keeps the system admitted. -/
theorem Dispatch.run_keepsAdmitted : ∀ n,
    (∀ opts : RunOptions, opts.allowRestart = false → JobAct.KeepsAdmitted cfg base (Dispatch.run n opts)) ∧
    JobAct.KeepsAdmitted cfg base (Dispatch.start n) ∧ JobAct.KeepsAdmitted cfg base (Dispatch.startMaster n) ∧
    JobAct.KeepsAdmitted cfg base (Dispatch.startChildren n)
  | 0 => ⟨fun _ _ => by mvcgen [Dispatch.run], by mvcgen [Dispatch.start], by mvcgen [Dispatch.startMaster],
      by mvcgen [Dispatch.startChildren]⟩
  | n + 1 => by
    obtain ⟨run_n, start_n, master_n, children_n⟩ := Dispatch.run_keepsAdmitted n
    refine ⟨fun opts noRestart => ?_, ?_, ?_, ?_⟩
    · mvcgen [Dispatch.run, start_n]
      -- a run that may not restart never reaches the restart
      all_goals exact absurd ‹opts.allowRestart = true› (by rw [noRestart]; decide)
    · mvcgen [Dispatch.start, master_n]
    · mvcgen [Dispatch.startMaster, children_n]
    · -- the loop over the children runs each one from an admitted state
      have runChild (child : Job) : Sys.KeepsAdmitted cfg base (child.act (Dispatch.run n {})) :=
        Job.act_keepsAdmitted cfg base child (run_n {} rfl)
      mvcgen [Dispatch.startChildren, runChild] invariants
      · post⟨fun _ _ s => ⌜s.Admitted cfg base⌝, fun _ _ s => ⌜s.Admitted cfg base⌝⟩
      · post⟨fun _ _ s => ⌜s.Admitted cfg base⌝, fun _ _ s => ⌜s.Admitted cfg base⌝⟩
      all_goals exact fun admitted => admitted

theorem Dispatch.runJob_keepsAdmitted (opts : RunOptions) (noRestart : opts.allowRestart = false) :
    JobAct.KeepsAdmitted cfg base (Dispatch.runJob opts) := by
  have runs (n : Nat) := (Dispatch.run_keepsAdmitted cfg base n).1 opts noRestart
  mvcgen [Dispatch.runJob, Dispatch.fuel, runs, -Dispatch.runJob_keepsHeld]

end Frames

/-- A run of a job that may not restart hands the queuing system only requests the
configuration admits: it holds afterwards what it held before, and then admitted requests. -/
theorem Dispatch.runJob_submits_admitted (opts : RunOptions) (noRestart : opts.allowRestart = false) (j : Job)
    (v : JobSystem) :
    ∃ new, ((Dispatch.runJob opts).run j v).2.submissions = v.submissions ++ new ∧
      ∀ r ∈ new, v.config.queue.Admits r := by
  have ran : (Dispatch.runJob opts).run j v =
      ((((Dispatch.runJob opts).run j v).1.1, ((Dispatch.runJob opts).run j v).1.2),
        ((Dispatch.runJob opts).run j v).2) := rfl
  exact (JobAct.admitted_of_run (Dispatch.runJob_keepsAdmitted _ _ opts noRestart) v.admitted_self ran).2

/-! ### The check comes first -/

/-- Reading a job back from its record changes nothing but the handle, and there only its
status, its settings and its master. -/
theorem Job.refresh_spec (j : Job) (u : JobSystem) :
    ⦃fun j₀ s => ⌜j₀ = j ∧ s = u⌝⦄ Job.refresh
    ⦃post⟨fun st j' s => ⌜s = u ∧ ∃ server m, j' = { j with status := st, server, masterId := m }⌝,
      fun _ _ _ => ⌜True⌝⟩⦄ := by
  mvcgen [Job.refresh, Job.record, Sys.openRecord_spec, Sys.storedStatus, Sys.readAs, -Job.refresh_keepsHeld,
    -Job.record_keepsHeld, -Sys.storedStatus_keepsHeld, -Sys.readAs_keepsHeld, -Sys.openRecord_keepsHeld]
  rename_i pinned _ _ opened _ _ _ _ _ _ _ _ _
  obtain ⟨rfl, rfl⟩ := pinned
  exact ⟨opened.2, _, _, rfl⟩

theorem Job.refresh_run {j j' : Job} {u u' : JobSystem} {st : Status} (ran : Job.refresh.run j u = ((.ok st, j'), u')) :
    u' = u ∧ ∃ server m, j' = { j with status := st, server, masterId := m } := by
  have after := Job.refresh_spec j u j u ⟨rfl, rfl⟩
  simp only [wp, ExceptT.run, StateT.run, Id.run] at after ran
  simp_all


namespace Dispatch

variable {j : Job} {v : JobSystem} {e : JobError}

section Rejected

variable (valid : j.runnable.validateInput j.name j.input = .ok ()) (settings : j.server.validate = .ok ())
  (queued : j.server.runMode = .queue) (single : j.runnable.isMaster = false)
  (rejected : v.config.queue.resolve j.server = .error e)
include valid settings queued single rejected

theorem preflight_rejects : (preflight j).run.run v = (.error (.fault e), v) := by
  have refused : ⦃fun s => ⌜s = v⌝⦄ preflight j ⦃post⟨fun _ _ => ⌜False⌝, fun err s => ⌜err = .fault e ∧ s = v⌝⟩⦄ := by
    mvcgen [preflight, -preflight_keepsHeld]
    -- the checks before the queue pass, and the queue's is the rejection
    all_goals subst_vars
    all_goals simp_all
  have ran := Sys.of_triple refused v rfl
  revert ran
  rcases (preflight j).run.run v with ⟨_ | _, s⟩
  · rintro ⟨rfl, rfl⟩
    rfl
  · exact False.elim

theorem start_rejected (n : Nat) : (start (n + 1)).run j v = ((.error (.fault e), j), v) := by
  rw [start, JobAct.run_getThe_bind]
  have checked : (liftM (preflight j) : JobAct Unit).run j v = ((.error (.fault e), j), v) := by
    rw [JobAct.run_liftM, preflight_rejects valid settings queued single rejected]
  exact JobAct.run_bind_error checked

theorem run_rejected (editable : j.isEditable) (n : Nat) (opts : RunOptions) :
    (run (n + 1) opts).run j v = ((.error (.fault e), j), v) := by
  rw [run, JobAct.run_getThe_bind]
  have checked : (liftM (preflight j) : JobAct Unit).run j v = ((.error (.fault e), j), v) := by
    rw [JobAct.run_liftM, preflight_rejects valid settings queued single rejected]
  simp only [editable, if_true]
  exact JobAct.run_bind_error checked

theorem runJob_rejected (editable : j.isEditable) (opts : RunOptions) :
    (runJob opts).run j v = ((.error (.fault e), j), v) := by
  have fuelled : (liftM fuel : JobAct Nat).run j v = ((.ok (4 * (v.index.rows.length + 2)), j), v) := rfl
  have positive : 4 * (v.index.rows.length + 2) = 4 * v.index.rows.length + 7 + 1 := by omega
  rw [runJob, JobAct.run_bind_ok fuelled, positive]
  exact run_rejected valid settings queued single rejected editable _ opts

end Rejected

section Stored

variable {id : Nat} {st : Status} {j' : Job} {v' : JobSystem}
  (valid : j.runnable.validateInput j.name j.input = .ok ()) (single : j.runnable.isMaster = false)
include valid single

theorem run_rejected_stored (locked : j.isEditable = false) (saved : j.identity.jobId = some id)
    (refreshed : Job.refresh.run j v = ((.ok st, j'), v')) (startable : st = .created ∨ st = .suspended)
    (settings : j'.server.validate = .ok ()) (queued : j'.server.runMode = .queue)
    (rejected : v.config.queue.resolve j'.server = .error e) (n : Nat) (opts : RunOptions) :
    (run (n + 2) opts).run j v = ((.error (.fault e), j'), v) := by
  obtain ⟨same, server, m, rfl⟩ := Job.refresh_run refreshed
  subst v'
  rw [run, JobAct.run_getThe_bind]
  simp only [locked, Bool.false_eq_true, ↓reduceIte, JobAct.run_getThe_bind]
  have identified : (liftM (Sys.ofOutcome j.jobId) : JobAct Nat).run j v = ((.ok id, j), v) := by
    simp [JobAct.run_liftM, Job.jobId, saved, Sys.ofOutcome]
    rfl
  rw [JobAct.run_bind_ok identified, JobAct.run_bind_ok refreshed]
  simp only [startable, if_true]
  -- the job as read back goes through the same first check, now on the settings it holds
  exact start_rejected (j := { j with status := st, server, masterId := m }) valid settings queued single rejected n

theorem runJob_rejected_stored (locked : j.isEditable = false) (saved : j.identity.jobId = some id)
    (refreshed : Job.refresh.run j v = ((.ok st, j'), v')) (startable : st = .created ∨ st = .suspended)
    (settings : j'.server.validate = .ok ()) (queued : j'.server.runMode = .queue)
    (rejected : v.config.queue.resolve j'.server = .error e) (opts : RunOptions) :
    (runJob opts).run j v = ((.error (.fault e), j'), v) := by
  have fuelled : (liftM fuel : JobAct Nat).run j v = ((.ok (4 * (v.index.rows.length + 2)), j), v) := rfl
  have enough : 4 * (v.index.rows.length + 2) = 4 * v.index.rows.length + 6 + 2 := by omega
  rw [runJob, JobAct.run_bind_ok fuelled, enough]
  exact run_rejected_stored valid single locked saved refreshed startable settings queued rejected _ opts

end Stored

/-- The settings a run checks before it writes anything: the handle's while the job may still
change, or else those read back from its record, when the record lets the job start. -/
def FirstChecked (j : Job) (v : JobSystem) (server : ServerConfig) : Prop :=
  (j.isEditable ∧ server = j.server) ∨
    (j.isEditable = false ∧ j.identity.jobId.isSome ∧
      ∃ st j', Job.refresh.run j v = ((.ok st, j'), v) ∧ (st = .created ∨ st = .suspended) ∧ j'.server = server)

/-- A run that may not restart checks a queued job's queue before it writes or submits
anything. -/
theorem queue_checked_before_submitting (opts : RunOptions) (noRestart : opts.allowRestart = false) (j : Job)
    (v : JobSystem) :
    (∃ new, ((runJob opts).run j v).2.submissions = v.submissions ++ new ∧ ∀ r ∈ new, v.config.queue.Admits r) ∧
    ∀ server e, FirstChecked j v server → j.runnable.validateInput j.name j.input = .ok () →
      j.runnable.isMaster = false → server.validate = .ok () → server.runMode = .queue →
      v.config.queue.resolve server = .error e →
      (∃ m, e = .configuration m) ∧ ∃ j', (runJob opts).run j v = ((.error (.fault e), j'), v) := by
  refine ⟨runJob_submits_admitted opts noRestart j v, ?_⟩
  intro server e checked valid single settings queued rejected
  refine ⟨QueueConfig.resolve_error rejected, ?_⟩
  rcases checked with ⟨editable, rfl⟩ | ⟨locked, saved, st, j', refreshed, startable, rfl⟩
  · exact ⟨j, runJob_rejected valid settings queued single rejected editable opts⟩
  · obtain ⟨id, saved⟩ := Option.isSome_iff_exists.1 saved
    exact ⟨j', runJob_rejected_stored valid single locked saved refreshed startable settings queued rejected opts⟩

/-- A job asking for eight cores of a queue that allows four is refused before anything is
saved. -/
theorem queue_checked_before_submitting_over_limit :
    ({} : RunOptions).allowRestart = false ∧
      ∃ j', (runJob {}).run
          { identity := default, server := { runMode := .queue, cores := 8 }, input := [],
            runnable := { body := .function fun _ => .ok .null } }
          { config := { queue := { limits := [("short", { coresMax := some 4 })], defaultQueue := some "short" } },
            registry := default, disk := default } =
        ((.error (.fault (.configuration "queue 'short' allows at most 4 cores, 8 requested")), j'),
          { config := { queue := { limits := [("short", { coresMax := some 4 })], defaultQueue := some "short" } },
            registry := default, disk := default }) :=
  ⟨rfl, ((queue_checked_before_submitting {} rfl _ _).2 { runMode := .queue, cores := 8 } _ (.inl ⟨rfl, rfl⟩) rfl rfl
    rfl rfl rfl).2⟩

end Dispatch

end JobFlow

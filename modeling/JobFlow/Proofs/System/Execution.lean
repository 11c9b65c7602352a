import Mathlib
import JobFlow.Proofs.System.JobRecord

/-!
# Executing a claimed job

A claimed job, its record and its row at `busy`, is driven by `Pipeline.execute` to a status
that has ended, whatever its body does and whether a cancel was asked for.
-/

open Std.Do

set_option mvcgen.warning false

namespace JobFlow

namespace Pipeline

/-- The status a job ends in with this output. -/
def finalStatus (out : Json) : Status := if unconverged out then .notConverged else .finished

/-- `out` is an output the body of `j` produces: a function's result through
`functionOutput`, or what a command's collector reads through `commandOutput`. -/
def Produces (j : Job) (out : Json) : Prop :=
  match j.runnable.body with
  | .function f => ∃ v, f j.input = .ok v ∧ out = functionOutput v
  | .executable s => ∃ d v, s.collect d j.identity.workingDirectory = .ok v ∧ out = commandOutput v
  | .master => False

/-- What the steps ask of the body of `j`, run for the job of `c`: its results are sorted
JSON values, and its command leaves the job's record alone. -/
structure Behaves (c : JobContext) (j : Job) : Prop where
  function : ∀ f, j.runnable.body = .function f → ∀ v, f j.input = .ok v → v.Sorted
  collect : ∀ s, j.runnable.body = .executable s → ∀ d v,
    s.collect d j.identity.workingDirectory = .ok v → v.Sorted
  shell : ∀ s, j.runnable.body = .executable s → ∀ line, s.command j.server = .ok line → ∀ d,
    Disk.Keeps (Disk.locate c.storagePath) d (Shell.runLine d j.identity.workingDirectory
      (commandEnv c j.server j.identity.workingDirectory) (Path.join j.identity.workingDirectory stdoutFile)
      (Path.join j.identity.workingDirectory stderrFile) line).1

/-- The job of `c` has ended well from the tree `t` its record held: its body produced `out`,
which is written into the record with the status `st` that `out` calls for, and the row
shows `st`. -/
def EndedWell (c : JobContext) (j : Job) (t : Json) (st : Status) (s : JobSystem) : Prop :=
  ∃ out, Produces j out ∧ st = finalStatus out ∧
    c.Shows ((t.setAt Layout.outputAt out).setAt Layout.statusAt (.str st.name)) st s

theorem check_collect_final (out : Json) (job : String) : Status.check .collect (finalStatus out) job = .ok () := by
  unfold finalStatus
  split <;> rfl

theorem finalStatus_isTerminal (out : Json) : (finalStatus out).isTerminal := by
  unfold finalStatus
  split <;> rfl

theorem functionOutput_sorted {v : Json} (sorted : v.Sorted) : (functionOutput v).Sorted := by
  unfold functionOutput
  split
  · refine Json.sorted_mkObj fun kv mem => ?_
    simp only [List.mem_cons, List.not_mem_nil, or_false] at mem
    rcases mem with rfl | rfl
    · exact Json.Sorted.of_not_obj (by simp)
    · exact sorted
  · refine Json.sorted_mkObj fun kv mem => ?_
    rw [List.mem_singleton.1 mem]
    exact sorted

theorem commandOutput_sorted {v : Json} (sorted : v.Sorted) : (commandOutput v).Sorted := by
  cases v with
  | obj fields => exact sorted
  | _ =>
    refine Json.sorted_mkObj fun kv mem => ?_
    rw [List.mem_singleton.1 mem]
    exact sorted

section Output

variable {c : JobContext} {j : Job} {t : Json} {s : JobSystem}

theorem produces_function {f : JobFunction} {v : Json} (body : j.runnable.body = .function f)
    (ok : f j.input = .ok v) : Produces j (functionOutput v) := by
  simp only [Produces, body]
  exact ⟨v, ok, rfl⟩

theorem produces_command {sj : ScriptJob} {d : Disk} {v : Json} (body : j.runnable.body = .executable sj)
    (ok : sj.collect d j.identity.workingDirectory = .ok v) : Produces j (commandOutput v) := by
  simp only [Produces, body]
  exact ⟨d, v, ok, rfl⟩

/-- An output written over the tree at `collect`, with the status it calls for, ends the job
well: the `collect` written on the way is gone under the final status. -/
theorem endedWell_of_written {out : Json} (produces : Produces j out)
    (shows : c.Shows (((t.setAt Layout.statusAt (.str Status.collect.name)).setAt Layout.outputAt out).setAt
      Layout.statusAt (.str (finalStatus out).name)) (finalStatus out) s) : EndedWell c j t (finalStatus out) s := by
  refine ⟨out, produces, rfl, ?_⟩
  rwa [Json.setAt_shadow Layout.statusAt_apart_outputAt.1 Layout.statusAt_apart_outputAt.2] at shows

end Output

section Steps

variable (c : JobContext) (j : Job) (t : Json)

/-- Where the steps leave a claimed job: ended well, with the output its body produced
written and the status it calls for, or on its way, when they answer a failure or fail. -/
theorem runSteps_spec (behaves : Behaves c j)
    (found : t.at? Layout.statusAt = some (.str Status.busy.name)) :
    ⦃fun s => ⌜c.Shows t .busy s⌝⦄ runSteps j c .busy
    ⦃post⟨fun r s => ⌜match r with
        | .ok st => EndedWell c j t st s
        | .error _ => c.Midway t s⌝,
      fun e s => ⌜e.IsFault ∧ c.Midway t s⌝⟩⦄ := by
  -- the tree on the way: `running` written, then `collect`, then the output
  have atCollect := Json.at?_setAt_self t Layout.statusAt (.str Status.collect.name)
  have starts := @JobContext.transition_shows c t .busy .running rfl found
  have collects := @JobContext.transition_shows c (t.setAt Layout.statusAt (.str Status.running.name))
    .running .collect rfl (Json.at?_setAt_self _ _ _)
  rw [Json.setAt_setAt_self] at collects
  have runs := fun s shell => @runExecutable_spares c (t.setAt Layout.statusAt (.str Status.running.name))
    .running c s j.input j.server j.identity.workingDirectory shell
  have reads := fun s => @collectOutput_reads c (t.setAt Layout.statusAt (.str Status.collect.name))
    .collect s j.identity.workingDirectory
  have opens := JobContext.record_shows c (t.setAt Layout.statusAt (.str Status.collect.name)) .collect
  have writes := fun r out (sorted : Json.Sorted out) =>
    JobContext.writeOutput_shows c (t.setAt Layout.statusAt (.str Status.collect.name)) .collect (r := r) sorted
  have finishes := fun out => @JobContext.transition_shows c
    ((t.setAt Layout.statusAt (.str Status.collect.name)).setAt Layout.outputAt out)
    .collect (if unconverged out then .notConverged else .finished) (check_collect_final out _)
    (by rw [Json.at?_setAt_of_apart Layout.statusAt_apart_outputAt.2 Layout.statusAt_apart_outputAt.1, atCollect])
  mvcgen [runSteps, JobContext.cancelRequested, starts, collects, runs, reads, opens, writes, finishes]
  -- a function: cancelled, failed or panicked while running, cancelled at `collect`
  · exact ⟨.running, rfl, ‹_›⟩
  · exact ⟨.running, rfl, ‹_›⟩
  · exact ⟨.running, rfl, ‹_›⟩
  · exact ⟨.collect, rfl, ‹_›⟩
  -- its output is written and the job ends, or the write fails
  · exact functionOutput_sorted (behaves.function _ ‹_› _ ‹_›)
  · exact endedWell_of_written (produces_function ‹_› ‹_›) ‹_›
  · exact fun fault shows => ⟨fault, .collect, rfl, shows⟩
  -- a command: it runs, and its collector is read at `collect`
  · exact behaves.shell _ ‹_›
  · exact ⟨.running, rfl, ‹_›⟩
  · exact ⟨.collect, rfl, ‹_ ∧ _›.1⟩
  · exact ⟨.collect, rfl, ‹_ ∧ _›.1⟩
  · exact ‹_ ∧ _›.1
  · rename_i collected _ _ _ _ _
    obtain ⟨v, found, rfl⟩ := collected.2 _ rfl
    exact commandOutput_sorted (behaves.collect _ ‹_› _ _ found)
  · rename_i collected _ _ _ _ _ _ _ _ _ _ _
    obtain ⟨v, found, rfl⟩ := collected.2 _ rfl
    exact endedWell_of_written (produces_command ‹_› found) ‹_›
  · exact fun fault shows => ⟨fault, .collect, rfl, shows⟩
  · exact fun fault shows => ⟨fault, .running, rfl, shows⟩
  -- a master is not run here
  · exact ⟨trivial, .running, rfl, ‹_›⟩

/-- What an execution of a claimed job comes to, from the tree `t` its record held when it
was claimed. -/
def Ends (c : JobContext) (j : Job) (t : Json) (report : Report) (s : JobSystem) : Prop :=
  report.jobId = c.jobId ∧
    match report.failure with
    | some f => report.status = .aborted ∧ c.Shows ((t.setAt Layout.failureAt f.toJson).setAt Layout.statusAt
        (.str Status.aborted.name)) .aborted s
    | none => EndedWell c j t report.status s

/-- An action that keeps any record and row that show a status that has ended keeps what
an execution came to. -/
theorem Ends.spared {α : Type} {x : Sys α} {report : Report}
    (spares : ∀ T st, T.at? Layout.statusAt = some (.str st.name) → st.isTerminal → Sys.SparesAndReturns c T st x) :
    ⦃fun s => ⌜Ends c j t report s⌝⦄ x ⦃post⟨fun _ s => ⌜Ends c j t report s⌝, fun _ _ => ⌜False⌝⟩⦄ := by
  apply Triple.iff.mpr
  rintro s ⟨id, ended⟩
  -- the record and row show a status that has ended, and what `x` keeps of them is enough
  have lift : ∀ T st, (∀ s', c.Shows T st s' → Ends c j t report s') → T.at? Layout.statusAt = some (.str st.name) →
      st.isTerminal → c.Shows T st s →
      (wp⟦x⟧ (post⟨fun _ s => ⌜Ends c j t report s⌝, fun _ _ => ⌜False⌝⟩) s).down := by
    intro T st back found ended shows
    exact (WP.wp x).mono (post⟨fun _ s => ⌜c.Shows T st s⌝, fun _ _ => ⌜False⌝⟩)
      (post⟨fun _ s => ⌜Ends c j t report s⌝, fun _ _ => ⌜False⌝⟩)
      ⟨fun _ s' shows' => back s' shows', ExceptConds.entails.refl _⟩ s
      (spares T st found ended s shows)
  cases failure : report.failure with
  | some f =>
    rw [failure] at ended
    obtain ⟨aborted, shows⟩ := ended
    exact lift _ _ (fun s' shows' => ⟨id, by rw [failure]; exact ⟨aborted, shows'⟩⟩) (Json.at?_setAt_self _ _ _) rfl shows
  | none =>
    rw [failure] at ended
    obtain ⟨out, produces, final, shows⟩ := ended
    exact lift _ _ (fun s' shows' => ⟨id, by rw [failure]; exact ⟨out, produces, final, shows'⟩⟩)
      (Json.at?_setAt_self _ _ _) (by rw [final]; exact finalStatus_isTerminal out) shows

/-- The steps of a claimed job end with a report: the job ended well, or it is aborted from
wherever the steps left it. -/
theorem settle_spec (behaves : Behaves c j) (found : t.at? Layout.statusAt = some (.str Status.busy.name)) :
    ⦃fun s => ⌜c.Shows t .busy s⌝⦄ settle j c .busy
    ⦃post⟨fun report s => ⌜Ends c j t report s⌝, fun _ _ => ⌜False⌝⟩⦄ := by
  have steps := Sys.attempt_spec (runSteps_spec c j t behaves found)
  have aborts := fun f => JobContext.abort_midway c t f
  mvcgen [settle, steps, aborts]
  -- an error of the system around the job: the abort it calls for ends in `aborted`, so the
  -- report carries the failure
  obtain ⟨rfl, shows⟩ := ‹_ ∧ _›
  exact ⟨rfl, by simpa using shows⟩

/-- Packing the working directory and refreshing the master keep what the execution came to. -/
theorem wrapUp_spec (outside : ¬ Disk.locate j.identity.workingDirectory <+: Disk.locate c.storagePath)
    (report : Report) :
    ⦃fun s => ⌜Ends c j t report s⌝⦄ wrapUp j c report
    ⦃post⟨fun _ s => ⌜Ends c j t report s⌝, fun _ _ => ⌜False⌝⟩⦄ := by
  have compresses := @Ends.spared c j t _ _ report
    (fun T st _ _ => Sys.attempt_spares c T st (Job.compress_spares j outside))
  have notifies := @Ends.spared c j t _ _ report (fun T st found ended => notifyMaster_spares found ended ended c)
  mvcgen [wrapUp, compresses, notifies]

/-- A claimed job that is not a master ends: `execute` returns, with the report and the
system as `Ends` says, whatever its body does and whatever cancel was asked for. -/
theorem execute_ends (notMaster : j.runnable.isMaster = false) (behaves : Behaves c j)
    (outside : ¬ Disk.locate j.identity.workingDirectory <+: Disk.locate c.storagePath)
    (found : t.at? Layout.statusAt = some (.str Status.busy.name)) :
    ⦃fun s => ⌜c.Shows t .busy s⌝⦄ execute j c .busy
    ⦃post⟨fun report s => ⌜Ends c j t report s⌝, fun _ _ => ⌜False⌝⟩⦄ := by
  have settles := settle_spec c j t behaves found
  have wraps := wrapUp_spec c j t outside
  mvcgen [execute, settles, wraps]
  exact Bool.false_ne_true (notMaster.symm.trans ‹_›)

end Steps

/-- A job whose function answers an empty object, its record beside its working directory. -/
def emptyObjectJob : Job where
  identity :=
    { jobName := "j", jobType := "EmptyObject", project := "/p", workingDirectory := "/p/j_files"
      storagePath := "/p/j.jrk" }
  server := {}
  input := []
  runnable := { body := .function fun _ => .ok (.obj []) }

theorem emptyObjectJob_behaves (c : JobContext) : Behaves c emptyObjectJob := by
  refine ⟨fun f body v ok => ?_, fun _ body => (nomatch body), fun _ body => (nomatch body)⟩
  cases body
  cases ok
  exact @Json.sorted_mkObj [] nofun

/-- The job above ends well from a record that shows it busy: its hypotheses all hold there. -/
theorem execute_ends_emptyObject :
    emptyObjectJob.runnable.isMaster = false ∧ Behaves ⟨1, "j", "/p/j.jrk"⟩ emptyObjectJob ∧
      ¬ Disk.locate emptyObjectJob.identity.workingDirectory <+: Disk.locate "/p/j.jrk" ∧
      (Json.obj [("generic", .obj [("status", .str "busy")])]).at? Layout.statusAt = some (.str Status.busy.name) ∧
      ⦃fun s => ⌜JobContext.Shows ⟨1, "j", "/p/j.jrk"⟩ (.obj [("generic", .obj [("status", .str "busy")])]) .busy s⌝⦄
      execute emptyObjectJob ⟨1, "j", "/p/j.jrk"⟩ .busy
      ⦃post⟨fun report s => ⌜Ends ⟨1, "j", "/p/j.jrk"⟩ emptyObjectJob
          (.obj [("generic", .obj [("status", .str "busy")])]) report s⌝, fun _ _ => ⌜False⌝⟩⦄ := by
  have behaves := emptyObjectJob_behaves ⟨1, "j", "/p/j.jrk"⟩
  have outside : ¬ Disk.locate emptyObjectJob.identity.workingDirectory <+: Disk.locate "/p/j.jrk" := by
    decide +kernel
  exact ⟨rfl, behaves, outside, rfl, execute_ends _ _ _ rfl behaves outside rfl⟩

end Pipeline

end JobFlow

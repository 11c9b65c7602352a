import JobFlow.Service.Session

/-!
# Steps of a session

Each step names what it does in `do`.
-/

namespace JobFlow.Service

open Step

/-- Reads a restart policy written as its name. -/
def readRestartPolicy (path : String) (d : Doc) : DocRead RestartPolicy := do
  let i ← Doc.readVariant ["in_place", "copy_to_new"] path d
  pure (if i = 0 then .inPlace else .copyToNew)

/-- A step's time limit in milliseconds, if it has one. -/
def limitOf (r : Request) : Step (Option Duration) := do
  return (← answer (r.nat? "timeout_ms")).map Duration.ofMillis

/-- The job context of the job a step names, opened from its index row. -/
def contextOf (r : Request) : Step JobContext := do
  let id ← jobIdOf r
  sys (JobContext.ofRow id)

/-- An error object with the handle after the step beside it. -/
def withHandle (e : JobError) (j : Job) : Json :=
  match (Fault.job e).toJson with
  | .obj fields => Json.mkObj (fields ++ [("handle", summary j)])
  | other => other

/-- Steps that make, change and run jobs. -/
def jobStep (r : Request) : String → Step Json
  | "create" => do
    let p ← projectOf r
    let name ← answer (r.str "name")
    let j ← sys (p.createJob name (← answer (r.str "type")))
    setHandle ((← answer (r.str? "as")).getD name) j
    return summary j
  | "set_input" => do
    let h ← answer (r.str "job")
    let j ← answer (lift ((← handle h).setInput (← answer (r.str "key")) (← answer (r.need "value"))))
    setHandle h j
    return .str "ok"
  | "replace_input" => do
    let h ← answer (r.str "job")
    let j ← handle h
    let input ← match ← answer (r.need "input") with
      | .obj fields => pure fields
      | _ => throw (.badInput "input must be an object")
    setHandle h (← answer (lift (j.replaceInput input)))
    return .str "ok"
  | "server" => do
    let h ← answer (r.str "job")
    let j ← handle h
    answer (lift j.ensureEditable)
    let s ← answer (readJson ServerConfig.read (Json.merge j.server.toJson (← answer (r.need "set"))))
    setHandle h { j with server := s }
    return s.toJson
  | "set_policy" => do
    let h ← answer (r.str "job")
    let policy ← read r "policy" AggregatePolicy.read
    setHandle h (← answer (lift ((← handle h).setInput Master.policyKey (.str policy.name))))
    return .str "ok"
  | "save" => do return .ofNat (← act (← answer (r.str "job")) Job.save)
  | "run" => do
    let h ← answer (r.str "job")
    let opts : RunOptions ← match r.get? "restart" with
      | none | some .null => pure {}
      | some v => do pure { allowRestart := true, policy := ← answer (readJson readRestartPolicy v) }
    let (res, j) ← actKeep h (Dispatch.runJob opts)
    match res with
    | .ok out =>
      if let .background id := out then
        modifyThe Session fun s => { s with pending := (s.pending.filter (·.1 != h)) ++ [(h, id)] }
      return Json.mkObj (outcomeFields out ++ [("handle", summary j)])
    | .error e => return withHandle e j
  | "wait_background" => do
    let h ← answer (r.str "job")
    let _ ← handle h
    let some id := (← getThe Session).pending.lookup h
      | throw (.badInput s!"no background run for job handle '{h}'")
    modifyThe Session fun s => { s with pending := s.pending.filter (·.1 != h) }
    let rep ← sys (Dispatch.runById id)
    return Json.mkObj (reportFields rep)
  | "wrapper_run" => do
    let id ← jobIdOf r
    let wd ← match ← answer (r.str? "working_directory") with
      | some wd => pure wd
      | none => do pure (← handle (← answer (r.str "job"))).identity.workingDirectory
    return reportJson (← sys (Dispatch.wrapperRun wd id))
  | "run_by_id" => do return reportJson (← sys (Dispatch.runById (← jobIdOf r)))
  | "transition" => do
    let c ← contextOf r
    let src ← read r "from" Status.read
    let dst ← read r "to" Status.read
    sys (c.transition src dst)
    return .str "ok"
  | "claim" => do
    let c ← contextOf r
    return Json.mkObj [("from", .str (← sys c.claim).name)]
  | "abort" => do
    let c ← contextOf r
    let f ← read r "failure" Failure.read
    return .str (← sys (c.abort f)).name
  | "stored_status" => do return .str (← sys (← contextOf r).storedStatus).name
  | "cancel_requested" => do return .bool (← sys (← contextOf r).cancelRequested)
  | other => throw (.badInput s!"unknown step {other}")

/-- Steps that read jobs. -/
def readStep (r : Request) : String → Step Json
  | "refresh" => do return .str (← act (← answer (r.str "job")) Job.refresh).name
  | "info" => do
    let j ← handle (← answer (r.str "job"))
    let compressed ← sys j.isCompressed
    return Json.mkObj (summaryFields j ++ [("input", .obj j.input), ("server", j.server.toJson),
      ("identity", j.identity.toJson), ("compressed", .bool compressed)])
  | "output" => do
    let j ← handle (← answer (r.str "job"))
    sys (j.output (← answer (r.str "path")))
  | "output_all" => do sys (← handle (← answer (r.str "job"))).outputAll
  | "failure" => do return failureJson (← sys (← handle (← answer (r.str "job"))).failure)
  | "record" => do
    let j ← handle (← answer (r.str "job"))
    let path ← answer (r.strD "path" "")
    let v ← sys (do Sys.ofOutcome ((← j.record).readOpt path))
    return v.getD .null
  | "record_write" => do
    let j ← handle (← answer (r.str "job"))
    let path ← answer (r.str "path")
    let v ← answer (r.need "value")
    sys (do let _ ← Sys.writeRecord (← j.record) path v)
    return .str "ok"
  | "index_record" => do
    let j ← handle (← answer (r.str "job"))
    let row ← sys (do Sys.row (← Sys.ofOutcome j.jobId))
    return sessionRowJson row
  | "row" => do
    let id ← jobIdOf r
    return ((← sys (Sys.row? id)).map sessionRowJson).getD .null
  | other => jobStep r other

/-- Steps on projects, copies and archives. -/
def projectStep (r : Request) : String → Step Json
  | "copy" => do
    let j ← handle (← answer (r.str "job"))
    let dest ← answer (r.str "to")
    let c ← sys (j.copyTo dest (← answer (r.boolD "with_output" false)))
    setHandle ((← answer (r.str? "as")).getD dest) c
    let compressed ← sys c.isCompressed
    return Json.mkObj (summaryFields c ++ [("compressed", .bool compressed)])
  | "compress" => do return .ofNat (← sys (← handle (← answer (r.str "job"))).compress)
  | "decompress" => do return .ofNat (← sys (← handle (← answer (r.str "job"))).decompress)
  | "is_compressed" => do return .bool (← sys (← handle (← answer (r.str "job"))).isCompressed)
  | "table" => do
    let p ← projectOf r
    let f ← answer (filterOf ((r.get? "filter").getD (.obj [])))
    return .arr ((← sys (p.table f)).map IndexRow.brief)
  | "cancel" => do return .str (← sys (Project.cancelJob (← jobIdOf r))).name
  | "suspend" => do return .str (← sys (Project.suspendJob (← jobIdOf r))).name
  | "remove" => do
    sys (Project.removeJob (← jobIdOf r))
    return .str "ok"
  | "remove_by_name" => do
    let p ← projectOf r
    sys (p.removeByName (← answer (r.str "name")))
    return .str "ok"
  | "queue_status" => do
    return ((← sys (Project.queueStatus (← jobIdOf r))).map (fun s => Json.str s.name)).getD .null
  | "wait_for_job" => do
    let id ← jobIdOf r
    return .str (← sys (Project.waitForJob id (← limitOf r))).name
  | "repair" => do
    let p ← projectOf r
    let rep ← sys p.repair
    let ids (xs : List Nat) : Json := .arr (xs.map Json.ofNat)
    return Json.mkObj [("updated", .arr (rep.updated.map (fun u =>
        .arr [.ofNat u.1, .str u.2.1.name, .str u.2.2.name]))),
      ("removed", ids rep.removed), ("skipped", ids rep.skipped)]
  | "rebuild" => do
    let p ← projectOf r
    return .arr ((← sys p.rebuild).map Json.ofNat)
  | "subproject" => do
    let p ← projectOf r
    let q ← sys (p.subproject (← answer (r.str "name")))
    return Json.mkObj [("name", .str ((Path.fileName? q.path).getD "")), ("path", .str q.path)]
  | "tree" => do
    let p ← projectOf r
    let nodes ← sys p.recordNames
    let groups ← sys p.groups
    let base := [("nodes", Json.ofStrings nodes), ("groups", Json.ofStrings groups)]
    match ← answer (r.str? "child") with
    | none => return Json.mkObj base
    | some name =>
      let entry := match ← trySys (p.child name) with
        | .ok (.job path) => Json.mkObj [("job", .str path)]
        | .ok (.project q) => Json.mkObj [("project", .str q.path)]
        | .error f => f.toJson
      let contains ← sys (p.contains name)
      return Json.mkObj (base ++ [("child", entry), ("contains", .bool contains)])
  | "load" => do
    let j ← sys (Job.loadById (← jobIdOf r))
    setHandle ((← answer (r.str? "as")).getD j.name) j
    return summary j
  | "load_by_name" => do
    let p ← projectOf r
    let name ← answer (r.str "name")
    let j ← sys (p.loadByName name)
    setHandle ((← answer (r.str? "as")).getD name) j
    return summary j
  | "load_system" => do
    let j ← sys (Job.loadById (← answer (r.nat "id")))
    setHandle ((← answer (r.str? "as")).getD j.name) j
    return summary j
  | other => readStep r other

/-- Steps on masters. -/
def masterStep (r : Request) : String → Step Json
  | "add_child" => do
    let m ← handle (← answer (r.str "master"))
    return .ofNat (← act (← answer (r.str "job")) (Master.addChild m))
  | "children" => do return .arr ((← sys (Master.children (← jobIdOf r))).map IndexRow.brief)
  | "master_start" => do return .str (← act (← answer (r.str "job")) Dispatch.startMasterJob).name
  | "master_refresh" => do return .str (← sys (Master.refresh (← jobIdOf r))).name
  | "aggregate" => do
    let id ← jobIdOf r
    let policy ← match r.get? "policy" with
      | none | some .null => pure .collectAll
      | some v => answer (readJson AggregatePolicy.read v)
    return .str (← sys (Master.aggregate id policy)).name
  | "wait_children" => do
    let id ← jobIdOf r
    let rep ← sys (Master.waitForChildren id (← limitOf r) (← answer (r.boolD "cancelled" false)))
    return rep.toJson
  | other => projectStep r other

/-- Runs an action on the queuing system; a session without one has none to act on. -/
def onScheduler (f : Scheduler → Scheduler) : Step Unit := do
  match (← getThe Session).system.scheduler with
  | some q => modifyThe Session fun s => { s with system := { s.system with scheduler := some (f q) } }
  | none => throw (.badInput "no queue adapter")

/-- Replaces the disk of the session's system. -/
def setDisk (d : Disk) : Step Unit :=
  modifyThe Session fun s => { s with system := { s.system with disk := d } }

/-- A path below the session's project. -/
def inProject (rel : String) : Step String := do
  return Path.join (← getThe Session).project.path rel

/-- Steps on the queuing system, the index and the files. -/
def toolStep (r : Request) : String → Step Json
  | "queue_set" => do
    let id ← answer (r.str "queue_id")
    let st ← read r "state" QueueState.read
    onScheduler (·.setState id st)
    return .str "ok"
  | "queue_log" => do
    match (← getThe Session).system.scheduler with
    | some q =>
      return Json.mkObj [("submitted", .arr (q.submitted.map SubmitRequest.toJson)),
        ("cancelled", Json.ofStrings q.cancelled)]
    | none => throw (.badInput "no queue adapter")
  | "queue_fail" => do
    let v ← answer (r.boolD "value" true)
    onScheduler (fun q => { q with refusing := v })
    return .str "ok"
  | "fault" => do
    let st ← match r.get? "status" with
      | none | some .null => pure none
      | some v => some <$> answer (readJson Status.read v)
    modifyThe Session fun s => { s with system := { s.system with fault := st } }
    return .str "ok"
  | "index_delete" => do return .bool (← sys (Sys.deleteRow (← jobIdOf r)))
  | "index_force" => do
    let id ← jobIdOf r
    sys (Sys.forceStatus id (← read r "status" Status.read))
    return .str "ok"
  | "index_update" => do
    let id ← jobIdOf r
    sys (Sys.updateRow id (← answer (updateOf r)))
    return .str "ok"
  | "fs_write" => do
    let files ← match ← answer (r.need "files") with
      | .obj fields => pure fields
      | _ => throw (.badInput "files must be an object")
    let s ← getThe Session
    setDisk (← answer (writeFiles s.system.disk s.project.path files))
    return .str "ok"
  | "fs_mkdir" => do
    let p ← inProject (← answer (r.str "path"))
    sys (Sys.createDirAll p)
    return .str "ok"
  | "fs_rm" => do
    let p ← inProject (← answer (r.str "path"))
    sys (Sys.onDisk (fun d =>
      match d.node? (Disk.locate p) with
      | some (.file _) => (d.removeFile (Disk.locate p)).map (·, ())
      | _ => (d.removeDirAll (Disk.locate p)).map (·, ())))
    return .str "ok"
  | "ls" => do
    let p ← inProject (← answer (r.strD "path" ""))
    return listing (← getThe Session).system.disk p
  | "workdir" => do
    let j ← handle (← answer (r.str "job"))
    return listing (← getThe Session).system.disk j.identity.workingDirectory
  | other => masterStep r other

/-- One step of a session. -/
def sessionStep (r : Request) : Step Json := do
  toolStep r (← answer (r.str "do"))

/-- Runs the steps of a session in order: each step's value or error object. -/
def runSession (s : Session) (steps : List Json) : Except String (List Json) :=
  let go : ExceptT String (StateM Session) (List Json) :=
    steps.mapM (fun st => do
      match ← (sessionStep st).run with
      | .ok v => pure v
      | .error f => pure f.toJson)
  (go.run.run s).1

/-- `system`: steps on a job system built for the request. -/
def systemOp (r : Request) : Answer Json := do
  let s ← openSession r
  match runSession s (← r.list "steps") with
  | .ok results => pure (.arr results)
  | .error w => throw (.timeout s!"waiting for {w} never ends")

end JobFlow.Service

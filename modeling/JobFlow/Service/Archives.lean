import JobFlow.Service.Tools
import JobFlow.Jobs.Archive

/-!
# Requests on packed working directories

An `archive` request prepares a working directory below the root and runs steps on it:
packing, unpacking, copying, and writing streams by hand to try how unpacking meets broken
ones.
-/

namespace JobFlow.Service

/-- A little-endian count of a stream, given or the length of what it counts. -/
def countOf (e : Request) (k : String) (actual : Nat) : Answer Nat := do
  match ← e.nat? k with
  | some n => pure n
  | none => pure actual

/-- The stream a `raw` step writes: magic, entries and tail, compressed unless asked not to. -/
def rawStream (s : Request) : Answer (List UInt8) := do
  let magic ← match s.get? "magic" with
    | some v => pure (← contentBytes v).toList
    | none => pure "JRA1".toUTF8.toList
  let entries ← (← s.list "entries").mapM (fun e => do
    let name := (← contentBytes (← e.need "name")).toList
    let data ← match e.get? "data" with
      | some v => pure (← contentBytes v).toList
      | none => pure []
    let nameLen ← countOf e "name_len" name.length
    let dataLen ← countOf e "data_len" data.length
    pure (Zstd.leBytes nameLen 4 ++ name ++ Zstd.leBytes dataLen 8 ++ data))
  let tail ← match s.get? "tail_hex" with
    | some (.str h) => pure (← contentBytes (Json.mkObj [("hex", .str h)])).toList
    | _ => pure []
  let body := magic ++ entries.flatten ++ tail
  if ← s.boolD "uncompressed" false then pure body else pure (Zstd.compress body)

/-- One step of an `archive` request. -/
def archiveStep (d : Disk) (s : Request) : Disk × Answer Json :=
  let run : Answer (Disk × Json) := do
    match ← s.str "do" with
    | "pack" =>
      let (d, n) ← lift (Archive.pack d workDir)
      pure (d, .ofNat n)
    | "is_packed" => pure (d, .bool (Archive.isPacked d workDir))
    | "ls" => pure (d, listing d workDir)
    | "copy_tree" =>
      let target := Path.join root (← s.str "to")
      let (d, n) ← lift (Archive.copyTree d workDir target)
      pure (d, Json.mkObj [("copied", .ofNat n), ("target", listing d target)])
    | "write" => pure (← writeFiles d workDir (← filesOf s "files"), .str "ok")
    | "raw" =>
      let stream ← rawStream s
      match d.writeFile (Disk.locate (Archive.archivePath workDir)) (ByteArray.mk stream.toArray) with
      | .ok d => pure (d, .str "ok")
      | .error e => bad s!"cannot write the archive: {e.text}"
    | other => bad s!"unknown step {other}"
  match s.get? "do" with
  | some (.str "unpack") =>
    let (d', n) := Archive.unpack d workDir
    (d', n.mapError .job |>.map Json.ofNat)
  | _ =>
    match run with
    | .ok (d', v) => (d', .ok v)
    | .error e => (d, .error e)

/-- `archive`: steps on a prepared working directory. -/
def archiveOp (r : Request) : Answer Json := do
  let d := if ← r.boolD "no_dir" false then rootDisk else makeWorkDir rootDisk
  let d ← (← r.listD "dirs").foldlM (fun (d : Disk) v => do
    match v with
    | .str p =>
      match d.createDirAll (Disk.locate (Path.join workDir p)) with
      | .ok d => pure d
      | .error e => bad s!"cannot make {p}: {e.text}"
    | _ => bad "dirs must be strings") d
  let d ← writeFiles d workDir (← filesOf r "files")
  pure (.arr (runSteps archiveStep d (← r.list "steps")).2)

end JobFlow.Service

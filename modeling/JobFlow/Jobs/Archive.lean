import JobFlow.Disk
import JobFlow.Error
import JobFlow.Zstd

/-!
# Packed working directories

A working directory can be packed into one zstd file inside it, `working_directory.zst`.
-/

namespace JobFlow

namespace Archive

/-- The name of the archive inside a working directory. -/
def fileName : String := "working_directory.zst"

/-- The first bytes of a packed stream. -/
def magic : List UInt8 := "JRA1".toUTF8.toList

/-- The archive of a directory. -/
def archivePath (dir : String) : String := Path.join dir fileName

/-- Whether one relative path comes no later than another: compared name by name, a path
before every path it is a prefix of. -/
def partsLe : List String → List String → Bool
  | [], _ => true
  | _ :: _, [] => false
  | a :: as, b :: bs => if a = b then partsLe as bs else decide (a < b)

/-- The files below a directory, by their names relative to it, in path order. -/
def files (d : Disk) (dir : List String) : List (List String) :=
  let all := (d.under dir).filterMap (fun e =>
    match e.2 with
    | .file _ => if (d.under dir).any (fun f =>
        match f.2 with
        | .records _ => f.1.isPrefixOf e.1 ∧ f.1.length < e.1.length
        | _ => false) then none else some e.1
    | _ => none)
  all.mergeSort partsLe

/-- The stream of one file: name and content with their lengths. -/
def entry (name : String) (data : List UInt8) : List UInt8 :=
  let n := name.toUTF8.toList
  Zstd.leBytes n.length 4 ++ n ++ Zstd.leBytes data.length 8 ++ data

/-- Removes the directories below `dir` that hold no file, deepest first. -/
def pruneEmpty (d : Disk) (dir : List String) : Disk :=
  let dirs := (d.under dir).filterMap (fun e =>
    match e.2 with
    | .dir => some (dir ++ e.1)
    | _ => none)
  let deepestFirst := dirs.mergeSort (fun a b => decide (a.length ≥ b.length))
  deepestFirst.foldl (fun d p => if (d.under p).isEmpty then d.drop p else d) d

/-- Lifts a disk fault into a library error. -/
def ioFault (e : OsError) : JobError := .io e.text

/-- Packs every file below a directory into its archive and removes them. -/
def pack (d : Disk) (dir : String) : Outcome (Disk × Nat) := do
  let at_ := Disk.locate dir
  let arch := Disk.locate (archivePath dir)
  if !d.isDir at_ ∨ d.exists? arch then return (d, 0)
  let partialName := fileName ++ ".partial"
  let names := (files d at_).filter (· != [partialName])
  if names.isEmpty then return (d, 0)
  let body ← names.foldlM (fun (acc : List UInt8) rel => do
    match d.readFile (at_ ++ rel) with
    | .ok data => pure (acc ++ entry ("/".intercalate rel) data.toList)
    | .error e => throw (ioFault e)) magic
  let stream := Zstd.compress body
  let d ← match d.writeFile (at_ ++ [partialName]) (ByteArray.mk stream.toArray) with
    | .ok d => pure d
    | .error e => throw (ioFault e)
  let d ← match d.rename (at_ ++ [partialName]) arch with
    | .ok d => pure d
    | .error e => throw (ioFault e)
  let d ← names.foldlM (fun (d : Disk) rel =>
    match d.removeFile (at_ ++ rel) with
    | .ok d => pure d
    | .error e => throw (ioFault e)) d
  pure (pruneEmpty d at_, names.length)

/-- A fault of the packed stream as a library error. -/
def streamFault (f : Zstd.Fault) : JobError := .io f.text

/-- Reads exactly `n` bytes, asking each time for what is still missing; the stream
ending first is an unexpected end. -/
def readExact (r : Zstd.Stream) (n : Nat) : Outcome (ByteArray × Zstd.Stream) :=
  let rec go (r : Zstd.Stream) (acc : ByteArray) : Nat → Outcome (ByteArray × Zstd.Stream)
    | 0 => throw (.io "failed to fill whole buffer")
    | fuel + 1 =>
      if acc.size ≥ n then pure (acc, r)
      else
        match r.read (n - acc.size) with
        | .error f => throw (streamFault f)
        | .ok (b, r) =>
          if b.size = 0 then throw (.io "failed to fill whole buffer") else go r (acc ++ b) fuel
  go r ByteArray.empty (n + 1)

/-- Reads the four bytes of a name length, `none` when the stream ends cleanly before
them; ending among them is a truncated entry. -/
def readLength (r : Zstd.Stream) : Outcome (Option (Nat × Zstd.Stream)) :=
  let rec go (r : Zstd.Stream) (acc : ByteArray) : Nat → Outcome (Option (Nat × Zstd.Stream))
    | 0 => throw (.io "truncated archive entry")
    | fuel + 1 =>
      if acc.size ≥ 4 then pure (some (Zstd.leValue acc.toList, r))
      else
        match r.read (4 - acc.size) with
        | .error f => throw (streamFault f)
        | .ok (b, r) =>
          if b.size = 0 then
            if acc.size = 0 then pure none else throw (.io "truncated archive entry")
          else go r (acc ++ b) fuel
  go r ByteArray.empty 5

/-- The state of reading a file's content into a growing buffer: the bytes so far, the
buffer's capacity, the bytes still allowed, the largest read to ask for and the count of
reads in a row that came back short. -/
structure Taking where
  data : ByteArray
  cap : Nat
  left : Nat
  maxRead : Nat
  short : Nat

/-- Reads at most `limit` bytes to the end of the stream, by the calls a buffer growing as
it fills makes: a first read of at most 32 bytes, then reads of the room left in the
buffer, which doubles when full, never past the limit. -/
def readUpTo (r : Zstd.Stream) (limit : Nat) : Outcome (ByteArray × Zstd.Stream) :=
  let rec go (t : Taking) (r : Zstd.Stream) : Nat → Outcome (ByteArray × Zstd.Stream)
    | 0 => pure (t.data, r)
    | fuel + 1 =>
      if t.left = 0 then pure (t.data, r)
      else
        let cap := if t.data.size = t.cap then max (2 * t.cap) (t.data.size + 32) else t.cap
        let room := min (cap - t.data.size) t.maxRead
        match r.read (min room t.left) with
        | .error f => throw (streamFault f)
        | .ok (b, r) =>
          if b.size = 0 then pure (t.data, r)
          else
            let short := if b.size < room then t.short + 1 else 0
            let maxRead :=
              if t.left < room ∧ short > 1 then Nat.pow 2 64
              else if room ≥ t.maxRead ∧ b.size = room then 2 * t.maxRead else t.maxRead
            go ⟨t.data ++ b, cap, t.left - b.size, maxRead, short⟩ r fuel
  if limit = 0 then pure (ByteArray.empty, r)
  else
    match r.read (min 32 limit) with
    | .error f => throw (streamFault f)
    | .ok (b, r) =>
      if b.size = 0 then pure (ByteArray.empty, r)
      else go ⟨b, max b.size 8, limit - b.size, 8192, 0⟩ r (limit + 2)

/-- Whether an entry name is relative and plain. -/
def plainName (name : String) : Bool :=
  !name.isEmpty ∧ (Path.parts name).all (fun
    | .normal _ => true
    | _ => false)

/-- The fault of a file name holding a NUL byte, which no system call takes. -/
def nulFault : JobError := .io "file name contained an unexpected NUL byte"

/-- Reads the next entry of a stream: its name, its content and the rest of the stream,
`none` at the stream's clean end. -/
def readEntry (r : Zstd.Stream) : Outcome (Option (String × ByteArray × Zstd.Stream)) := do
  let some (n, r) ← readLength r | pure none
  let (nameBytes, r) ← readExact r n
  let name ← match String.fromUTF8? nameBytes with
    | some s => pure s
    | none => throw (.internal "archive entry name is not UTF-8")
  if !plainName name then
    throw (.internal s!"archive entry '{name}' escapes the working directory")
  let (lenBytes, r) ← readExact r 8
  let (data, r) ← readUpTo r (Zstd.leValue lenBytes.toList)
  pure (some (name, data, r))

/-- Reads the next entry of a stream and writes its file; answers the disk as the entry
left it, even when writing failed, and the rest of the stream, `none` at its clean end. -/
def restoreOne (dir : String) (d : Disk) (r : Zstd.Stream) : Disk × Outcome (Option Zstd.Stream) :=
  match readEntry r with
  | .error e => (d, throw e)
  | .ok none => (d, pure none)
  | .ok (some (name, data, r)) =>
    let target := Path.join dir name
    let parent := Path.parent? target
    if (parent.getD "").contains (Char.ofNat 0) then (d, throw nulFault)
    else
      let made := match parent with
        | some p => d.createDirAll (Disk.locate p)
        | none => pure d
      match made with
      | .error e => (d, throw (ioFault e))
      | .ok d =>
        if target.contains (Char.ofNat 0) then (d, throw nulFault)
        else
          match d.writePath target data with
          | .error e => (d, throw (ioFault e))
          | .ok d => (d, pure (some r))

/-- The fault of a stream that holds more entries than the restore was given room for. -/
def endlessFault : JobError := .internal "archive stream does not end"

/-- Restores the entries of a stream into a directory, one after another, for at most `fuel`
entries; answers the disk and the number restored so far, with the fault that stopped the
stream, if any. -/
def restore (dir : String) (d : Disk) (r : Zstd.Stream) (count : Nat) : Nat → Disk × Nat × Option JobError
  | 0 => (d, count, some endlessFault)
  | fuel + 1 =>
    match restoreOne dir d r with
    | (d, .ok none) => (d, count, none)
    | (d, .ok (some r)) => restore dir d r (count + 1) fuel
    | (d, .error e) => (d, count, some e)

/-- Restores the files of a directory's archive and removes it. -/
def unpack (d : Disk) (dir : String) : Disk × Outcome Nat :=
  let archPath := archivePath dir
  let arch := Disk.locate archPath
  if !d.isFile arch then (d, pure 0)
  else
    match d.readFile arch with
    | .error e => (d, throw (ioFault e))
    | .ok stream =>
      match readExact (Zstd.Stream.ofBytes stream) 4 with
      | .error e => (d, throw e)
      | .ok (m, r) =>
        if m.toList != magic then (d, throw (.internal s!"{archPath} is not a working-directory archive"))
        else
          match restore dir d r 0 (stream.size * 1024 + 2) with
          | (d, _, some e) => (d, throw e)
          | (d, n, none) =>
            match d.removeFile arch with
            | .ok d => (d, pure n)
            | .error e => (d, throw (ioFault e))

/-- Whether a directory is packed. -/
def isPacked (d : Disk) (dir : String) : Bool := d.isFile (Disk.locate (archivePath dir))

/-- The entries below a directory that a copy takes, by their names relative to it, in path
order: its files, and its record databases, each a directory of files copied whole. -/
def copied (d : Disk) (dir : List String) : List (List String × Node) :=
  ((d.under dir).filter (fun e =>
    match e.2 with
    | .dir => false
    | _ => true)).mergeSort (fun a b => partsLe a.1 b.1)

/-- Copies one entry below `src` to the same place below `dst`, making the directories above
it: a file by its content, a record database whole. -/
def copyEntry (src dst : List String) (d : Disk) (e : List String × Node) : Outcome Disk :=
  let target := dst ++ e.1
  match e.2 with
  | .records ps => do
    let d ← (d.createDirAll target).mapError ioFault
    pure (d.put target (.records ps))
  | _ => do
    let d ← (d.createDirAll target.dropLast).mapError ioFault
    match d.copyFile (src ++ e.1) target with
    | .ok (d, _) => pure d
    | .error e => throw (.io e.text)

/-- Copies what lies below `src` into `dst`, making directories as needed; answers the
number of files copied outside record databases. -/
def copyTree (d : Disk) (src dst : String) : Outcome (Disk × Nat) := do
  let from_ := Disk.locate src
  match d.lookup from_ with
  | .error e => throw (ioFault e)
  | .ok none => throw (ioFault .noEntry)
  | .ok (some (.file _)) => throw (ioFault .notDirectory)
  | .ok (some _) => pure ()
  let d' ← (copied d from_).foldlM (copyEntry from_ (Disk.locate dst)) d
  pure (d', (files d from_).length)

end Archive

end JobFlow

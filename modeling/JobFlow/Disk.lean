import JobFlow.Path

/-!
# The disk

Jobs keep their records and working directories on a disk: a tree of directories, files
and record databases, addressed by absolute paths.
-/

namespace JobFlow

/-- Why a call on the disk failed, as the system's error number. -/
inductive OsError where
  | noEntry
  | alreadyExists
  | notDirectory
  | isDirectory
  | invalidArgument
  | notEmpty
  deriving DecidableEq, Inhabited, Repr

namespace OsError

/-- The system's number for the error. -/
def code : OsError → Nat
  | .noEntry => 2
  | .alreadyExists => 17
  | .notDirectory => 20
  | .isDirectory => 21
  | .invalidArgument => 22
  | .notEmpty => 39

/-- The system's description of the error. -/
def description : OsError → String
  | .noEntry => "No such file or directory"
  | .alreadyExists => "File exists"
  | .notDirectory => "Not a directory"
  | .isDirectory => "Is a directory"
  | .invalidArgument => "Invalid argument"
  | .notEmpty => "Directory not empty"

/-- The error as the system shows it: the description and the number. -/
def text (e : OsError) : String := s!"{e.description} (os error {e.code})"

end OsError

/-- A failed call on the disk: a system error or a refusal of the library's own. -/
inductive DiskError where
  | os (e : OsError)
  | other (msg : String)
  deriving DecidableEq, Inhabited, Repr

namespace DiskError

/-- The text of the failure. -/
def text : DiskError → String
  | .os e => e.text
  | .other m => m

end DiskError

/-- What a path names. -/
inductive Node where
  | dir
  | file (data : ByteArray)
  | records (pairs : List (String × ByteArray))
  deriving Inhabited

namespace Node

/-- Directories and record databases hold other entries. -/
def isDir : Node → Bool
  | .file _ => false
  | _ => true

end Node

/-- A disk: every entry by its path, a list of names from the top. -/
structure Disk where
  nodes : List (List String × Node) := []
  deriving Inhabited

namespace Disk

/-- The names of a path: its plain parts, with `..` taking back the name before it. -/
def locate (p : String) : List String :=
  (Path.parts p).foldl (fun acc part =>
    match part with
    | .normal n => acc ++ [n]
    | .parent => acc.dropLast
    | _ => acc) []

/-- A path from its names. -/
def render (names : List String) : String := "/".intercalate names

/-- A path text in normal form: `.` parts dropped and `..` taking back the name before it;
an absolute path stays absolute. -/
def normal (p : String) : String := (if p.startsWith "/" then "/" else "") ++ render (locate p)

/-- The entry at a path, without looking at its parents. -/
def entry? (d : Disk) (p : List String) : Option Node :=
  if p.isEmpty then some .dir else d.nodes.lookup p

/-- The proper prefixes of a path, shortest first. -/
def prefixes (p : List String) : List (List String) :=
  (List.range p.length).map (fun n => p.take n)

/-- The entry at a path: `none` when missing, an error when a parent is a file. -/
def lookup (d : Disk) (p : List String) : Except OsError (Option Node) :=
  let blocked := (prefixes p).any (fun q =>
    match d.entry? q with
    | some (.file _) => true
    | _ => false)
  if blocked then .error .notDirectory
  else if (prefixes p).all (fun q => ( d.entry? q).isSome) then .ok ( d.entry? p)
  else .ok none

/-- The entry at a path, if it is reachable. -/
def node? (d : Disk) (p : List String) : Option Node :=
  match d.lookup p with
  | .ok n => n
  | .error _ => none

/-- Whether a path names anything. -/
def exists? (d : Disk) (p : List String) : Bool := (d.node? p).isSome

/-- Whether a path names a directory. -/
def isDir (d : Disk) (p : List String) : Bool :=
  match d.node? p with
  | some n => n.isDir
  | none => false

/-- Whether a path names a file. -/
def isFile (d : Disk) (p : List String) : Bool :=
  match d.node? p with
  | some (.file _) => true
  | _ => false

/-- The disk with the entry at `p` set to `n`. -/
def put (d : Disk) (p : List String) (n : Node) : Disk :=
  { nodes := (d.nodes.filter (fun e => e.1 != p)) ++ [(p, n)] }

/-- Whether `q` lies at or below `p`. -/
def below (p q : List String) : Bool := p.isPrefixOf q

/-- The disk without the entry at `p` and everything below it. -/
def drop (d : Disk) (p : List String) : Disk :=
  { nodes := d.nodes.filter (fun e => !below p e.1) }

/-- The entries strictly below `p`, by their names relative to `p`. -/
def under (d : Disk) (p : List String) : List (List String × Node) :=
  d.nodes.filterMap (fun e =>
    if below p e.1 ∧ e.1.length > p.length then some (e.1.drop p.length, e.2) else none)

/-- The names of the entries right below `p`, sorted. -/
def children (d : Disk) (p : List String) : List String :=
  let names := (d.under p).filterMap (fun e =>
    match e.1 with
    | [n] => some n
    | _ => none)
  names.mergeSort (fun a b => decide (a ≤ b))

/-- The parent directory of `p` must exist for `p` to be made. -/
def needParent (d : Disk) (p : List String) : Except OsError Unit := do
  match ← d.lookup p.dropLast with
  | none => throw .noEntry
  | some (.file _) => throw .notDirectory
  | some _ => pure ()

/-- Makes the directory `p`, whose parent must exist. -/
def createDir (d : Disk) (p : List String) : Except OsError Disk := do
  if p.isEmpty then throw .alreadyExists
  let here ← d.lookup p
  d.needParent p
  match here with
  | some _ => throw .alreadyExists
  | none => pure (d.put p .dir)

/-- Makes the directory `p` and every missing parent, succeeding when it is already a
directory. -/
def createDirAll (d : Disk) (p : List String) : Except OsError Disk :=
  (prefixes p ++ [p]).foldlM (fun (d : Disk) q =>
    if q.isEmpty then pure d
    else match d.lookup q with
      | .error e => throw e
      | .ok (some n) => if n.isDir then pure d else throw (if q = p then .alreadyExists else .notDirectory)
      | .ok none => pure (d.put q .dir)) d

/-- Writes a file, making or emptying it first. -/
def writeFile (d : Disk) (p : List String) (data : ByteArray) : Except OsError Disk := do
  if p.isEmpty then throw .isDirectory
  let here ← d.lookup p
  match here with
  | some n => if n.isDir then throw .isDirectory else pure (d.put p (.file data))
  | none =>
    d.needParent p
    pure (d.put p (.file data))

/-- Writes a file named by a path text. -/
def writePath (d : Disk) (p : String) (data : ByteArray) : Except OsError Disk := do
  let at_ := locate p
  if p.endsWith "/" then
    match ← d.lookup at_ with
    | some (.file _) => throw .notDirectory
    | _ => throw .isDirectory
  if p = "." ∨ p.endsWith "/." then
    match ← d.lookup at_ with
    | none => throw .noEntry
    | some (.file _) => throw .notDirectory
    | some _ => throw .isDirectory
  d.writeFile at_ data

/-- Reads a whole file. -/
def readFile (d : Disk) (p : List String) : Except OsError ByteArray := do
  match ← d.lookup p with
  | none => throw .noEntry
  | some (.file data) => pure data
  | some _ => throw .isDirectory

/-- Removes a file. -/
def removeFile (d : Disk) (p : List String) : Except OsError Disk := do
  match ← d.lookup p with
  | none => throw .noEntry
  | some (.file _) => pure (d.drop p)
  | some _ => throw .isDirectory

/-- Removes a directory and everything below it. -/
def removeDirAll (d : Disk) (p : List String) : Except OsError Disk := do
  match ← d.lookup p with
  | none => throw .noEntry
  | some (.file _) => throw .notDirectory
  | some _ => pure (d.drop p)

/-- Moves the entry at `a`, with everything below it, to `b`. -/
def rename (d : Disk) (a b : List String) : Except OsError Disk := do
  let src ← d.lookup a
  let dst ← d.lookup b
  match src with
  | none => throw .noEntry
  | some s =>
    d.needParent b
    if a = b then pure d
    else
      match s, dst with
      | .file _, some t => if t.isDir then throw .isDirectory else pure ()
      | _, some (.file _) => throw .notDirectory
      | _, some _ => if (d.under b).isEmpty then pure () else throw .notEmpty
      | _, none => pure ()
      if s.isDir ∧ below a b then throw .invalidArgument
      let moved := d.nodes.filterMap (fun e =>
        if below a e.1 then some (b ++ e.1.drop a.length, e.2) else none)
      let rest := (d.drop a).drop b
      pure { nodes := rest.nodes ++ moved }

/-- The normal form of a path that exists, resolved part by part as a system resolves
it: every name on the way must exist, and only a directory may have parts after it. -/
def canonical? (d : Disk) (p : String) : Option String :=
  let step (acc : Option (List String)) (part : Path.Part) : Option (List String) :=
    match acc with
    | none => none
    | some names =>
      if !d.isDir names then none
      else match part with
        | .normal n => if d.exists? (names ++ [n]) then some (names ++ [n]) else none
        | .parent => some names.dropLast
        | _ => some names
  ((Path.parts p).foldl step (some [])).map (fun names => (if p.startsWith "/" then "/" else "") ++ render names)

/-- The content a copy reads from `a`: a missing path, or one that names no file, is refused. -/
def copySource (d : Disk) (a : List String) : Except DiskError ByteArray :=
  match d.lookup a with
  | .error e => throw (.os e)
  | .ok none => throw (.os .noEntry)
  | .ok (some (.file data)) => pure data
  | .ok (some _) => throw (.other "the source path is not an existing regular file")

/-- Copies the file `a` to `b` and answers the number of bytes copied. -/
def copyFile (d : Disk) (a b : List String) : Except DiskError (Disk × Nat) := do
  let data ← d.copySource a
  match d.writeFile b data with
  | .ok d' => pure (d', data.size)
  | .error e => throw (.os e)

/-- Copies the file `a` to the file a path text names, read as `writePath` reads it: a text
ending in `/` or `/.` names a directory, where no file is made. -/
def copyToPath (d : Disk) (a : List String) (b : String) : Except DiskError (Disk × Nat) := do
  let data ← d.copySource a
  match d.writePath b data with
  | .ok d' => pure (d', data.size)
  | .error e => throw (.os e)

end Disk

end JobFlow

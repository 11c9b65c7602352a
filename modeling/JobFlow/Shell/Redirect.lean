import JobFlow.Shell.Expand

/-!
# Redirections

A redirection points a descriptor of the running shell at an open file: a file opened for
reading, writing (emptied first; under `noclobber` an existing file is refused unless `>|` is
used), appending, or reading and writing; a copy of another descriptor; nothing, for a close;
or a pipe holding a here-document's body.
-/

namespace JobFlow.Shell

/-- The descriptor a redirection changes. -/
def Redir.target : Redir → Nat
  | .file fd _ _ => fd
  | .copy fd _ _ => fd
  | .close fd _ => fd
  | .copyNamed fd _ _ => fd
  | .here fd _ _ _ => fd

namespace Sh

/-- The descriptors redirections change, with the open files they name now. -/
def savedFds (rs : List Redir) : Sh (List (Nat × Option Nat)) := do
  let p ← proc
  return (rs.map Redir.target).eraseDups.map (fun fd => (fd, p.channelOf? fd))

/-- Gives descriptors back their saved open files. -/
def restoreFds (saved : List (Nat × Option Nat)) : Sh Unit :=
  modifyProc fun p => saved.foldl (fun q (fd, id) => q.setFd fd id) p

/-- Points a descriptor at an open file, or closes it. -/
def bindFd (fd : Nat) (id : Option Nat) : Sh Unit := modifyProc fun p => p.setFd fd id

/-- Points a descriptor at a copy of another; the fault when that one is not open. -/
def copyFd (fd src : Nat) : Sh (Option String) := do
  match (← proc).channelOf? src with
  | some id =>
    bindFd fd (some id)
    return none
  | none => return if src = fd then none else some s!"{src}: Bad file descriptor"

/-- Applies one redirection; the fault's message when it fails. -/
def applyRedir (run : Node → Sh String) (r : Redir) : Sh (Option String) := do
  match r with
  | .file fd mode target =>
    let path ← expandText run target
    let p ← proc
    let access : Access := match mode with
      | .read => .read
      | .readWrite => .readWrite
      | .append => .append
      | .clobber => .write true
      | .write => .write (!p.hasOption "noclobber")
    let (w, opened) := openPath (← world) p path access
    modifyWorld fun _ => w
    match opened with
    | .ok id =>
      bindFd fd (some id)
      return none
    | .error e => return some e
  | .copy fd _ src => copyFd fd src
  | .close fd _ =>
    bindFd fd none
    return none
  | .copyNamed fd _ word =>
    let t ← expandText run word
    if t = "-" then
      bindFd fd none
      return none
    else if !t.isEmpty ∧ t.all Char.isDigit then copyFd fd (t.toNat?.getD 0)
    else
      modifyProc fun p => { p with line := p.parseLine }
      fatal "Syntax error: Bad fd number"
  | .here fd _ body _ =>
    let text ← expandText run body { tilde := false }
    let (w, id) := (← world).openChannel (.pipe text 0)
    modifyWorld fun _ => w
    bindFd fd (some id)
    return none

/-- Applies redirections in order; the message of the first that fails. -/
def applyRedirs (run : Node → Sh String) : List Redir → Sh (Option String)
  | [] => pure none
  | r :: rest => do
    match ← applyRedir run r with
    | some e => return some e
    | none => applyRedirs run rest

end Sh

end JobFlow.Shell

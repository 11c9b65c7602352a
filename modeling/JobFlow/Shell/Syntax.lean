/-!
# The command language

A script is read into commands of the POSIX shell command language.
-/

namespace JobFlow.Shell

/-- How a redirection opens its file: for writing (emptied, or refused over an existing file
under `noclobber`), for writing even under `noclobber`, for appending, for reading, or for
reading and writing. -/
inductive OpenMode where
  | write
  | clobber
  | append
  | read
  | readWrite
  deriving DecidableEq, Inhabited, Repr

/-- What a parameter expansion tests its parameter for before giving a word: `-` gives the
word for an unset parameter, `=` also assigns it, `?` fails with it, `+` gives it for a set
one. -/
inductive Fallback where
  | orDefault
  | orAssign
  | orFail
  | orAlternative
  deriving DecidableEq, Inhabited, Repr

mutual

/-- A piece of a word. -/
inductive Part where
  | lit (s : String)
  | quoted (s : String)
  | param (name : String) (op : ParamOp) (inQuotes : Bool)
  | command (body : Node) (inQuotes : Bool)
  | arith (expr : List Part) (inQuotes : Bool)

/-- What a parameter expansion does with the value. -/
inductive ParamOp where
  | plain
  | length
  | invalid
  | fallback (kind : Fallback) (colon : Bool) (word : List Part)
  | trimSuffix (longest : Bool) (pattern : List Part)
  | trimPrefix (longest : Bool) (pattern : List Part)

/-- A redirection of a descriptor: to or from a named file, a copy or a close of another
descriptor (given now or by a word), or a here-document with its number in the script and its
body, literal when its delimiter was quoted. -/
inductive Redir where
  | file (fd : Nat) (mode : OpenMode) (target : List Part)
  | copy (fd : Nat) (input : Bool) (source : Nat)
  | close (fd : Nat) (input : Bool)
  | copyNamed (fd : Nat) (input : Bool) (source : List Part)
  | here (fd : Nat) (slot : Nat) (body : List Part) (literal : Bool)

/-- A command. -/
inductive Node where
  | empty
  | simple (assigns : List (List Part)) (words : List (List Part)) (redirs : List Redir) (line : Nat)
  | pipeline (cmds : List Node)
  | negate (cmd : Node)
  | both (first second : Node)
  | either (first second : Node)
  | seq (first second : Node)
  | background (cmd : Node)
  | subshell (body : Node) (redirs : List Redir) (line : Nat)
  | redirected (body : Node) (redirs : List Redir) (line : Nat)
  | ifThen (cond body : Node) (orElse : Node)
  | loop (untilDone : Bool) (cond body : Node)
  | forIn (name : String) (words : Option (List (List Part))) (body : Node) (line : Nat)
  | caseOf (subject : List Part) (arms : List (List (List Part) × Node)) (line : Nat)
  | function (name : String) (body : Node) (line : Nat)

end

instance : Inhabited Part := ⟨.lit ""⟩
instance : Inhabited Node := ⟨.empty⟩

/-- A word of a command. -/
abbrev Word := List Part

namespace Word

/-- The word with unquoted text appended, joined to a last unquoted part. -/
def addLit (w : Word) (s : String) : Word :=
  match w.getLast? with
  | some (.lit t) => w.dropLast ++ [.lit (t ++ s)]
  | _ => w ++ [.lit s]

/-- The word with quoted text appended, joined to a last quoted part. -/
def addQuoted (w : Word) (s : String) : Word :=
  match w.getLast? with
  | some (.quoted t) => w.dropLast ++ [.quoted (t ++ s)]
  | _ => w ++ [.quoted s]

/-- The text of a word written with unquoted text only. -/
def plainText? : Word → Option String
  | [.lit s] => some s
  | _ => none

end Word

/-- Whether a character may start a name. -/
def isNameStart (c : Char) : Bool := (c.toNat < 128 ∧ c.isAlpha) ∨ c = '_'

/-- Whether a character may continue a name. -/
def isNameChar (c : Char) : Bool := (c.toNat < 128 ∧ c.isAlphanum) ∨ c = '_'

/-- Whether a text is a name: a letter or underscore, then letters, digits and
underscores. -/
def isName (s : String) : Bool :=
  match s.toList with
  | c :: rest => isNameStart c ∧ rest.all isNameChar
  | [] => false

/-- Whether a character names a special parameter. -/
def isSpecialParam (c : Char) : Bool := "!#$*-?@".contains c ∨ c.isDigit

end JobFlow.Shell

/-!
# Batch scripts and shell quoting

A batch script is a template with `{{name}}` placeholders, filled one value after another:
each value replaces every occurrence of its placeholder in the text so far, so a value may
bring in a placeholder that a later value fills.
-/

namespace JobFlow

/-- The batch script used when the configuration names none. -/
def defaultScriptTemplate : String :=
  "#!/bin/sh\n# {{job_name}}: job {{job_id}} with {{cores}} core(s)\ncd {{working_directory}} || exit 1\n{{command}}\n"

/-- Every occurrence of a pattern replaced, scanning from the left: a match is replaced and the
scan goes on right after it, so the occurrences replaced never overlap and the replacement is
never scanned. -/
def replaceAll (pat rep : List Char) : List Char → List Char
  | [] => []
  | c :: cs =>
    if pat ≠ [] ∧ pat.isPrefixOf (c :: cs) then rep ++ replaceAll pat rep ((c :: cs).drop pat.length)
    else c :: replaceAll pat rep cs
termination_by cs => cs.length
decreasing_by
  · have : pat.length ≠ 0 := by simpa using ‹pat ≠ [] ∧ _›.1
    simp only [List.length_drop,List.length_cons]
    omega
  · simp

/-- The placeholder a value fills: its name in double braces. -/
def placeholder (name : String) : String := "\x7b\x7b" ++ name ++ "\x7d\x7d"

/-- Fills one placeholder of a text with a value. -/
def fillPlaceholder (s : String) (nv : String × String) : String :=
  String.ofList (replaceAll (placeholder nv.1).toList nv.2.toList s.toList)

/-- Fills the placeholders of a template with the values in order. -/
def renderScript (template : String) (values : List (String × String)) : String :=
  values.foldl fillPlaceholder template

/-- Whether a character needs no quoting. -/
def shellSafe (c : Char) : Bool := c.isAlphanum || "/._-+=:".contains c

/-- The name paths give the root directory. -/
def rootName : String := "$ROOT"

/-- Whether a text needs no quoting: each character is safe, or the text is a path from the
root, whose name stands for a path of safe characters. -/
def needsNoQuoting (l : List Char) : Bool :=
  match l with
  | '$' :: 'R' :: 'O' :: 'O' :: 'T' :: rest => (rest.isEmpty || rest.head? == some '/') && rest.all shellSafe
  | _ => l.all shellSafe

/-- A character as it is written between single quotes: a single quote ends the quotes, is
written escaped and opens them again. -/
def quoteChar (c : Char) : List Char := if c = '\'' then ['\'', '\\', '\'', '\''] else [c]

/-- A text quoted for a POSIX shell. -/
def shellQuote (s : String) : String :=
  if !s.isEmpty && needsNoQuoting s.toList then s
  else String.ofList ('\'' :: s.toList.flatMap quoteChar ++ ['\''])

end JobFlow

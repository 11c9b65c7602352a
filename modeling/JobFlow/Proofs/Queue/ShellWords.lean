import JobFlow.Queue.Request

/-!
# Shell words

How a POSIX shell splits a line into words (Shell Command Language, sections 2.2 and 2.3), for
lines that need nothing more than splitting and quote removal.
-/

namespace JobFlow

namespace ShellWords

/-- The letters of the root's name after its `$`. -/
def rootLetters : List Char := ['R', 'O', 'O', 'T']

theorem rootName_toList : rootName.toList = '$' :: rootLetters := by
  simp [rootName, rootLetters]

/-- Where a reader stands in a word: outside quotes, inside single or double quotes, just
after a backslash, or inside the root's name with its letters still to come. -/
inductive Quoting where
  | bare
  | single
  | double
  | escaped (inDouble : Bool)
  | root (inDouble : Bool) (pending : List Char)
  deriving DecidableEq

/-- A blank, which ends an unquoted word. -/
def isBlank (c : Char) : Bool := c = ' ' ∨ c = '\t'

/-- A character that ends the command: a newline, or the first character of an operator. -/
def endsCommand (c : Char) : Bool :=
  c = '\n' ∨ c = '|' ∨ c = '&' ∨ c = ';' ∨ c = '<' ∨ c = '>' ∨ c = '(' ∨ c = ')'

/-- A character that, unquoted, starts an expansion or a pattern. -/
def startsExpansion (c : Char) : Bool := c = '$' ∨ c = '`' ∨ c = '*' ∨ c = '?' ∨ c = '['

/-- What reading one character does. -/
inductive Move where
  /-- Go on at `quoting`, in the word `current` (`none` between words). -/
  | next (quoting : Quoting) (current : Option (List Char))
  /-- An unquoted blank: the word being read, if any, ends. -/
  | blank
  /-- An unquoted `#` between words: the rest of the line is a comment. -/
  | comment
  /-- A character this reader does not accept here. -/
  | fail

/-- The character `c` read at `quoting` in the word `current`. -/
def step : Quoting → Option (List Char) → Char → Move
  | .bare, current, c =>
    if isBlank c then .blank
    else if current = none ∧ c = '#' then .comment
    else if current = none ∧ c = '~' then .fail
    else if c = '\'' then .next .single (some (current.getD []))
    else if c = '"' then .next .double (some (current.getD []))
    else if c = '\\' then .next (.escaped false) current
    else if c = '$' then .next (.root false rootLetters) current
    else if endsCommand c ∨ startsExpansion c then .fail
    else .next .bare (some (current.getD [] ++ [c]))
  | .single, current, c =>
    if c = '\'' then .next .bare current else .next .single (some (current.getD [] ++ [c]))
  | .double, current, c =>
    if c = '"' then .next .bare current
    else if c = '\\' then .next (.escaped true) current
    else if c = '$' then .next (.root true rootLetters) current
    else if c = '`' then .fail
    else .next .double (some (current.getD [] ++ [c]))
  | .escaped false, current, c =>
    -- a backslash before a newline joins the two lines
    if c = '\n' then .next .bare current else .next .bare (some (current.getD [] ++ [c]))
  | .escaped true, current, c =>
    if c = '\n' then .next .double current
    else if c = '$' ∨ c = '`' ∨ c = '"' ∨ c = '\\' then .next .double (some (current.getD [] ++ [c]))
    else .next .double (some (current.getD [] ++ ['\\', c]))
  | .root _ [], _, _ => .fail
  | .root inDouble (letter :: more), current, c =>
    if c ≠ letter then .fail
    else if more = [] then .next (if inDouble then .double else .bare) (some (current.getD [] ++ rootName.toList))
    else .next (.root inDouble more) current

/-- The words read, each after quote removal, and the comment that ends the line, if any. -/
abbrev Reading := List (List Char) × Option (List Char)

/-- Reads the rest of a line, standing at `quoting` in the word `current`. -/
def readFrom (quoting : Quoting) (current : Option (List Char)) : List Char → Option Reading
  | [] => if quoting = .bare then some (current.toList, none) else none
  | c :: rest =>
    match step quoting current c with
    | .next quoting' current' => readFrom quoting' current' rest
    | .blank => (fun r => (current.toList ++ r.1, r.2)) <$> readFrom .bare none rest
    | .comment => if '\n' ∈ rest then none else some ([], some rest)
    | .fail => none

/-- How a shell splits a line into words, with the comment that ends it. -/
def readLine (text : String) : Option Reading := readFrom .bare none text.toList

/-! ### One step of the reader -/

section Steps

variable (current : Option (List Char)) (rest : List Char)

@[simp]
theorem readFrom_bare_nil : readFrom .bare current [] = some (current.toList, none) := by
  simp [readFrom]

theorem readFrom_next {q q' : Quoting} {current' : Option (List Char)} {c : Char}
    (moved : step q current c = .next q' current') :
    readFrom q current (c :: rest) = readFrom q' current' rest := by
  simp [readFrom, moved]

theorem readFrom_blank {c : Char} (blank : isBlank c = true) :
    readFrom .bare current (c :: rest) = (fun r => (current.toList ++ r.1, r.2)) <$> readFrom .bare none rest := by
  simp [readFrom, step, blank]

/-- The characters a shell treats specially outside quotes. -/
def specialChars : List Char :=
  [' ', '\t', '\n', '#', '~', '\'', '"', '\\', '$', '|', '&', ';', '<', '>', '(', ')', '`', '*', '?', '[']

theorem special_not_safe : ∀ c ∈ specialChars, shellSafe c = false := by
  simp [specialChars, shellSafe, String.contains_char_eq]

theorem step_safe {c : Char} (safe : shellSafe c = true) :
    step .bare current c = .next .bare (some (current.getD [] ++ [c])) := by
  have plain : c ∉ specialChars := fun special => by simp [special_not_safe c special] at safe
  simp only [specialChars, List.mem_cons, List.not_mem_nil, or_false, not_or] at plain
  simp [step, isBlank, endsCommand, startsExpansion, plain]

theorem readFrom_root :
    readFrom .bare current (rootName.toList ++ rest) = readFrom .bare (some (current.getD [] ++ rootName.toList)) rest := by
  simp [rootName_toList, rootLetters, readFrom, step, isBlank]

end Steps

/-! ### Text that needs no quoting -/

/-- Safe characters continue the word being read, or start one. -/
theorem readFrom_safe : ∀ {l : List Char}, (∀ c ∈ l, shellSafe c = true) → ∀ (current : Option (List Char)),
    current.isSome ∨ l ≠ [] → ∀ rest, readFrom .bare current (l ++ rest) = readFrom .bare (some (current.getD [] ++ l)) rest
  | [], _, current, started, rest => by
    obtain ⟨w, rfl⟩ := Option.isSome_iff_exists.mp (by simpa using started)
    simp
  | c :: l, safe, current, _, rest => by
    rw [List.cons_append, readFrom_next _ _ (step_safe _ (safe c (by simp))),
      readFrom_safe (fun d mem => safe d (List.mem_cons_of_mem c mem)) _ (.inl rfl)]
    simp

/-- Text that needs no quoting continues the word being read, or starts one. -/
theorem readFrom_plain {l : List Char} (plain : needsNoQuoting l = true) (current : Option (List Char))
    (started : current.isSome ∨ l ≠ []) (rest : List Char) :
    readFrom .bare current (l ++ rest) = readFrom .bare (some (current.getD [] ++ l)) rest := by
  unfold needsNoQuoting at plain
  split at plain
  · -- the root's name, read as itself, then safe characters
    rename_i more
    have safe : ∀ c ∈ more, shellSafe c = true := List.all_eq_true.1 (Bool.and_eq_true _ _ ▸ plain).2
    have shape : '$' :: 'R' :: 'O' :: 'O' :: 'T' :: more ++ rest = rootName.toList ++ (more ++ rest) := by
      simp [rootName]
    rw [shape, readFrom_root, readFrom_safe safe _ (.inl rfl)]
    simp [rootName]
  · exact readFrom_safe (List.all_eq_true.1 plain) current started rest

/-- Text made of safe characters needs no quoting. -/
theorem needsNoQuoting_of_safe {l : List Char} (safe : ∀ c ∈ l, shellSafe c = true) : needsNoQuoting l = true := by
  unfold needsNoQuoting
  split
  · have dollar : shellSafe '$' = false := by simp [shellSafe, String.contains_char_eq]
    rw [safe '$' (by simp)] at dollar
    cases dollar
  · exact List.all_eq_true.2 safe

/-! ### Quoted text -/

/-- Quoted text is read as the text it quotes, each single quote written as a closing quote,
an escaped quote and an opening quote. -/
theorem readFrom_quoted (rest : List Char) :
    ∀ (s w : List Char), readFrom .single (some w) (s.flatMap quoteChar ++ '\'' :: rest) = readFrom .bare (some (w ++ s)) rest
  | [], w => by simp [readFrom, step]
  | c :: s, w => by
    by_cases quote : c = '\''
    · subst quote
      have closed : readFrom .single (some w) ('\'' :: '\\' :: '\'' :: '\'' :: (s.flatMap quoteChar ++ '\'' :: rest)) =
          readFrom .single (some (w ++ ['\''])) (s.flatMap quoteChar ++ '\'' :: rest) := by
        simp [readFrom, step, isBlank]
      simp only [List.flatMap_cons, quoteChar, if_pos, List.cons_append, List.nil_append]
      rw [closed, readFrom_quoted rest s]
      simp
    · simp only [List.flatMap_cons, quoteChar, if_neg quote, List.cons_append, List.nil_append]
      have kept : step .single (some w) c = .next .single (some (w ++ [c])) := by simp [step, quote]
      rw [readFrom_next _ _ kept, readFrom_quoted rest s]
      simp

theorem readFrom_shellQuote (s : String) (current : Option (List Char)) (rest : List Char) :
    readFrom .bare current ((shellQuote s).toList ++ rest) = readFrom .bare (some (current.getD [] ++ s.toList)) rest := by
  unfold shellQuote
  split
  · next plain =>
    simp only [Bool.and_eq_true, Bool.not_eq_true', String.isEmpty_eq_false_iff] at plain
    exact readFrom_plain plain.2 current (.inr (by simpa using plain.1)) rest
  · simp only [String.toList_ofList, List.cons_append, List.append_assoc, List.nil_append]
    have opened : step .bare current '\'' = .next .single (some (current.getD [])) := by simp [step, isBlank]
    rw [readFrom_next _ _ opened, readFrom_quoted]

theorem readLine_shellQuote (s : String) : readLine (shellQuote s) = some ([s.toList], none) := by
  have whole := readFrom_shellQuote s none []
  simp only [List.append_nil] at whole
  simp [readLine, whole]

/-! ### Lines read in two parts -/

/-- A text read completely as words, with no comment, may be followed by a blank and more
words: the blank ends the last word of the text. -/
theorem readFrom_append_blank {text : List Char} :
    ∀ {q : Quoting} {current : Option (List Char)} {ws : List (List Char)},
      readFrom q current text = some (ws, none) → ∀ more : List Char,
      readFrom q current (text ++ ' ' :: more) = (fun r => (ws ++ r.1, r.2)) <$> readFrom .bare none more := by
  induction text with
  | nil =>
    -- the text ends outside quotes, and the blank ends its last word
    intro q current ws read more
    obtain ⟨rfl, rfl⟩ : q = .bare ∧ current.toList = ws := by
      simp only [readFrom] at read
      split at read <;> simp_all
    exact readFrom_blank _ _ (by decide)
  | cons c rest ih =>
    intro q current ws read more
    simp only [readFrom] at read
    rw [List.cons_append, readFrom]
    -- the first character is read alike in both texts
    cases moved : step q current c with
    | next q' current' =>
      simp only [moved] at read ⊢
      exact ih read more
    | blank =>
      simp only [moved] at read ⊢
      cases rest_read : readFrom .bare none rest with
      | none => simp [rest_read] at read
      | some r =>
        obtain ⟨ws', cm⟩ := r
        obtain ⟨rfl, rfl⟩ : current.toList ++ ws' = ws ∧ cm = none := by simpa [rest_read] using read
        rw [ih rest_read more]
        simp [Function.comp_def]
    | comment =>
      simp only [moved] at read
      split at read <;> simp at read
    | fail => simp [moved] at read

/-- A text read as words that end in a comment takes any more text of the same line into
the comment. -/
theorem readFrom_append_comment {text : List Char} :
    ∀ {q : Quoting} {current : Option (List Char)} {ws : List (List Char)} {comment : List Char},
      readFrom q current text = some (ws, some comment) → ∀ {more : List Char}, '\n' ∉ more →
      readFrom q current (text ++ more) = some (ws, some (comment ++ more)) := by
  induction text with
  | nil =>
    intro q current ws comment read more _
    simp only [readFrom] at read
    split at read <;> simp at read
  | cons c rest ih =>
    intro q current ws comment read more oneLine
    simp only [readFrom] at read
    rw [List.cons_append, readFrom]
    cases moved : step q current c with
    | next q' current' =>
      simp only [moved] at read ⊢
      exact ih read oneLine
    | blank =>
      simp only [moved] at read ⊢
      cases rest_read : readFrom .bare none rest with
      | none => simp [rest_read] at read
      | some r =>
        obtain ⟨ws', cm⟩ := r
        obtain ⟨rfl, rfl⟩ : current.toList ++ ws' = ws ∧ cm = some comment := by simpa [rest_read] using read
        rw [ih rest_read oneLine]
        simp
    | comment =>
      -- the comment itself, which runs to the end of the line
      simp only [moved] at read ⊢
      split at read
      · simp at read
      · next oneLine' =>
        obtain ⟨rfl, rfl⟩ : [] = ws ∧ rest = comment := by simpa using read
        simp [oneLine, oneLine']
    | fail => simp [moved] at read

/-! ### The wrapper command line -/

/-- The wrapper command line as characters: the wrapper command, then four words, each after
a blank. -/
theorem wrapperCommandLine_toList (c : QueueConfig) (wd : String) (id : Nat) :
    (c.wrapperCommandLine wd id).toList =
      c.wrapperCommand.toList ++ ' ' :: ("--working-directory".toList ++ ' ' ::
        ((shellQuote wd).toList ++ ' ' :: ("--job-id".toList ++ ' ' :: (toString id).toList))) := by
  have self : ∀ s : String, toString s = s := fun _ => rfl
  simp [QueueConfig.wrapperCommandLine, self]

/-- A word that needs no quoting, followed by a blank. -/
theorem readFrom_plain_word {word : List Char} (plain : needsNoQuoting word = true) (nonempty : word ≠ [])
    (more : List Char) :
    readFrom .bare none (word ++ ' ' :: more) = (fun r => (word :: r.1, r.2)) <$> readFrom .bare none more := by
  rw [readFrom_plain plain none (.inr nonempty), readFrom_blank _ _ (by decide)]
  simp

theorem needsNoQuoting_digits (id : Nat) : needsNoQuoting (toString id).toList = true := by
  refine needsNoQuoting_of_safe fun c mem => ?_
  have digit : c.isDigit = true := by
    simp only [Nat.toString_eq_ofList_toDigits, String.toList_ofList] at mem
    exact Nat.isDigit_of_mem_toDigits (by decide) (by decide) mem
  simp [shellSafe, Char.isAlphanum, digit]

theorem shellQuote_of_safe {s : String} (nonempty : s ≠ "") (safe : ∀ c ∈ s.toList, shellSafe c = true) :
    shellQuote s = s := by
  simp [shellQuote, nonempty, needsNoQuoting_of_safe safe]

/-- When a shell reads the wrapper command alone as words with no comment, it reads the
wrapper command line as those words followed by the four arguments. -/
theorem readLine_wrapperCommandLine (c : QueueConfig) (wd : String) (id : Nat) {ws : List (List Char)}
    (read : readLine c.wrapperCommand = some (ws, none)) :
    readLine (c.wrapperCommandLine wd id) =
      some (ws ++ ["--working-directory".toList, wd.toList, "--job-id".toList, (toString id).toList], none) := by
  have flag : ∀ word : String, word.toList ≠ [] → (∀ c ∈ word.toList, shellSafe c = true) → ∀ more,
      readFrom .bare none (word.toList ++ ' ' :: more) = (fun r => (word.toList :: r.1, r.2)) <$> readFrom .bare none more :=
    fun word nonempty safe => readFrom_plain_word (needsNoQuoting_of_safe safe) nonempty
  have digits : readFrom .bare none (toString id).toList = some ([(toString id).toList], none) := by
    have whole := readFrom_plain (needsNoQuoting_digits id) none (.inr (by simp [Nat.toDigits_ne_nil])) []
    simpa using whole
  rw [readLine, wrapperCommandLine_toList, readFrom_append_blank read,
    flag "--working-directory" (by simp) (by simp [shellSafe, String.contains_char_eq]),
    readFrom_shellQuote, readFrom_blank _ _ (by decide),
    flag "--job-id" (by simp) (by simp [shellSafe, String.contains_char_eq]), digits]
  simp

/-- A shell reads a quoted text as one word, the text itself, with nothing expanded; so it
reads the wrapper command line as the words of the wrapper command followed by
`--working-directory`, the working directory, `--job-id` and the decimal id, whenever it reads
the wrapper command alone as words that end in no comment. -/
theorem wrapperCommandLine_reads_as_words :
    (∀ s, readLine (shellQuote s) = some ([s.toList], none)) ∧
    ∀ (c : QueueConfig) (wd : String) (id : Nat) (ws : List (List Char)),
      readLine c.wrapperCommand = some (ws, none) →
      readLine (c.wrapperCommandLine wd id) =
        some (ws ++ ["--working-directory".toList, wd.toList, "--job-id".toList, (toString id).toList], none) :=
  ⟨readLine_shellQuote, fun c wd id _ read => readLine_wrapperCommandLine c wd id read⟩

theorem wrapperCommandLine_reads_default_wrapper :
    readLine ({} : QueueConfig).wrapperCommand = some (["jobrack-wrapper".toList], none) ∧
    readLine (({} : QueueConfig).wrapperCommandLine "/data/my proj" 17) =
      some (["jobrack-wrapper".toList, "--working-directory".toList, "/data/my proj".toList, "--job-id".toList,
        "17".toList], none) := by
  have read : readLine ({} : QueueConfig).wrapperCommand = some (["jobrack-wrapper".toList], none) := by
    have unquoted : shellQuote "jobrack-wrapper" = "jobrack-wrapper" :=
      shellQuote_of_safe (by decide) (by simp [shellSafe, String.contains_char_eq])
    simpa [unquoted] using readLine_shellQuote "jobrack-wrapper"
  have digits : Nat.toDigits 10 17 = ['1', '7'] := rfl
  exact ⟨read, by simpa [digits] using wrapperCommandLine_reads_as_words.2 {} "/data/my proj" 17 _ read⟩

/-- A wrapper command that ends in a comment takes the arguments into the comment: the line
is read as the wrapper command's words alone. -/
theorem wrapper_comment_takes_arguments :
    readLine ({ wrapperCommand := "jobrack-wrapper #" } : QueueConfig).wrapperCommand =
      some (["jobrack-wrapper".toList], some []) ∧
    readLine (({ wrapperCommand := "jobrack-wrapper #" } : QueueConfig).wrapperCommandLine "/x" 1) =
      some (["jobrack-wrapper".toList], some " --working-directory /x --job-id 1".toList) := by
  have read : readLine "jobrack-wrapper #" = some (["jobrack-wrapper".toList], some []) := by
    have split : "jobrack-wrapper #".toList = "jobrack-wrapper".toList ++ [' ', '#'] := by simp
    have comment : readFrom .bare none ['#'] = some ([], some []) := by simp [readFrom, step, isBlank]
    rw [readLine, split, readFrom_plain_word (needsNoQuoting_of_safe (by simp [shellSafe, String.contains_char_eq]))
      (by simp), comment]
    rfl
  have quoted : shellQuote "/x" = "/x" :=
    shellQuote_of_safe (by decide) (by simp [shellSafe, String.contains_char_eq])
  have digits : Nat.toDigits 10 1 = ['1'] := rfl
  refine ⟨read, ?_⟩
  rw [readLine, wrapperCommandLine_toList, readFrom_append_comment read (by simp [quoted, digits]), quoted]
  simp [digits]

end ShellWords

end JobFlow

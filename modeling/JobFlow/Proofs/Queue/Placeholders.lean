import JobFlow.Queue.Request

/-!
# Filling the placeholders of a batch script

A batch script is rendered by filling its placeholders one value after another, each fill
replacing every occurrence of `{{name}}` in the text so far.
-/

namespace JobFlow

section Replace

variable {pat rep : List Char}

/-- A scan goes on unchanged after a part with no match reaching past its end. -/
theorem replaceAll_append {a rest : List Char}
    (noCross : ∀ i < a.length, pat <+: a.drop i ++ rest → pat <+: a.drop i) :
    replaceAll pat rep (a ++ rest) = replaceAll pat rep a ++ replaceAll pat rep rest := by
  fun_induction replaceAll pat rep a with
  | case1 => simp
  | case2 c cs matched ih =>
    have pre : pat <+: c :: cs := List.isPrefixOf_iff_prefix.1 matched.2
    have fits : pat.length ≤ (c :: cs).length := pre.length_le
    have whole : pat <+: c :: cs ++ rest := pre.trans (List.prefix_append _ _)
    have shifted : ∀ i < ((c :: cs).drop pat.length).length,
        pat <+: ((c :: cs).drop pat.length).drop i ++ rest → pat <+: ((c :: cs).drop pat.length).drop i := by
      intro i lt
      simp only [List.drop_drop]
      exact noCross (pat.length + i) (by simp at lt ⊢; omega)
    rw [List.cons_append,replaceAll,if_pos ⟨matched.1,List.isPrefixOf_iff_prefix.2 whole⟩,← List.cons_append,
      List.drop_append_of_le_length fits,ih shifted,List.append_assoc]
  | case3 c cs unmatched ih =>
    have skip : ¬(pat ≠ [] ∧ pat.isPrefixOf (c :: (cs ++ rest)) = true) := by
      rintro ⟨full,pre⟩
      exact unmatched ⟨full,List.isPrefixOf_iff_prefix.2 (noCross 0 (by simp) (by simpa using pre))⟩
    have shifted : ∀ i < cs.length, pat <+: cs.drop i ++ rest → pat <+: cs.drop i :=
      fun i lt => noCross (i + 1) (by simp; omega)
    rw [List.cons_append,replaceAll,if_neg skip,ih shifted,List.cons_append]

theorem replaceAll_of_not_mem {x : Char} (first : pat.head? = some x) {t : List Char} (absent : x ∉ t) :
    replaceAll pat rep t = t := by
  fun_induction replaceAll pat rep t with
  | case1 => rfl
  | case2 c cs matched ih =>
    obtain ⟨rest,same⟩ := List.isPrefixOf_iff_prefix.1 matched.2
    have : pat.head? = some c := by
      cases pat with
      | nil => exact absurd rfl matched.1
      | cons y ys => simp_all
    exact absurd (by simp_all) absent
  | case3 c cs _ ih => rw [ih (fun mem => absent (List.mem_cons_of_mem c mem))]

theorem infix_replaceAll (full : pat ≠ []) {l : List Char} (occurs : pat <:+: l) : rep <:+: replaceAll pat rep l := by
  fun_induction replaceAll pat rep l with
  | case1 => exact absurd (List.eq_nil_of_infix_nil occurs) full
  | case2 c cs matched ih => exact (List.prefix_append rep _).isInfix
  | case3 c cs unmatched ih =>
    have later : pat <:+: cs := by
      rcases List.infix_cons_iff.1 occurs with pre | inner
      · exact absurd ⟨full,List.isPrefixOf_iff_prefix.2 pre⟩ unmatched
      · exact inner
    exact (ih later).trans (List.suffix_cons c _).isInfix

end Replace

/-! ### Runs that no fill reaches -/

/-- A run of text that a pattern beginning with `{` and ending with `}` cannot reach: it holds
no brace, and a character the pattern does not hold. -/
def Inert (t pat : List Char) : Prop := '{' ∉ t ∧ '}' ∉ t ∧ ∃ c ∈ t, c ∉ pat

theorem toList_placeholder (name : String) :
    (placeholder name).toList = '{' :: '{' :: (name.toList ++ ['}', '}']) := by
  simp [placeholder]

theorem placeholder_head? (name : String) : (placeholder name).toList.head? = some '{' := by
  simp [toList_placeholder]

theorem placeholder_getLast? (name : String) : (placeholder name).toList.getLast? = some '}' := by
  simp [toList_placeholder,List.getLast?_cons]

theorem prefix_of_prefix_append_inert {pat t u b : List Char} (closes : pat.getLast? = some '}')
    (inert : Inert t pat) (pre : pat <+: u ++ (t ++ b)) : pat <+: u := by
  obtain ⟨-,noClose,c,inRun,notInPat⟩ := inert
  by_cases short : pat.length ≤ u.length
  · exact List.prefix_of_prefix_length_le pre (List.prefix_append u _) short
  -- otherwise the match is `u` and a first part `v` of the rest, which reaches into the run
  have split : pat = u ++ pat.drop u.length := by
    have := List.prefix_of_prefix_length_le (List.prefix_append u (t ++ b)) pre (by omega)
    obtain ⟨v,same⟩ := this
    rw [← same]
    simp
  have rest : pat.drop u.length <+: t ++ b := by
    rw [split] at pre
    exact (List.prefix_append_right_inj u).1 pre
  by_cases within : (pat.drop u.length).length ≤ t.length
  · -- the match ends inside the run, on its closing brace
    have inside : pat.drop u.length <+: t := List.prefix_of_prefix_length_le rest (List.prefix_append t b) within
    have last : (pat.drop u.length).getLast? = some '}' := by
      rw [split,List.getLast?_append] at closes
      cases h : (pat.drop u.length).getLast? with
      | none =>
        have : pat.length ≤ u.length := List.drop_eq_nil_iff.1 (List.getLast?_eq_none_iff.1 h)
        omega
      | some x =>
        rw [h,Option.some_or] at closes
        exact closes
    exact absurd (inside.subset (List.mem_of_getLast? last)) noClose
  · -- the match covers the whole run
    have covers : t <+: pat.drop u.length := List.prefix_of_prefix_length_le (List.prefix_append t b) rest (by omega)
    exact absurd ((List.drop_sublist _ pat).subset (covers.subset inRun)) notInPat

/-- Filling a placeholder leaves an inert run as it is, and fills around it. -/
theorem replaceAll_inert (name : String) {t : List Char} (inert : Inert t (placeholder name).toList)
    (rep a b : List Char) :
    replaceAll (placeholder name).toList rep (a ++ t ++ b) =
      replaceAll (placeholder name).toList rep a ++ t ++ replaceAll (placeholder name).toList rep b := by
  have beforeRun : ∀ i < a.length, (placeholder name).toList <+: a.drop i ++ (t ++ b) →
      (placeholder name).toList <+: a.drop i :=
    fun _ _ pre => prefix_of_prefix_append_inert (placeholder_getLast? name) inert pre
  -- a match starting in the run would begin with a brace of the run
  have inRun : ∀ i < t.length, (placeholder name).toList <+: t.drop i ++ b → (placeholder name).toList <+: t.drop i := by
    intro i lt pre
    have first : (t.drop i ++ b).head? = some '{' := by
      obtain ⟨w,same⟩ := pre
      rw [← same,toList_placeholder]
      rfl
    have : '{' ∈ t.drop i := by
      cases h : t.drop i with
      | nil => simp at h; omega
      | cons y ys => simp_all
    exact absurd ((List.drop_sublist i t).subset this) inert.1
  rw [List.append_assoc,replaceAll_append beforeRun,replaceAll_append inRun,
    replaceAll_of_not_mem (placeholder_head? name) inert.1,List.append_assoc]

theorem fillPlaceholder_keeps {s : String} {t : List Char} (shown : t <:+: s.toList) (nv : String × String)
    (inert : Inert t (placeholder nv.1).toList) : t <:+: (fillPlaceholder s nv).toList := by
  obtain ⟨a,b,same⟩ := shown
  rw [fillPlaceholder,String.toList_ofList,← same,replaceAll_inert nv.1 inert]
  exact ⟨_,_,rfl⟩

/-- A run inert for every later placeholder stays through all later fills. -/
theorem foldl_fillPlaceholder_keeps {t : List Char} :
    ∀ (values : List (String × String)) {s : String}, t <:+: s.toList →
      (∀ nv ∈ values, Inert t (placeholder nv.1).toList) → t <:+: (values.foldl fillPlaceholder s).toList
  | [], _, shown, _ => shown
  | nv :: rest, _, shown, inert =>
    foldl_fillPlaceholder_keeps rest (fillPlaceholder_keeps shown nv (inert nv (by simp)))
      (fun nv' mem => inert nv' (by simp [mem]))

/-- The value of the first placeholder shows in the rendered script wherever the template had
that placeholder, as long as it is inert for every later one. -/
theorem renderScript_keeps_first {template name value : String} (rest : List (String × String))
    (placed : (placeholder name).toList <:+: template.toList)
    (inert : ∀ nv ∈ rest, Inert value.toList (placeholder nv.1).toList) :
    value.toList <:+: (renderScript template ((name, value) :: rest)).toList := by
  have first : value.toList <:+: (fillPlaceholder template (name, value)).toList := by
    rw [fillPlaceholder,String.toList_ofList]
    exact infix_replaceAll (by simp [toList_placeholder]) placed
  exact foldl_fillPlaceholder_keeps rest first inert

/-! ### The submission script -/

theorem toList_toString_nat (n : Nat) : ∀ c ∈ (toString n).toList, c.isDigit := by
  intro c mem
  simp only [toString,Nat.repr,String.toList_ofList] at mem
  exact Nat.isDigit_of_mem_toDigits (by decide) (by decide) mem

theorem not_mem_shellQuote {s : String} {x : Char} (brace : x = '{' ∨ x = '}') (absent : x ∉ s.toList) :
    x ∉ (shellQuote s).toList := by
  have notQuote : x ≠ '\'' ∧ x ≠ '\\' := by rcases brace with rfl | rfl <;> decide
  rw [shellQuote]
  split
  · exact absent
  · rw [String.toList_ofList]
    intro mem
    simp only [List.mem_cons,List.mem_append,List.mem_flatMap,List.not_mem_nil,or_false] at mem
    rcases mem with (quote | ⟨c,inText,inQuote⟩) | quote
    · exact notQuote.1 quote
    · -- a quote is written as quotes and a backslash, every other character as itself
      by_cases quote : c = '\''
      · simp only [quoteChar,quote,if_true,List.mem_cons,List.not_mem_nil,or_false] at inQuote
        rcases inQuote with same | same | same | same
        · exact notQuote.1 same
        · exact notQuote.2 same
        · exact notQuote.1 same
        · exact notQuote.1 same
      · simp only [quoteChar,quote,if_false,List.mem_singleton] at inQuote
        exact absent (inQuote ▸ inText)
    · exact notQuote.1 quote

theorem toList_wrapperCommandLine (c : QueueConfig) (wd : String) (id : Nat) :
    (c.wrapperCommandLine wd id).toList =
      c.wrapperCommand.toList ++ " --working-directory ".toList ++ (shellQuote wd).toList ++ " --job-id ".toList ++
        (toString id).toList := by
  simp only [QueueConfig.wrapperCommandLine,String.toList_append,List.append_assoc]
  rfl

/-- The names filled after the command. -/
def laterPlaceholders : List String :=
  ["job_id", "job_name", "working_directory", "cores", "threads", "run_time", "memory_mb"]

/-- The command line of a request, without braces in its wrapper or its directory, is inert
for every placeholder filled after it: no later name holds a blank. -/
theorem wrapperCommandLine_inert (c : QueueConfig) (wd : String) (id : Nat)
    (plainWrapper : '{' ∉ c.wrapperCommand.toList ∧ '}' ∉ c.wrapperCommand.toList)
    (plainDir : '{' ∉ wd.toList ∧ '}' ∉ wd.toList) :
    ∀ name ∈ laterPlaceholders, Inert (c.wrapperCommandLine wd id).toList (placeholder name).toList := by
  have digits := toList_toString_nat id
  have noBrace : ∀ x, (x = '{' ∨ x = '}') → x ∉ (c.wrapperCommandLine wd id).toList := by
    intro x brace
    have wrapper : x ∉ c.wrapperCommand.toList := by
      rcases brace with rfl | rfl
      · exact plainWrapper.1
      · exact plainWrapper.2
    have dir : x ∉ (shellQuote wd).toList := by
      refine not_mem_shellQuote brace ?_
      rcases brace with rfl | rfl
      · exact plainDir.1
      · exact plainDir.2
    have number : x ∉ (toString id).toList := fun mem => by
      have := digits x mem
      rcases brace with rfl | rfl <;> simp_all [Char.isDigit]
    rw [toList_wrapperCommandLine]
    simp only [List.mem_append,not_or]
    refine ⟨⟨⟨⟨wrapper,?_⟩,dir⟩,?_⟩,number⟩ <;> rcases brace with rfl | rfl <;> decide
  intro name mem
  refine ⟨noBrace '{' (.inl rfl),noBrace '}' (.inr rfl),' ',by simp [toList_wrapperCommandLine],?_⟩
  simp only [laterPlaceholders,List.mem_cons,List.not_mem_nil,or_false] at mem
  rcases mem with rfl | rfl | rfl | rfl | rfl | rfl | rfl <;> decide

/-- When neither the wrapper command nor the working directory holds a brace, the script of a
submission request whose template has a `{{command}}` holds the request's command verbatim,
and with it the quoted working directory. -/
theorem request_script_keeps_command (c : QueueConfig) (q : String) (id : Nat) (wd : String) (s : ServerConfig)
    (hasCommand : (placeholder "command").toList <:+: c.scriptTemplate.toList)
    (plainWrapper : '{' ∉ c.wrapperCommand.toList ∧ '}' ∉ c.wrapperCommand.toList)
    (plainDir : '{' ∉ wd.toList ∧ '}' ∉ wd.toList) :
    (c.request q id wd s).command.toList <:+: (c.request q id wd s).script.toList ∧
      (shellQuote wd).toList <:+: (c.request q id wd s).script.toList := by
  have inert := wrapperCommandLine_inert c wd id plainWrapper plainDir
  have kept : (c.wrapperCommandLine wd id).toList <:+: (c.request q id wd s).script.toList := by
    refine renderScript_keeps_first _ hasCommand fun nv mem => inert nv.1 ?_
    simp only [List.mem_cons,List.not_mem_nil,or_false] at mem
    rcases mem with rfl | rfl | rfl | rfl | rfl | rfl | rfl <;> simp [laterPlaceholders]
  have quoted : (shellQuote wd).toList <:+: (c.wrapperCommandLine wd id).toList := by
    rw [toList_wrapperCommandLine]
    exact ⟨c.wrapperCommand.toList ++ " --working-directory ".toList,
      " --job-id ".toList ++ (toString id).toList,by simp⟩
  exact ⟨kept,quoted.trans kept⟩

/-- The request of the default configuration, for job 17 in a directory with a blank. -/
theorem request_script_keeps_command_default :
    (placeholder "command").toList <:+: ({} : QueueConfig).scriptTemplate.toList ∧
      ('{' ∉ ({} : QueueConfig).wrapperCommand.toList ∧ '}' ∉ ({} : QueueConfig).wrapperCommand.toList) ∧
      ('{' ∉ "/data/my proj/toy_files".toList ∧ '}' ∉ "/data/my proj/toy_files".toList) ∧
      (({} : QueueConfig).request "short" 17 "/data/my proj/toy_files" {}).command.toList <:+:
        (({} : QueueConfig).request "short" 17 "/data/my proj/toy_files" {}).script.toList := by
  have hasCommand : (placeholder "command").toList <:+: ({} : QueueConfig).scriptTemplate.toList :=
    ⟨"#!/bin/sh\n# \x7b\x7bjob_name\x7d\x7d: job \x7b\x7bjob_id\x7d\x7d with \x7b\x7bcores\x7d\x7d core(s)\ncd \x7b\x7bworking_directory\x7d\x7d || exit 1\n".toList,
      "\n".toList,by decide⟩
  have plainWrapper : '{' ∉ ({} : QueueConfig).wrapperCommand.toList ∧ '}' ∉ ({} : QueueConfig).wrapperCommand.toList := by
    decide
  have plainDir : '{' ∉ "/data/my proj/toy_files".toList ∧ '}' ∉ "/data/my proj/toy_files".toList := by decide
  exact ⟨hasCommand,plainWrapper,plainDir,
    (request_script_keeps_command {} "short" 17 "/data/my proj/toy_files" {} hasCommand plainWrapper plainDir).1⟩

end JobFlow

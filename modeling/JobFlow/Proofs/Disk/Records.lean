import Mathlib
import JobFlow.Jobs.Archive
import JobFlow.Jobs.Runnable
import JobFlow.Record.Store
import JobFlow.Proofs.Record.Tree

/-!
# A record database under the disk's operations

A path names an entry only when every directory above it is there (`Disk.lookup_eq_some`).
-/

namespace JobFlow

namespace Disk

variable {d d' d'' : Disk} {P x : List String}

/-! ### Entries and paths -/

theorem mem_prefixes {p q : List String} : q ∈ prefixes p ↔ q <+: p ∧ q ≠ p := by
  simp only [prefixes, List.mem_map, List.mem_range]
  constructor
  · rintro ⟨n, short, rfl⟩
    refine ⟨List.take_prefix n p, fun same => ?_⟩
    have := congrArg List.length same
    simp only [List.length_take] at this
    omega
  · rintro ⟨pre, ne⟩
    refine ⟨q.length, ?_, (List.prefix_iff_eq_take.1 pre).symm⟩
    have le := pre.length_le
    exact lt_of_le_of_ne le fun same => ne (pre.eq_of_length same)

/-- Every proper prefix of `p` is a directory or a record database. -/
def DirsAbove (d : Disk) (p : List String) : Prop := ∀ q ∈ prefixes p, ∃ m, d.entry? q = some m ∧ m.isDir

theorem lookup_eq_some {p : List String} {n : Node} :
    d.lookup p = .ok (some n) ↔ d.DirsAbove p ∧ d.entry? p = some n := by
  unfold lookup DirsAbove
  dsimp only
  split
  · -- a file stands above the path
    rename_i blocked
    simp only [List.any_eq_true] at blocked
    obtain ⟨q, mem, file⟩ := blocked
    refine ⟨(fun found => nomatch found), fun ⟨above, _⟩ => ?_⟩
    obtain ⟨m, here, dir⟩ := above q mem
    rw [here] at file
    cases m <;> simp_all [Node.isDir]
  · rename_i open_
    simp only [List.any_eq_true, not_exists, not_and] at open_
    split
    · rename_i all
      simp only [List.all_eq_true, Option.isSome_iff_exists] at all
      refine ⟨fun found => ⟨fun q mem => ?_, by injection found⟩, fun ⟨_, here⟩ => by rw [here]⟩
      obtain ⟨m, here⟩ := all q mem
      have notFile := open_ q mem
      rw [here] at notFile
      exact ⟨m, here, by cases m <;> simp_all [Node.isDir]⟩
    · rename_i missing
      refine ⟨(fun found => nomatch found), fun ⟨above, _⟩ => absurd ?_ missing⟩
      simp only [List.all_eq_true]
      intro q mem
      obtain ⟨m, here, -⟩ := above q mem
      simp [here]

theorem lookup_prefix {n : Node} (found : d.lookup P = .ok (some n)) {q : List String} (pre : q <+: P)
    (ne : q ≠ P) : ∃ m, d.lookup q = .ok (some m) ∧ m.isDir := by
  obtain ⟨above, -⟩ := lookup_eq_some.1 found
  obtain ⟨m, here, dir⟩ := above q (mem_prefixes.2 ⟨pre, ne⟩)
  refine ⟨m, lookup_eq_some.2 ⟨fun q' mem => above q' ?_, here⟩, dir⟩
  obtain ⟨pre', ne'⟩ := mem_prefixes.1 mem
  exact mem_prefixes.2 ⟨pre'.trans pre, fun same => ne' (pre'.eq_of_length (le_antisymm pre'.length_le
    (same ▸ pre.length_le)))⟩

theorem lookup_prefix_isDir {ps : Pairs} (found : d.lookup P = .ok (some (.records ps))) {q : List String}
    (pre : q <+: P) : ∃ m, d.lookup q = .ok (some m) ∧ m.isDir := by
  by_cases same : q = P
  · subst same
    exact ⟨_, found, rfl⟩
  · exact lookup_prefix found pre same

theorem lookup_filter {l : List (List String × Node)} {f : List String × Node → Bool} {q : List String}
    (keep : ∀ e ∈ l, e.1 = q → f e = true) : (l.filter f).lookup q = l.lookup q := by
  induction l with
  | nil => rfl
  | cons e rest ih =>
    have tail := ih fun e' mem => keep e' (List.mem_cons_of_mem _ mem)
    obtain ⟨k, v⟩ := e
    by_cases same : k = q
    · subst same
      rw [List.filter_cons_of_pos (keep _ (List.mem_cons_self ..) rfl), List.lookup_cons, List.lookup_cons,
        beq_self_eq_true]
    · have differ : (q == k) = false := beq_eq_false_iff_ne.2 fun here => same here.symm
      by_cases kept : f (k, v) = true
      · rw [List.filter_cons_of_pos kept, List.lookup_cons, List.lookup_cons, differ, tail]
      · rw [List.filter_cons_of_neg kept, List.lookup_cons, differ, tail]

theorem lookup_filter_none {l : List (List String × Node)} {f : List String × Node → Bool} {q : List String}
    (drop : ∀ e ∈ l, e.1 = q → f e = false) : (l.filter f).lookup q = none := by
  rw [List.lookup_eq_none_iff]
  intro e mem
  obtain ⟨mem, kept⟩ := List.mem_filter.1 mem
  have differ : e.1 ≠ q := fun same => by simp [drop e mem same] at kept
  exact bne_iff_ne.2 fun here => differ here.symm

theorem entry_put (d : Disk) (p : List String) (m : Node) (q : List String) :
    Disk.entry? (d.put p m) q = if q ≠ [] ∧ q = p then some m else d.entry? q := by
  unfold entry? put
  by_cases empty : q = []
  · simp [empty]
  · simp only [List.isEmpty_iff, empty, if_false, ne_eq, not_false_eq_true, true_and, List.lookup_append]
    by_cases same : q = p
    · subst same
      rw [lookup_filter_none fun e _ same => by simp [same]]
      simp
    · rw [lookup_filter fun e _ here => by simp [here, same]]
      have differ : (q == p) = false := beq_eq_false_iff_ne.2 same
      have missing : [(p, m)].lookup q = none := by rw [List.lookup_cons, differ]; rfl
      simp only [same, if_false, missing, Option.or_none]

theorem entry_drop (d : Disk) (p q : List String) :
    Disk.entry? (d.drop p) q = if q ≠ [] ∧ p <+: q then none else d.entry? q := by
  unfold entry? drop below
  by_cases empty : q = []
  · simp [empty]
  · simp only [List.isEmpty_iff, empty, if_false, ne_eq, not_false_eq_true, true_and]
    by_cases under : p <+: q
    · rw [if_pos under, lookup_filter_none fun e _ same => by simp [same, List.isPrefixOf_iff_prefix.2 under]]
    · have notBelow : p.isPrefixOf q = false := Bool.eq_false_iff.2 fun below => under (List.isPrefixOf_iff_prefix.1 below)
      rw [if_neg under, lookup_filter fun e _ same => by simp [same, notBelow]]

/-! ### Keeping a record database -/

/-- `d'` shows at `P` every record database that `d` shows there. -/
def Keeps (P : List String) (d d' : Disk) : Prop :=
  ∀ ps, d.lookup P = .ok (some (.records ps)) → d'.lookup P = .ok (some (.records ps))

theorem Keeps.refl (P : List String) (d : Disk) : Keeps P d d := fun _ found => found

theorem Keeps.trans (first : Keeps P d d') (second : Keeps P d' d'') : Keeps P d d'' :=
  fun ps found => second ps (first ps found)

/-- Setting an entry keeps a record database at `P` when it is not at `P` and leaves every
directory above `P` a directory. -/
theorem keeps_put {m : Node}
    (spared : ∀ ps, d.lookup P = .ok (some (.records ps)) → x ≠ P ∧ (x <+: P → m.isDir)) :
    Keeps P d (d.put x m) := by
  intro ps found
  obtain ⟨other, dirLike⟩ := spared ps found
  obtain ⟨above, here⟩ := lookup_eq_some.1 found
  refine lookup_eq_some.2 ⟨fun q mem => ?_, ?_⟩
  · rw [entry_put]
    split
    · rename_i hit
      exact ⟨m, rfl, dirLike (hit.2 ▸ (mem_prefixes.1 mem).1)⟩
    · exact above q mem
  · rw [entry_put, if_neg fun hit => other hit.2.symm, here]

theorem keeps_drop (spared : ∀ ps, d.lookup P = .ok (some (.records ps)) → ¬ x <+: P) : Keeps P d (d.drop x) := by
  intro ps found
  have apart := spared ps found
  obtain ⟨above, here⟩ := lookup_eq_some.1 found
  refine lookup_eq_some.2 ⟨fun q mem => ?_, ?_⟩
  · rw [entry_drop, if_neg fun hit => apart (hit.2.trans (mem_prefixes.1 mem).1)]
    exact above q mem
  · rw [entry_drop, if_neg fun hit => apart hit.2, here]

/-- Nothing that holds entries is at `x`: it is missing or a file. -/
def NotDir (d : Disk) (x : List String) : Prop :=
  d.lookup x = .ok none ∨ ∃ data, d.lookup x = .ok (some (.file data))

theorem not_prefix_of_notDir {ps : Pairs} (found : d.lookup P = .ok (some (.records ps))) (notDir : d.NotDir x) :
    ¬ x <+: P := by
  intro pre
  obtain ⟨m, here, dir⟩ := lookup_prefix_isDir found pre
  rcases notDir with missing | ⟨data, file⟩
  · rw [here] at missing
    cases missing
  · rw [here] at file
    cases file
    cases dir

theorem keeps_put_notDir {m : Node} (notDir : d.NotDir x) : Keeps P d (d.put x m) :=
  keeps_put fun _ found =>
    have apart := not_prefix_of_notDir found notDir
    ⟨fun same => apart (same ▸ List.prefix_refl x), fun pre => absurd pre apart⟩

theorem keeps_drop_notDir (notDir : d.NotDir x) : Keeps P d (d.drop x) :=
  keeps_drop fun _ found => not_prefix_of_notDir found notDir

/-! ### The operations of the disk -/

theorem bind_eq_ok {ε α β : Type} {a : Except ε α} {f : α → Except ε β} {b : β} :
    a >>= f = .ok b ↔ ∃ v, a = .ok v ∧ f v = .ok b := by
  cases a <;> simp [bind, Except.bind]

theorem map_eq_ok {ε α β : Type} {a : Except ε α} {f : α → β} {b : β} :
    a.map f = .ok b ↔ ∃ v, a = .ok v ∧ f v = b := by
  cases a <;> simp [Except.map]

theorem keeps_writeFile {data : ByteArray} (ok : d.writeFile x data = .ok d') : Keeps P d d' := by
  unfold writeFile at ok
  simp only [bind, Except.bind, throw, throwThe, MonadExceptOf.throw, pure, Except.pure] at ok
  split at ok
  · cases ok
  · split at ok
    · cases ok
    · rename_i here found
      split at ok
      · rename_i n
        split at ok
        · cases ok
        · rename_i notDir
          cases ok
          cases n with
          | file data₀ => exact keeps_put_notDir (.inr ⟨data₀, found⟩)
          | _ => cases notDir rfl
      · split at ok
        · cases ok
        · cases ok
          exact keeps_put_notDir (.inl found)

theorem keeps_writePath {p : String} {data : ByteArray} (ok : d.writePath p data = .ok d') : Keeps P d d' := by
  unfold writePath at ok
  simp only [bind, Except.bind, throw, throwThe, MonadExceptOf.throw] at ok
  -- a path text naming a directory is refused, whatever is there
  split at ok
  · split at ok
    · cases ok
    · split at ok <;> cases ok
  · split at ok
    · split at ok
      · cases ok
      · split at ok <;> cases ok
    · exact keeps_writeFile ok

theorem keeps_createDirAll (ok : d.createDirAll x = .ok d') : Keeps P d d' := by
  unfold createDirAll at ok
  generalize prefixes x ++ [x] = qs at ok
  induction qs generalizing d with
  | nil =>
    cases ok
    exact fun _ found => found
  | cons q rest ih =>
    rw [List.foldlM_cons] at ok
    obtain ⟨d₁, step, later⟩ := bind_eq_ok.1 ok
    refine Keeps.trans ?_ (ih later)
    split at step
    · cases step
      exact Keeps.refl P d
    · split at step
      · cases step
      · split at step
        · cases step
          exact Keeps.refl P d
        · cases step
      · rename_i missing
        cases step
        exact keeps_put_notDir (.inl missing)

theorem keeps_removeFile (ok : d.removeFile x = .ok d') : Keeps P d d' := by
  unfold removeFile at ok
  simp only [bind, Except.bind, throw, throwThe, MonadExceptOf.throw, pure, Except.pure] at ok
  split at ok
  · cases ok
  · rename_i found
    split at ok
    · cases ok
    · rename_i data
      cases ok
      exact keeps_drop_notDir (.inr ⟨data, found⟩)
    · cases ok

theorem keeps_copyToPath {a : List String} {p : String} {copied : Nat} (ok : d.copyToPath a p = .ok (d', copied)) :
    Keeps P d d' := by
  obtain ⟨data, -, written⟩ := bind_eq_ok.1 ok
  split at written
  · rename_i wrote
    cases written
    exact keeps_writePath wrote
  · cases written

/-- Entries added below `b` leave every entry that is not below `b`. -/
theorem entry_append_below {extra : List (List String × Node)} {b : List String}
    (from_b : ∀ e ∈ extra, b <+: e.1) {q : List String} (apart : ¬ b <+: q) :
    Disk.entry? ⟨d.nodes ++ extra⟩ q = d.entry? q := by
  unfold entry?
  split
  · rfl
  · rw [List.lookup_append]
    have none : extra.lookup q = none := List.lookup_eq_none_iff.2 fun e mem =>
      bne_iff_ne.2 fun same => apart (same ▸ from_b e mem)
    cases d.nodes.lookup q <;> simp [none]

/-- Moving what is at or below `a` to `b` keeps a record database at `P` that is below
neither. -/
theorem keeps_move {a b : List String} (sourceApart : ∀ ps, d.lookup P = .ok (some (.records ps)) → ¬ a <+: P)
    (targetApart : ∀ ps, d.lookup P = .ok (some (.records ps)) → ¬ b <+: P) :
    Keeps P d ⟨((d.drop a).drop b).nodes ++
      d.nodes.filterMap (fun e => if below a e.1 then some (b ++ e.1.drop a.length, e.2) else none)⟩ := by
  intro ps found
  have kept := ((keeps_drop fun _ _ => sourceApart ps found).trans
    (keeps_drop fun _ _ => targetApart ps found)) ps found
  obtain ⟨above, here⟩ := lookup_eq_some.1 kept
  have moved : ∀ e ∈ d.nodes.filterMap (fun e => if below a e.1 then some (b ++ e.1.drop a.length, e.2) else none),
      b <+: e.1 := by
    intro e mem
    obtain ⟨e', -, hit⟩ := List.mem_filterMap.1 mem
    split at hit
    · cases hit
      exact List.prefix_append _ _
    · cases hit
  -- the moved entries all lie below `b`, so every entry at or above `P` is one that stayed
  have apart : ∀ q, q <+: P → ¬ b <+: q := fun q pre below => targetApart ps found (below.trans pre)
  refine lookup_eq_some.2 ⟨fun q mem => ?_, ?_⟩
  · rw [entry_append_below moved (apart q (mem_prefixes.1 mem).1)]
    exact above q mem
  · rw [entry_append_below moved (apart P (List.prefix_refl P)), here]

theorem keeps_rename {a b : List String} {data : ByteArray} (file : d.lookup a = .ok (some (.file data)))
    (ok : d.rename a b = .ok d') : Keeps P d d' := by
  unfold rename at ok
  simp only [bind, Except.bind, throw, throwThe, MonadExceptOf.throw, pure, Except.pure, file] at ok
  split at ok
  · cases ok
  · rename_i dst target
    split at ok
    · cases ok
    · split at ok
      · cases ok
        exact Keeps.refl P d
      · have sourceApart : ∀ ps, d.lookup P = .ok (some (.records ps)) → ¬ a <+: P :=
          fun _ found => not_prefix_of_notDir found (.inr ⟨data, file⟩)
        -- a file replaces only a file, so the target is not above the database either
        cases dst with
        | none =>
          simp only [Node.isDir, Bool.false_eq_true, false_and, if_false] at ok
          cases ok
          exact keeps_move sourceApart fun ps found => not_prefix_of_notDir found (.inl target)
        | some t =>
          cases t with
          | file data₀ =>
            simp only [Node.isDir, Bool.false_eq_true, false_and, if_false] at ok
            cases ok
            exact keeps_move sourceApart fun ps found => not_prefix_of_notDir found (.inr ⟨data₀, target⟩)
          | dir => simp [Node.isDir] at ok
          | records _ => simp [Node.isDir] at ok

/-! ### Files written -/

theorem lookup_put_self {m : Node} (above : d.DirsAbove x) (full : x ≠ []) : (d.put x m).lookup x = .ok (some m) := by
  refine lookup_eq_some.2 ⟨fun q mem => ?_, by rw [entry_put, if_pos ⟨full, rfl⟩]⟩
  rw [entry_put, if_neg fun hit => (mem_prefixes.1 mem).2 hit.2]
  exact above q mem

theorem dirsAbove_of_parent {m : Node} (parent : d.lookup x.dropLast = .ok (some m)) (dir : m.isDir) :
    d.DirsAbove x := by
  obtain ⟨above, here⟩ := lookup_eq_some.1 parent
  intro q mem
  obtain ⟨pre, ne⟩ := mem_prefixes.1 mem
  have short := Json.prefix_dropLast_of_ne pre ne
  by_cases top : q = x.dropLast
  · subst top
    exact ⟨m, here, dir⟩
  · exact above q (mem_prefixes.2 ⟨short, top⟩)

theorem needParent_ok {p : List String} {u : Unit} (ok : d.needParent p = .ok u) :
    ∃ m, d.lookup p.dropLast = .ok (some m) ∧ m.isDir := by
  unfold needParent at ok
  simp only [bind, Except.bind, throw, throwThe, MonadExceptOf.throw, pure, Except.pure] at ok
  split at ok
  · cases ok
  · rename_i found
    split at ok
    · cases ok
    · cases ok
    · rename_i m notFile
      exact ⟨m, found, by cases m <;> simp_all [Node.isDir]⟩

theorem writeFile_ok {p : List String} {data : ByteArray} (ok : d.writeFile p data = .ok d') :
    d' = d.put p (.file data) ∧ p ≠ [] ∧ d.DirsAbove p ∧ ∀ m, d.lookup p = .ok (some m) → m.isDir = false := by
  unfold writeFile at ok
  simp only [bind, Except.bind, throw, throwThe, MonadExceptOf.throw, pure, Except.pure] at ok
  split at ok
  · cases ok
  · rename_i full
    have full : p ≠ [] := by simpa using full
    split at ok
    · cases ok
    · rename_i here found
      split at ok
      · rename_i m
        split at ok
        · cases ok
        · rename_i notDir
          cases ok
          refine ⟨rfl, full, (lookup_eq_some.1 found).1, fun m' again => ?_⟩
          rw [found] at again
          cases again
          simpa using notDir
      · split at ok
        · cases ok
        · rename_i parent
          cases ok
          obtain ⟨m, up, dir⟩ := needParent_ok parent
          refine ⟨rfl, full, dirsAbove_of_parent up dir, fun m' again => ?_⟩
          rw [found] at again
          cases again

theorem lookup_writeFile {data : ByteArray} (ok : d.writeFile x data = .ok d') :
    d'.lookup x = .ok (some (.file data)) := by
  obtain ⟨rfl, full, above, -⟩ := writeFile_ok ok
  exact lookup_put_self above full

/-! ### Directories and archives -/

/-- Dropping directories below a directory that does not hold `P`, one after another. -/
theorem keeps_prune {dir : List String} (apart : ¬ dir <+: P) :
    ∀ (dirs : List (List String)), (∀ p ∈ dirs, dir <+: p) → ∀ d,
      Keeps P d (dirs.foldl (fun d p => if (d.under p).isEmpty then d.drop p else d) d)
  | [], _, d => Keeps.refl P d
  | p :: rest, within, d => by
    rw [List.foldl_cons]
    refine Keeps.trans ?_ (keeps_prune apart rest (fun q mem => within q (List.mem_cons_of_mem _ mem)) _)
    split
    · exact keeps_drop fun _ _ pre => apart ((within p (List.mem_cons_self ..)).trans pre)
    · exact Keeps.refl P d

theorem keeps_pruneEmpty {dir : List String} (apart : ¬ dir <+: P) : Keeps P d (Archive.pruneEmpty d dir) := by
  unfold Archive.pruneEmpty
  refine keeps_prune apart _ (fun p mem => ?_) d
  rw [List.mem_mergeSort] at mem
  obtain ⟨e, -, hit⟩ := List.mem_filterMap.1 mem
  split at hit
  · cases hit
    exact List.prefix_append _ _
  · cases hit

/-- Removing files one after another. -/
theorem keeps_removeFiles (at_ : List String) :
    ∀ (names : List (List String)) {d d' : Disk}, (names.foldlM (fun (d : Disk) rel =>
      match d.removeFile (at_ ++ rel) with
      | .ok d => .ok d
      | .error e => .error (Archive.ioFault e)) d : Outcome Disk) = .ok d' → Keeps P d d'
  | [], d, d', ok => by
    cases ok
    exact Keeps.refl P d
  | rel :: rest, d, d', ok => by
    rw [List.foldlM_cons] at ok
    obtain ⟨d₁, step, later⟩ := bind_eq_ok.1 ok
    split at step
    · rename_i removed
      cases step
      exact (keeps_removeFile removed).trans (keeps_removeFiles at_ rest later)
    · cases step

theorem keeps_pack {dir : String} {count : Nat} (apart : ¬ locate dir <+: P)
    (ok : Archive.pack d dir = .ok (d', count)) : Keeps P d d' := by
  unfold Archive.pack at ok
  simp only [bind, Except.bind, throw, throwThe, MonadExceptOf.throw, pure, Except.pure] at ok
  -- nothing to pack leaves the disk; otherwise the archive is written, moved into place, and
  -- the packed files and the directories left empty are removed
  split at ok
  · cases ok
    exact Keeps.refl P d
  · split at ok
    · cases ok
      exact Keeps.refl P d
    · split at ok
      · cases ok
      · split at ok
        · rename_i written
          split at ok
          · rename_i renamed
            split at ok
            · cases ok
            · rename_i removed
              cases ok
              exact (keeps_writeFile written).trans ((keeps_rename (lookup_writeFile written) renamed).trans
                ((keeps_removeFiles _ _ removed).trans (keeps_pruneEmpty apart)))
          · cases ok
        · cases ok

/-! ### Input files -/

theorem keeps_makeParent {target : String} (ok : InputFiles.makeParent d target = .ok d') : Keeps P d d' := by
  unfold InputFiles.makeParent Except.mapError at ok
  split at ok
  · split at ok
    · cases ok
    · rename_i made
      cases ok
      exact keeps_createDirAll made
  · cases ok
    exact Keeps.refl P d

theorem keeps_create (wd : String) (d : Disk) (entry : String × Json) : Keeps P d (InputFiles.create wd d entry).1 := by
  unfold InputFiles.create
  dsimp only
  split
  · exact Keeps.refl P d
  · split
    · exact Keeps.refl P d
    · rename_i made
      split
      · rename_i written
        exact (keeps_makeParent made).trans (keeps_writePath written)
      · exact keeps_makeParent made

theorem keeps_copy (wd : String) (d : Disk) (entry : String × Json) : Keeps P d (InputFiles.copy wd d entry).1 := by
  unfold InputFiles.copy
  dsimp only
  split
  · split
    · exact Keeps.refl P d
    · split
      · exact Keeps.refl P d
      · rename_i made
        split
        · rename_i copied
          exact (keeps_makeParent made).trans (keeps_copyToPath copied)
        · exact keeps_makeParent made
  · exact Keeps.refl P d

theorem keeps_each {put : Disk → String × Json → Disk × Except String Unit} (each_keeps : ∀ d e, Keeps P d (put d e).1)
    (d : Disk) (files : List (String × Json)) : Keeps P d (InputFiles.each put d files).1 := by
  unfold InputFiles.each
  -- the disk so far keeps `P`, whether the files so far were all written or one failed
  refine List.foldlRecOn (motive := fun st : Disk × Except String Unit => Keeps P d st.1) files _ (Keeps.refl P d)
    fun st kept e _ => ?_
  split
  · exact kept
  · exact kept.trans (each_keeps _ _)

/-- Writing a job's input files keeps every record database. -/
theorem keeps_created (input : List (String × Json)) (wd : String) (d : Disk) :
    Keeps P d (match input.lookup "files_to_create" with
      | some (.obj files) => InputFiles.each (InputFiles.create wd) d files
      | _ => (d, .ok ())).1 := by
  split
  · exact keeps_each (keeps_create wd) d _
  · exact Keeps.refl P d

theorem keeps_inputFiles (input : List (String × Json)) (wd : String) (d : Disk) :
    Keeps P d (InputFiles.write input wd d).1 := by
  unfold InputFiles.write
  dsimp only
  split
  · exact keeps_created input wd d
  · split
    · exact (keeps_created input wd d).trans (keeps_each (keeps_copy wd) _ _)
    · exact keeps_created input wd d

/-! ### Record databases -/

theorem keeps_openDb {p : String} {ps' : Pairs} (ok : RecordStore.openDb d p = .ok (d', ps')) : Keeps P d d' := by
  intro ps found
  unfold RecordStore.openDb at ok
  simp only [throw, throwThe, MonadExceptOf.throw, pure, Except.pure] at ok
  split at ok
  · cases ok
  · cases ok
    exact found
  · rename_i dirThere
    cases ok
    have other : locate p ≠ P := fun same => by rw [same, found] at dirThere; cases dirThere
    exact keeps_put (fun _ _ => ⟨other, fun _ => rfl⟩) ps found
  · cases ok
  · rename_i missing
    have other : locate p ≠ P := fun same => by rw [same, found] at missing; cases missing
    split at ok
    · rename_i made
      cases ok
      exact keeps_put (fun _ _ => ⟨other, fun _ => rfl⟩) ps (keeps_createDirAll made ps found)
    · cases ok

theorem keeps_record {store : RecordStore} {p : String} {a : Disk × Record} (ok : store.record d p = .ok a) :
    Keeps P d a.1 := by
  unfold RecordStore.record at ok
  obtain ⟨⟨d₁, ps⟩, opened, made⟩ := bind_eq_ok.1 ok
  cases made
  exact keeps_openDb opened

theorem record_path {store : RecordStore} {p : String} {a : Disk × Record} (ok : store.record d p = .ok a) :
    a.2.path = p ∧ a.2.config = store.config := by
  unfold RecordStore.record at ok
  obtain ⟨⟨d₁, ps⟩, opened, made⟩ := bind_eq_ok.1 ok
  cases made
  exact ⟨rfl, rfl⟩

theorem openDb_found {p : String} {ps : Pairs} (found : d.lookup (locate p) = .ok (some (.records ps))) :
    RecordStore.openDb d p = .ok (d, ps) := by
  unfold RecordStore.openDb
  simp only [found]
  rfl

theorem record_found {store : RecordStore} {p : String} {a : Disk × Record} (ok : store.record d p = .ok a)
    {ps : Pairs} (found : d.lookup (locate p) = .ok (some (.records ps))) : a.2.pairs = ps := by
  unfold RecordStore.record at ok
  rw [openDb_found found] at ok
  cases ok
  rfl

theorem keeps_save {r : Record} (other : locate r.path ≠ P) : Keeps P d (RecordStore.save d r) :=
  keeps_put fun _ _ => ⟨other, fun _ => rfl⟩

theorem lookup_save {r : Record} {ps : Pairs} (found : d.lookup (locate r.path) = .ok (some (.records ps))) :
    (RecordStore.save d r).lookup (locate r.path) = .ok (some (.records r.pairs)) := by
  obtain ⟨above, here⟩ := lookup_eq_some.1 found
  have full : locate r.path ≠ [] := fun empty => by
    rw [empty] at here
    cases here
  exact lookup_put_self above full

end Disk

end JobFlow

import Mathlib
import JobFlow.Proofs.Archive.Entries
import JobFlow.Proofs.Disk.Confinement

/-!
# What packing leaves

Packing a working directory reads its files in path order, writes the stream of their
entries to a partial archive, moves it into place, removes the files and then the directories
left empty.
-/

namespace JobFlow

namespace Disk

variable {d d' : Disk} {p : List String}

theorem lookup_of_dirsAbove (above : d.DirsAbove p) : d.lookup p = .ok (d.entry? p) := by
  cases found : d.entry? p with
  | some m => exact lookup_eq_some.2 ⟨above, found⟩
  | none =>
    unfold lookup
    dsimp only
    split
    · -- no file stands above the path
      rename_i blocked
      simp only [List.any_eq_true] at blocked
      obtain ⟨q, mem, file⟩ := blocked
      obtain ⟨m, here, dir⟩ := above q mem
      rw [here] at file
      cases m <;> simp_all [Node.isDir]
    · have present : (prefixes p).all (fun q => (d.entry? q).isSome) = true := by
        simp only [List.all_eq_true]
        intro q mem
        obtain ⟨m, here, -⟩ := above q mem
        simp [here]
      rw [if_pos present, found]

namespace Tree

variable (t : d.Tree)
include t

theorem readFile {data : ByteArray} (file : d.entry? p = some (.file data)) : d.readFile p = .ok data := by
  simp [Disk.readFile, bind, Except.bind, t.lookup_of_entry file, pure, Except.pure]

theorem removeFile_ok {data : ByteArray} (file : d.entry? p = some (.file data)) : d.removeFile p = .ok (d.drop p) := by
  simp [Disk.removeFile, bind, Except.bind, t.lookup_of_entry file, pure, Except.pure]

end Tree

/-- One step of making directories on a tree: a path with its directories there is left as
it is when something is there, and made a directory when nothing is. -/
theorem createDir_step (target : List String) {q : List String} (above : d.DirsAbove q)
    (noFile : ∀ data, d.entry? q ≠ some (.file data)) :
    (if q.isEmpty then pure d else match d.lookup q with
      | .error e => throw e
      | .ok (some n) => if n.isDir then pure d else throw (if q = target then .alreadyExists else .notDirectory)
      | .ok none => pure (d.put q .dir) : Except OsError Disk) =
      .ok (if d.entry? q = none then d.put q .dir else d) := by
  by_cases top : q = []
  · subst top
    simp [Disk.entry?]
    rfl
  · have full : q.isEmpty = false := by simpa using top
    rw [if_neg (by simp [full]), lookup_of_dirsAbove above]
    cases found : d.entry? q with
    | none => rfl
    | some n =>
      cases n with
      | file data => exact absurd found (noFile data)
      | dir => rfl
      | records ps => rfl

/-- Making, shortest first, paths whose directories are there or made before them, on a tree
where none of them is a file. -/
theorem Tree.foldlM_createDir {f : Disk → List String → Except OsError Disk}
    (step : ∀ d q, d.Tree → d.DirsAbove q → (∀ data, d.entry? q ≠ some (.file data)) →
      f d q = .ok (if d.entry? q = none then d.put q .dir else d)) :
    ∀ (qs : List (List String)) (d : Disk), d.Tree → qs.Pairwise (fun a b => a.length < b.length) →
      (∀ q ∈ qs, ∀ r ∈ prefixes q, r ∈ qs ∨ ∃ m, d.entry? r = some m ∧ m.isDir) →
      (∀ q ∈ qs, ∀ data, d.entry? q ≠ some (.file data)) →
      ∃ d', qs.foldlM f d = .ok d' ∧ d'.Tree ∧
        ∀ q, d'.entry? q = if q ∈ qs ∧ d.entry? q = none then some .dir else d.entry? q
  | [], d, t, _, _, _ => ⟨d, rfl, t, fun q => by simp⟩
  | q :: rest, d, t, sorted, above, noFile => by
    obtain ⟨longer, sortedRest⟩ := List.pairwise_cons.1 sorted
    -- the paths above `q` are shorter, so they are not still to be made
    have dirs : d.DirsAbove q := by
      intro r mem
      rcases above q (List.mem_cons_self ..) r mem with listed | present
      · have short := (mem_prefixes.1 mem)
        have := short.1.length_le
        rcases List.mem_cons.1 listed with same | later
        · exact absurd same short.2
        · have := longer r later
          have ne : r.length ≠ q.length := fun eq => short.2 (short.1.eq_of_length eq)
          omega
      · exact present
    have made : ∀ x, Disk.entry? (if d.entry? q = none then d.put q .dir else d) x =
        if x = q ∧ d.entry? q = none then some .dir else d.entry? x := by
      intro x
      split
      · rename_i missing
        rw [entry_put]
        by_cases same : x = q
        · subst same
          have full : x ≠ [] := fun top => by simp [top, entry?] at missing
          simp [full, missing]
        · simp [same]
      · rename_i present
        simp [present]
    have t₁ : (if d.entry? q = none then d.put q .dir else d).Tree := by
      split
      · have full : q ≠ [] := fun top => by simp_all [Disk.entry?]
        exact t.put dirs full fun dir => by cases dir
      · exact t
    have dir₁ : ∃ m, Disk.entry? (if d.entry? q = none then d.put q .dir else d) q = some m ∧ m.isDir := by
      rw [made]
      cases found : d.entry? q with
      | none => exact ⟨.dir, by simp, rfl⟩
      | some m =>
        refine ⟨m, by simp, ?_⟩
        cases m with
        | file data => exact absurd found (noFile q (List.mem_cons_self ..) data)
        | dir => rfl
        | records ps => rfl
    obtain ⟨d', rest', t', entries⟩ := Tree.foldlM_createDir step rest _ t₁ sortedRest
      (fun q' mem r above' => by
        rcases above q' (List.mem_cons_of_mem _ mem) r above' with listed | present
        · rcases List.mem_cons.1 listed with rfl | later
          · exact .inr dir₁
          · exact .inl later
        · obtain ⟨m, here, dir⟩ := present
          refine .inr ⟨m, ?_, dir⟩
          rw [made]
          split
          · rename_i hit
            rw [hit.1, hit.2] at here
            cases here
          · exact here)
      (fun q' mem data => by
        rw [made]
        split
        · simp
        · exact noFile q' (List.mem_cons_of_mem _ mem) data)
    refine ⟨d', by rw [List.foldlM_cons, step d q t dirs (noFile q (List.mem_cons_self ..))]; exact rest', t',
      fun x => ?_⟩
    rw [entries x, made]
    by_cases same : x = q
    · subst same
      cases d.entry? x <;> simp
    · simp [same]

/-- Making the directories above and at a path where no file stands goes through on a tree, and
makes a directory exactly where one was missing. -/
theorem Tree.createDirAll (t : d.Tree) (noFile : ∀ q ∈ prefixes p ++ [p], ∀ data, d.entry? q ≠ some (.file data)) :
    ∃ d', d.createDirAll p = .ok d' ∧ d'.Tree ∧
      ∀ q, d'.entry? q = if q ∈ prefixes p ++ [p] ∧ d.entry? q = none then some .dir else d.entry? q :=
  Tree.foldlM_createDir (fun _ _ _ above noFile => createDir_step p above noFile) _ d t
    (pairwise_prefixes_append p) (fun q mem r above => .inl (prefixes_closed p q mem r above)) noFile

/-! ### Listing and pruning below a directory -/

variable {w : List String}

theorem Tree.entry_of_under (t : d.Tree) {e : List String × Node} (mem : e ∈ d.under w) :
    e.1 ≠ [] ∧ d.entry? (w ++ e.1) = some e.2 := by
  unfold under at mem
  obtain ⟨a, listed, hit⟩ := List.mem_filterMap.1 mem
  split at hit
  · rename_i within
    cases hit
    have pre : w <+: a.1 := List.isPrefixOf_iff_prefix.1 (by simpa [below] using within.1)
    have whole : w ++ a.1.drop w.length = a.1 := by
      obtain ⟨rest, split⟩ := pre
      rw [← split]
      simp
    have long : w.length < a.1.length := by simpa using within.2
    refine ⟨fun empty => ?_, ?_⟩
    · rw [List.drop_eq_nil_iff] at empty
      omega
    · rw [whole]
      exact entry_of_mem t.nodup listed fun top => by simp [top] at within
  · cases hit

theorem mem_under {q : List String} {n : Node} (full : q ≠ []) (found : d.entry? (w ++ q) = some n) :
    (q, n) ∈ d.under w := by
  have long : w ++ q ≠ [] := by simp [full]
  rw [Disk.entry?, if_neg (by simpa using long)] at found
  unfold under
  refine List.mem_filterMap.2 ⟨(w ++ q, n), mem_of_lookup found, ?_⟩
  have : 0 < q.length := List.length_pos_iff.2 full
  simp [below, this]

theorem entry_drop_of_under {p : List String} (empty : (d.under p).isEmpty = true) (q : List String) :
    Disk.entry? (d.drop p) q = if q ≠ [] ∧ q = p then none else d.entry? q := by
  rw [entry_drop]
  by_cases under : q ≠ [] ∧ p <+: q
  · rw [if_pos under]
    by_cases same : q = p
    · rw [if_pos ⟨under.1, same⟩]
    · -- an entry strictly below `p` would be listed below it
      rw [if_neg fun (hit : q ≠ [] ∧ q = p) => same hit.2, entry?, if_neg (by simpa using under.1)]
      symm
      rw [List.lookup_eq_none_iff]
      intro e mem
      refine bne_iff_ne.2 fun hit => ?_
      have longer : p.length < q.length :=
        lt_of_le_of_ne under.2.length_le fun eq => same (under.2.eq_of_length eq).symm
      have listed : (q.drop p.length, e.2) ∈ d.under p := by
        unfold Disk.under
        refine List.mem_filterMap.2 ⟨e, mem, ?_⟩
        rw [← hit]
        simp [below, List.isPrefixOf_iff_prefix.2 under.2, longer]
      simp [List.isEmpty_iff] at empty
      rw [empty] at listed
      cases listed
  · rw [if_neg under, if_neg fun (hit : q ≠ [] ∧ q = p) => under ⟨hit.1, hit.2 ▸ List.prefix_refl p⟩]

/-- `d'` is `d` with some directories strictly below `w` taken out. -/
def Prunes (w : List String) (d d' : Disk) : Prop :=
  ∀ q, d'.entry? q = d.entry? q ∨ (d.entry? q = some .dir ∧ d'.entry? q = none ∧ w <+: q ∧ w ≠ q)

theorem Prunes.refl (w : List String) (d : Disk) : Prunes w d d := fun _ => .inl rfl

theorem Prunes.trans {d'' : Disk} (first : Prunes w d d') (second : Prunes w d' d'') : Prunes w d d'' := by
  intro q
  rcases first q with same | ⟨dir, gone, below⟩ <;> rcases second q with same' | ⟨dir', gone', below'⟩
  · exact .inl (same'.trans same)
  · exact .inr ⟨same ▸ dir', gone', below'⟩
  · exact .inr ⟨dir, same'.trans gone, below⟩
  · rw [gone] at dir'
    cases dir'

/-- Dropping, one after another, directories of `d` strictly below `w` below which nothing is
listed when their turn comes. -/
theorem Tree.prune (t : d.Tree) :
    ∀ (dirs : List (List String)) (D : Disk), (∀ p ∈ dirs, d.entry? p = some .dir ∧ w <+: p ∧ w ≠ p) →
      D.Tree → Prunes w d D → (dirs.foldl (fun d p => if (d.under p).isEmpty then d.drop p else d) D).Tree ∧
        Prunes w d (dirs.foldl (fun d p => if (d.under p).isEmpty then d.drop p else d) D)
  | [], _, _, tD, pruned => ⟨tD, pruned⟩
  | p :: rest, D, dirs, tD, pruned => by
    rw [List.foldl_cons]
    obtain ⟨dir, below⟩ := dirs p (List.mem_cons_self ..)
    refine Tree.prune t rest _ (fun q mem => dirs q (List.mem_cons_of_mem _ mem)) ?_ ?_
    · split
      · exact tD.drop p
      · exact tD
    · split
      · rename_i empty
        intro q
        rw [entry_drop_of_under empty]
        by_cases hit : q ≠ [] ∧ q = p
        · obtain ⟨full, rfl⟩ := hit
          exact .inr ⟨dir, by simp [full], below⟩
        · rw [if_neg hit]
          exact pruned q
      · exact pruned

theorem Tree.pruneEmpty (t : d.Tree) (w : List String) :
    (Archive.pruneEmpty d w).Tree ∧ Prunes w d (Archive.pruneEmpty d w) := by
  refine Tree.prune t _ d (fun p mem => ?_) t (Prunes.refl w d)
  rw [List.mem_mergeSort] at mem
  obtain ⟨e, listed, hit⟩ := List.mem_filterMap.1 mem
  obtain ⟨full, found⟩ := t.entry_of_under listed
  split at hit
  · rename_i dir
    cases hit
    refine ⟨dir ▸ found, List.prefix_append _ _, fun same => full ?_⟩
    simpa using congrArg List.length same
  · cases hit

theorem Tree.nodup_under (t : d.Tree) : ((d.under w).map Prod.fst).Nodup := by
  have keys : ((d.under w).map Prod.fst) = (d.nodes.map Prod.fst).filterMap fun p =>
      if below w p ∧ p.length > w.length then some (p.drop w.length) else none := by
    rw [under, List.map_filterMap, List.filterMap_map]
    congr 1
    funext e
    split <;> simp_all
  rw [keys]
  -- two paths below `w` with one relative path are one path
  refine t.nodup.filterMap fun a a' b hit hit' => ?_
  simp only [Option.mem_def, Option.ite_none_right_eq_some, Option.some.injEq] at hit hit'
  have pre : w <+: a := List.isPrefixOf_iff_prefix.1 (by simpa [below] using hit.1.1)
  have pre' : w <+: a' := List.isPrefixOf_iff_prefix.1 (by simpa [below] using hit'.1.1)
  rw [(List.prefix_iff_eq_append.1 pre).symm, ← List.prefix_iff_eq_append.1 pre', hit.2, hit'.2]

theorem filterMap_sublist_map_fst {α β : Type} {F : α × β → Option α} (keyed : ∀ e b, F e = some b → b = e.1) :
    ∀ l : List (α × β), (l.filterMap F).Sublist (l.map Prod.fst)
  | [] => List.Sublist.slnil
  | e :: rest => by
    rw [List.filterMap_cons, List.map_cons]
    cases hit : F e with
    | none => exact (filterMap_sublist_map_fst keyed rest).cons _
    | some b =>
      rw [keyed e b hit]
      exact (filterMap_sublist_map_fst keyed rest).cons_cons _

/-- Removing, one after another, files listed once each, each a file of the tree. -/
theorem Tree.removeFiles {f : Disk → List String → Outcome Disk}
    (step : ∀ D rel D', D.removeFile (w ++ rel) = .ok D' → f D rel = .ok D') :
    ∀ (names : List (List String)) (D : Disk), D.Tree → names.Nodup →
      (∀ rel ∈ names, ∃ data, D.entry? (w ++ rel) = some (.file data)) → ∀ {r : Outcome Disk}, names.foldlM f D = r →
      ∃ D', r = .ok D' ∧ D'.Tree ∧ ∀ q, D'.entry? q = if ∃ rel ∈ names, q = w ++ rel then none else D.entry? q
  | [], D, tD, _, _, _, run => ⟨D, run.symm, tD, fun q => by simp⟩
  | rel :: rest, D, tD, nodup, files, r, run => by
    obtain ⟨data, file⟩ := files rel (List.mem_cons_self ..)
    have removed := tD.removeFile_ok file
    obtain ⟨t₁, entries₁⟩ := tD.removeFile removed
    obtain ⟨notHere, nodupRest⟩ := List.nodup_cons.1 nodup
    have files₁ : ∀ rel' ∈ rest, ∃ data, Disk.entry? (D.drop (w ++ rel)) (w ++ rel') = some (.file data) := by
      intro rel' mem
      rw [entries₁, if_neg fun (same : w ++ rel' = w ++ rel) => notHere ((List.append_cancel_left same) ▸ mem)]
      exact files rel' (List.mem_cons_of_mem _ mem)
    rw [List.foldlM_cons, step D rel _ removed] at run
    obtain ⟨D', rest', t', entries'⟩ := Tree.removeFiles step rest _ t₁ nodupRest files₁ run
    refine ⟨D', rest', t', fun q => ?_⟩
    rw [entries', entries₁]
    by_cases here : q = w ++ rel
    · simp [here]
    · simp [here]

section Listing

variable (t : d.Tree) (noRecords : ∀ q ps, d.entry? (w ++ q) ≠ some (.records ps))
include t

theorem Tree.nodup_files : (Archive.files d w).Nodup := by
  unfold Archive.files
  refine (List.mergeSort_perm _ _).nodup_iff.2 ((filterMap_sublist_map_fst (fun e b hit => ?_) _).nodup t.nodup_under)
  split at hit
  · split at hit
    · cases hit
    · cases hit
      rfl
  · cases hit

include noRecords

theorem Tree.mem_files {rel : List String} :
    rel ∈ Archive.files d w ↔ rel ≠ [] ∧ ∃ data, d.entry? (w ++ rel) = some (.file data) := by
  unfold Archive.files
  rw [List.mem_mergeSort, List.mem_filterMap]
  -- no record database is listed, so no file is left out for lying inside one
  have none : ∀ f ∈ d.under w, ∀ ps, f.2 ≠ .records ps := fun f mem ps same => by
    obtain ⟨-, found⟩ := t.entry_of_under mem
    exact noRecords f.1 ps (same ▸ found)
  constructor
  · rintro ⟨e, mem, hit⟩
    obtain ⟨full, found⟩ := t.entry_of_under mem
    split at hit
    · rename_i data file
      split at hit
      · cases hit
      · cases hit
        exact ⟨full, data, file ▸ found⟩
    · cases hit
  · rintro ⟨full, data, found⟩
    refine ⟨(rel, .file data), mem_under full found, ?_⟩
    dsimp only
    rw [if_neg]
    simp only [List.any_eq_true, not_exists, not_and]
    intro f mem
    split
    · rename_i ps records
      exact absurd records (none f mem ps)
    · simp

end Listing

/-! ### Writing and moving a new file -/

theorem DirsAbove.of_prefix {q : List String} (above : d.DirsAbove p) (mem : q ∈ prefixes p) : d.DirsAbove q := by
  intro r inner
  obtain ⟨pre, ne⟩ := mem_prefixes.1 mem
  obtain ⟨pre', ne'⟩ := mem_prefixes.1 inner
  refine above r (mem_prefixes.2 ⟨pre'.trans pre, fun same => ne' ?_⟩)
  subst same
  exact pre'.eq_of_length (le_antisymm pre'.length_le pre.length_le)

theorem dropLast_mem_prefixes (full : p ≠ []) : p.dropLast ∈ prefixes p :=
  mem_prefixes.2 ⟨List.dropLast_prefix p, fun same => by
    have := congrArg List.length same
    simp only [List.length_dropLast] at this
    have := List.length_pos_iff.2 full
    omega⟩

theorem needParent_of_dirsAbove (above : d.DirsAbove p) (full : p ≠ []) : d.needParent p = .ok () := by
  obtain ⟨m, here, dir⟩ := above _ (dropLast_mem_prefixes full)
  have found : d.lookup p.dropLast = .ok (some m) :=
    lookup_eq_some.2 ⟨above.of_prefix (dropLast_mem_prefixes full), here⟩
  unfold needParent
  simp only [bind, Except.bind, found, pure, Except.pure]
  cases m with
  | file data => cases dir
  | dir => rfl
  | records ps => rfl

theorem writeFile_new (data : ByteArray) (above : d.DirsAbove p) (full : p ≠ []) (missing : d.entry? p = none) :
    d.writeFile p data = .ok (d.put p (.file data)) := by
  unfold writeFile
  simp [bind, Except.bind, full, lookup_of_dirsAbove above, missing, needParent_of_dirsAbove above full, pure,
    Except.pure]

theorem Tree.rename_new {a b : List String} {data : ByteArray} (t : d.Tree) (file : d.entry? a = some (.file data))
    (above : d.DirsAbove b) (full : b ≠ []) (missing : d.entry? b = none) (apart : a ≠ b) :
    ∃ d', d.rename a b = .ok d' := by
  unfold Disk.rename
  simp [bind, Except.bind, pure, Except.pure, t.lookup_of_entry file, lookup_of_dirsAbove above, missing,
    needParent_of_dirsAbove above full, apart, Node.isDir]

theorem dirsAbove_concat {x : String} (above : d.DirsAbove p) (dir : ∃ m, d.entry? p = some m ∧ m.isDir) :
    d.DirsAbove (p ++ [x]) := by
  intro q mem
  obtain ⟨pre, ne⟩ := mem_prefixes.1 mem
  rcases List.prefix_concat_iff.1 pre with same | shorter
  · exact absurd same ne
  · by_cases top : q = p
    · exact top ▸ dir
    · exact above q (mem_prefixes.2 ⟨shorter, top⟩)

end Disk

namespace Archive

/-- A working directory that packing takes whole and unpacking gives back: a directory of a tree
with nothing at the archive's two names and no record database below it, named by a text without
NUL, each file below it under plain names without NUL that join into a name of fewer than 2^32
bytes, with fewer than 2^64 bytes of content. -/
structure Packable (d : Disk) (dir : String) : Prop where
  tree : d.Tree
  isDir : d.entry? (Disk.locate dir) = some .dir
  noNul : Char.ofNat 0 ∉ dir.toList
  noRecords : ∀ q ps, d.entry? (Disk.locate dir ++ q) ≠ some (.records ps)
  named : ∀ q data, d.entry? (Disk.locate dir ++ q) = some (.file data) →
    RecordPath.Valid q ∧ (∀ s ∈ q, Char.ofNat 0 ∉ s.toList) ∧
      (RecordPath.ofSegments q).toUTF8.size < 2 ^ 32 ∧ data.size < 2 ^ 64
  noArchive : d.entry? (Disk.locate dir ++ [fileName]) = none
  noPartial : d.entry? (Disk.locate dir ++ [fileName ++ ".partial"]) = none

theorem Packable.mem_files (ok : Packable d dir) {rel : List String} :
    rel ∈ files d (Disk.locate dir) ↔ rel ≠ [] ∧ ∃ data, d.entry? (Disk.locate dir ++ rel) = some (.file data) :=
  ok.tree.mem_files ok.noRecords

theorem Packable.not_mem_files (ok : Packable d dir) {x : String} (none : d.entry? (Disk.locate dir ++ [x]) = none) :
    [x] ∉ files d (Disk.locate dir) := fun mem => by
  obtain ⟨-, data, file⟩ := ok.mem_files.1 mem
  rw [none] at file
  cases file

/-- The content of the file at a path, empty where there is none. -/
def contentAt (d : Disk) (p : List String) : ByteArray :=
  match d.entry? p with
  | some (.file data) => data
  | _ => ByteArray.empty

theorem contentAt_of_file {d : Disk} {p : List String} {data : ByteArray} (file : d.entry? p = some (.file data)) :
    contentAt d p = data := by
  simp [contentAt, file]

/-- The entries packing writes for the files below `w`: each file's names joined by `/`, and its
content, in path order. -/
def packedEntries (d : Disk) (w : List String) : List (String × ByteArray) :=
  (files d w).map fun rel => (RecordPath.ofSegments rel, contentAt d (w ++ rel))

/-- What packing leaves below `w`: the archive holding `stream`, and otherwise only directories
that were there; outside `w` nothing changed. -/
structure Packed (d : Disk) (w : List String) (stream : ByteArray) (d' : Disk) : Prop where
  tree : d'.Tree
  outside : ∀ q, ¬ (w <+: q ∧ w ≠ q) → d'.entry? q = d.entry? q
  archive : d'.entry? (w ++ [fileName]) = some (.file stream)
  inside : ∀ q n, q ≠ [] → q ≠ [fileName] → d'.entry? (w ++ q) = some n → n = .dir ∧ d.entry? (w ++ q) = some .dir

theorem foldlM_append_eq {α : Type} {f : List UInt8 → α → Outcome (List UInt8)} {g : α → List UInt8} :
    ∀ (xs : List α), (∀ acc x, x ∈ xs → f acc x = .ok (acc ++ g x)) → ∀ (acc : List UInt8) {r : Outcome (List UInt8)},
      xs.foldlM f acc = r → r = .ok (acc ++ (xs.map g).flatten)
  | [], _, acc, _, run => by
    rw [← run]
    simp
    rfl
  | x :: xs, step, acc, r, run => by
    rw [List.foldlM_cons, step acc x (List.mem_cons_self ..)] at run
    rw [foldlM_append_eq xs (fun acc y mem => step acc y (List.mem_cons_of_mem _ mem)) _ run]
    simp

variable {d : Disk} {dir : String}

theorem pack_of_packed (packed : d.exists? (Disk.locate (archivePath dir)) = true) : pack d dir = .ok (d, 0) := by
  simp [pack, packed]
  rfl

theorem pack_of_empty (empty : files d (Disk.locate dir) = []) : pack d dir = .ok (d, 0) := by
  unfold pack
  simp [empty]
  rfl

/-- Packing a directory of files goes through: it answers the number of files, and leaves the
archive holding the compressed stream of their entries in path order, with only directories
that were there beside it. -/
theorem pack_spec (ok : Packable d dir) (nonempty : files d (Disk.locate dir) ≠ []) :
    ∃ d', pack d dir = .ok (d', (files d (Disk.locate dir)).length) ∧
      Packed d (Disk.locate dir) ⟨(Zstd.compress (magic ++ written (packedEntries d (Disk.locate dir)))).toArray⟩ d' := by
  have t := ok.tree
  set w := Disk.locate dir with hw
  have isDir : d.entry? w = some .dir := ok.isDir
  have noPartial : d.entry? (w ++ [fileName ++ ".partial"]) = none := ok.noPartial
  have noArchive : d.entry? (w ++ [fileName]) = none := ok.noArchive
  have files_iff : ∀ rel, rel ∈ files d w ↔ rel ≠ [] ∧ ∃ data, d.entry? (w ++ rel) = some (.file data) :=
    fun _ => ok.mem_files
  -- the partial archive and the archive are no files of the directory
  have apart : fileName ++ ".partial" ≠ fileName := by decide
  have notPartial : [fileName ++ ".partial"] ∉ files d w := ok.not_mem_files ok.noPartial
  have notArchive : [fileName] ∉ files d w := ok.not_mem_files ok.noArchive
  have kept : (files d w).filter (fun x => x != [fileName ++ ".partial"]) = files d w :=
    List.filter_eq_self.2 fun rel mem => bne_iff_ne.2 fun same => notPartial (same ▸ mem)
  -- the directory is there, and so is every directory above it
  have dirW : ∃ m, d.entry? w = some m ∧ m.isDir := ⟨.dir, isDir, rfl⟩
  have above : d.DirsAbove w := t.dirsAbove isDir
  have start : ¬ ((!d.isDir w) = true ∨ d.exists? (Disk.locate (archivePath dir)) = true) := by
    simp [Disk.isDir, Disk.exists?, t.node?_eq, isDir, Node.isDir, locate_archivePath, ← hw, noArchive]
  suffices ∀ r, pack d dir = r → ∃ d', r = .ok (d', (files d w).length) ∧
      Packed d w ⟨(Zstd.compress (magic ++ written (packedEntries d w))).toArray⟩ d' from this _ rfl
  intro r run
  unfold pack at run
  simp only [bind, Except.bind, pure, Except.pure, throw, throwThe, MonadExceptOf.throw, ← hw, kept,
    if_neg start, List.isEmpty_iff, nonempty, if_false] at run
  -- the stream is the magic and then the entries of the files in path order
  rw [foldlM_append_eq (g := fun rel => entry (RecordPath.ofSegments rel) (contentAt d (w ++ rel)).toList)
    _ (fun acc rel mem => ?_) _ rfl] at run
  swap
  · obtain ⟨-, data, file⟩ := (files_iff rel).1 mem
    simp [t.readFile file, contentAt, file, RecordPath.ofSegments]
  have whole : magic ++ ((files d w).map fun rel => entry (RecordPath.ofSegments rel) (contentAt d (w ++ rel)).toList).flatten =
      magic ++ written (packedEntries d w) := by
    simp [written, packedEntries, Function.comp_def]
  dsimp only at run
  rw [whole] at run
  set S : ByteArray := ⟨(Zstd.compress (magic ++ written (packedEntries d w))).toArray⟩
  -- the partial archive is written, then moved into place
  have abovePartial : d.DirsAbove (w ++ [fileName ++ ".partial"]) := Disk.dirsAbove_concat above dirW
  have written₁ := Disk.writeFile_new S abovePartial (by simp) noPartial
  obtain ⟨t₁, entries₁⟩ := t.writeFile written₁
  rw [written₁] at run
  dsimp only at run
  have aboveArchive₁ : (d.put (w ++ [fileName ++ ".partial"]) (.file S)).DirsAbove (w ++ [fileName]) := by
    intro q mem
    rw [entries₁, if_neg]
    · exact Disk.dirsAbove_concat above dirW q mem
    · rintro rfl
      have pre := (Disk.mem_prefixes.1 mem).1
      rw [List.prefix_append_right_inj, List.singleton_prefix_cons_iff] at pre
      exact apart pre
  obtain ⟨d₂, renamed⟩ := t₁.rename_new (by rw [entries₁, if_pos rfl]) aboveArchive₁ (by simp)
    (by rw [entries₁, if_neg (by simpa using apart.symm)]; exact noArchive) (by simp [apart])
  obtain ⟨t₂, entries₂⟩ := t₁.rename (by rw [entries₁, if_pos rfl]) renamed
  rw [locate_archivePath, ← hw, renamed] at run
  dsimp only at run
  -- the files are removed, then the directories left empty
  have apartFrom : ∀ {rel x}, rel ∈ files d w → [x] ∉ files d w → w ++ rel ≠ w ++ [x] :=
    fun mem out same => out (List.append_cancel_left same ▸ mem)
  have files₂ : ∀ rel ∈ files d w, ∃ data, d₂.entry? (w ++ rel) = some (.file data) := by
    intro rel mem
    obtain ⟨-, data, file⟩ := (files_iff rel).1 mem
    refine ⟨data, ?_⟩
    rw [entries₂, if_neg (apartFrom mem notArchive), if_neg (apartFrom mem notPartial), entries₁,
      if_neg (apartFrom mem notPartial)]
    exact file
  split at run
  · rename_i e failed
    obtain ⟨D, wrong, -⟩ := Disk.Tree.removeFiles (fun D rel D' removed => by simp only [removed]) _ d₂ t₂
      t.nodup_files files₂ failed
    cases wrong
  rename_i d₃ removed
  obtain ⟨D, same, t₃, entries₃⟩ := Disk.Tree.removeFiles (fun D rel D' removed => by simp only [removed]) _ d₂ t₂
    t.nodup_files files₂ removed
  cases same
  obtain ⟨t₄, pruned⟩ := t₃.pruneEmpty w
  -- what is left before the empty directories go
  have entries : ∀ q, d₃.entry? q =
      if ∃ rel ∈ files d w, q = w ++ rel then none
      else if q = w ++ [fileName] then some (.file S)
      else if q = w ++ [fileName ++ ".partial"] then none else d.entry? q := by
    intro q
    rw [entries₃, entries₂, entries₁]
    split_ifs <;> rfl
  refine ⟨_, run.symm, t₄, fun q outside => ?_, ?_, fun q n full other found => ?_⟩
  · -- outside the directory nothing changed
    have notBelow : ∀ rel, rel ≠ [] → q ≠ w ++ rel := by
      rintro rel full rfl
      exact outside ⟨List.prefix_append _ _, fun same => full (by simpa using same)⟩
    rcases pruned q with same | ⟨-, -, below⟩
    · rw [same, entries, if_neg, if_neg (notBelow _ (by simp)), if_neg (notBelow _ (by simp))]
      rintro ⟨rel, mem, rfl⟩
      exact notBelow rel ((files_iff rel).1 mem).1 rfl
    · exact absurd below outside
  · -- the archive is there
    have notRemoved : ¬ ∃ rel ∈ files d w, w ++ [fileName] = w ++ rel := by
      rintro ⟨rel, mem, hit⟩
      exact apartFrom mem notArchive hit.symm
    rcases pruned (w ++ [fileName]) with same | ⟨dir, -⟩
    · rw [same, entries, if_neg notRemoved, if_pos rfl]
    · rw [entries, if_neg notRemoved, if_pos rfl] at dir
      cases dir
  · -- every other entry left below the directory is a directory that was there
    rcases pruned (w ++ q) with same | ⟨-, gone, -⟩
    · rw [same, entries] at found
      -- the removed files and the partial archive are gone, so split_ifs drops their branches
      split_ifs at found with removed archive staged
      · exact absurd (List.append_cancel_left archive) other
      · cases n with
        | file data => exact absurd ⟨q, (files_iff q).2 ⟨full, data, found⟩, rfl⟩ removed
        | dir => exact ⟨rfl, found⟩
        | records ps => exact absurd found (ok.noRecords q ps)
    · rw [gone] at found
      cases found

end Archive

end JobFlow

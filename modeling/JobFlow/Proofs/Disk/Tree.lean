import Mathlib
import JobFlow.Proofs.System.FirstSave

/-!
# Disks that are trees

A disk is a list of entries, and nothing in its type stops an entry from standing below a
file, below nothing, or twice.
-/

namespace JobFlow

namespace Disk

variable {d d' : Disk} {p q a b : List String} {n : Node}

/-! ### Listed entries -/

theorem mem_of_lookup {l : List (List String × Node)} {k : List String} (found : l.lookup k = some n) :
    (k, n) ∈ l := by
  obtain ⟨l₁, l₂, rfl, -⟩ := List.lookup_eq_some_iff.1 found
  simp

theorem lookup_of_mem : ∀ {l : List (List String × Node)}, (l.map Prod.fst).Nodup →
    ∀ {e : List String × Node}, e ∈ l → l.lookup e.1 = some e.2
  | [], _, _, mem => nomatch mem
  | (k, m) :: rest, nodup, e, mem => by
    rw [List.map_cons, List.nodup_cons] at nodup
    rcases List.mem_cons.1 mem with rfl | later
    · simp
    · have other : e.1 ≠ k := fun same => nodup.1 (List.mem_map.2 ⟨e, later, same⟩)
      rw [List.lookup_cons, beq_false_of_ne other]
      exact lookup_of_mem nodup.2 later

/-- A disk as the system keeps it: each path listed once, and every entry below directories. -/
structure Tree (d : Disk) : Prop where
  nodup : (d.nodes.map Prod.fst).Nodup
  hung : ∀ e ∈ d.nodes, d.DirsAbove e.1

theorem entry_of_mem {e : List String × Node} (nodup : (d.nodes.map Prod.fst).Nodup) (mem : e ∈ d.nodes)
    (full : e.1 ≠ []) : d.entry? e.1 = some e.2 := by
  rw [ entry?, if_neg (by simpa using full)]
  exact lookup_of_mem nodup mem

theorem Tree.of_entries (nodup : (d.nodes.map Prod.fst).Nodup)
    (hung : ∀ q n, d.entry? q = some n → d.DirsAbove q) : d.Tree := by
  refine ⟨nodup, fun e mem => ?_⟩
  by_cases top : e.1 = []
  · rw [top]
    intro q mem
    simp [prefixes] at mem
  · exact hung e.1 e.2 (entry_of_mem nodup mem top)

namespace Tree

variable (t : d.Tree)
include t

theorem dirsAbove (found : d.entry? p = some n) : d.DirsAbove p := by
  by_cases top : p = []
  · subst top
    intro q mem
    simp [prefixes] at mem
  · rw [ entry?, if_neg (by simpa using top)] at found
    exact t.hung _ (mem_of_lookup found)

theorem lookup_of_entry (found : d.entry? p = some n) : d.lookup p = .ok (some n) :=
  lookup_eq_some.2 ⟨t.dirsAbove found, found⟩

theorem node?_eq (p : List String) : d.node? p = d.entry? p := by
  cases found : d.entry? p with
  | some m => simp [node?, t.lookup_of_entry found]
  | none =>
    cases looked : d.lookup p with
    | error e => simp [node?, looked]
    | ok o =>
      cases o with
      | none => simp [node?, looked]
      | some m => rw [(lookup_eq_some.1 looked).2] at found; cases found

theorem below_leaf (leaf : ∀ m, d.entry? p = some m → m.isDir = false) (below : p <+: q) (ne : q ≠ p) :
    d.entry? q = none := by
  cases found : d.entry? q with
  | none => rfl
  | some m =>
    obtain ⟨m', here, dir⟩ := t.dirsAbove found p (mem_prefixes.2 ⟨below, fun same => ne same.symm⟩)
    rw [leaf m' here] at dir
    cases dir

theorem put (above : d.DirsAbove p) (full : p ≠ [])
    (leaf : n.isDir = false → ∀ q, p <+: q → q ≠ p → d.entry? q = none) : (d.put p n).Tree := by
  refine .of_entries ?_ fun q m here => ?_
  · have kept : ((d.nodes.filter fun e => e.1 != p).map Prod.fst).Nodup :=
      t.nodup.sublist (List.filter_sublist.map _)
    have fresh : p ∉ (d.nodes.filter fun e => e.1 != p).map Prod.fst := by
      simp
    simpa [Disk.put, List.nodup_append, fresh] using kept
  · intro q' mem
    obtain ⟨pre, ne⟩ := mem_prefixes.1 mem
    rw [entry_put] at here ⊢
    by_cases top : q = p
    · subst top
      rw [if_neg fun hit => ne hit.2]
      exact above q' mem
    · rw [if_neg fun hit => top hit.2] at here
      by_cases hit : q' ≠ [] ∧ q' = p
      · -- the entry set is a proper prefix of one that is there, so it is a directory
        obtain ⟨-, rfl⟩ := hit
        refine ⟨n, by simp [full], ?_⟩
        cases dir : n.isDir
        · rw [leaf dir q pre (fun same => ne same.symm)] at here
          cases here
        · rfl
      · rw [if_neg hit]
        exact t.dirsAbove here q' mem

theorem drop (p : List String) : (d.drop p).Tree := by
  refine .of_entries (t.nodup.sublist (List.filter_sublist.map _)) fun q m here => ?_
  intro q' mem
  obtain ⟨pre, ne⟩ := mem_prefixes.1 mem
  rw [entry_drop] at here ⊢
  split at here
  · cases here
  · rename_i kept
    have full : q ≠ [] := fun top => by simp [top] at pre; exact ne (pre ▸ top.symm)
    rw [if_neg fun hit => kept ⟨full, hit.2.trans pre⟩]
    exact t.dirsAbove here q' mem

end Tree

/-! ### The calls on a tree -/

theorem Tree.writeFile {data : ByteArray} (t : d.Tree) (ok : d.writeFile p data = .ok d') :
    d'.Tree ∧ ∀ q, d'.entry? q = if q = p then some (.file data) else d.entry? q := by
  obtain ⟨rfl, full, above, notDir⟩ := writeFile_ok ok
  have leaf : ∀ m, d.entry? p = some m → m.isDir = false :=
    fun m here => notDir m (lookup_eq_some.2 ⟨above, here⟩)
  refine ⟨t.put above full fun _ q below ne => t.below_leaf leaf below ne, fun q => ?_⟩
  rw [entry_put]
  by_cases same : q = p <;> simp [same, full]

theorem Tree.removeFile (t : d.Tree) (ok : d.removeFile p = .ok d') :
    d'.Tree ∧ ∀ q, d'.entry? q = if q = p then none else d.entry? q := by
  unfold Disk.removeFile at ok
  simp only [bind, Except.bind, throw, throwThe, MonadExceptOf.throw, pure, Except.pure] at ok
  split at ok
  · cases ok
  · rename_i found
    split at ok
    · cases ok
    · rename_i data
      cases ok
      obtain ⟨-, here⟩ := lookup_eq_some.1 found
      have full : p ≠ [] := fun top => by simp [top, entry?] at here
      have leaf : ∀ m, d.entry? p = some m → m.isDir = false := fun m again => by
        rw [here] at again
        cases again
        rfl
      refine ⟨t.drop p, fun q => ?_⟩
      rw [entry_drop]
      by_cases same : q = p
      · simp [same, full]
      · rw [if_neg same]
        split
        · rename_i hit
          exact (t.below_leaf leaf hit.2 same).symm
        · rfl
    · cases ok

/-- The entries at or below a file of a tree, moved below `b`, are the file alone. -/
theorem Tree.moved_file {data : ByteArray} (t : d.Tree) (file : d.entry? a = some (.file data)) :
    d.nodes.filterMap (fun e => if below a e.1 then some (b ++ e.1.drop a.length, e.2) else none) =
      [(b, .file data)] := by
  have full : a ≠ [] := fun top => by simp [top, entry?] at file
  rw [ entry?, if_neg (by simpa using full)] at file
  obtain ⟨l₁, l₂, split, before⟩ := List.lookup_eq_some_iff.1 file
  -- no other entry is at or below the file
  have apart : ∀ e ∈ d.nodes, e.1 ≠ a → below a e.1 = false := by
    intro e mem other
    by_contra hit
    have under : a <+: e.1 := by simpa [below] using hit
    have missing := t.below_leaf (fun m here => by
      rw [ entry?, if_neg (by simpa using full), file] at here
      cases here
      rfl) under other
    rw [entry_of_mem t.nodup mem fun top => full (List.prefix_nil.1 (top ▸ under))] at missing
    cases missing
  have keys := t.nodup
  rw [split] at keys apart ⊢
  simp only [List.map_append, List.map_cons, List.nodup_append, List.nodup_cons] at keys
  have none₁ : ∀ e ∈ l₁, e.1 ≠ a := fun e mem same => by simpa [same] using before e mem
  have none₂ : ∀ e ∈ l₂, e.1 ≠ a := fun e mem same => keys.2.1.1 (List.mem_map.2 ⟨e, mem, same⟩)
  rw [List.filterMap_append, List.filterMap_cons, List.filterMap_eq_nil_iff.2, List.filterMap_eq_nil_iff.2]
  · simp [below]
  · intro e mem
    simp [apart e (by simp [mem]) (none₂ e mem)]
  · intro e mem
    simp [apart e (by simp [mem]) (none₁ e mem)]

/-- What renaming a file does: onto itself nothing, and otherwise it drops both paths and
sets the target, which has its directories and is no directory. -/
theorem Tree.rename_ok {data : ByteArray} (t : d.Tree) (file : d.entry? a = some (.file data))
    (ok : d.rename a b = .ok d') : (a = b ∧ d' = d) ∨
      (d' = ((d.drop a).drop b).put b (.file data) ∧ b ≠ [] ∧ d.DirsAbove b ∧
        ∀ m, d.entry? b = some m → m.isDir = false) := by
  unfold Disk.rename at ok
  simp only [bind, Except.bind, throw, throwThe, MonadExceptOf.throw, pure, Except.pure,
    t.lookup_of_entry file] at ok
  split at ok
  · cases ok
  · rename_i dst target
    split at ok
    · cases ok
    · rename_i parent
      obtain ⟨m, up, dir⟩ := needParent_ok parent
      split at ok
      · rename_i same
        cases ok
        exact .inl ⟨same, rfl⟩
      · refine .inr ?_
        -- the moved entries are the file alone, put last below the dropped ones
        have moved : (((d.drop a).drop b).put b (.file data)).nodes =
            ((d.drop a).drop b).nodes ++ [(b, .file data)] := by
          simp only [Disk.put, List.append_left_inj]
          refine List.filter_eq_self.2 fun e mem => ?_
          simp only [Disk.drop, List.mem_filter] at mem
          simp only [bne_iff_ne, ne_eq]
          rintro rfl
          simp only [below, List.isPrefixOf_iff_prefix.2 (List.prefix_refl _)] at mem
          simp at mem
        cases dst with
        | none =>
          simp only [Node.isDir, Bool.false_eq_true, false_and, if_false] at ok
          cases ok
          have full : b ≠ [] := fun top => by simp [top, lookup, prefixes, entry?] at target
          refine ⟨by rw [t.moved_file file, ← moved], full, dirsAbove_of_parent up dir, fun m' here => ?_⟩
          rw [lookup_eq_some.2 ⟨dirsAbove_of_parent up dir, here⟩] at target
          cases target
        | some s =>
          cases s with
          | file data₀ =>
            simp only [Node.isDir, Bool.false_eq_true, false_and, if_false] at ok
            cases ok
            obtain ⟨-, here⟩ := lookup_eq_some.1 target
            have full : b ≠ [] := fun top => by simp [top, entry?] at here
            refine ⟨by rw [t.moved_file file, ← moved], full, dirsAbove_of_parent up dir, fun m' again => ?_⟩
            rw [here] at again
            cases again
            rfl
          | dir => simp [Node.isDir] at ok
          | records _ => simp [Node.isDir] at ok

/-- What renaming a file does to the entries: the target takes the file and the source is
gone. -/
theorem Tree.rename {data : ByteArray} (t : d.Tree) (file : d.entry? a = some (.file data))
    (ok : d.rename a b = .ok d') :
    d'.Tree ∧ ∀ q, d'.entry? q = if q = b then some (.file data) else if q = a then none else d.entry? q := by
  have fullA : a ≠ [] := fun top => by simp [top, entry?] at file
  have leafA : ∀ m, d.entry? a = some m → m.isDir = false := fun m here => by
    rw [file] at here
    cases here
    rfl
  rcases t.rename_ok file ok with ⟨rfl, rfl⟩ | ⟨rfl, full, above, leafB⟩
  · refine ⟨t, fun q => ?_⟩
    by_cases same : q = a
    · simp [same, file]
    · simp [same]
  · -- the directories above the target are not at or below the source, a file
    have kept : ((d.drop a).drop b).DirsAbove b := by
      intro q mem
      obtain ⟨m, here, dir⟩ := above q mem
      obtain ⟨pre, ne⟩ := mem_prefixes.1 mem
      refine ⟨m, ?_, dir⟩
      rw [entry_drop, entry_drop, if_neg fun hit => ne (hit.2.eq_of_length (le_antisymm hit.2.length_le
        pre.length_le)).symm]
      rw [if_neg fun hit => ?_, here]
      by_cases same : q = a
      · rw [same, file] at here
        cases here
        cases dir
      · rw [t.below_leaf leafA hit.2 same] at here
        cases here
    refine ⟨((t.drop a).drop b).put kept full fun _ q below ne => ?_, fun q => ?_⟩
    · rw [entry_drop, if_pos ⟨fun top => full (List.prefix_nil.1 (top ▸ below)), below⟩]
    · rw [entry_put, entry_drop, entry_drop]
      by_cases same : q = b
      · simp [same, full]
      · simp only [same, and_false, if_false]
        by_cases gone : q = a
        · simp [gone, fullA]
        · rw [if_neg gone]
          by_cases underB : b <+: q
          · rw [if_pos ⟨fun top => full (List.prefix_nil.1 (top ▸ underB)), underB⟩,
              t.below_leaf leafB underB same]
          · by_cases underA : a <+: q
            · rw [if_neg fun hit => underB hit.2, if_pos ⟨fun top => fullA (List.prefix_nil.1 (top ▸ underA)),
                underA⟩, t.below_leaf leafA underA gone]
            · rw [if_neg fun hit => underB hit.2, if_neg fun hit => underA hit.2]

end Disk

end JobFlow

import Mathlib
import JobFlow.Proofs.Disk.Records

/-!
# Directories opened as record databases

Opening a record where the disk holds a plain directory makes that directory an empty
record database first, and only then finds that it holds no record.
-/

namespace JobFlow

namespace Disk

variable {d d' d'' : Disk} {P : List String}

/-! ### What a path names -/

/-- Whether an entry stops every path below it: a file does. -/
def blocks : Option Node → Bool
  | some (.file _) => true
  | _ => false

/-- A path names what the entries on the way say: an error below a file, nothing below a
missing directory, and else its own entry. -/
theorem lookup_eq_entries (d : Disk) (p : List String) :
    d.lookup p = if (prefixes p).any (fun q => blocks ( d.entry? q)) then .error .notDirectory
      else if (prefixes p).all (fun q => ( d.entry? q).isSome) then .ok ( d.entry? p) else .ok none :=
  rfl

theorem lookup_put_dir {m : Node} (dir : d.lookup P = .ok (some .dir)) (holds : m.isDir) (q : List String) :
    (d.put P m).lookup q = if q = P ∧ P ≠ [] then .ok (some m) else d.lookup q := by
  have atP : d.entry? P = some .dir := (lookup_eq_some.1 dir).2
  have entries : ∀ q', Disk.entry? (d.put P m) q' = if q' ≠ [] ∧ q' = P then some m else d.entry? q' :=
    entry_put d P m
  -- the two disks agree on which entries are there and which are files
  have sameBlocks : (fun q' => blocks ( Disk.entry? (d.put P m) q')) = fun q' => blocks ( d.entry? q') := by
    funext q'
    rw [entries]
    split
    · rename_i hit
      rw [hit.2, atP]
      cases m <;> simp_all [blocks, Node.isDir]
    · rfl
  have samePresence : (fun q' => ( Disk.entry? (d.put P m) q').isSome) = fun q' => ( d.entry? q').isSome := by
    funext q'
    rw [entries]
    split
    · rename_i hit
      rw [hit.2, atP]
      rfl
    · rfl
  rw [lookup_eq_entries, lookup_eq_entries d q, sameBlocks, samePresence, entries q]
  by_cases hit : q = P ∧ P ≠ []
  · obtain ⟨rfl, full⟩ := hit
    -- the directory itself is reached, so nothing on the way is a file or missing
    have reached := dir
    rw [lookup_eq_entries] at reached
    split at reached
    · cases reached
    · split at reached
      · simp_all
      · cases reached
  · have other : ¬(q ≠ [] ∧ q = P) := fun put => hit ⟨put.2, fun top => put.1 (put.2 ▸ top)⟩
    rw [if_neg hit, if_neg other]

/-! ### Disks that show the same records -/

/-- `d'` is `d` with some plain directories opened as empty record databases: every path
names what it named in `d`, or an empty database where `d` had a plain directory. -/
def Reopened (d d' : Disk) : Prop :=
  ∀ q, d'.lookup q = d.lookup q ∨ d.lookup q = .ok (some .dir) ∧ d'.lookup q = .ok (some (.records []))

theorem Reopened.refl (d : Disk) : Reopened d d := fun _ => .inl rfl

theorem Reopened.trans (first : Reopened d d') (second : Reopened d' d'') : Reopened d d'' := by
  intro q
  rcases first q with same | ⟨dir, db⟩
  · rcases second q with same' | ⟨dir', db'⟩
    · exact .inl (same'.trans same)
    · exact .inr ⟨same ▸ dir', db'⟩
  · rcases second q with same' | ⟨dir', -⟩
    · exact .inr ⟨dir, same'.trans db⟩
    · rw [db] at dir'
      cases dir'

theorem reopened_put (dir : d.lookup P = .ok (some .dir)) : Reopened d (d.put P (.records [])) := by
  intro q
  rw [lookup_put_dir dir rfl]
  split
  · rename_i hit
    obtain ⟨rfl, -⟩ := hit
    exact .inr ⟨dir, rfl⟩
  · exact .inl rfl

section Reopened

variable (re : Reopened d d')
include re

theorem Reopened.isDir (q : List String) : d'.isDir q = d.isDir q := by
  rcases re q with same | ⟨dir, db⟩
  · simp [Disk.isDir, node?, same]
  · simp [Disk.isDir, node?, dir, db, Node.isDir]

theorem Reopened.exists? (q : List String) : d'.exists? q = d.exists? q := by
  rcases re q with same | ⟨dir, db⟩
  · simp [Disk.exists?, node?, same]
  · simp [Disk.exists?, node?, dir, db]

theorem Reopened.exists (p : String) : RecordStore.exists d' p = RecordStore.exists d p :=
  re.isDir (locate p)

end Reopened

end Disk

namespace RecordStore

/-- The record that opening a path reads, whatever the opening does to the disk. -/
def opened (s : RecordStore) (d : Disk) (p : String) : Outcome Record := (s.open d p).map Prod.snd

/-- What opening reads at a path is decided by what the path names, and a plain directory
reads as an empty database. -/
theorem opened_eq (s : RecordStore) (d : Disk) (p : String) :
    s.opened d p = match d.lookup (Disk.locate p) with
      | .ok (some (.records ps)) => (do (⟨p, ps, s.config⟩ : Record).checkFormat; pure ⟨p, ps, s.config⟩)
      | .ok (some .dir) => (do (⟨p, [], s.config⟩ : Record).checkFormat; pure ⟨p, [], s.config⟩)
      | .ok (some (.file _)) => .error (.storage (.io OsError.notDirectory.text))
      | _ => .error (.notFound s!"job record {p} does not exist") := by
  unfold opened RecordStore.open record openDb
  cases found : d.lookup (Disk.locate p) with
  | error e => simp [Disk.exists?, Disk.node?, found, bind, Except.bind, throw, throwThe, MonadExceptOf.throw,
      Except.map]
  | ok n =>
    cases n with
    | none => simp [Disk.exists?, Disk.node?, found, bind, Except.bind, throw, throwThe, MonadExceptOf.throw,
        Except.map]
    | some n =>
      cases n with
      | file data => simp [Disk.exists?, Disk.node?, found, bind, Except.bind, throw, throwThe,
          MonadExceptOf.throw, Except.map]
      | dir =>
        simp only [Disk.exists?, Disk.node?, found, bind, Except.bind, pure, Except.pure, Option.isSome,
          Bool.not_true, Bool.false_eq_true, if_false]
        cases (⟨p, [], s.config⟩ : Record).checkFormat <;> rfl
      | records ps =>
        simp only [Disk.exists?, Disk.node?, found, bind, Except.bind, pure, Except.pure, Option.isSome,
          Bool.not_true, Bool.false_eq_true, if_false]
        cases (⟨p, ps, s.config⟩ : Record).checkFormat <;> rfl

theorem opened_of_reopened {d d' : Disk} (re : Disk.Reopened d d') (s : RecordStore) (p : String) :
    s.opened d' p = s.opened d p := by
  rw [opened_eq, opened_eq]
  rcases re (Disk.locate p) with same | ⟨dir, db⟩
  · rw [same]
  · rw [dir, db]

end RecordStore

namespace Disk

variable {d d' : Disk} {p P : List String}

/-! ### The paths a disk lists -/

/-- The paths a disk lists. -/
abbrev paths (d : Disk) : List (List String) := d.nodes.map Prod.fst

theorem paths_put (nodup : d.paths.Nodup) (listed : p ∈ d.paths) (m : Node) :
    (d.put p m).paths.Perm d.paths := by
  have rest : (d.nodes.filter fun e => e.1 != p).map Prod.fst = d.paths.erase p := by
    rw [nodup.erase_eq_filter, paths, List.filter_map]
    rfl
  have listing : (d.put p m).paths = d.paths.erase p ++ [p] := by
    simp only [paths, Disk.put, List.map_append, rest]
    rfl
  rw [listing]
  exact (List.perm_append_singleton _ _).trans (List.perm_cons_erase listed).symm

theorem mem_paths_of_lookup {n : Node} (found : d.lookup P = .ok (some n)) (full : P ≠ []) : P ∈ d.paths := by
  have here := (lookup_eq_some.1 found).2
  rw [ entry?, if_neg (by simpa using full)] at here
  obtain ⟨l₁, l₂, split, -⟩ := List.lookup_eq_some_iff.1 here
  simp [paths, split]

/-- The name right below `p` on a path, if the path is one step below `p`. -/
def nameBelow (p k : List String) : Option String :=
  if below p k ∧ k.length > p.length then
    match k.drop p.length with
    | [n] => some n
    | _ => none
  else none

theorem children_eq (d : Disk) (p : List String) :
    d.children p = (d.paths.filterMap (nameBelow p)).mergeSort (fun a b => decide (a ≤ b)) := by
  unfold children under
  dsimp only
  congr 1
  rw [List.filterMap_filterMap, paths, List.filterMap_map]
  congr 1
  funext e
  unfold nameBelow
  by_cases one : below p e.1 = true ∧ e.1.length > p.length
  · -- the two sides take the rest of the path apart each by its own match
    rcases rest : List.drop p.length e.1 with _ | ⟨n, _ | ⟨m, more⟩⟩ <;>
      simp only [one, rest, and_self, if_true, Option.bind_some, Function.comp]
  · simp only [one, if_false, Option.bind_none, Function.comp]

theorem children_eq_of_perm (perm : d'.paths.Perm d.paths) (p : List String) : d'.children p = d.children p := by
  rw [children_eq, children_eq]
  have sorted : ∀ l : List String, (l.mergeSort fun a b => decide (a ≤ b)).Pairwise (· ≤ ·) := fun l =>
    (List.pairwise_mergeSort (fun a b c (ab : decide (a ≤ b) = true) (bc : decide (b ≤ c) = true) =>
      decide_eq_true (le_trans (of_decide_eq_true ab) (of_decide_eq_true bc)))
      (fun a b => by simpa using le_total a b) l).imp of_decide_eq_true
  refine List.Perm.eq_of_pairwise' (sorted _) (sorted _) ?_
  exact (List.mergeSort_perm _ _).trans ((perm.filterMap _).trans (List.mergeSort_perm _ _).symm)

end Disk

end JobFlow

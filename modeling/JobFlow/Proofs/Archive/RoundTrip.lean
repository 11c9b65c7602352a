import Mathlib
import JobFlow.Proofs.Archive.Packing

/-!
# Packing and unpacking a directory

`Archive.unpack` reads an archive back entry by entry and writes each entry's file at the path
its name gives below the directory, after making the directories above it.
-/

namespace JobFlow

namespace Archive

open Disk

variable {dir : String}

theorem nul_not_mem_join {rel : List String} (noNul : Char.ofNat 0 ∉ dir.toList)
    (plain : ∀ s ∈ rel, Char.ofNat 0 ∉ s.toList) :
    Char.ofNat 0 ∉ (Path.join dir (RecordPath.ofSegments rel)).toList := by
  intro mem
  rcases Path.mem_join mem with slash | inDir | ⟨s, inRel, inS⟩
  · exact absurd slash (by decide)
  · exact noNul inDir
  · exact plain s inRel inS

theorem writePath_join (D : Disk) {rel : List String} (valid : RecordPath.Valid rel) (full : rel ≠ [])
    (data : ByteArray) :
    D.writePath (Path.join dir (RecordPath.ofSegments rel)) data = D.writeFile (Disk.locate dir ++ rel) data := by
  obtain ⟨B, joined, -⟩ := Path.join_split dir valid full
  obtain ⟨slash, slashDot, dot⟩ := Path.names_file (B := B) (valid _ (List.getLast_mem full))
  rw [← Disk.locate_join dir valid full]
  unfold Disk.writePath
  rw [joined]
  simp [slash, slashDot, dot]

theorem plainName_ofSegments {rel : List String} (valid : RecordPath.Valid rel) (full : rel ≠ []) :
    plainName (RecordPath.ofSegments rel) = true := by
  have parts := Path.parts_ofSegments valid full
  have named : RecordPath.ofSegments rel ≠ "" := fun empty => by
    rw [empty] at parts
    exact full (List.map_eq_nil_iff.1 (parts.symm.trans rfl))
  simp [plainName, parts, named]

theorem prefix_dropLast {q l : List String} (pre : q <+: l) (ne : q ≠ l) : q <+: l.dropLast := by
  refine List.prefix_of_prefix_length_le pre (List.dropLast_prefix l) ?_
  have shorter : q.length ≠ l.length := fun same => ne (pre.eq_of_length same)
  have := pre.length_le
  simp only [List.length_dropLast]
  omega

theorem mem_prefixes_append {p q : List String} : q ∈ prefixes p ++ [p] ↔ q <+: p := by
  rw [List.mem_append, mem_prefixes, List.mem_singleton]
  constructor
  · rintro (⟨pre, -⟩ | rfl)
    · exact pre
    · exact List.prefix_refl q
  · intro pre
    by_cases same : q = p
    · exact .inr same
    · exact .inl ⟨pre, same⟩

/-- What restoring needs of an entry's name: plain names, at least one, none holding a NUL. -/
structure EntryName (rel : List String) : Prop where
  valid : RecordPath.Valid rel
  full : rel ≠ []
  noNul : ∀ s ∈ rel, Char.ofNat 0 ∉ s.toList

/-- `D'` is `D` with the entries' files written below `w`: each entry's file is there, and
elsewhere `D'` holds what `D` held, or a directory made above one of the files. -/
structure Restores (w : List String) (ents : List (List String × ByteArray)) (D D' : Disk) : Prop where
  tree : D'.Tree
  written : ∀ e ∈ ents, D'.entry? (w ++ e.1) = some (.file e.2)
  grows : ∀ q, (∀ e ∈ ents, q ≠ w ++ e.1) → D'.entry? q = D.entry? q ∨
    (D.entry? q = none ∧ D'.entry? q = some .dir ∧ ∃ e ∈ ents, q <+: w ++ e.1.dropLast)

/-- Restoring an entry writes its file below the directory, where nothing was, after making
the directories above it where no file stands. -/
theorem restoreOne_entry {D : Disk} {r r' : Zstd.Stream} {rel : List String} {data : ByteArray}
    (noNul : Char.ofNat 0 ∉ dir.toList) (name : EntryName rel) (t : D.Tree)
    (fresh : D.entry? (Disk.locate dir ++ rel) = none)
    (noFileAbove : ∀ q, q <+: Disk.locate dir ++ rel.dropLast → ∀ data, D.entry? q ≠ some (.file data))
    (read : readEntry r = .ok (some (RecordPath.ofSegments rel, data, r'))) :
    ∃ D', restoreOne dir D r = (D', .ok (some r')) ∧ Restores (Disk.locate dir) [(rel, data)] D D' := by
  obtain ⟨p, parent, located, pre⟩ := Path.parent?_join dir name.valid name.full
  have joinFree := nul_not_mem_join noNul name.noNul
  have parentFree : Char.ofNat 0 ∉ p.toList := fun mem => joinFree (pre.subset mem)
  -- the directories above the file are made where nothing is
  obtain ⟨D₁, made, t₁, entries₁⟩ := t.createDirAll (p := Disk.locate p) fun q mem data => by
    rw [located] at mem
    exact noFileAbove q (mem_prefixes_append.1 mem) data
  have notAbove : ¬ Disk.locate dir ++ rel <+: Disk.locate dir ++ rel.dropLast := fun pre => by
    have := pre.length_le
    have := List.length_pos_iff.2 name.full
    simp only [List.length_append, List.length_dropLast] at *
    omega
  have above : D₁.DirsAbove (Disk.locate dir ++ rel) := by
    intro q mem
    obtain ⟨pre, ne⟩ := mem_prefixes.1 mem
    have shorter : q <+: Disk.locate dir ++ rel.dropLast := by
      rw [← List.dropLast_append_of_ne_nil name.full]
      exact prefix_dropLast pre ne
    rw [entries₁, located]
    cases found : D.entry? q with
    | none => exact ⟨.dir, by simp [mem_prefixes_append.2 shorter], rfl⟩
    | some m =>
      refine ⟨m, by simp, ?_⟩
      cases m with
      | file data => exact absurd found (noFileAbove q shorter data)
      | dir => rfl
      | records ps => rfl
  have written := writeFile_new data above (by simp [name.full]) (by
    rw [entries₁, located, if_neg fun ⟨mem, _⟩ => notAbove (mem_prefixes_append.1 mem), fresh])
  obtain ⟨t₂, entries₂⟩ := t₁.writeFile written
  refine ⟨_, ?_, t₂, ?_, ?_⟩
  · unfold restoreOne
    rw [read]
    simp only [parent, Option.getD_some, String.contains_char_eq, parentFree, joinFree, decide_false,
      Bool.false_eq_true, if_false, made, writePath_join D₁ name.valid name.full, written]
    rfl
  · simp [entries₂]
  · intro q other
    have notFile : q ≠ Disk.locate dir ++ rel := other (rel, data) (List.mem_singleton_self _)
    rw [entries₂, if_neg notFile, entries₁, located]
    split_ifs with new
    · exact .inr ⟨new.2, rfl, (rel, data), List.mem_singleton_self _, mem_prefixes_append.1 new.1⟩
    · exact .inl rfl

theorem Restores.nil {w : List String} {D : Disk} (t : D.Tree) : Restores w [] D D :=
  ⟨t, by simp, fun _ _ => .inl rfl⟩

theorem Restores.cons {w : List String} {e : List String × ByteArray} {es : List (List String × ByteArray)}
    {D D₁ D' : Disk} (first : Restores w [e] D D₁) (rest : Restores w es D₁ D') (apart : ∀ e' ∈ es, e'.1 ≠ e.1) :
    Restores w (e :: es) D D' := by
  refine ⟨rest.tree, ?_, fun q other => ?_⟩
  · rintro e' (_ | ⟨_, mem⟩)
    · -- the later entries leave the first one's file where it is
      have kept := rest.grows (w ++ e.1) fun e' mem same => apart e' mem (List.append_cancel_left same).symm
      have there := first.written e (List.mem_singleton_self _)
      rcases kept with same | ⟨none, -⟩
      · rw [same, there]
      · rw [there] at none
        cases none
    · exact rest.written e' mem
  · rcases first.grows q fun e' mem => other e' (by simp_all) with same₁ | ⟨none₁, dir₁, e₁, mem₁, pre₁⟩ <;>
      rcases rest.grows q fun e' mem => other e' (List.mem_cons_of_mem _ mem) with same₂ | ⟨none₂, dir₂, e₂, mem₂, pre₂⟩
    · exact .inl (same₂.trans same₁)
    · exact .inr ⟨same₁ ▸ none₂, dir₂, e₂, List.mem_cons_of_mem _ mem₂, pre₂⟩
    · exact .inr ⟨none₁, same₂.trans dir₁, e₁, by simp_all, pre₁⟩
    · rw [dir₁] at none₂
      cases none₂

/-- What restoring needs of the entries' names: plain names below a directory with no NUL in
its name, each listed once, and none naming a directory that another's file lies in. -/
structure Restorable (dir : String) (ents : List (List String × ByteArray)) : Prop where
  noNul : Char.ofNat 0 ∉ dir.toList
  named : ∀ e ∈ ents, EntryName e.1
  nodup : (ents.map Prod.fst).Nodup
  apart : ∀ e ∈ ents, ∀ e' ∈ ents, ¬ e.1 <+: e'.1.dropLast

theorem Restorable.tail {e : List String × ByteArray} {es : List (List String × ByteArray)}
    (ok : Restorable dir (e :: es)) : Restorable dir es :=
  ⟨ok.noNul, fun e' mem => ok.named e' (List.mem_cons_of_mem _ mem), (List.nodup_cons.1 ok.nodup).2,
    fun e₁ mem₁ e₂ mem₂ => ok.apart e₁ (List.mem_cons_of_mem _ mem₁) e₂ (List.mem_cons_of_mem _ mem₂)⟩

/-- What restoring needs of the disk: a tree with nothing where the files go, and no file
where their directories go. -/
structure Room (w : List String) (ents : List (List String × ByteArray)) (D : Disk) : Prop where
  tree : D.Tree
  fresh : ∀ e ∈ ents, D.entry? (w ++ e.1) = none
  noFileAbove : ∀ e ∈ ents, ∀ q, q <+: w ++ e.1.dropLast → ∀ data, D.entry? q ≠ some (.file data)

theorem Room.next {w : List String} {e : List String × ByteArray} {es : List (List String × ByteArray)}
    {D D₁ : Disk} (room : Room w (e :: es) D) (ok : Restorable dir (e :: es)) (first : Restores w [e] D D₁) :
    Room w es D₁ := by
  have distinct : ∀ e' ∈ es, e'.1 ≠ e.1 := fun e' mem same =>
    (List.nodup_cons.1 ok.nodup).1 (same ▸ List.mem_map_of_mem mem)
  refine ⟨first.tree, fun e' mem => ?_, fun e' mem q pre data => ?_⟩
  · have notFirst : ∀ x ∈ [e], w ++ e'.1 ≠ w ++ x.1 := fun x hx same => by
      rw [List.mem_singleton] at hx
      rw [hx] at same
      exact distinct e' mem (List.append_cancel_left same)
    rcases first.grows _ notFirst with same | ⟨-, -, x, hx, pre⟩
    · rw [same, room.fresh e' (List.mem_cons_of_mem _ mem)]
    · rw [List.mem_singleton] at hx
      rw [hx] at pre
      exact absurd ((List.prefix_append_right_inj w).1 pre)
        (ok.apart e' (List.mem_cons_of_mem _ mem) e (List.mem_cons_self ..))
  · by_cases written : q = w ++ e.1
    · subst written
      exact absurd ((List.prefix_append_right_inj w).1 pre)
        (ok.apart e (List.mem_cons_self ..) e' (List.mem_cons_of_mem _ mem))
    · rcases first.grows q (by simpa using written) with same | ⟨-, dir, -⟩
      · rw [same]
        exact room.noFileAbove e' (List.mem_cons_of_mem _ mem) q pre data
      · rw [dir]
        simp

theorem restoreOne_end {D : Disk} {r : Zstd.Stream} (read : readEntry r = .ok none) :
    restoreOne dir D r = (D, .ok none) := by
  unfold restoreOne
  rw [read]
  rfl

/-- Restoring a stream of entries, with fuel to spare, writes each entry's file in turn and
stops at the stream's clean end with their number. -/
theorem restore_entries : ∀ (ents : List (List String × ByteArray)) (D : Disk) (r : Zstd.Stream) (count fuel : Nat),
    Restorable dir ents → Room (Disk.locate dir) ents D →
    ReadsEntries r (ents.map fun e => (RecordPath.ofSegments e.1, e.2)) → ents.length < fuel →
    ∃ D', restore dir D r count fuel = (D', count + ents.length, none) ∧ Restores (Disk.locate dir) ents D D'
  | _, _, _, _, 0, _, _, _, short => absurd short (Nat.not_lt_zero _)
  | [], D, r, count, fuel + 1, _, room, read, _ => by
    refine ⟨D, ?_, .nil room.tree⟩
    rw [restore, restoreOne_end read]
    rfl
  | e :: es, D, r, count, fuel + 1, ok, room, read, fueled => by
    obtain ⟨r', first, rest⟩ := read
    have here := ok.named e (List.mem_cons_self ..)
    obtain ⟨D₁, step, restored⟩ := restoreOne_entry ok.noNul here room.tree
      (room.fresh e (List.mem_cons_self ..)) (room.noFileAbove e (List.mem_cons_self ..)) first
    obtain ⟨D', run, restoredAll⟩ := restore_entries es D₁ r' (count + 1) fuel ok.tail (room.next ok restored) rest
      (by simp only [List.length_cons] at fueled; omega)
    refine ⟨D', ?_, restored.cons restoredAll fun e' mem same =>
      (List.nodup_cons.1 ok.nodup).1 (same ▸ List.mem_map_of_mem mem)⟩
    rw [restore, step]
    dsimp only
    rw [run]
    simp only [List.length_cons]
    congr 2
    omega

theorem length_le_written : ∀ es : List (String × ByteArray), es.length ≤ (written es).length
  | [] => by simp
  | e :: es => by
    have rest := length_le_written es
    simp only [written, List.map_cons, List.flatten_cons, List.length_append, List.length_cons, entry,
      Zstd.length_leBytes] at rest ⊢
    omega

/-! ### Unpacking what packing left -/

/-- The files packing takes below `w`, each by its names below `w`, with its content. -/
def fileEntries (d : Disk) (w : List String) : List (List String × ByteArray) :=
  (files d w).map fun rel => (rel, contentAt d (w ++ rel))

theorem packedEntries_eq (d : Disk) (w : List String) :
    packedEntries d w = (fileEntries d w).map fun e => (RecordPath.ofSegments e.1, e.2) := by
  simp [packedEntries, fileEntries, Function.comp_def]

theorem Packed.file_of {d d₁ : Disk} {w q : List String} {stream data : ByteArray} (packed : Packed d w stream d₁)
    (file : d₁.entry? q = some (.file data)) :
    q = w ++ [fileName] ∨ (¬ (w <+: q ∧ w ≠ q) ∧ d.entry? q = some (.file data)) := by
  by_cases below : w <+: q ∧ w ≠ q
  · obtain ⟨⟨s, rfl⟩, ne⟩ := below
    by_cases archive : s = [fileName]
    · exact .inl (archive ▸ rfl)
    · obtain ⟨same, -⟩ := packed.inside s _ (fun empty => ne (by simp [empty])) archive file
      cases same
  · exact .inr ⟨below, packed.outside q below ▸ file⟩

section Packed

variable {d : Disk} (ok : Packable d dir)
include ok

theorem Packable.dirAbove {rel q : List String} (mem : rel ∈ files d (Disk.locate dir))
    (pre : q <+: Disk.locate dir ++ rel.dropLast) : ∃ m, d.entry? q = some m ∧ m.isDir := by
  obtain ⟨full, data, file⟩ := ok.mem_files.1 mem
  have parent : Disk.locate dir ++ rel.dropLast <+: Disk.locate dir ++ rel :=
    (List.prefix_append_right_inj _).2 (List.dropLast_prefix rel)
  refine ok.tree.dirsAbove file q (mem_prefixes.2 ⟨pre.trans parent, fun same => ?_⟩)
  have short := pre.length_le
  have pos := List.length_pos_iff.2 full
  rw [same] at short
  simp only [List.length_append, List.length_dropLast] at short
  omega

theorem Packable.restorable : Restorable dir (fileEntries d (Disk.locate dir)) where
  noNul := ok.noNul
  named e mem := by
    obtain ⟨rel, listed, rfl⟩ := List.mem_map.1 mem
    obtain ⟨full, data, file⟩ := ok.mem_files.1 listed
    obtain ⟨valid, noNul, -⟩ := ok.named rel data file
    exact ⟨valid, full, noNul⟩
  nodup := by simpa [fileEntries, List.map_map, Function.comp_def] using ok.tree.nodup_files
  apart e mem e' mem' pre := by
    obtain ⟨rel, listed, rfl⟩ := List.mem_map.1 mem
    obtain ⟨rel', listed', rfl⟩ := List.mem_map.1 mem'
    obtain ⟨-, data, file⟩ := ok.mem_files.1 listed
    obtain ⟨m, here, isDir⟩ := ok.dirAbove listed' ((List.prefix_append_right_inj _).2 pre)
    rw [file] at here
    cases here
    simp [Node.isDir] at isDir

variable {stream : ByteArray} {d₁ : Disk} (packed : Packed d (Disk.locate dir) stream d₁)
include packed

theorem Packable.room : Room (Disk.locate dir) (fileEntries d (Disk.locate dir)) d₁ where
  tree := packed.tree
  fresh e mem := by
    obtain ⟨rel, listed, rfl⟩ := List.mem_map.1 mem
    obtain ⟨full, data, file⟩ := ok.mem_files.1 listed
    cases found : d₁.entry? (Disk.locate dir ++ rel) with
    | none => rfl
    | some n =>
      have notArchive : rel ≠ [fileName] := fun same => (ok.not_mem_files ok.noArchive) (same ▸ listed)
      obtain ⟨-, dirThere⟩ := packed.inside rel n full notArchive found
      rw [file] at dirThere
      cases dirThere
  noFileAbove e mem q pre data found := by
    obtain ⟨rel, listed, rfl⟩ := List.mem_map.1 mem
    obtain ⟨m, here, isDir⟩ := ok.dirAbove listed pre
    rcases packed.file_of found with rfl | ⟨-, file⟩
    · rw [ok.noArchive] at here
      cases here
    · rw [file] at here
      cases here
      simp [Node.isDir] at isDir

theorem Packable.taken_or_kept {q : List String} {data : ByteArray} (file : d.entry? q = some (.file data)) :
    (∃ e ∈ fileEntries d (Disk.locate dir), q = Disk.locate dir ++ e.1) ∨ d₁.entry? q = some (.file data) := by
  by_cases below : Disk.locate dir <+: q ∧ Disk.locate dir ≠ q
  · obtain ⟨⟨s, rfl⟩, ne⟩ := below
    have listed := ok.mem_files.2 ⟨fun empty => ne (by simp [empty]), data, file⟩
    exact .inl ⟨_, List.mem_map_of_mem listed, rfl⟩
  · exact .inr (packed.outside q below ▸ file)

/-- Restoring the files packing took onto the packed disk gives back every file but the
archive, with its content. -/
theorem Packable.files_restored {D : Disk}
    (restores : Restores (Disk.locate dir) (fileEntries d (Disk.locate dir)) d₁ D) {q : List String}
    (notArchive : q ≠ Disk.locate dir ++ [fileName]) (data : ByteArray) :
    D.entry? q = some (.file data) ↔ d.entry? q = some (.file data) := by
  by_cases taken : ∃ e ∈ fileEntries d (Disk.locate dir), q = Disk.locate dir ++ e.1
  · -- a file packing took is back with its content
    obtain ⟨e, mem, rfl⟩ := taken
    obtain ⟨rel, listed, rfl⟩ := List.mem_map.1 mem
    obtain ⟨-, data', file⟩ := ok.mem_files.1 listed
    rw [restores.written _ mem, file, contentAt_of_file file]
  · -- anywhere else the disk holds what packing left, or a directory
    have other : ∀ e ∈ fileEntries d (Disk.locate dir), q ≠ Disk.locate dir ++ e.1 :=
      fun e mem same => taken ⟨e, mem, same⟩
    constructor
    · intro found
      rcases restores.grows q other with same | ⟨-, dir, -⟩
      · rcases packed.file_of (same ▸ found) with rfl | ⟨-, file⟩
        · exact absurd rfl notArchive
        · exact file
      · rw [dir] at found
        cases found
    · intro file
      rcases ok.taken_or_kept packed file with taken' | kept
      · exact absurd taken' taken
      · rcases restores.grows q other with same | ⟨none, -⟩
        · rw [same, kept]
        · rw [kept] at none
          cases none

end Packed

/-- The stream of a packed archive reads back as the magic and then the entries packing wrote,
in order, and then ends. -/
theorem Packable.reads_packed {d : Disk} (ok : Packable d dir) :
    ∃ r, readExact (Zstd.Stream.ofBytes ⟨(Zstd.compress (magic ++ written (packedEntries d (Disk.locate dir)))).toArray⟩) 4 =
      .ok (⟨magic.toArray⟩, r) ∧ ReadsEntries r (packedEntries d (Disk.locate dir)) := by
  have yields : Zstd.Stream.Yields (Zstd.Stream.ofBytes
      ⟨(Zstd.compress (magic ++ written (packedEntries d (Disk.locate dir)))).toArray⟩)
      (magic ++ written (packedEntries d (Disk.locate dir))) := .start rfl rfl rfl rfl rfl
  have four : magic.length = 4 := by decide +kernel
  obtain ⟨r, readMagic, rest⟩ := readExact_yields yields
  rw [four] at readMagic
  refine ⟨r, readMagic, readsEntries_written (fun e mem => ?_) rest⟩
  obtain ⟨rel, listed, rfl⟩ := List.mem_map.1 mem
  obtain ⟨full, data, file⟩ := ok.mem_files.1 listed
  obtain ⟨valid, -, shortName, shortData⟩ := ok.named rel data file
  exact ⟨plainName_ofSegments valid full, shortName, by rwa [contentAt_of_file file]⟩

/-- Unpacking a packed directory brings back exactly the files that packing took, answers their
number, and removes the archive. -/
theorem Packable.unpack_packed {d d₁ : Disk} (ok : Packable d dir)
    (packed : Packed d (Disk.locate dir)
      ⟨(Zstd.compress (magic ++ written (packedEntries d (Disk.locate dir)))).toArray⟩ d₁) :
    ∃ d₂, unpack d₁ dir = (d₂, .ok (files d (Disk.locate dir)).length) ∧ d₂.Tree ∧
      (∀ q data, d₂.entry? q = some (.file data) ↔ d.entry? q = some (.file data)) ∧
      d₂.entry? (Disk.locate dir ++ [fileName]) = none := by
  set w := Disk.locate dir with hw
  set stream : ByteArray := ⟨(Zstd.compress (magic ++ written (packedEntries d w))).toArray⟩
  have t₁ := packed.tree
  have noArchive : d.entry? (w ++ [fileName]) = none := ok.noArchive
  obtain ⟨r, readMagic, reads⟩ := ok.reads_packed
  rw [packedEntries_eq] at reads
  have fueled : (fileEntries d w).length < stream.size * 1024 + 2 := by
    have size : _ + 9 ≤ stream.size := Zstd.le_size_of_compress rfl
    have count := length_le_written (packedEntries d w)
    simp only [packedEntries_eq, List.length_map, List.length_append] at size count
    omega
  obtain ⟨D, restored, restores⟩ := restore_entries _ d₁ r 0 _ ok.restorable (ok.room packed) reads fueled
  -- the archive is still there after restoring, and goes last
  have notRestored : ∀ e ∈ fileEntries d w, w ++ [fileName] ≠ w ++ e.1 := fun e mem same => by
    obtain ⟨rel, listed, rfl⟩ := List.mem_map.1 mem
    exact (ok.not_mem_files ok.noArchive) ((List.append_cancel_left same) ▸ listed)
  have archive : D.entry? (w ++ [fileName]) = some (.file stream) := by
    rcases restores.grows (w ++ [fileName]) notRestored with same | ⟨none, -⟩
    · rw [same, packed.archive]
    · rw [packed.archive] at none
      cases none
  have removed := restores.tree.removeFile_ok archive
  obtain ⟨t₂, entries₂⟩ := restores.tree.removeFile removed
  refine ⟨D.drop (w ++ [fileName]), ?_, t₂, fun q data => ?_, by rw [entries₂, if_pos rfl]⟩
  · have isFile : d₁.isFile (Disk.locate (archivePath dir)) = true := by
      simp [Disk.isFile, t₁.node?_eq, locate_archivePath, ← hw, packed.archive]
    have magicRead : (ByteArray.mk magic.toArray).toList = magic := by simp [Zstd.toList_eq_data]
    unfold unpack
    simp only [isFile, Bool.not_true, Bool.false_eq_true, if_false]
    rw [locate_archivePath, ← hw, t₁.readFile packed.archive]
    dsimp only
    rw [readMagic]
    dsimp only
    rw [magicRead, bne_self_eq_false, if_neg Bool.false_ne_true, restored]
    dsimp only
    rw [removed]
    simp [pure, Except.pure, fileEntries, hw]
  · rw [entries₂]
    by_cases archiveQ : q = w ++ [fileName]
    · simp [archiveQ, noArchive]
    · rw [if_neg archiveQ]
      exact ok.files_restored packed restores archiveQ data

theorem unpack_of_unpacked {d : Disk} (t : d.Tree) (none : d.entry? (Disk.locate dir ++ [fileName]) = none) :
    unpack d dir = (d, .ok 0) := by
  simp [unpack, Disk.isFile, t.node?_eq, locate_archivePath, none]
  rfl

/-- Packing a directory and unpacking it again brings back its files with their contents and
removes the archive, both calls answering the number of files below the directory. -/
theorem unpack_pack {d : Disk} (ok : Packable d dir) :
    (files d (Disk.locate dir)).Nodup ∧
    (∀ rel, rel ∈ files d (Disk.locate dir) ↔
      rel ≠ [] ∧ ∃ data, d.entry? (Disk.locate dir ++ rel) = some (.file data)) ∧
    (∃ d₁ d₂, pack d dir = .ok (d₁, (files d (Disk.locate dir)).length) ∧
      unpack d₁ dir = (d₂, .ok (files d (Disk.locate dir)).length) ∧
      (∀ q data, d₂.entry? q = some (.file data) ↔ d.entry? q = some (.file data)) ∧
      d₂.entry? (Disk.locate dir ++ [fileName]) = none ∧
      (files d (Disk.locate dir) ≠ [] → d₁.entry? (Disk.locate dir ++ [fileName]) =
        some (.file ⟨(Zstd.compress (magic ++ written (packedEntries d (Disk.locate dir)))).toArray⟩))) ∧
    (∃ r, readExact (Zstd.Stream.ofBytes
        ⟨(Zstd.compress (magic ++ written (packedEntries d (Disk.locate dir)))).toArray⟩) 4 =
      .ok (⟨magic.toArray⟩, r) ∧ ReadsEntries r (packedEntries d (Disk.locate dir))) ∧
    ∀ d' : Disk, d'.exists? (Disk.locate (archivePath dir)) = true → pack d' dir = .ok (d', 0) := by
  refine ⟨ok.tree.nodup_files, fun rel => ok.mem_files, ?_, ok.reads_packed,
    fun d' archived => pack_of_packed archived⟩
  by_cases empty : files d (Disk.locate dir) = []
  · -- with no file to take, neither call changes anything
    refine ⟨d, d, by rw [pack_of_empty empty, empty]; rfl, ?_, fun _ _ => .rfl, ok.noArchive,
      fun taken => absurd empty taken⟩
    rw [unpack_of_unpacked ok.tree ok.noArchive, empty]
    rfl
  · obtain ⟨d₁, packs, packed⟩ := pack_spec ok empty
    obtain ⟨d₂, unpacks, -, restored, gone⟩ := ok.unpack_packed packed
    exact ⟨d₁, d₂, packs, unpacks, restored, gone, fun _ => packed.archive⟩

/-- A directory `w` holding one file `a` packs, and unpacks back to the same files. -/
theorem unpack_pack_one_file :
    Packable ⟨[(["w"], .dir), (["w", "a"], .file ⟨#[7]⟩)]⟩ "w" ∧
      ∃ d₁ d₂ n, pack ⟨[(["w"], .dir), (["w", "a"], .file ⟨#[7]⟩)]⟩ "w" = .ok (d₁, n) ∧
        unpack d₁ "w" = (d₂, .ok n) ∧
        ∀ q data, d₂.entry? q = some (.file data) ↔
          Disk.entry? ⟨[(["w"], .dir), (["w", "a"], .file ⟨#[7]⟩)]⟩ q = some (.file data) := by
  have here : Disk.locate "w" = ["w"] := by decide +kernel
  have ok : Packable ⟨[(["w"], .dir), (["w", "a"], .file ⟨#[7]⟩)]⟩ "w" := by
    refine ⟨⟨by decide, ?_⟩, ?_, by decide, ?_, ?_, ?_, ?_⟩ <;> simp only [here]
    · -- each entry hangs below the top and `w`
      intro e mem
      simp only [List.mem_cons, List.not_mem_nil, or_false] at mem
      rcases mem with rfl | rfl
      · intro q mem
        rw [show prefixes ["w"] = [[]] from rfl, List.mem_singleton] at mem
        subst mem
        exact ⟨.dir, rfl, rfl⟩
      · intro q mem
        rw [show prefixes ["w", "a"] = [[], ["w"]] from rfl] at mem
        simp only [List.mem_cons, List.not_mem_nil, or_false] at mem
        rcases mem with rfl | rfl <;> exact ⟨.dir, rfl, rfl⟩
    · rfl
    · intro q ps found
      simp only [Disk.entry?, List.cons_append, List.nil_append, List.isEmpty_cons, Bool.false_eq_true,
        if_false, List.lookup] at found
      split at found
      · cases found
      · split at found <;> cases found
    · -- the one file is `a`
      intro q data found
      simp only [Disk.entry?, List.cons_append, List.nil_append, List.isEmpty_cons, Bool.false_eq_true,
        if_false, List.lookup] at found
      split at found
      · cases found
      · split at found
        · rename_i named
          simp only [beq_iff_eq, List.cons.injEq, true_and] at named
          subst named
          cases found
          exact ⟨by unfold RecordPath.Valid RecordPath.Segment; decide, by decide, by decide, by decide⟩
        · cases found
    · rfl
    · rfl
  obtain ⟨-, -, ⟨d₁, d₂, packs, unpacks, restored, -⟩, -⟩ := unpack_pack ok
  exact ⟨ok, d₁, d₂, _, packs, unpacks, restored⟩

end Archive

end JobFlow

import JobFlow.Proofs.Disk.Paths
import JobFlow.Proofs.Disk.Tree

/-!
# Writes that stay inside a directory

Writing a job's input files and unpacking its archive change the disk only inside the
working directory.
-/

namespace JobFlow

namespace Disk

variable {d d' d'' : Disk} {w x : List String}

/-! ### Growing and writing within a directory -/

/-- `d'` is `d` with directories made where nothing was, and nothing else changed. -/
def Grows (d d' : Disk) : Prop :=
  ∀ q, d'.entry? q = d.entry? q ∨ (d.entry? q = none ∧ d'.entry? q = some .dir)

/-- `d'` is `d` changed only strictly below `w`, and by directories made where nothing was. -/
def WritesWithin (w : List String) (d d' : Disk) : Prop :=
  ∀ q, d'.entry? q = d.entry? q ∨ (w <+: q ∧ w ≠ q) ∨ (d.entry? q = none ∧ d'.entry? q = some .dir)

theorem Grows.refl (d : Disk) : Grows d d := fun _ => .inl rfl

theorem Grows.trans (first : Grows d d') (second : Grows d' d'') : Grows d d'' := by
  intro q
  rcases first q with same | ⟨missing, made⟩ <;> rcases second q with same' | ⟨missing', made'⟩
  · exact .inl (same'.trans same)
  · exact .inr ⟨same ▸ missing', made'⟩
  · exact .inr ⟨missing, same'.trans made⟩
  · rw [made] at missing'
    cases missing'

theorem Grows.isSome (grows : Grows d d') {q : List String} (present : (d.entry? q).isSome) :
    (d'.entry? q).isSome := by
  rcases grows q with same | ⟨missing, made⟩
  · rwa [same]
  · rw [made]
    rfl

theorem WritesWithin.refl (w : List String) (d : Disk) : WritesWithin w d d := fun _ => .inl rfl

theorem WritesWithin.trans (first : WritesWithin w d d') (second : WritesWithin w d' d'') : WritesWithin w d d'' := by
  intro q
  rcases first q with same | below | ⟨missing, made⟩
  · rcases second q with same' | below' | ⟨missing', made'⟩
    · exact .inl (same'.trans same)
    · exact .inr (.inl below')
    · exact .inr (.inr ⟨same ▸ missing', made'⟩)
  · exact .inr (.inl below)
  · rcases second q with same' | below' | ⟨missing', made'⟩
    · exact .inr (.inr ⟨missing, same'.trans made⟩)
    · exact .inr (.inl below')
    · rw [made] at missing'
      cases missing'

theorem Grows.writesWithin (grows : Grows d d') (w : List String) : WritesWithin w d d' :=
  fun q => (grows q).imp_right .inr

theorem writesWithin_put {q : List String} (below : w <+: q ∧ w ≠ q) (m : Node) : WritesWithin w d (d.put q m) := by
  intro q'
  rw [entry_put]
  by_cases here : q' ≠ [] ∧ q' = q
  · exact .inr (.inl (here.2 ▸ below))
  · exact .inl (if_neg here)

theorem writesWithin_drop {q : List String} (below : w <+: q ∧ w ≠ q) : WritesWithin w d (d.drop q) := by
  intro q'
  rw [entry_drop]
  by_cases under : q' ≠ [] ∧ q <+: q'
  · refine .inr (.inl ⟨below.1.trans under.2, fun same => below.2 ?_⟩)
    subst same
    exact List.IsPrefix.eq_of_length below.1 (Nat.le_antisymm below.1.length_le under.2.length_le)
  · exact .inl (if_neg under)

/-! ### Making directories -/

theorem entry_eq_none_of_lookup {q : List String} (present : ∀ r ∈ prefixes q, (d.entry? r).isSome)
    (missing : d.lookup q = .ok none) : d.entry? q = none := by
  unfold lookup at missing
  dsimp only at missing
  split at missing
  · cases missing
  · rw [if_pos (List.all_eq_true.2 present)] at missing
    injection missing

theorem grows_put_dir {q : List String} (missing : d.entry? q = none) : Grows d (d.put q .dir) := by
  intro q'
  rw [entry_put]
  by_cases here : q' ≠ [] ∧ q' = q
  · rw [if_pos here, here.2]
    exact .inr ⟨missing, rfl⟩
  · exact .inl (if_neg here)

theorem pairwise_prefixes_append (x : List String) :
    (prefixes x ++ [x]).Pairwise (fun a b => a.length < b.length) := by
  rw [List.pairwise_append]
  refine ⟨?_, List.pairwise_singleton _ _, fun a mem b same => ?_⟩
  · unfold prefixes
    rw [List.pairwise_map]
    refine (List.pairwise_lt_range).imp_of_mem fun {i j} mi mj lt => ?_
    simp only [List.mem_range] at mi mj
    simp only [List.length_take]
    omega
  · obtain rfl := List.mem_singleton.1 same
    obtain ⟨pre, ne⟩ := mem_prefixes.1 mem
    exact lt_of_le_of_ne pre.length_le fun eq => ne (pre.eq_of_length eq)

theorem prefixes_closed (x : List String) :
    ∀ q ∈ prefixes x ++ [x], ∀ r ∈ prefixes q, r ∈ prefixes x ++ [x] := by
  intro q mem r above
  have onWay : q <+: x := by
    rcases List.mem_append.1 mem with early | last
    · exact (mem_prefixes.1 early).1
    · obtain rfl := List.mem_singleton.1 last
      exact List.prefix_refl q
  obtain ⟨pre, ne⟩ := mem_prefixes.1 above
  refine List.mem_append_left _ (mem_prefixes.2 ⟨pre.trans onWay, fun same => ne ?_⟩)
  subst same
  exact List.IsPrefix.eq_of_length pre (Nat.le_antisymm pre.length_le onWay.length_le)

/-- A run of steps that each only add a directory where nothing was, over paths taken
shortest first with every path above each one taken before it. -/
theorem foldlM_grows {f : Disk → List String → Except OsError Disk}
    (step : ∀ d q next, f d q = .ok next → (∀ r ∈ prefixes q, (d.entry? r).isSome) → Grows d next ∧ (next.entry? q).isSome) :
    ∀ (qs done : List (List String)) (d : Disk), qs.Pairwise (fun a b => a.length < b.length) →
      (∀ q ∈ qs, ∀ r ∈ prefixes q, r ∈ done ∨ r ∈ qs) → (∀ r ∈ done, (d.entry? r).isSome) →
      qs.foldlM f d = .ok d' → Grows d d'
  | [], _, d, _, _, _, ok => by
    cases ok
    exact Grows.refl _
  | q :: rest, done, d, sorted, closed, present, ok => by
    rw [List.foldlM_cons] at ok
    obtain ⟨d₁, first, later⟩ := bind_eq_ok.1 ok
    obtain ⟨longer, sortedRest⟩ := List.pairwise_cons.1 sorted
    -- the paths above `q` are shorter, so they were taken before it
    have above : ∀ r ∈ prefixes q, (d.entry? r).isSome := by
      intro r mem
      rcases closed q (List.mem_cons_self ..) r mem with early | listed
      · exact present r early
      · obtain ⟨pre, ne⟩ := mem_prefixes.1 mem
        rcases List.mem_cons.1 listed with same | later
        · exact absurd same ne
        · have := longer r later
          have := pre.length_le
          omega
    obtain ⟨grows, made⟩ := step d q d₁ first above
    refine grows.trans (foldlM_grows step rest (q :: done) d₁ sortedRest (fun q' mem r above' => ?_) (fun r mem => ?_) later)
    · rcases closed q' (List.mem_cons_of_mem _ mem) r above' with early | listed
      · exact .inl (List.mem_cons_of_mem _ early)
      · rcases List.mem_cons.1 listed with rfl | later
        · exact .inl (List.mem_cons_self ..)
        · exact .inr later
    · rcases List.mem_cons.1 mem with rfl | early
      · exact made
      · exact grows.isSome (present r early)

theorem createDirAll_grows (ok : d.createDirAll x = .ok d') : Grows d d' := by
  refine foldlM_grows (fun d q d₁ step above => ?_) _ [] d (pairwise_prefixes_append x)
    (fun q mem r above => .inr (prefixes_closed x q mem r above)) (by simp) ok
  split at step
  · rename_i top
    cases step
    exact ⟨Grows.refl d, by simp [Disk.entry?, top]⟩
  · split at step
    · cases step
    · rename_i n found
      split at step
      · cases step
        exact ⟨Grows.refl d, by rw [(lookup_eq_some.1 found).2]; rfl⟩
      · cases step
    · rename_i found
      cases step
      have missing := entry_eq_none_of_lookup above found
      have full : q ≠ [] := fun top => by simp [top, entry?] at missing
      exact ⟨grows_put_dir missing, by rw [entry_put, if_pos ⟨full, rfl⟩]; rfl⟩

/-! ### Joining a name that stays inside -/

theorem foldl_segStep_append {segs : List String} (noUp : ".." ∉ segs) (acc : List String) :
    segs.foldl segStep acc = acc ++ segs.foldl segStep [] := by
  induction segs generalizing acc with
  | nil => simp
  | cons s rest ih =>
    have up : s ≠ ".." := fun same => noUp (same ▸ List.mem_cons_self ..)
    have noUp' : ".." ∉ rest := fun mem => noUp (List.mem_cons_of_mem _ mem)
    rw [List.foldl_cons, List.foldl_cons, ih noUp', ih noUp' (segStep [] s), ← List.append_assoc]
    by_cases skip : s = "" ∨ s = "." <;> simp [segStep, skip, up]

theorem mem_foldl_segStep {segs : List String} (noUp : ".." ∉ segs) {s : String} (mem : s ∈ segs)
    (named : s ≠ "" ∧ s ≠ ".") : s ∈ segs.foldl segStep [] := by
  induction segs with
  | nil => cases mem
  | cons s' rest ih =>
    have noUp' : ".." ∉ rest := fun mem => noUp (List.mem_cons_of_mem _ mem)
    rw [List.foldl_cons, foldl_segStep_append noUp']
    rcases List.mem_cons.1 mem with rfl | later
    · have up : s ≠ ".." := fun same => noUp (same ▸ List.mem_cons_self ..)
      simp [segStep, named.1, named.2, up]
    · exact List.mem_append_right _ (ih noUp' later)

theorem locate_join_inside (wd : String) {name : String} (relative : name.startsWith "/" = false)
    (noUp : ".." ∉ RecordPath.parts name) : locate (Path.join wd name) = locate wd ++ locate name := by
  have after : ∀ a, locate (a ++ "/" ++ name) = locate a ++ locate name := fun a => by
    rw [locate_append_slash, foldl_segStep_append noUp, ← locate_eq_parts]
  unfold Path.join
  rw [relative]
  simp only [Bool.false_eq_true, if_false]
  split
  · rename_i empty
    rw [String.isEmpty_iff.1 empty]
    rfl
  · split
    · rename_i ends
      obtain ⟨b, rfl⟩ := Path.eq_append_slash ends
      rw [after, locate_slash]
    · exact after wd

theorem endsWith_of_suffix {p s : String} (suffix : s.toList <:+ p.toList) : p.endsWith s = true := by
  have slice : p.toSlice.endsWith s = true := by
    rw [String.Slice.endsWith_string_iff]
    simpa using suffix
  exact slice

theorem suffix_of_endsWith {p s : String} (ends : p.endsWith s = true) : s.toList <:+ p.toList := by
  have slice : p.toSlice.endsWith s = true := ends
  rw [String.Slice.endsWith_string_iff] at slice
  simpa using slice

/-- A text whose pieces between `/`s are all empty or `.` is `.`, or ends in `/` or `/.`. -/
theorem ends_of_blank_pieces : ∀ {l : List Char}, l ≠ [] → (∀ s ∈ l.splitOn '/', s = [] ∨ s = ['.']) →
    l = ['.'] ∨ ['/'] <:+ l ∨ ['/', '.'] <:+ l
  | [], full, _ => absurd rfl full
  | c :: cs, _, blank => by
    rw [List.splitOn_cons_eq_if_modifyHead] at blank
    by_cases slash : c = '/'
    · subst slash
      simp only [beq_self_eq_true, if_true, List.mem_cons, forall_eq_or_imp] at blank
      by_cases empty : cs = []
      · subst empty
        exact .inr (.inl (List.suffix_refl _))
      · rcases ends_of_blank_pieces empty blank.2 with rfl | slashEnd | dotEnd
        · exact .inr (.inr (List.suffix_refl _))
        · exact .inr (.inl (slashEnd.trans (List.suffix_cons _ _)))
        · exact .inr (.inr (dotEnd.trans (List.suffix_cons _ _)))
    · have notSep : (c == '/') = false := by simpa using slash
      obtain ⟨h, t, pieces⟩ := List.exists_cons_of_ne_nil (List.splitOn_ne_nil '/' cs)
      simp only [notSep, Bool.false_eq_true, if_false, pieces, List.modifyHead_cons, List.mem_cons,
        forall_eq_or_imp] at blank
      -- the first piece starts with `c`, so it is `.` and `c` stands alone before a `/`
      obtain ⟨rfl, rfl⟩ : c = '.' ∧ h = [] := by
        rcases blank.1 with bad | dot
        · cases bad
        · simpa using dot
      by_cases empty : cs = []
      · subst empty
        exact .inl rfl
      · have rest : ∀ s ∈ cs.splitOn '/', s = [] ∨ s = ['.'] := by
          rw [pieces]
          intro s mem
          rcases List.mem_cons.1 mem with rfl | later
          · exact .inl rfl
          · exact blank.2 s later
        rcases ends_of_blank_pieces empty rest with rfl | slashEnd | dotEnd
        · rw [List.splitOn_eq_singleton (by decide)] at pieces
          cases pieces
        · exact .inr (.inl (slashEnd.trans (List.suffix_cons _ _)))
        · exact .inr (.inr (dotEnd.trans (List.suffix_cons _ _)))

theorem writePath_ok {p : String} {data : ByteArray} (ok : d.writePath p data = .ok d') :
    p.endsWith "/" = false ∧ p ≠ "." ∧ p.endsWith "/." = false ∧ d.writeFile (locate p) data = .ok d' := by
  unfold writePath at ok
  simp only [bind, Except.bind, throw, throwThe, MonadExceptOf.throw] at ok
  split at ok
  · split at ok
    · cases ok
    · split at ok <;> cases ok
  · rename_i notDir
    split at ok
    · split at ok
      · cases ok
      · split at ok <;> cases ok
    · rename_i notHere
      simp only [not_or] at notHere
      exact ⟨by simpa using notDir, notHere.1, by simpa using notHere.2, ok⟩

/-- A write that goes through below a directory, at a relative name with no `..`, writes at a
name strictly below the directory: a name with no name in it ends in `/` or `/.`, or is `.`. -/
theorem locate_ne_nil_of_writePath {wd name : String} {data : ByteArray} (full : name ≠ "")
    (relative : name.startsWith "/" = false) (noUp : ".." ∉ RecordPath.parts name)
    (ok : d.writePath (Path.join wd name) data = .ok d') : locate name ≠ [] := by
  intro nameless
  obtain ⟨slash, notDot, slashDot, -⟩ := writePath_ok ok
  -- every piece of the name is empty or `.`
  have blank : ∀ s ∈ name.toList.splitOn '/', s = [] ∨ s = ['.'] := by
    intro s mem
    have piece : String.ofList s ∈ RecordPath.parts name := List.mem_map_of_mem mem
    by_cases named : String.ofList s ≠ "" ∧ String.ofList s ≠ "."
    · have := mem_foldl_segStep noUp piece named
      rw [← locate_eq_parts, nameless] at this
      cases this
    · rcases not_and_or.1 named with empty | dot
      · exact .inl (by simpa using not_not.1 empty)
      · exact .inr (by simpa using congrArg String.toList (not_not.1 dot))
  have chars : name.toList ≠ [] := by simpa using full
  -- the joined text ends as the name does, after nothing or after a `/`
  obtain ⟨X, joined, before⟩ : ∃ X, (Path.join wd name).toList = X ++ name.toList ∧ (X = [] ∨ ['/'] <:+ X) := by
    unfold Path.join
    rw [relative]
    simp only [Bool.false_eq_true, if_false]
    split
    · exact ⟨[], rfl, .inl rfl⟩
    · split
      · rename_i ends
        exact ⟨wd.toList, by simp, .inr (by simpa using suffix_of_endsWith ends)⟩
      · exact ⟨wd.toList ++ ['/'], by simp, .inr (List.suffix_append _ _)⟩
  rcases ends_of_blank_pieces chars blank with dot | slashEnd | dotEnd
  · rcases before with rfl | slashBefore
    · exact notDot (String.toList_injective (by rw [joined, dot]; rfl))
    · have : ['/', '.'] <:+ (Path.join wd name).toList := by
        rw [joined, dot]
        obtain ⟨Y, rfl⟩ := slashBefore
        exact ⟨Y, by simp⟩
      simp [endsWith_of_suffix (s := "/.") (by simpa using this)] at slashDot
  · have : ['/'] <:+ (Path.join wd name).toList := joined ▸ slashEnd.trans (List.suffix_append _ _)
    simp [endsWith_of_suffix (s := "/") (by simpa using this)] at slash
  · have : ['/', '.'] <:+ (Path.join wd name).toList := joined ▸ dotEnd.trans (List.suffix_append _ _)
    simp [endsWith_of_suffix (s := "/.") (by simpa using this)] at slashDot

/-- A file written below a directory at a relative name with no `..` lands strictly inside the
directory, and nothing else changes; the file is then there. -/
theorem writesWithin_writePath {wd name : String} {data : ByteArray} (full : name ≠ "")
    (relative : name.startsWith "/" = false) (noUp : ".." ∉ RecordPath.parts name)
    (ok : d.writePath (Path.join wd name) data = .ok d') :
    WritesWithin (locate wd) d d' ∧ d'.lookup (locate (Path.join wd name)) = .ok (some (.file data)) := by
  obtain ⟨-, -, -, written⟩ := writePath_ok ok
  obtain ⟨rfl, -⟩ := writeFile_ok written
  have named := locate_ne_nil_of_writePath full relative noUp ok
  rw [locate_join_inside wd relative noUp] at written ⊢
  refine ⟨writesWithin_put ⟨List.prefix_append _ _, fun same => named ?_⟩ _, lookup_writeFile written⟩
  simpa using congrArg List.length same

end Disk

namespace Path

theorem startsWith_eq_false_of_root {p : String} (noRoot : Part.root ∉ parts p) : p.startsWith "/" = false := by
  cases absolute : p.startsWith "/" with
  | false => rfl
  | true => exact absurd (by simp [parts, absolute]) noRoot

theorem not_mem_pieces_of_parent {p : String} (noUp : Part.parent ∉ parts p) : ".." ∉ RecordPath.parts p := by
  intro mem
  apply noUp
  simp only [parts, List.mem_append, List.mem_map, List.mem_filter]
  exact .inr ⟨"..", ⟨⟨List.mem_map.1 mem, by decide⟩, by decide⟩, rfl⟩

end Path

namespace InputFiles

theorem staysInside_iff {name : String} :
    staysInside name = true ↔ name ≠ "" ∧ Path.Part.root ∉ Path.parts name ∧ Path.Part.parent ∉ Path.parts name := by
  unfold staysInside
  simp only [decide_eq_true_eq, Bool.not_eq_true', List.all_eq_true]
  refine and_congr (by simp) ⟨fun plain => ⟨fun root => ?_, fun up => ?_⟩, ?_⟩
  · simpa using plain _ root
  · simpa using plain _ up
  · -- the parts of a path are only roots, `.`, `..` and names
    rintro ⟨noRoot, noUp⟩ part mem
    cases part with
    | root => exact absurd mem noRoot
    | parent => exact absurd mem noUp
    | current => rfl
    | normal n => rfl

example : staysInside "../evil" = false ∧ staysInside "/etc/evil" = false ∧ staysInside "./pot/a.dat" = true := by
  decide +kernel

theorem checkName_ok_iff {name : String} : checkName name = .ok () ↔ staysInside name = true := by
  unfold checkName
  split
  · exact ⟨fun _ => ‹_›, fun _ => rfl⟩
  · rename_i outside
    refine ⟨fun refused => ?_, fun inside => absurd inside outside⟩
    cases refused

theorem inside_of_staysInside {name : String} (inside : staysInside name = true) :
    name ≠ "" ∧ name.startsWith "/" = false ∧ ".." ∉ RecordPath.parts name := by
  obtain ⟨full, noRoot, noUp⟩ := staysInside_iff.1 inside
  exact ⟨full, Path.startsWith_eq_false_of_root noRoot, Path.not_mem_pieces_of_parent noUp⟩

theorem makeParent_grows {d d' : Disk} {target : String} (ok : makeParent d target = .ok d') : Disk.Grows d d' := by
  unfold makeParent Except.mapError at ok
  split at ok
  · split at ok
    · cases ok
    · rename_i made
      cases ok
      exact Disk.createDirAll_grows made
  · cases ok
    exact Disk.Grows.refl d

variable (wd : String) (d : Disk)

theorem writesWithin_create (entry : String × Json) : Disk.WritesWithin (Disk.locate wd) d (create wd d entry).1 := by
  unfold create
  dsimp only
  split
  · exact Disk.WritesWithin.refl _ d
  · rename_i checked
    obtain ⟨full, relative, noUp⟩ := inside_of_staysInside (checkName_ok_iff.1 checked)
    split
    · exact Disk.WritesWithin.refl _ d
    · rename_i made
      have grown := (makeParent_grows made).writesWithin (Disk.locate wd)
      split
      · rename_i written
        exact grown.trans (Disk.writesWithin_writePath full relative noUp written).1
      · exact grown

theorem copyToPath_ok {d d' : Disk} {a : List String} {p : String} {copied : Nat} (ok : d.copyToPath a p = .ok (d', copied)) :
    ∃ data, d.writePath p data = .ok d' := by
  obtain ⟨data, -, written⟩ := Disk.bind_eq_ok.1 ok
  split at written
  · rename_i wrote
    cases written
    exact ⟨data, wrote⟩
  · cases written

theorem writesWithin_copy (entry : String × Json) : Disk.WritesWithin (Disk.locate wd) d (copy wd d entry).1 := by
  unfold copy
  dsimp only
  split
  · split
    · exact Disk.WritesWithin.refl _ d
    · rename_i checked
      obtain ⟨full, relative, noUp⟩ := inside_of_staysInside (checkName_ok_iff.1 checked)
      split
      · exact Disk.WritesWithin.refl _ d
      · rename_i made
        have grown := (makeParent_grows made).writesWithin (Disk.locate wd)
        split
        · rename_i copied
          obtain ⟨data, written⟩ := copyToPath_ok copied
          exact grown.trans (Disk.writesWithin_writePath full relative noUp written).1
        · exact grown
  · exact Disk.WritesWithin.refl _ d

theorem writesWithin_each {w : List String} {put : Disk → String × Json → Disk × Except String Unit}
    (each_within : ∀ d e, Disk.WritesWithin w d (put d e).1) (files : List (String × Json)) :
    Disk.WritesWithin w d (each put d files).1 := by
  unfold each
  refine List.foldlRecOn (motive := fun st : Disk × Except String Unit => Disk.WritesWithin w d st.1) files _
    (Disk.WritesWithin.refl w d) fun st within e _ => ?_
  split
  · exact within
  · exact within.trans (each_within _ _)

theorem writesWithin_write (input : List (String × Json)) : Disk.WritesWithin (Disk.locate wd) d (write input wd d).1 := by
  unfold write
  dsimp only
  -- the files to create are written first; only when that went through are files copied, onto
  -- what it left
  split
  · split
    · exact writesWithin_each d (writesWithin_create wd) _
    · exact Disk.WritesWithin.refl _ d
  · split
    · split
      · exact (writesWithin_each d (writesWithin_create wd) _).trans (writesWithin_each _ (writesWithin_copy wd) _)
      · exact writesWithin_each d (writesWithin_copy wd) _
    · split
      · exact writesWithin_each d (writesWithin_create wd) _
      · exact Disk.WritesWithin.refl _ d

theorem checkName_refused {name : String} (outside : staysInside name = false) :
    checkName name = .error s!"input file name '{name}' must stay inside the working directory" := by
  simp [checkName, outside, throw, throwThe, MonadExceptOf.throw]

theorem create_refused {name : String} (outside : staysInside name = false) (v : Json) :
    create wd d (name, v) = (d, .error s!"input file name '{name}' must stay inside the working directory") := by
  simp only [create, checkName_refused outside]

theorem copy_refused {name : String} (outside : staysInside name = false) (v : Json) :
    ∃ m, copy wd d (name, v) = (d, .error m) := by
  unfold copy
  split
  · simp only [checkName_refused outside]
    exact ⟨_, rfl⟩
  · exact ⟨_, rfl⟩

/-- A run of writes that lists an entry every write refuses fails: a failed state is carried
to the end, and reaching the entry from a state that has not failed fails. -/
theorem each_refused {put : Disk → String × Json → Disk × Except String Unit} {e : String × Json}
    (refused : ∀ d, ∃ m, (put d e).2 = .error m) {files : List (String × Json)} (listed : e ∈ files) :
    ∃ m, (each put d files).2 = .error m := by
  unfold each
  have start : (∃ m, ((d, .ok ()) : Disk × Except String Unit).2 = .error m) ∨ e ∈ files := .inr listed
  generalize ((d, .ok ()) : Disk × Except String Unit) = st at start ⊢
  clear listed
  induction files generalizing st with
  | nil =>
    rcases start with failed | missing
    · exact failed
    · cases missing
  | cons x rest ih =>
    rw [List.foldl_cons]
    apply ih
    by_cases later : e ∈ rest
    · exact .inr later
    · left
      rcases st with ⟨d₀, _ | ⟨⟩⟩
      · exact ⟨_, rfl⟩
      · -- a state that has not failed reaches `e` here
        have here : e = x := by
          rcases start with ⟨m, failed⟩ | mem
          · cases failed
          · exact (List.mem_cons.1 mem).resolve_right later
        subst here
        exact refused d₀

/-- Writing an input's files fails when a file to create or to copy has a name that does not
stay inside. -/
theorem write_refused {input : List (String × Json)} {name : String} {v : Json} (outside : staysInside name = false)
    (listed : (∃ files, input.lookup "files_to_create" = some (.obj files) ∧ (name, v) ∈ files) ∨
      (∃ files, input.lookup "files_to_copy" = some (.obj files) ∧ (name, v) ∈ files)) :
    ∃ m, (write input wd d).2 = .error m := by
  have creating : ∀ v d, ∃ m, (create wd d (name, v)).2 = .error m :=
    fun v d => ⟨_, by rw [create_refused wd d outside v]⟩
  have copying : ∀ v d, ∃ m, (copy wd d (name, v)).2 = .error m := fun v d => by
    obtain ⟨m, refused⟩ := copy_refused wd d outside v
    exact ⟨m, by rw [refused]⟩
  unfold write
  dsimp only
  rcases listed with ⟨files, found, mem⟩ | ⟨files, found, mem⟩
  · obtain ⟨m, failed⟩ := each_refused d (creating v) mem
    simp only [found, failed]
    exact ⟨m, rfl⟩
  · split
    · rename_i m failed
      exact ⟨m, failed⟩
    · simp only [found]
      exact each_refused _ (copying v) mem

theorem lookup_create {d' : Disk} {name : String} {v : Json} (ok : create wd d (name, v) = (d', .ok ())) :
    d'.lookup (Disk.locate (Path.join wd name)) = .ok (some (.file (content v).toUTF8)) := by
  unfold create at ok
  dsimp only at ok
  split at ok
  · cases ok
  · rename_i checked
    obtain ⟨full, relative, noUp⟩ := inside_of_staysInside (checkName_ok_iff.1 checked)
    split at ok
    · cases ok
    · split at ok
      · rename_i written
        cases ok
        exact (Disk.writesWithin_writePath full relative noUp written).2
      · cases ok

end InputFiles

namespace Disk

theorem removeFile_eq_drop {d d' : Disk} {p : List String} (ok : d.removeFile p = .ok d') : d' = d.drop p := by
  unfold removeFile at ok
  simp only [bind, Except.bind, throw, throwThe, MonadExceptOf.throw, pure, Except.pure] at ok
  split at ok
  · cases ok
  · split at ok
    · cases ok
    · cases ok
      rfl
    · cases ok

end Disk

namespace Archive

theorem staysInside_of_plainName {name : String} (plain : plainName name = true) :
    InputFiles.staysInside name = true := by
  simp only [plainName, decide_eq_true_eq, Bool.not_eq_true', List.all_eq_true] at plain
  refine InputFiles.staysInside_iff.2 ⟨by simpa using plain.1, fun root => ?_, fun up => ?_⟩
  · simpa using plain.2 _ root
  · simpa using plain.2 _ up

theorem plainName_of_readEntry {r r' : Zstd.Stream} {name : String} {data : ByteArray}
    (ok : readEntry r = .ok (some (name, data, r'))) : plainName name = true := by
  unfold readEntry at ok
  simp only [bind, Except.bind, pure, Except.pure, throw, throwThe, MonadExceptOf.throw] at ok
  -- every branch but the one past the name check fails or ends the stream
  repeat' split at ok
  all_goals try cases ok
  simpa using ‹¬(!plainName name) = true›

variable (dir : String)

theorem writesWithin_restoreOne (d : Disk) (r : Zstd.Stream) :
    Disk.WritesWithin (Disk.locate dir) d (restoreOne dir d r).1 := by
  unfold restoreOne
  split
  · exact .refl _ d
  · exact .refl _ d
  · rename_i name data r' read
    obtain ⟨full, relative, noUp⟩ :=
      InputFiles.inside_of_staysInside (staysInside_of_plainName (plainName_of_readEntry read))
    dsimp only
    split
    · exact .refl _ d
    · split
      · exact .refl _ d
      · rename_i d₁ made
        have grown : Disk.Grows d d₁ := by
          split at made
          · exact Disk.createDirAll_grows made
          · cases made
            exact .refl d
        split
        · exact grown.writesWithin _
        · split
          · exact grown.writesWithin _
          · rename_i written
            exact (grown.writesWithin _).trans (Disk.writesWithin_writePath full relative noUp written).1

theorem writesWithin_restore : ∀ (d : Disk) (r : Zstd.Stream) (count fuel : Nat),
    Disk.WritesWithin (Disk.locate dir) d (restore dir d r count fuel).1
  | d, _, _, 0 => .refl _ d
  | d, r, count, fuel + 1 => by
    have first := writesWithin_restoreOne dir d r
    unfold restore
    split
    · rename_i step
      rw [step] at first
      exact first
    · rename_i step
      rw [step] at first
      exact first.trans (writesWithin_restore _ _ _ fuel)
    · rename_i step
      rw [step] at first
      exact first

theorem locate_archivePath : Disk.locate (archivePath dir) = Disk.locate dir ++ [fileName] := by
  have name : Disk.locate fileName = [fileName] := by decide +kernel
  rw [archivePath, Disk.locate_join_inside dir (by decide +kernel) (by decide), name]

theorem writesWithin_unpack (d : Disk) : Disk.WritesWithin (Disk.locate dir) d (unpack d dir).1 := by
  unfold unpack
  dsimp only
  split
  · exact .refl _ d
  · split
    · exact .refl _ d
    · rename_i stream _
      split
      · exact .refl _ d
      · split
        · exact .refl _ d
        · rename_i m r _ _
          have restored := writesWithin_restore dir d r 0 (stream.size * 1024 + 2)
          split
          · rename_i step
            rw [step] at restored
            exact restored
          · rename_i d₁ n step
            rw [step] at restored
            split
            · rename_i removed
              rw [Disk.removeFile_eq_drop removed]
              refine restored.trans (Disk.writesWithin_drop ⟨?_, ?_⟩)
              · rw [locate_archivePath]
                exact List.prefix_append _ _
              · rw [locate_archivePath]
                simp
            · exact restored

end Archive

/-- Writing a job's input files and unpacking its archive stay inside the working directory. -/
theorem writes_stay_in_working_directory (input : List (String × Json)) (wd : String) (d : Disk) :
    Disk.WritesWithin (Disk.locate wd) d (InputFiles.write input wd d).1 ∧
    Disk.WritesWithin (Disk.locate wd) d (Archive.unpack d wd).1 ∧
    (∀ name, InputFiles.staysInside name = false ↔
      name = "" ∨ Path.Part.root ∈ Path.parts name ∨ Path.Part.parent ∈ Path.parts name) ∧
    (∀ (d₀ : Disk) name v, InputFiles.staysInside name = false →
      (∃ m, InputFiles.create wd d₀ (name, v) = (d₀, .error m)) ∧
      ∃ m, InputFiles.copy wd d₀ (name, v) = (d₀, .error m)) ∧
    (∀ name v, InputFiles.staysInside name = false →
      ((∃ files, input.lookup "files_to_create" = some (.obj files) ∧ (name, v) ∈ files) ∨
        (∃ files, input.lookup "files_to_copy" = some (.obj files) ∧ (name, v) ∈ files)) →
      ∃ m, (InputFiles.write input wd d).2 = .error m) ∧
    (∀ (d₀ d₁ : Disk) name v, InputFiles.create wd d₀ (name, v) = (d₁, .ok ()) →
      d₁.lookup (Disk.locate (Path.join wd name)) = .ok (some (.file (InputFiles.content v).toUTF8))) := by
  refine ⟨InputFiles.writesWithin_write wd d input, Archive.writesWithin_unpack wd d, fun name => ?_,
    fun d₀ name v outside => ⟨⟨_, InputFiles.create_refused wd d₀ outside v⟩, InputFiles.copy_refused wd d₀ outside v⟩,
    fun name v outside listed => InputFiles.write_refused wd d outside listed,
    fun d₀ d₁ name v written => InputFiles.lookup_create wd d₀ written⟩
  rw [← Bool.not_eq_true, InputFiles.staysInside_iff]
  tauto

end JobFlow

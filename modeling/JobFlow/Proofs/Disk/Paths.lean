import JobFlow.Disk
import JobFlow.Proofs.Record.Paths

/-!
# Names below a directory

Restoring an archive writes each entry at `Path.join dir name`, where `name` is the entry's
plain names joined by `/`, after making the directory `Path.parent?` gives.
-/

namespace JobFlow

namespace Path

/-- A path text that names a directory as it stands: empty, or ending in `/`. -/
def DirText (t : String) : Prop := t = "" ∨ ∃ u, t = u ++ "/"

theorem DirText.append {a b : String} (first : DirText a) (second : DirText b) : DirText (a ++ b) := by
  rcases second with rfl | ⟨u, rfl⟩
  · simpa using first
  · exact .inr ⟨a ++ u, by simp [String.append_assoc]⟩

theorem toList_ofSegments_cons (s : String) (rest : List String) :
    ∃ w, (RecordPath.ofSegments (s :: rest)).toList = s.toList ++ w := by
  cases rest with
  | nil => exact ⟨[], by simp [RecordPath.ofSegments]⟩
  | cons t rest => exact ⟨_, by rw [RecordPath.toList_ofSegments, List.map_cons, List.map_cons,
      List.intercalate_cons_cons, List.append_assoc]⟩

theorem ofSegments_not_startsWith {rel : List String} (valid : RecordPath.Valid rel) (full : rel ≠ []) :
    (RecordPath.ofSegments rel).startsWith "/" = false := by
  obtain ⟨s, rest, rfl⟩ := List.exists_cons_of_ne_nil full
  obtain ⟨w, chars⟩ := toList_ofSegments_cons s rest
  obtain ⟨⟨empty, -, -, noSlash⟩, -⟩ := RecordPath.valid_cons.1 valid
  obtain ⟨c, cs, first⟩ := List.exists_cons_of_ne_nil (by simpa using empty : s.toList ≠ [])
  have notSlash : '/' ≠ c := fun same => noSlash (by rw [first]; exact List.mem_cons.2 (.inl same))
  simp [chars, first, notSlash]

theorem eq_append_slash {a : String} (ends : a.endsWith "/" = true) : ∃ b, a = b ++ "/" := by
  have suffix : "/".toList <:+ a.toList := by
    have slice : a.toSlice.endsWith "/" = true := ends
    rw [String.Slice.endsWith_string_iff] at slice
    simpa using slice
  obtain ⟨t, chars⟩ := suffix
  exact ⟨String.ofList t, String.toList_injective (by simp [← chars])⟩

end Path

namespace Disk

/-- How `locate` takes one `/`-separated piece of a path text: empty pieces and `.` change
nothing, `..` takes back a name, and any other piece is a name. -/
def segStep (acc : List String) (s : String) : List String :=
  if s = "" ∨ s = "." then acc else if s = ".." then acc.dropLast else acc ++ [s]

theorem foldl_segStep_named (segs : List String) (acc : List String) :
    ((segs.filter (fun s => !s.isEmpty)).filter (· != ".") |>.map
        (fun s => if s = ".." then Path.Part.parent else Path.Part.normal s)).foldl
      (fun acc part => match part with
        | .normal n => acc ++ [n]
        | .parent => acc.dropLast
        | _ => acc) acc = segs.foldl segStep acc := by
  induction segs generalizing acc with
  | nil => rfl
  | cons s rest ih =>
    by_cases empty : s = ""
    · -- an empty piece is dropped
      subst empty
      rw [List.filter_cons_of_neg (by decide), List.foldl_cons, ← ih]
      simp [segStep]
    · rw [List.filter_cons_of_pos (p := fun x : String => !x.isEmpty) (by simpa using empty)]
      by_cases here : s = "."
      · subst here
        rw [List.filter_cons_of_neg (by decide), List.foldl_cons, ← ih]
        simp [segStep]
      · rw [List.filter_cons_of_pos (p := fun x : String => x != ".") (by simpa using here), List.map_cons, List.foldl_cons, List.foldl_cons, ih]
        congr 1
        by_cases up : s = ".."
        · simp [segStep, up]
        · simp [segStep, empty, here, up]

theorem locate_eq_segments (p : String) :
    locate p = ((p.toList.splitOn '/').map String.ofList).foldl segStep [] := by
  unfold locate Path.parts
  simp only [List.foldl_append]
  rw [← foldl_segStep_named]
  -- a leading `/` and a leading `.` name no directory
  congr 1
  generalize List.map String.ofList (List.splitOn '/' p.toList) = segs
  cases segs with
  | nil => split <;> rfl
  | cons s rest => by_cases here : s = "." <;> split <;> simp [here]

theorem locate_eq_parts (p : String) : locate p = (RecordPath.parts p).foldl segStep [] :=
  locate_eq_segments p

theorem foldl_segStep_valid {rel : List String} (valid : RecordPath.Valid rel) (acc : List String) :
    rel.foldl segStep acc = acc ++ rel := by
  induction rel generalizing acc with
  | nil => simp
  | cons s rest ih =>
    obtain ⟨⟨full, here, up, -⟩, valid⟩ := RecordPath.valid_cons.1 valid
    simp [segStep, full, here, up, ih valid]

theorem locate_append_slash (a b : String) :
    locate (a ++ "/" ++ b) = (RecordPath.parts b).foldl segStep (locate a) := by
  have chars : (a ++ "/" ++ b).toList = a.toList ++ '/' :: b.toList := by simp
  simp [locate_eq_parts, RecordPath.parts, chars, List.splitOn_append_cons_self]

theorem locate_slash (a : String) : locate (a ++ "/") = locate a := by
  simpa [RecordPath.parts, segStep] using locate_append_slash a ""

theorem locate_ofSegments {rel : List String} (valid : RecordPath.Valid rel) (full : rel ≠ []) :
    locate (RecordPath.ofSegments rel) = rel := by
  rw [locate_eq_parts, RecordPath.parts_ofSegments valid full, foldl_segStep_valid valid, List.nil_append]

theorem locate_join (dir : String) {rel : List String} (valid : RecordPath.Valid rel) (full : rel ≠ []) :
    locate (Path.join dir (RecordPath.ofSegments rel)) = locate dir ++ rel := by
  unfold Path.join
  rw [Path.ofSegments_not_startsWith valid full]
  simp only [Bool.false_eq_true, if_false]
  split
  · rename_i empty
    have : dir = "" := by simpa using empty
    subst this
    rw [locate_ofSegments valid full]
    rfl
  · split
    · rename_i ends
      obtain ⟨b, rfl⟩ := Path.eq_append_slash ends
      rw [locate_append_slash, locate_slash, RecordPath.parts_ofSegments valid full,
        foldl_segStep_valid valid]
    · rw [locate_append_slash, RecordPath.parts_ofSegments valid full, foldl_segStep_valid valid]

theorem locate_ofList_slash (l : List Char) : locate (String.ofList (l ++ ['/'])) = locate (String.ofList l) := by
  have : String.ofList (l ++ ['/']) = String.ofList l ++ "/" := String.toList_injective (by simp)
  rw [this, locate_slash]

theorem locate_ofList_slash_dot (l : List Char) :
    locate (String.ofList (l ++ ['/', '.'])) = locate (String.ofList l) := by
  have : String.ofList (l ++ ['/', '.']) = String.ofList l ++ "/" ++ "." := String.toList_injective (by simp)
  rw [this, locate_append_slash]
  rfl

end Disk

namespace Path

/-- Trimming the end of a path text keeps a first part of it. -/
theorem trimEnd_prefix : ∀ (cs : List Char) (n : Nat), trimEnd cs n <+: cs
  | cs, 0 => List.prefix_refl cs
  | cs, n + 1 => by
    rw [trimEnd]
    split
    · rename_i rest slash
      split
      · exact List.prefix_refl cs
      · have whole : cs = rest.reverse ++ ['/'] := by
          simpa using congrArg List.reverse slash
        exact ( trimEnd_prefix rest.reverse n).trans (whole ▸ List.prefix_append _ _)
    · rename_i rest dot
      have whole : cs = rest.reverse ++ ['/', '.'] := by
        simpa using congrArg List.reverse dot
      have first : ('/' :: rest).reverse <+: cs := by
        rw [whole]
        exact ⟨['.'], by simp⟩
      exact ( trimEnd_prefix _ n).trans first
    · exact List.prefix_refl cs

/-- Trimming the end of a path text drops only pieces that name no directory. -/
theorem locate_trimEnd : ∀ (cs : List Char) (n : Nat),
    Disk.locate (String.ofList (trimEnd cs n)) = Disk.locate (String.ofList cs)
  | cs, 0 => rfl
  | cs, n + 1 => by
    rw [trimEnd]
    split
    · rename_i rest slash
      split
      · rfl
      · have whole : cs = rest.reverse ++ ['/'] := by
          simpa using congrArg List.reverse slash
        rw [locate_trimEnd, whole, Disk.locate_ofList_slash]
    · rename_i rest dot
      have whole : cs = rest.reverse ++ ['/', '.'] := by
        simpa using congrArg List.reverse dot
      rw [locate_trimEnd, whole, Disk.locate_ofList_slash_dot, List.reverse_cons, Disk.locate_ofList_slash]
    · rfl

theorem reverse_segment {ak : String} (plain : RecordPath.Segment ak) :
    ∃ c r, ak.toList.reverse = c :: r ∧ c ≠ '/' ∧ '/' ∉ r ∧ (r = [] → c ≠ '.') := by
  obtain ⟨empty, dot, -, noSlash⟩ := plain
  obtain ⟨c, r, rev⟩ := List.exists_cons_of_ne_nil (by simpa using empty : ak.toList.reverse ≠ [])
  have mem : ∀ x, x ∈ c :: r → x ∈ ak.toList := fun x mem => by
    rw [← List.mem_reverse, rev]
    exact mem
  refine ⟨c, r, rev, fun same => noSlash (same ▸ mem c (List.mem_cons_self ..)),
    fun inR => noSlash (mem '/' (List.mem_cons_of_mem _ inR)), fun nil same => dot ?_⟩
  subst nil same
  exact String.toList_injective (by simpa using congrArg List.reverse rev)

theorem trimEnd_segment (X : List Char) {ak : String} (plain : RecordPath.Segment ak) (n : Nat) :
    trimEnd (X ++ ak.toList) n = X ++ ak.toList := by
  obtain ⟨c, r, rev, notSlash, noSlash, notDot⟩ := reverse_segment plain
  cases n with
  | zero => rfl
  | succ n =>
    rw [trimEnd]
    split
    · rename_i rest slash
      simp only [List.reverse_append, rev, List.cons_append, List.cons.injEq] at slash
      exact absurd slash.1 notSlash
    · rename_i rest dot
      simp only [List.reverse_append, rev, List.cons_append, List.cons.injEq] at dot
      cases r with
      | nil => exact absurd dot.1 (notDot rfl)
      | cons d r =>
        simp only [List.cons_append, List.cons.injEq] at dot
        exact (noSlash (dot.2.1 ▸ List.mem_cons_self ..)).elim
    · rfl

theorem parent?_append {B ak : String} (dirlike : DirText B) (plain : RecordPath.Segment ak) :
    parent? (B ++ ak) = some (String.ofList (trimEnd B.toList (B.length + 1))) := by
  obtain ⟨c, r, rev, notSlash, noSlash, -⟩ := reverse_segment plain
  have whole : trimEnd (B ++ ak).toList ((B ++ ak).length + 1) = B.toList ++ ak.toList := by
    rw [String.toList_append, trimEnd_segment _ plain]
  have notTop : ¬ ((B.toList ++ ak.toList).isEmpty ∨ B.toList ++ ak.toList = ['/']) := by
    rintro (empty | top)
    · simp only [List.isEmpty_iff, List.append_eq_nil_iff] at empty
      simp [empty.2] at rev
    · have := congrArg List.reverse top
      simp [rev] at this
      exact notSlash this.1
  have before : ((B.toList ++ ak.toList).reverse.dropWhile (· ≠ '/')).reverse = B.toList := by
    rw [List.reverse_append, rev, List.dropWhile_append_of_pos]
    · rcases dirlike with rfl | ⟨B', rfl⟩
      · simp
      · simp
    · intro x mem
      rcases List.mem_cons.1 mem with rfl | inR
      · simpa using notSlash
      · have other : x ≠ '/' := fun same => noSlash (same ▸ inR)
        simpa using other
  simp only [parent?, whole, notTop, if_false, before, String.length_toList]

theorem names_file {B ak : String} (plain : RecordPath.Segment ak) :
    (B ++ ak).endsWith "/" = false ∧ (B ++ ak).endsWith "/." = false ∧ B ++ ak ≠ "." := by
  obtain ⟨c, r, rev, notSlash, noSlash, notDot⟩ := reverse_segment plain
  have chars : (B ++ ak).toList.reverse = c :: (r ++ B.toList.reverse) := by simp [rev]
  have ends : ∀ pat : String, (B ++ ak).endsWith pat = true → pat.toList.reverse <+: c :: (r ++ B.toList.reverse) := by
    intro pat ends
    have slice : (B ++ ak).toSlice.endsWith pat = true := ends
    rw [String.Slice.endsWith_string_iff] at slice
    rw [← chars]
    exact List.reverse_prefix.2 (by simpa using slice)
  refine ⟨Bool.eq_false_iff.2 fun slash => ?_, Bool.eq_false_iff.2 fun slashDot => ?_, fun dot => ?_⟩
  · have := ends "/" slash
    simp at this
    exact notSlash this.symm
  · have := ends "/." slashDot
    cases r with
    | nil => simp at this; exact notDot rfl this.1.symm
    | cons d r =>
      simp at this
      exact noSlash (this.2 ▸ List.mem_cons_self ..)
  · have := congrArg (fun t : String => t.toList.reverse) dot
    simp only [chars] at this
    simp at this
    exact notDot this.2.1 this.1

theorem ofSegments_split {rel : List String} (full : rel ≠ []) :
    ∃ N, RecordPath.ofSegments rel = N ++ rel.getLast full ∧ DirText N := by
  by_cases single : rel.dropLast = []
  · refine ⟨"", ?_, .inl rfl⟩
    conv_lhs => rw [← List.dropLast_append_getLast full, single]
    simp [RecordPath.ofSegments]
  · refine ⟨RecordPath.ofSegments rel.dropLast ++ "/", ?_, .inr ⟨_, rfl⟩⟩
    conv_lhs => rw [← List.dropLast_append_getLast full]
    rw [RecordPath.ofSegments_append single (by simp), RecordPath.ofSegments_singleton]

theorem join_split (dir : String) {rel : List String} (valid : RecordPath.Valid rel) (full : rel ≠ []) :
    ∃ B, join dir (RecordPath.ofSegments rel) = B ++ rel.getLast full ∧ DirText B := by
  obtain ⟨N, named, dirN⟩ := ofSegments_split full
  unfold join
  rw [ofSegments_not_startsWith valid full]
  simp only [Bool.false_eq_true, if_false]
  split
  · exact ⟨N, named, dirN⟩
  · split
    · rename_i ends
      obtain ⟨b, rfl⟩ := eq_append_slash ends
      exact ⟨b ++ "/" ++ N, by simp [named, String.append_assoc], DirText.append (.inr ⟨b, rfl⟩) dirN⟩
    · exact ⟨dir ++ "/" ++ N, by simp [named, String.append_assoc], DirText.append (.inr ⟨dir, rfl⟩) dirN⟩

theorem mem_ofSegments {x : Char} : ∀ {rel : List String}, x ∈ (RecordPath.ofSegments rel).toList →
    x = '/' ∨ ∃ s ∈ rel, x ∈ s.toList
  | [], mem => by simp [RecordPath.ofSegments] at mem
  | [s], mem => .inr ⟨s, List.mem_singleton_self s, by simpa [RecordPath.ofSegments_singleton] using mem⟩
  | s :: t :: rest, mem => by
    rw [show s :: t :: rest = [s] ++ (t :: rest) from rfl,
      RecordPath.ofSegments_append (by simp) (by simp), RecordPath.ofSegments_singleton] at mem
    simp only [String.toList_append, List.mem_append] at mem
    rcases mem with (first | slash) | later
    · exact .inr ⟨s, List.mem_cons_self .., first⟩
    · exact .inl (by simpa using slash)
    · rcases mem_ofSegments later with slash | ⟨s', mem, inside⟩
      · exact .inl slash
      · exact .inr ⟨s', List.mem_cons_of_mem _ mem, inside⟩

theorem mem_join {dir : String} {rel : List String} {x : Char} (mem : x ∈ (join dir (RecordPath.ofSegments rel)).toList) :
    x = '/' ∨ x ∈ dir.toList ∨ ∃ s ∈ rel, x ∈ s.toList := by
  unfold join at mem
  split at mem
  · rcases mem_ofSegments mem with slash | part
    · exact .inl slash
    · exact .inr (.inr part)
  · split at mem
    · exact (mem_ofSegments mem).elim .inl (.inr ∘ .inr)
    · split at mem
      · simp only [String.toList_append, List.mem_append] at mem
        rcases mem with inDir | inName
        · exact .inr (.inl inDir)
        · exact (mem_ofSegments inName).elim .inl (.inr ∘ .inr)
      · simp only [String.toList_append, List.mem_append] at mem
        rcases mem with (inDir | slash) | inName
        · exact .inr (.inl inDir)
        · exact .inl (by simpa using slash)
        · exact (mem_ofSegments inName).elim .inl (.inr ∘ .inr)

theorem locate_dirText_append {B ak : String} (dirB : DirText B) (plain : RecordPath.Segment ak) :
    Disk.locate (B ++ ak) = Disk.locate B ++ [ak] := by
  have single : RecordPath.Valid [ak] := RecordPath.valid_cons.2 ⟨plain, RecordPath.valid_nil⟩
  have pieces := RecordPath.parts_ofSegments single (List.cons_ne_nil _ _)
  rw [RecordPath.ofSegments_singleton] at pieces
  rcases dirB with rfl | ⟨u, rfl⟩
  · have top : Disk.locate "" = [] := rfl
    simpa [top, RecordPath.ofSegments_singleton] using Disk.locate_ofSegments single (List.cons_ne_nil _ _)
  · rw [Disk.locate_append_slash, Disk.locate_slash, pieces, Disk.foldl_segStep_valid single]

/-- The directory of a name joined below a directory: the directory's names then all the
name's parts but the last, named by a text that starts the joined one. -/
theorem parent?_join (dir : String) {rel : List String} (valid : RecordPath.Valid rel) (full : rel ≠ []) :
    ∃ p, parent? (join dir (RecordPath.ofSegments rel)) = some p ∧
      Disk.locate p = Disk.locate dir ++ rel.dropLast ∧ p.toList <+: (join dir (RecordPath.ofSegments rel)).toList := by
  obtain ⟨B, joined, dirB⟩ := join_split dir valid full
  have plain : RecordPath.Segment (rel.getLast full) := valid _ (List.getLast_mem full)
  have names := Disk.locate_join dir valid full
  rw [joined, locate_dirText_append dirB plain] at names
  refine ⟨_, by rw [joined, parent?_append dirB plain], ?_, ?_⟩
  · rw [locate_trimEnd, String.ofList_toList]
    have := congrArg List.dropLast names
    rwa [List.dropLast_concat, List.dropLast_append_of_ne_nil full] at this
  · rw [joined, String.toList_append, String.toList_ofList]
    exact ( trimEnd_prefix _ _).trans (List.prefix_append _ _)

theorem parts_ofSegments {rel : List String} (valid : RecordPath.Valid rel) (full : rel ≠ []) :
    parts (RecordPath.ofSegments rel) = rel.map .normal := by
  have pieces : (((RecordPath.ofSegments rel).toList.splitOn '/').map String.ofList) = rel :=
    RecordPath.parts_ofSegments valid full
  have kept : rel.filter (fun s => !s.isEmpty) = rel := List.filter_eq_self.2 fun s mem => by
    simpa using (valid s mem).1
  have named : rel.filter (· != ".") = rel := List.filter_eq_self.2 fun s mem => by
    simpa using (valid s mem).2.1
  have plain : rel.map (fun s => if s = ".." then Part.parent else Part.normal s) = rel.map .normal :=
    List.map_congr_left fun s mem => by simp [(valid s mem).2.2.1]
  obtain ⟨s, rest, rfl⟩ := List.exists_cons_of_ne_nil full
  have first : s ≠ "." := (valid s (List.mem_cons_self ..)).2.1
  simp only [parts, pieces, ofSegments_not_startsWith valid full, Bool.false_eq_true, if_false, first, kept, named,
    plain, List.nil_append]

end Path

end JobFlow

import JobFlow.Proofs.Record.Paths
import Mathlib.Data.List.TakeDrop

/-!
# The algebra of record paths

Normalizing, joining and splitting record paths agree with each other.
-/

namespace JobFlow.RecordPath

theorem not_mem_of_mem_splitOn {sep : Char} {xs l : List Char} (mem : l ∈ xs.splitOn sep) : sep ∉ l := by
  induction xs generalizing l with
  | nil => simp_all
  | cons x xs ih =>
    rw [List.splitOn_eq_splitOnP,List.splitOnP_cons_eq_if_modifyHead] at mem
    obtain ⟨first,others,pieces⟩ := List.exists_cons_of_ne_nil (List.splitOnP_ne_nil (· == sep) xs)
    have inFirst : sep ∉ first := ih (by rw [List.splitOn_eq_splitOnP,pieces]; simp)
    have inOthers : ∀ l ∈ others, sep ∉ l := fun l m => ih (by rw [List.splitOn_eq_splitOnP,pieces]; simp [m])
    rw [pieces] at mem
    by_cases atSep : (x == sep) = true
    · simp only [atSep,if_true,List.mem_cons] at mem
      rcases mem with rfl | rfl | m
      · simp
      · exact inFirst
      · exact inOthers l m
    · simp only [atSep,Bool.false_eq_true,if_false,List.modifyHead_cons,List.mem_cons] at mem
      rcases mem with rfl | m
      · simp only [List.mem_cons,not_or]
        exact ⟨fun same => atSep (by simp [same]),inFirst⟩
      · exact inOthers l m

theorem span_append {p : Char → Bool} {l : List Char} (kept : ∀ c ∈ l, p c) (x : Char) (stop : p x = false)
    (rest : List Char) : (l ++ x :: rest).span p = (l, x :: rest) := by
  suffices loop : ∀ acc, List.span.loop p (l ++ x :: rest) acc = (acc.reverse ++ l, x :: rest) by
    simpa [List.span] using loop []
  induction l with
  | nil => simp [List.span.loop,stop]
  | cons c l ih =>
    intro acc
    simp only [List.mem_cons,forall_eq_or_imp] at kept
    simp [List.span.loop,kept.1,ih kept.2]

theorem span_of_all {p : Char → Bool} {l : List Char} (kept : ∀ c ∈ l, p c) : l.span p = (l, []) := by
  suffices loop : ∀ acc, List.span.loop p l acc = (acc.reverse ++ l, []) by
    simpa [List.span] using loop []
  induction l with
  | nil => simp [List.span.loop]
  | cons c l ih =>
    intro acc
    simp only [List.mem_cons,forall_eq_or_imp] at kept
    simp [List.span.loop,kept.1,ih kept.2]

theorem segment_iff_of_mem_nonEmptyParts {p s : String} (mem : s ∈ nonEmptyParts p) :
    Segment s ↔ s ≠ "." ∧ s ≠ ".." := by
  simp only [nonEmptyParts,List.mem_filter,Bool.not_eq_eq_eq_not,Bool.not_true,String.isEmpty_eq_false_iff] at mem
  obtain ⟨part,full⟩ := mem
  have noSlash : '/' ∉ s.toList := by
    simp only [parts,List.mem_map] at part
    obtain ⟨cs,mem,rfl⟩ := part
    simpa using not_mem_of_mem_splitOn mem
  simp [Segment,full,noSlash]

theorem normalize_eq_ok_iff {p q : String} :
    normalize p = .ok q ↔ (∀ s ∈ nonEmptyParts p, s ≠ "." ∧ s ≠ "..") ∧ q = ofSegments (nonEmptyParts p) := by
  rw [normalize_eq_ok]
  have valid : Valid (nonEmptyParts p) ↔ ∀ s ∈ nonEmptyParts p, s ≠ "." ∧ s ≠ ".." :=
    forall₂_congr fun _ mem => segment_iff_of_mem_nonEmptyParts mem
  rw [valid]

theorem normalize_normalize {p q : String} (normal : normalize p = .ok q) : normalize q = .ok q := by
  obtain ⟨valid,rfl⟩ := normalize_eq_ok.1 normal
  exact normalize_ofSegments valid

theorem kept_reverse {b : String} (noSlash : '/' ∉ b.toList) : ∀ c ∈ b.toList.reverse, decide (c ≠ '/') = true := by
  intro c mem
  simp only [ne_eq,decide_eq_true_eq]
  rintro rfl
  exact noSlash (List.mem_reverse.1 mem)

theorem split?_slash_append {a b : String} (noSlash : '/' ∉ b.toList) : split? (a ++ "/" ++ b) = some (a, b) := by
  have chars : (a ++ "/" ++ b).toList.reverse = b.toList.reverse ++ '/' :: a.toList.reverse := by simp
  have upTo : (b.toList.reverse ++ '/' :: a.toList.reverse).span (· ≠ '/') = (b.toList.reverse, '/' :: a.toList.reverse) :=
    span_append (kept_reverse noSlash) '/' (by decide) _
  have full : (a ++ "/" ++ b).isEmpty = false := by
    rw [Bool.eq_false_iff,ne_eq,String.isEmpty_iff,← String.toList_inj]
    simp
  simp only [split?,full,chars,upTo,Bool.false_eq_true,if_false,List.reverse_reverse,String.ofList_toList]

theorem split?_segment {b : String} (full : b ≠ "") (noSlash : '/' ∉ b.toList) : split? b = some ("", b) := by
  have upTo : b.toList.reverse.span (· ≠ '/') = (b.toList.reverse, []) := span_of_all (kept_reverse noSlash)
  have nonEmpty : b.isEmpty = false := by
    rw [Bool.eq_false_iff,ne_eq,String.isEmpty_iff]
    exact full
  simp only [split?,nonEmpty,upTo,Bool.false_eq_true,if_false,List.reverse_reverse,String.ofList_toList]

theorem split?_join (a : String) {b : String} (seg : Segment b) : split? (join a b) = some (a, b) := by
  by_cases root : a.isEmpty
  · rw [join,if_pos root,String.isEmpty_iff.1 root]
    exact split?_segment seg.1 seg.2.2.2
  · rw [join,if_neg root]
    exact split?_slash_append seg.2.2.2

theorem eq_join_of_normalize {p q : String} (normal : normalize p = .ok q) (full : q ≠ "") :
    ∃ a b, normalize a = .ok a ∧ Segment b ∧ q = join a b := by
  obtain ⟨valid,rfl⟩ := normalize_eq_ok.1 normal
  -- the last part is the segment; the parts before it join to the parent
  obtain ⟨init,last,split⟩ := List.eq_nil_or_concat (nonEmptyParts p) |>.resolve_left (by
    rintro empty
    exact full (by rw [empty]; rfl))
  rw [split,List.concat_eq_append] at valid ⊢
  obtain ⟨validInit,validLast⟩ := valid_append.1 valid
  exact ⟨ofSegments init,last,normalize_ofSegments validInit,validLast last (by simp),
    (join_ofSegments validInit last).symm⟩

/-- Normalizing, joining and splitting form one algebra of paths: normalizing accepts exactly
the paths whose non-empty parts are neither `.` nor `..` and joins those parts by single
slashes; its answers normalize to themselves; every normalized path other than the root splits
into a parent and a last segment that join back to it; and splitting a segment joined below a
normalized path gives both back. -/
theorem normal_paths_split_and_join :
    (∀ p q, normalize p = .ok q ↔ (∀ s ∈ nonEmptyParts p, s ≠ "." ∧ s ≠ "..") ∧ q = ofSegments (nonEmptyParts p)) ∧
    (∀ p q, normalize p = .ok q → normalize q = .ok q) ∧
    (∀ p q, normalize p = .ok q → q ≠ "" → ∃ a b, split? q = some (a, b) ∧ join a b = q ∧ Segment b) ∧
    (∀ x a b, normalize x = .ok a → Segment b → split? (join a b) = some (a, b)) := by
  refine ⟨fun p q => normalize_eq_ok_iff,fun p q => normalize_normalize,fun p q normal full => ?_,
    fun x a b _ seg => split?_join a seg⟩
  obtain ⟨a,b,-,seg,rfl⟩ := eq_join_of_normalize normal full
  exact ⟨a,b,split?_join a seg,rfl,seg⟩

end JobFlow.RecordPath

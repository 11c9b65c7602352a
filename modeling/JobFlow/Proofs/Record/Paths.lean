import JobFlow.Record.Store
import Mathlib.Data.String.Basic

/-!
Normalized record paths as lists of segments, and the keys of the flat store.
-/

namespace JobFlow.RecordPath

/-- A name that may stand between the slashes of a normalized path. -/
def Segment (s : String) : Prop := s ≠ "" ∧ s ≠ "." ∧ s ≠ ".." ∧ '/' ∉ s.toList

/-- Paths all of whose parts are segments. -/
def Valid (segs : List String) : Prop := ∀ s ∈ segs, Segment s

/-- The normalized path of a list of segments. -/
def ofSegments (segs : List String) : String := "/".intercalate segs

/-- The segments of a normalized path; the root has none. -/
def segments (p : String) : List String := if p = "" then [] else parts p

theorem valid_nil : Valid [] := by simp [Valid]

theorem valid_append {a b : List String} : Valid (a ++ b) ↔ Valid a ∧ Valid b := by
  simp only [Valid,List.mem_append]
  exact ⟨fun h => ⟨fun s m => h s (.inl m),fun s m => h s (.inr m)⟩,fun h s m => m.elim (h.1 s) (h.2 s)⟩

theorem valid_cons {s : String} {segs : List String} : Valid (s :: segs) ↔ Segment s ∧ Valid segs := by
  simp [Valid]

theorem valid_of_prefixOf {a b : List String} (pre : a <+: b) (valid : Valid b) : Valid a := by
  obtain ⟨c,rfl⟩ := pre
  exact (valid_append.1 valid).1

theorem segment_ne_empty {s : String} (seg : Segment s) : s.toList ≠ [] := by
  simpa using seg.1

theorem validateSegment_of_segment {s : String} (seg : Segment s) : validateSegment s = .ok () := by
  obtain ⟨ne,dot,dots,slash⟩ := seg
  have empty : s.isEmpty = false := by simpa using ne
  simp [validateSegment,empty,dot,dots,slash]
  rfl

/-- The error that names a part of a path that is not a segment. -/
def segmentError (s : String) : JobError := .configuration s!"invalid record path segment '{s}'"

theorem validateSegment_of_not_segment {s : String} (bad : ¬ Segment s) :
    validateSegment s = .error (segmentError s) := by
  have invalid : s = "" ∨ s = "." ∨ s = ".." ∨ '/' ∈ s.toList := by
    by_contra others
    simp only [not_or] at others
    exact bad others
  simp only [validateSegment,String.isEmpty_iff,String.contains_char_eq,decide_eq_true_eq]
  rw [if_pos invalid]
  rfl

theorem validateSegment_ok_iff {s : String} : validateSegment s = .ok () ↔ Segment s := by
  refine ⟨fun ok => ?_,validateSegment_of_segment⟩
  by_contra bad
  rw [validateSegment_of_not_segment bad] at ok
  cases ok

theorem toList_ofSegments (segs : List String) :
    (ofSegments segs).toList = ['/'].intercalate (segs.map String.toList) := by
  simp [ofSegments,String.toList_intercalate]

theorem ofSegments_nil : ofSegments [] = "" := rfl

theorem ofSegments_singleton (s : String) : ofSegments [s] = s := by simp [ofSegments]

theorem parts_ofSegments {segs : List String} (valid : Valid segs) (ne : segs ≠ []) :
    parts (ofSegments segs) = segs := by
  have noSlash : ∀ l ∈ segs.map String.toList, '/' ∉ l := by
    simp only [List.mem_map]
    rintro l ⟨s,mem,rfl⟩
    exact (valid s mem).2.2.2
  have split := List.splitOn_intercalate '/' noSlash (by simpa using ne)
  simp [parts,toList_ofSegments,split]

theorem ofSegments_eq_empty_iff {segs : List String} (valid : Valid segs) : ofSegments segs = "" ↔ segs = [] := by
  refine ⟨fun empty => ?_,fun nil => nil ▸ rfl⟩
  cases segs with
  | nil => rfl
  | cons s rest =>
    have first : s.toList ≠ [] := segment_ne_empty (valid s (by simp))
    have chars := congrArg String.toList empty
    simp [toList_ofSegments] at chars
    cases rest <;> simp_all [List.intercalate]

theorem segments_ofSegments {segs : List String} (valid : Valid segs) : segments (ofSegments segs) = segs := by
  by_cases nil : segs = []
  · subst nil; rfl
  · simp [segments,(ofSegments_eq_empty_iff valid).not.2 nil,parts_ofSegments valid nil]

theorem ofSegments_injective {a b : List String} (va : Valid a) (vb : Valid b) (same : ofSegments a = ofSegments b) :
    a = b := by
  rw [← segments_ofSegments va,← segments_ofSegments vb,same]

theorem join_ofSegments {segs : List String} (valid : Valid segs) (name : String) :
    join (ofSegments segs) name = ofSegments (segs ++ [name]) := by
  by_cases nil : segs = []
  · subst nil; simp [join,ofSegments]
  · have nonEmpty : (ofSegments segs).isEmpty = false := by
      simpa using (ofSegments_eq_empty_iff valid).not.2 nil
    rw [join,nonEmpty,if_neg (by simp),ofSegments,ofSegments,String.intercalate_append_of_ne_nil nil (by simp),
      String.intercalate_singleton]

theorem ofSegments_append {a b : List String} (na : a ≠ []) (nb : b ≠ []) :
    ofSegments (a ++ b) = ofSegments a ++ "/" ++ ofSegments b :=
  String.intercalate_append_of_ne_nil na nb

/-- The non-empty parts of a path, which normalizing keeps. -/
def nonEmptyParts (p : String) : List String := (parts p).filter (fun s => !s.isEmpty)

/-- The check of every part that normalizing makes. -/
private def validateAll (segs : List String) : Outcome PUnit :=
  forIn segs PUnit.unit fun s _ => do validateSegment s; pure (ForInStep.yield PUnit.unit)

private theorem normalize_eq (p : String) :
    normalize p = validateAll (nonEmptyParts p) >>= fun _ => pure (ofSegments (nonEmptyParts p)) := rfl

private theorem validateAll_ok (segs : List String) : validateAll segs = .ok PUnit.unit ↔ Valid segs := by
  induction segs with
  | nil => simp [valid_nil,validateAll]; rfl
  | cons s rest ih =>
    rw [valid_cons,← ih,← validateSegment_ok_iff]
    simp only [validateAll,List.forIn_cons]
    cases validateSegment s <;> simp [bind,Except.bind,pure,Except.pure]

theorem normalize_eq_ok {p q : String} :
    normalize p = .ok q ↔ Valid (nonEmptyParts p) ∧ q = ofSegments (nonEmptyParts p) := by
  rw [normalize_eq,← validateAll_ok]
  cases validateAll (nonEmptyParts p) with
  | error e => simp [bind,Except.bind]
  | ok u => simp [bind,Except.bind,pure,Except.pure,eq_comm]

theorem normalize_ofSegments {segs : List String} (valid : Valid segs) :
    normalize (ofSegments segs) = .ok (ofSegments segs) := by
  have same : nonEmptyParts (ofSegments segs) = segs := by
    by_cases nil : segs = []
    · subst nil; rfl
    · rw [nonEmptyParts,parts_ofSegments valid nil,List.filter_eq_self]
      intro s mem
      simpa using (valid s mem).1
  rw [normalize_eq_ok,same]
  exact ⟨valid,rfl⟩

theorem normalize_segment {s : String} (seg : Segment s) : normalize s = .ok s := by
  simpa [ofSegments_singleton] using normalize_ofSegments (valid_cons.2 ⟨seg, valid_nil⟩)

theorem parts_join {g : String} (full : g.isEmpty = false) (p : String) : parts (join g p) = parts g ++ parts p := by
  have chars : (g ++ "/" ++ p).toList = g.toList ++ '/' :: p.toList := by simp
  simp [join,full,parts,chars,List.splitOn_append_cons_self]

private theorem validateAll_append {a : List String} (valid : Valid a) (b : List String) :
    validateAll (a ++ b) = validateAll b := by
  induction a with
  | nil => rfl
  | cons s rest ih =>
    obtain ⟨seg,valid⟩ := valid_cons.1 valid
    simp only [validateAll,List.cons_append,List.forIn_cons,validateSegment_of_segment seg] at ih ⊢
    exact ih valid

/-- A path joined below a group that normalizes normalizes to the group's segments followed
by the path's, and fails as the path alone fails. -/
theorem normalize_join {g b : String} (normal : normalize g = .ok b) (p : String) :
    normalize (join g p) = (do
      let q ← normalize p
      pure (if b.isEmpty then q else if q.isEmpty then b else b ++ "/" ++ q)) := by
  obtain ⟨validG,rfl⟩ := normalize_eq_ok.1 normal
  by_cases root : g.isEmpty = true
  · have empty : nonEmptyParts g = [] := by
      simp [String.isEmpty_iff.1 root,nonEmptyParts,parts]
    simp [join,root,empty,ofSegments_nil]
  · have full : g.isEmpty = false := by simpa using root
    have split : nonEmptyParts (join g p) = nonEmptyParts g ++ nonEmptyParts p := by
      simp [nonEmptyParts,parts_join full]
    rw [normalize_eq,split,validateAll_append validG,normalize_eq]
    cases checked : validateAll (nonEmptyParts p) with
    | error e => rfl
    | ok u =>
      have validP := (validateAll_ok _).1 checked
      simp only [bind,Except.bind,pure,Except.pure,Except.ok.injEq]
      by_cases noG : nonEmptyParts g = []
      · simp [noG,ofSegments_nil]
      · have fullG : (ofSegments (nonEmptyParts g)).isEmpty = false := by
          simpa using (ofSegments_eq_empty_iff validG).not.2 noG
        by_cases noP : nonEmptyParts p = []
        · simp [noP,fullG,ofSegments_nil]
        · have fullP : (ofSegments (nonEmptyParts p)).isEmpty = false := by
            simpa using (ofSegments_eq_empty_iff validP).not.2 noP
          simp [fullG,fullP,ofSegments_append noG noP]

end JobFlow.RecordPath

namespace JobFlow.RecordKey

open RecordPath

theorem toList_leaf (p : String) : (leaf p).toList = 'v' :: p.toList := by simp [leaf]

theorem toList_group (p : String) : (group p).toList = 'g' :: p.toList := by simp [group]

theorem leaf_ne_group (p q : String) : leaf p ≠ group q := by
  intro same
  simpa [toList_leaf,toList_group] using congrArg String.toList same

theorem leaf_inj {p q : String} : leaf p = leaf q ↔ p = q := by
  simp [leaf]

theorem group_inj {p q : String} : group p = group q ↔ p = q := by
  simp [group]

theorem childPrefix_root (kind : String) : childPrefix kind "" = kind := rfl

/-- Below a path that is not the root, the keys with its child prefix are those of the paths
that extend it. -/
theorem prefix_childPrefix_iff {kind : String} {segs qs : List String} (vs : Valid segs) (vq : Valid qs)
    (ne : segs ≠ []) :
    (childPrefix kind (ofSegments segs)).toList <+: (kind ++ ofSegments qs).toList ↔ ∃ r, r ≠ [] ∧ qs = segs ++ r := by
  have nonEmpty : (ofSegments segs).isEmpty = false := by simpa using (ofSegments_eq_empty_iff vs).not.2 ne
  simp only [childPrefix,nonEmpty,if_neg Bool.false_ne_true,String.toList_append,List.append_assoc,
    List.prefix_append_right_inj]
  constructor
  · rintro ⟨t,joined⟩
    have qne : qs ≠ [] := by
      rintro rfl
      simp [ofSegments_nil] at joined
    have split := congrArg (fun l => (l.splitOn '/').map String.ofList) joined
    simp only [List.append_assoc] at split
    simp only [show ("/" : String).toList = ['/'] from rfl,List.singleton_append,List.splitOn_append_cons_self,
      List.map_append] at split
    rw [← parts,← parts,parts_ofSegments vs ne,parts_ofSegments vq qne] at split
    exact ⟨_,by simp [List.splitOn_ne_nil],split.symm⟩
  · rintro ⟨r,rne,rfl⟩
    refine ⟨(ofSegments r).toList,?_⟩
    simp [ofSegments_append ne rne]

theorem relative_append {kind : String} (single : kind.length = 1) {segs r : List String} (vs : Valid segs)
    (below : segs = [] ∨ r ≠ []) : relative (kind ++ ofSegments (segs ++ r)) (ofSegments segs) = ofSegments r := by
  rw [← String.toList_inj]
  by_cases root : segs = []
  · subst root
    simp [relative,ofSegments_nil,← single,← String.length_toList]
  · have rne := below.resolve_left root
    have nonEmpty : (ofSegments segs).isEmpty = false := by simpa using (ofSegments_eq_empty_iff vs).not.2 root
    have key : (kind ++ ofSegments (segs ++ r)).toList =
        (kind.toList ++ (ofSegments segs).toList ++ ['/']) ++ (ofSegments r).toList := by
      simp [ofSegments_append root rne]
    have size : (ofSegments segs).length + 2 = (kind.toList ++ (ofSegments segs).toList ++ ['/']).length := by
      simp only [List.length_append,String.length_toList,single,List.length_singleton]
      omega
    simp only [relative,nonEmpty,Bool.false_eq_true,if_false,String.toList_ofList]
    rw [key,size,List.drop_left]

end JobFlow.RecordKey

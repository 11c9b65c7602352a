import JobFlow.Proofs.Record.Tree

/-!
How stored pairs hold a tree.
-/

namespace JobFlow.RecordTree

open RecordPath RecordKey Json

/-- What the value key of a path stores for an entry. -/
def valueBytes (cfg : StorageConfig) : Option Entry → Option ByteArray
  | some (.value v) => some (Leaf.encode cfg v)
  | _ => none

/-- Stored pairs that hold a tree: in key order, every key that of a path, the group key of
each object and the encoded value under the value key of every other entry. -/
structure Stores (cfg : StorageConfig) (t : Json) (ps : Pairs) : Prop where
  sorted : ps.Sorted
  shaped : ∀ k, (ps.get? k).isSome → ∃ q, Valid q ∧ (k = group (ofSegments q) ∨ k = leaf (ofSegments q))
  groups : ∀ q, Valid q → ((ps.get? (group (ofSegments q))).isSome ↔ t.entryAt q = some .group)
  values : ∀ q, Valid q → ps.get? (leaf (ofSegments q)) = valueBytes cfg (t.entryAt q)

/-- The key of an entry at a path. -/
def keyOf (q : List String) (j : Json) : String :=
  match j with
  | .obj _ => group (ofSegments q)
  | _ => leaf (ofSegments q)

/-- The keys a tree is stored under. -/
def encode (t : Json) : Set String := {k | ∃ q j, t.at? q = some j ∧ k = keyOf q j}

variable {cfg : StorageConfig} {t t' : Json} {ps : Pairs}

theorem Stores.congr (stores : Stores cfg t ps) (same : ∀ q, t'.entryAt q = t.entryAt q) : Stores cfg t' ps :=
  ⟨stores.sorted,stores.shaped,fun q valid => same q ▸ stores.groups q valid,fun q valid => same q ▸ stores.values q valid⟩

theorem entryAt_eq_group {t : Json} {q : List String} : t.entryAt q = some .group ↔ ∃ fs, t.at? q = some (.obj fs) := by
  cases found : t.at? q with
  | none => simp [entryAt,found]
  | some j => cases j <;> simp [entryAt,found,entry]

theorem entryAt_eq_value {t : Json} {q : List String} {v : Json} :
    t.entryAt q = some (.value v) ↔ t.at? q = some v ∧ ∀ fs, v ≠ .obj fs := by
  cases found : t.at? q with
  | none => simp [entryAt,found]
  | some j => cases j <;> cases v <;> simp [entryAt,found,entry]

theorem Stores.keys_iff (stores : Stores cfg t ps) (named : t.Named) (k : String) :
    (ps.get? k).isSome ↔ k ∈ encode t := by
  constructor
  · intro present
    obtain ⟨q,valid,kind⟩ := stores.shaped k present
    rcases kind with rfl | rfl
    · obtain ⟨fs,found⟩ := entryAt_eq_group.1 ((stores.groups q valid).1 present)
      exact ⟨q,.obj fs,found,rfl⟩
    · rw [stores.values q valid] at present
      cases entry : t.entryAt q with
      | none => simp [entry,valueBytes] at present
      | some e =>
        cases e with
        | group => simp [entry,valueBytes] at present
        | value v =>
          obtain ⟨found,notObj⟩ := entryAt_eq_value.1 entry
          refine ⟨q,v,found,?_⟩
          cases v with
          | obj fs => exact absurd rfl (notObj fs)
          | _ => rfl
  · rintro ⟨q,j,found,rfl⟩
    have valid := named q j found
    cases j with
    | obj fs => exact (stores.groups q valid).2 (entryAt_eq_group.2 ⟨fs,found⟩)
    | _ =>
      simp only [keyOf]
      rw [stores.values q valid]
      simp [entryAt,found,entry,valueBytes]

theorem group_ofSegments_inj {p q : List String} (vp : Valid p) (vq : Valid q) :
    group (ofSegments p) = group (ofSegments q) ↔ p = q :=
  ⟨fun same => ofSegments_injective vp vq (group_inj.1 same),fun same => same ▸ rfl⟩

theorem leaf_ofSegments_inj {p q : List String} (vp : Valid p) (vq : Valid q) :
    leaf (ofSegments p) = leaf (ofSegments q) ↔ p = q :=
  ⟨fun same => ofSegments_injective vp vq (leaf_inj.1 same),fun same => same ▸ rfl⟩

theorem Stores.contains_group (stores : Stores cfg t ps) {q : List String} (valid : Valid q) :
    ps.contains (group (ofSegments q)) = true ↔ t.entryAt q = some .group :=
  stores.groups q valid

theorem Stores.contains_leaf (stores : Stores cfg t ps) {q : List String} (valid : Valid q) :
    ps.contains (leaf (ofSegments q)) = true ↔ ∃ v, t.entryAt q = some (.value v) := by
  simp only [Pairs.contains,stores.values q valid]
  cases t.entryAt q with
  | none => simp [valueBytes]
  | some e => cases e <;> simp [valueBytes]

/-- Dropping the keys of the paths that `gone` picks leaves pairs that hold the tree without
those entries. -/
theorem Stores.drop {ps' : Pairs} (stores : Stores cfg t ps) (sorted : ps'.Sorted) (gone : List String → Prop) [DecidablePred gone]
    (groups : ∀ q, Valid q → ps'.get? (group (ofSegments q)) = if gone q then none else ps.get? (group (ofSegments q)))
    (values : ∀ q, Valid q → ps'.get? (leaf (ofSegments q)) = if gone q then none else ps.get? (leaf (ofSegments q)))
    (fewer : ∀ k, (ps'.get? k).isSome → (ps.get? k).isSome)
    (tree : ∀ q, t'.entryAt q = if gone q then none else t.entryAt q) : Stores cfg t' ps' := by
  refine ⟨sorted,fun k present => stores.shaped k (fewer k present),fun q vq => ?_,fun q vq => ?_⟩
  · rw [groups q vq,tree q]
    by_cases dropped : gone q
    · simp [dropped]
    · simp [dropped,stores.groups q vq]
  · rw [values q vq,tree q]
    by_cases dropped : gone q
    · simp [dropped,valueBytes]
    · simp [dropped,stores.values q vq]

variable {db : Pairs} {s : Scope}

/-- Staging a group where the tree gains just that object. -/
theorem Stores.stage_group (stores : Stores cfg t (s.merged db)) (sorted : db.Sorted) {p : List String} (valid : Valid p)
    (gains : ∀ q, t'.entryAt q = if q = p then some .group else t.entryAt q)
    (noValue : ∀ v, t.entryAt p ≠ some (.value v)) (tags : ByteArray) :
    Stores cfg t' ((s.stage (group (ofSegments p)) (some tags)).merged db) := by
  refine ⟨Scope.sorted_merged _ sorted,?_,?_,?_⟩
  · intro k present
    rw [Scope.get?_merged_stage] at present
    split at present
    · exact ⟨p,valid,.inl ‹_›⟩
    · exact stores.shaped k present
  · intro q vq
    simp only [Scope.get?_merged_stage,gains q,group_ofSegments_inj vq valid]
    by_cases here : q = p
    · simp [here]
    · simp [here,stores.groups q vq]
  · intro q vq
    rw [Scope.get?_merged_stage,if_neg (leaf_ne_group _ _),gains q,stores.values q vq]
    by_cases here : q = p
    · subst here
      rw [if_pos rfl]
      cases entry : t.entryAt q with
      | none => rfl
      | some e =>
        cases e with
        | group => rfl
        | value v => exact absurd entry (noValue v)
    · simp [here]

/-- Staging a value where the tree gains just that value. -/
theorem Stores.stage_value (stores : Stores cfg t (s.merged db)) (sorted : db.Sorted) {p : List String} (valid : Valid p)
    {v : Json} (gains : ∀ q, t'.entryAt q = if q = p then some (.value v) else t.entryAt q)
    (noGroup : t.entryAt p ≠ some .group) :
    Stores cfg t' ((s.stage (leaf (ofSegments p)) (some (Leaf.encode cfg v))).merged db) := by
  refine ⟨Scope.sorted_merged _ sorted,?_,?_,?_⟩
  · intro k present
    rw [Scope.get?_merged_stage] at present
    split at present
    · exact ⟨p,valid,.inr ‹_›⟩
    · exact stores.shaped k present
  · intro q vq
    rw [Scope.get?_merged_stage,if_neg (leaf_ne_group _ _).symm,gains q,stores.groups q vq]
    by_cases here : q = p
    · subst here; simp [noGroup]
    · simp [here]
  · intro q vq
    simp only [Scope.get?_merged_stage,gains q,leaf_ofSegments_inj vq valid]
    by_cases here : q = p
    · simp [here,valueBytes]
    · simp [here,stores.values q vq]

end JobFlow.RecordTree

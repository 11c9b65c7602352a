import JobFlow.Proofs.Record.Layout

/-!
The helpers of a write in a scope, each as a change of the tree the scope holds.
-/

namespace JobFlow.Scope

open RecordPath RecordKey Json RecordTree

variable {cfg : StorageConfig} {db : Pairs} {t : Json}

/-! ### Parents -/

/-- The error of a write that meets a value at `q` above its path. -/
def valueInTheWay (q : List String) : JobError := .conflict s!"'{ofSegments q}' holds a value, not a group"

/-- One step of `ensureParents`: the group at the next prefix, made when it is missing. -/
def parentStep (db : Pairs) (acc : String × Scope) (seg : String) : Outcome (String × Scope) := do
  let current := RecordPath.join acc.1 seg
  let view := acc.2.merged db
  if view.contains (RecordKey.leaf current) then
    throw (.conflict s!"'{current}' holds a value, not a group")
  if view.contains (RecordKey.group current) then pure (current, acc.2)
  else pure (current, acc.2.stage (RecordKey.group current) (some (GroupMeta.plain seg).bytes))

theorem ensureParents_eq (db : Pairs) (s : Scope) (path : String) :
    ensureParents db s path = (do
      let (_, s) ← ((parts path).dropLast).foldlM (parentStep db) ("", s)
      pure s) := rfl

/-- The walk down a path from a prefix whose groups are made: it fails at the first value on
the rest of the way, and otherwise makes the groups down to the end. -/
theorem parents_loop (sorted : db.Sorted) (last : String) :
    ∀ (segs pre : List String) (sc : Scope), Valid (pre ++ segs) →
      (∀ q, q <+: pre → ∀ v, t.entryAt q ≠ some (.value v)) →
      Stores cfg (t.makeGroups pre) (sc.merged db) →
      (∀ q, t.valueAbove (pre ++ segs ++ [last]) = some q →
        segs.foldlM (parentStep db) (ofSegments pre, sc) = .error (valueInTheWay q)) ∧
      (t.valueAbove (pre ++ segs ++ [last]) = none →
        ∃ sc', segs.foldlM (parentStep db) (ofSegments pre, sc) = .ok (ofSegments (pre ++ segs), sc') ∧
          Stores cfg (t.makeGroups (pre ++ segs)) (sc'.merged db) ∧ sc'.base = sc.base)
  | [], pre, sc, _, clear, stores => by
    refine ⟨fun q found => ?_,fun _ => ⟨sc,by simp [pure,Except.pure],by simpa using stores,rfl⟩⟩
    obtain ⟨-,qpre,qneq,⟨v,value⟩,-⟩ := valueAbove_eq_some found
    simp only [List.append_nil] at qpre qneq
    rcases List.prefix_concat_iff.1 qpre with same | below
    · exact absurd same qneq
    · exact absurd value (clear q below v)
  | seg :: rest, pre, sc, valid, clear, stores => by
    have vc : Valid (pre ++ [seg]) := valid_of_prefixOf ⟨rest,by simp⟩ valid
    have current : join (ofSegments pre) seg = ofSegments (pre ++ [seg]) :=
      join_ofSegments (valid_of_prefixOf ⟨seg :: rest,rfl⟩ valid) seg
    have longer : ¬ (pre ++ [seg]) <+: pre := fun pre' => by simpa using pre'.length_le
    -- the groups made so far stand above the next prefix, so it reads as in the tree
    have here : (t.makeGroups pre).entryAt (pre ++ [seg]) = t.entryAt (pre ++ [seg]) := by
      rw [entryAt_makeGroups clear,if_neg longer]
    rw [List.foldlM_cons]
    by_cases value : ∃ v, t.entryAt (pre ++ [seg]) = some (.value v)
    · obtain ⟨v,value⟩ := value
      have blocked : (sc.merged db).contains (leaf (ofSegments (pre ++ [seg]))) = true :=
        (stores.contains_leaf vc).2 ⟨v,here ▸ value⟩
      have step : parentStep db (ofSegments pre,sc) seg = .error (valueInTheWay (pre ++ [seg])) := by
        simp only [parentStep,current,blocked,if_true]
        rfl
      have first : t.valueAbove (pre ++ seg :: rest ++ [last]) = some (pre ++ [seg]) := by
        refine valueAbove_eq_some_of_first (by simp) ⟨rest ++ [last],by simp⟩ (by simp) value ?_
        intro q _ pre' neq w
        rcases List.prefix_concat_iff.1 pre' with same | below
        · exact absurd same neq
        · exact clear q below w
      refine ⟨fun q found => ?_,fun none => ?_⟩
      · rw [first] at found
        cases found
        rw [step]
        rfl
      · rw [first] at none
        cases none
    · have noValue : ∀ v, t.entryAt (pre ++ [seg]) ≠ some (.value v) := fun v eq => value ⟨v,eq⟩
      have clear' : ∀ q, q <+: pre ++ [seg] → ∀ v, t.entryAt q ≠ some (.value v) := by
        intro q pre' v
        rcases List.prefix_concat_iff.1 pre' with rfl | below
        · exact noValue v
        · exact clear q below v
      have open' : (sc.merged db).contains (leaf (ofSegments (pre ++ [seg]))) = false := by
        by_contra blocked
        obtain ⟨v,value⟩ := (stores.contains_leaf vc).1 (by simpa using blocked)
        exact noValue v (here ▸ value)
      have grows : ∀ q, (t.makeGroups (pre ++ [seg])).entryAt q =
          if q = pre ++ [seg] then some .group else (t.makeGroups pre).entryAt q := by
        intro q
        simp only [entryAt_makeGroups clear',entryAt_makeGroups clear,List.prefix_concat_iff]
        by_cases same : q = pre ++ [seg] <;> simp [same]
      -- the next group is made, or kept when it is there
      obtain ⟨sc₁,step,stores₁,base₁⟩ : ∃ sc₁, parentStep db (ofSegments pre,sc) seg = .ok (ofSegments (pre ++ [seg]),sc₁) ∧
          Stores cfg (t.makeGroups (pre ++ [seg])) (sc₁.merged db) ∧ sc₁.base = sc.base := by
        by_cases there : (sc.merged db).contains (group (ofSegments (pre ++ [seg]))) = true
        · refine ⟨sc,by simp [parentStep,current,open',there]; rfl,stores.congr fun q => ?_,rfl⟩
          rw [grows q]
          by_cases same : q = pre ++ [seg]
          · subst same
            rw [if_pos rfl,← (stores.contains_group vc).1 there]
          · rw [if_neg same]
        · refine ⟨_,by simp [parentStep,current,open',there]; rfl,
            stores.stage_group sorted vc grows (here ▸ noValue) _,rfl⟩
      have ih := parents_loop sorted last rest (pre ++ [seg]) sc₁ (by simpa using valid) clear' stores₁
      rw [step]
      simp only [List.append_assoc,List.singleton_append,base₁] at ih ⊢
      exact ih

/-- Making the parents of a path below the root: the first value above it is a conflict, and
otherwise every prefix above it becomes a group. -/
theorem ensureParents_spec {s : Scope} (sorted : db.Sorted) (stores : Stores cfg t (s.merged db))
    (root : t.entryAt [] = some .group) {p : List String} (valid : Valid p) (ne : p ≠ []) :
    (∀ q, t.valueAbove p = some q → ensureParents db s (ofSegments p) = .error (valueInTheWay q)) ∧
    (t.valueAbove p = none →
      ∃ s', ensureParents db s (ofSegments p) = .ok s' ∧ Stores cfg (t.makeGroups p.dropLast) (s'.merged db) ∧
        s'.base = s.base) := by
  have split : p.dropLast ++ [p.getLast ne] = p := List.dropLast_append_getLast ne
  have clear : ∀ q, q <+: [] → ∀ v, t.entryAt q ≠ some (.value v) := by
    intro q pre v
    rw [List.prefix_nil.1 pre,root]
    simp
  have loop := parents_loop sorted (p.getLast ne) p.dropLast [] s
    (by simpa using valid_of_prefixOf (List.dropLast_prefix p) valid) clear stores
  simp only [List.nil_append,split] at loop
  rw [ensureParents_eq,parts_ofSegments valid ne]
  refine ⟨fun q found => ?_,fun none => ?_⟩
  · have failed := loop.1 q found
    simp only [ofSegments_nil] at failed
    rw [failed]
    rfl
  · obtain ⟨s',run,stores',base'⟩ := loop.2 none
    simp only [ofSegments_nil] at run
    exact ⟨s',by rw [run]; rfl,stores',base'⟩

/-! ### Removing -/

theorem get?_merged_dropKeys (keys : List String) (s : Scope) (k : String) :
    ((keys.foldl (fun s key => if key.length > 1 then s.stage key none else s) s).merged db).get? k =
      if k ∈ keys ∧ 1 < k.length then none else (s.merged db).get? k := by
  induction keys generalizing s with
  | nil => simp
  | cons key rest ih =>
    rw [List.foldl_cons,ih]
    by_cases long : 1 < key.length
    · by_cases same : k = key
      · subst same; simp [long]
      · simp [long,same]
    · by_cases same : k = key
      · subst same; simp [long]
      · simp [long,same]

theorem base_dropKeys (keys : List String) (s : Scope) :
    (keys.foldl (fun s key => if key.length > 1 then s.stage key none else s) s).base = s.base := by
  induction keys generalizing s with
  | nil => rfl
  | cons key rest ih =>
    rw [List.foldl_cons,ih]
    split <;> rfl

@[simp] theorem base_clearChildren (s : Scope) (path : String) : (clearChildren db s path).base = s.base := by
  simp [clearChildren,base_dropKeys]

@[simp] theorem base_removeSubtree (s : Scope) (path : String) : (removeSubtree db s path).base = s.base := by
  simp only [removeSubtree,base_clearChildren,List.foldl_cons,List.foldl_nil]
  split <;> split <;> rfl

/-- Clearing below a path drops every key longer than a kind letter that starts with a child
prefix of the path. -/
theorem get?_merged_clearChildren (s : Scope) (path k : String) :
    ((clearChildren db s path).merged db).get? k =
      if ((childPrefix "v" path).toList <+: k.toList ∨ (childPrefix "g" path).toList <+: k.toList) ∧ 1 < k.length
      then none else (s.merged db).get? k := by
  simp only [clearChildren,List.foldl_cons,List.foldl_nil,get?_merged_dropKeys,Pairs.mem_keysWith]
  cases (s.merged db).get? k <;> by_cases v : (childPrefix "v" path).toList <+: k.toList <;>
    by_cases g : (childPrefix "g" path).toList <+: k.toList <;> simp [v,g]

theorem get?_merged_stage_present (s : Scope) (key k : String) :
    ((if (s.merged db).contains key then s.stage key none else s).merged db).get? k =
      if k = key then none else (s.merged db).get? k := by
  by_cases present : (s.merged db).contains key = true
  · simp [present]
  · simp only [present,Bool.false_eq_true,if_false]
    by_cases same : k = key
    · subst same
      simpa [Pairs.contains] using present
    · simp [same]

/-- Removing a subtree drops the keys of the path and every key below it. -/
theorem get?_merged_removeSubtree (s : Scope) (path k : String) :
    ((removeSubtree db s path).merged db).get? k =
      if k = leaf path ∨ k = group path ∨
          ((childPrefix "v" path).toList <+: k.toList ∨ (childPrefix "g" path).toList <+: k.toList) ∧ 1 < k.length
      then none else (s.merged db).get? k := by
  simp only [removeSubtree,get?_merged_clearChildren,List.foldl_cons,List.foldl_nil,get?_merged_stage_present]
  by_cases below : ((childPrefix "v" path).toList <+: k.toList ∨ (childPrefix "g" path).toList <+: k.toList) ∧ 1 < k.length
  · simp [below]
  · by_cases isLeaf : k = leaf path
    · simp [isLeaf]
    · by_cases isGroup : k = group path
      · simp [isGroup]
      · simp [below,isLeaf,isGroup]

theorem toList_childPrefix (kind x : String) : ∃ rest, (childPrefix kind x).toList = kind.toList ++ rest := by
  unfold childPrefix
  split
  · exact ⟨[],by simp⟩
  · exact ⟨x.toList ++ ['/'],by simp⟩

theorem not_prefix_leaf_group (x y : String) : ¬ (childPrefix "v" x).toList <+: (group y).toList := by
  obtain ⟨rest,eq⟩ := toList_childPrefix "v" x
  rw [eq,toList_group]
  simp [List.cons_prefix_cons]

theorem not_prefix_group_leaf (x y : String) : ¬ (childPrefix "g" x).toList <+: (leaf y).toList := by
  obtain ⟨rest,eq⟩ := toList_childPrefix "g" x
  rw [eq,toList_leaf]
  simp [List.cons_prefix_cons]

theorem one_lt_length_key {kind : String} (single : kind.length = 1) {q : List String} (valid : Valid q) :
    1 < (kind ++ ofSegments q).length ↔ q ≠ [] := by
  rw [String.length_append,single]
  constructor
  · rintro long rfl
    simp [ofSegments_nil] at long
  · intro ne
    have nonEmpty : ofSegments q ≠ "" := (ofSegments_eq_empty_iff valid).not.2 ne
    have pos : (ofSegments q).length ≠ 0 := fun zero => nonEmpty (String.length_eq_zero_iff.1 zero)
    omega

/-- The keys of a path that a removal below the root drops are those at or below it. -/
theorem removed_iff {kind : String} (single : kind.length = 1) {p q : List String} (vp : Valid p) (vq : Valid q)
    (ne : p ≠ []) :
    (kind ++ ofSegments q = kind ++ ofSegments p ∨
        (childPrefix kind (ofSegments p)).toList <+: (kind ++ ofSegments q).toList ∧ 1 < (kind ++ ofSegments q).length) ↔
      p <+: q := by
  rw [prefix_childPrefix_iff vp vq ne,one_lt_length_key single vq,String.append_right_inj]
  constructor
  · rintro (same | ⟨⟨r,-,rfl⟩,-⟩)
    · obtain rfl := ofSegments_injective vq vp same
      exact List.prefix_refl q
    · exact List.prefix_append p r
  · rintro ⟨r,rfl⟩
    by_cases nil : r = []
    · subst nil; simp
    · exact .inr ⟨⟨r,nil,rfl⟩,by simp [ne]⟩

end JobFlow.Scope

namespace JobFlow.RecordTree

open RecordPath RecordKey Json Scope

variable {cfg : StorageConfig} {db : Pairs} {t : Json}

/-- Removing a subtree below the root leaves the tree without that entry. -/
theorem Stores.removeSubtree {s : Scope} (stores : Stores cfg t (s.merged db)) (sorted : db.Sorted) {p : List String}
    (valid : Valid p) (ne : p ≠ []) :
    Stores cfg (t.removeAt p) ((removeSubtree db s (ofSegments p)).merged db) := by
  classical
  refine stores.drop (sorted_merged _ sorted) (fun q => p <+: q) (fun q vq => ?_) (fun q vq => ?_) ?_
    (entryAt_removeAt ne t)
  · have removed : (group (ofSegments q) = group (ofSegments p) ∨
        (childPrefix "g" (ofSegments p)).toList <+: (group (ofSegments q)).toList ∧ 1 < (group (ofSegments q)).length) ↔
        p <+: q := removed_iff rfl valid vq ne
    rw [get?_merged_removeSubtree]
    by_cases below : p <+: q
    · simp only [below,if_true]
      rcases removed.2 below with same | ⟨g,long⟩
      · rw [if_pos (.inr (.inl same))]
      · rw [if_pos (.inr (.inr ⟨.inr g,long⟩))]
    · simp only [below,if_false]
      rw [if_neg]
      rintro (isLeaf | same | ⟨(v | g),long⟩)
      · exact leaf_ne_group _ _ isLeaf.symm
      · exact below (removed.1 (.inl same))
      · exact not_prefix_leaf_group _ _ v
      · exact below (removed.1 (.inr ⟨g,long⟩))
  · have removed : (leaf (ofSegments q) = leaf (ofSegments p) ∨
        (childPrefix "v" (ofSegments p)).toList <+: (leaf (ofSegments q)).toList ∧ 1 < (leaf (ofSegments q)).length) ↔
        p <+: q := removed_iff rfl valid vq ne
    rw [get?_merged_removeSubtree]
    by_cases below : p <+: q
    · simp only [below,if_true]
      rcases removed.2 below with same | ⟨v,long⟩
      · rw [if_pos (.inl same)]
      · rw [if_pos (.inr (.inr ⟨.inl v,long⟩))]
    · simp only [below,if_false]
      rw [if_neg]
      rintro (same | isGroup | ⟨(v | g),long⟩)
      · exact below (removed.1 (.inl same))
      · exact leaf_ne_group _ _ isGroup
      · exact below (removed.1 (.inr ⟨v,long⟩))
      · exact not_prefix_group_leaf _ _ g
  · intro k present
    rw [get?_merged_removeSubtree] at present
    split at present
    · simp at present
    · exact present

/-- Clearing the root leaves the empty object. -/
theorem Stores.clearRoot {s : Scope} (stores : Stores cfg t (s.merged db)) (sorted : db.Sorted)
    (root : t.entryAt [] = some .group) :
    Stores cfg (.obj []) ((clearChildren db s "").merged db) := by
  classical
  refine stores.drop (sorted_merged _ sorted) (fun q => q ≠ []) (fun q vq => ?_) (fun q vq => ?_) ?_ (fun q => ?_)
  · rw [get?_merged_clearChildren,childPrefix_root,childPrefix_root]
    by_cases nil : q = []
    · subst nil
      have short : ¬ 1 < (group (ofSegments [])).length := fun long => (one_lt_length_key rfl vq).1 long rfl
      simp [short]
    · have long : 1 < (group (ofSegments q)).length := (one_lt_length_key rfl vq).2 nil
      have kind : ['g'] <+: (group (ofSegments q)).toList := by simp [toList_group]
      simp [nil,long,kind]
  · rw [get?_merged_clearChildren,childPrefix_root,childPrefix_root]
    by_cases nil : q = []
    · subst nil
      have short : ¬ 1 < (leaf (ofSegments [])).length := fun long => (one_lt_length_key rfl vq).1 long rfl
      simp [short]
    · have long : 1 < (leaf (ofSegments q)).length := (one_lt_length_key rfl vq).2 nil
      have kind : ['v'] <+: (leaf (ofSegments q)).toList := by simp [toList_leaf]
      simp [nil,long,kind]
  · intro k present
    rw [get?_merged_clearChildren] at present
    split at present
    · simp at present
    · exact present
  · cases q with
    | nil =>
      rw [if_neg (by simp),root]
      rfl
    | cons s r => simp [entryAt_obj_nil_cons]

end JobFlow.RecordTree

namespace JobFlow.Scope

open RecordPath RecordKey Json RecordTree

variable {cfg : StorageConfig} {db : Pairs} {t : Json}

/-! ### Putting a value -/

theorem put_obj (cfg : StorageConfig) (path : String) (fs : List (String × Json)) (s : Scope) :
    ∃ tags, put cfg path (.obj fs) s = putFields cfg path fs (s.stage (group path) (some tags)) := by
  simp only [put]
  exact ⟨_,rfl⟩

theorem put_of_not_obj (cfg : StorageConfig) (path : String) {v : Json} (notObj : ∀ fs, v ≠ .obj fs) (s : Scope) :
    put cfg path v s = .ok (s.stage (leaf path) (some (Leaf.encode cfg v))) := by
  cases v with
  | obj fs => exact absurd rfl (notObj fs)
  | _ => rfl

theorem putFields_cons (cfg : StorageConfig) (path k : String) (v : Json) (rest : List (String × Json)) (s : Scope) :
    putFields cfg path ((k,v) :: rest) s = (do
      validateSegment k
      let s ← put cfg (join path k) v s
      putFields cfg path rest s) := by
  simp only [putFields]

theorem firstBadName_of_not_obj {v : Json} (notObj : ∀ fs, v ≠ .obj fs) : v.firstBadName = none := by
  cases v with
  | obj fs => exact absurd rfl (notObj fs)
  | _ => rfl

/-- Putting a value that is not an object stages its value key. -/
theorem put_value_spec {s : Scope} (sorted : db.Sorted) {v : Json} (notObj : ∀ fs, v ≠ .obj fs) {p : List String}
    (valid : Valid p) (stores : Stores cfg t (s.merged db)) (free : t.at? p = none)
    (parent : ∃ fs, t.at? p.dropLast = some (.obj fs)) :
    ∃ s', put cfg (ofSegments p) v s = .ok s' ∧ Stores cfg (t.setAt p v) (s'.merged db) ∧ s'.base = s.base := by
  refine ⟨_,put_of_not_obj cfg _ notObj s,stores.stage_value sorted valid (fun q => ?_) (by simp [entryAt,free]),rfl⟩
  rw [entryAt_setAt_single free parent (fun x xs => entryAt_cons_of_not_obj notObj x xs),entry_of_not_obj notObj]

mutual
/-- Putting a value where the tree has nothing and the parent is an object: the tree gains the
value, unless a member name is not a segment, and then the first such name is the error. -/
theorem put_spec (sorted : db.Sorted) : ∀ (v : Json) (p : List String) (t : Json) (s : Scope),
    Valid p → v.Sorted → Stores cfg t (s.merged db) → t.at? p = none → (∃ fs, t.at? p.dropLast = some (.obj fs)) →
      (∀ k, v.firstBadName = some k → put cfg (ofSegments p) v s = .error (segmentError k)) ∧
      (v.firstBadName = none →
        ∃ s', put cfg (ofSegments p) v s = .ok s' ∧ Stores cfg (t.setAt p v) (s'.merged db) ∧ s'.base = s.base)
  | .obj fs, p, t, s, valid, vSorted, stores, free, parent => by
    obtain ⟨tags,run⟩ := put_obj cfg (ofSegments p) fs s
    have gains : ∀ q, (t.setAt p (.obj [])).entryAt q = if q = p then some .group else t.entryAt q :=
      entryAt_setAt_single free parent entryAt_obj_nil_cons
    have staged := stores.stage_group sorted valid gains (by simp [entryAt,free]) tags
    have fields := putFields_spec sorted fs [] p t _ valid (by simpa using vSorted [] fs rfl)
      (fun kv mem => vSorted.member mem) staged
    rw [run]
    simpa [firstBadName] using fields
  | .null, p, t, s, valid, _, stores, free, parent =>
    ⟨fun _ bad => (by cases bad),fun _ => put_value_spec sorted (by simp) valid stores free parent⟩
  | .bool b, p, t, s, valid, _, stores, free, parent =>
    ⟨fun _ bad => (by cases bad),fun _ => put_value_spec sorted (by simp) valid stores free parent⟩
  | .num n, p, t, s, valid, _, stores, free, parent =>
    ⟨fun _ bad => (by cases bad),fun _ => put_value_spec sorted (by simp) valid stores free parent⟩
  | .str x, p, t, s, valid, _, stores, free, parent =>
    ⟨fun _ bad => (by cases bad),fun _ => put_value_spec sorted (by simp) valid stores free parent⟩
  | .arr xs, p, t, s, valid, _, stores, free, parent =>
    ⟨fun _ bad => (by cases bad),fun _ => put_value_spec sorted (by simp) valid stores free parent⟩

/-- Putting members after those already put under a path: the object there gains them in
order, unless a name is not a segment. -/
theorem putFields_spec (sorted : db.Sorted) : ∀ (fs acc : List (String × Json)) (p : List String) (t : Json) (s : Scope),
    Valid p → (acc ++ fs).Pairwise (fun a b => a.1 < b.1) → (∀ kv ∈ fs, kv.2.Sorted) →
    Stores cfg (t.setAt p (.obj acc)) (s.merged db) →
      (∀ k, firstBadField fs = some k → putFields cfg (ofSegments p) fs s = .error (segmentError k)) ∧
      (firstBadField fs = none →
        ∃ s', putFields cfg (ofSegments p) fs s = .ok s' ∧ Stores cfg (t.setAt p (.obj (acc ++ fs))) (s'.merged db) ∧
          s'.base = s.base)
  | [], acc, p, t, s, _, _, _, stores =>
    ⟨fun _ bad => (by cases bad),fun _ => ⟨s,by simp only [putFields]; rfl,by simpa using stores,rfl⟩⟩
  | (k,w) :: rest, acc, p, t, s, valid, pairwise, members, stores => by
    by_cases seg : Segment k
    · have vk : Valid (p ++ [k]) := valid_append.2 ⟨valid,valid_cons.2 ⟨seg,valid_nil⟩⟩
      have fresh : ∀ kv ∈ acc, kv.1 < k := fun kv mem => (List.pairwise_append.1 pairwise).2.2 kv mem (k,w) (by simp)
      -- the member goes below the object built so far, where nothing has its name yet
      have missing : (t.setAt p (.obj acc)).at? (p ++ [k]) = none := by
        rw [at?_setAt_append]
        have absent : acc.lookup k = none := by
          rw [List.lookup_eq_none_iff]
          intro kv mem
          simpa using (ne_of_lt (fresh kv mem)).symm
        simp [at?_cons,field?,absent]
      have parent : ∃ fs, (t.setAt p (.obj acc)).at? (p ++ [k]).dropLast = some (.obj fs) :=
        ⟨acc,by simp⟩
      have one := put_spec sorted w (p ++ [k]) (t.setAt p (.obj acc)) s vk (members (k,w) (by simp)) stores
        missing parent
      have grown : (t.setAt p (.obj acc)).setAt (p ++ [k]) w = t.setAt p (.obj (acc ++ [(k,w)])) := by
        rw [setAt_setAt_append]
        show t.setAt p (.obj (insertField k w acc)) = _
        rw [insertField_of_lt fresh]
      rw [grown] at one
      rw [putFields_cons,validateSegment_of_segment seg,join_ofSegments valid]
      cases bad : w.firstBadName with
      | some b =>
        refine ⟨fun k' found => ?_,fun none => ?_⟩
        · simp only [firstBadField,seg,if_true,bad,Option.some_or] at found
          cases found
          simp [bind,Except.bind,one.1 b bad]
        · simp [firstBadField,seg,bad] at none
      | none =>
        obtain ⟨s₁,run,stores₁,base₁⟩ := one.2 bad
        have others := putFields_spec sorted rest (acc ++ [(k,w)]) p t s₁ valid (by simpa using pairwise)
          (fun kv mem => members kv (by simp [mem])) stores₁
        simp only [firstBadField,seg,if_true,bad,Option.none_or]
        simp only [bind,Except.bind,run]
        simpa [base₁] using others
    · rw [putFields_cons,validateSegment_of_not_segment seg]
      refine ⟨fun k' found => ?_,fun none => ?_⟩
      · simp only [firstBadField,seg,if_false] at found
        cases found
        rfl
      · simp [firstBadField,seg] at none
end

end JobFlow.Scope

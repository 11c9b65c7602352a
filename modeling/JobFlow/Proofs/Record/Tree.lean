import JobFlow.Proofs.Record.Pairs

/-!
The tree a record stands for: a JSON object whose objects are the record's groups and whose
other values are its stored values.
-/

namespace JobFlow.Json

open RecordPath

/-- What a tree holds at a path, as the flat store sees it: an object, or another value. -/
inductive Entry where
  | group
  | value (v : Json)
  deriving Inhabited

/-- Whether an entry is a group. -/
def Entry.isGroup : Entry → Bool
  | .group => true
  | .value _ => false

/-- The entry a value stands for. -/
def entry : Json → Entry
  | .obj _ => .group
  | v => .value v

/-- The subtree at a path: the tree itself at the root, then member after member. -/
def at? : Json → List String → Option Json
  | t, [] => some t
  | t, s :: rest => (t.field? s).bind (fun c => at? c rest)

/-- The entry at a path. -/
def entryAt (t : Json) (q : List String) : Option Entry := (t.at? q).map entry

/-- The tree with `v` at a path; the objects on the way are kept and missing ones made empty. -/
def setAt : Json → List String → Json → Json
  | _, [], v => v
  | t, s :: rest, v => t.set s (setAt ((t.field? s).getD (.obj [])) rest v)

/-- The tree without the entry at a path and what is below it; removing the root leaves the
empty object. -/
def removeAt : Json → List String → Json
  | _, [] => .obj []
  | t, [s] => t.erase s
  | t, s :: rest =>
    match t.field? s with
    | some c => t.set s (removeAt c rest)
    | none => t

/-- The tree with an empty object made at every prefix of a path that has no entry. -/
def makeGroups : Json → List String → Json
  | t, [] => t
  | t, s :: rest => t.set s (makeGroups ((t.field? s).getD (.obj [])) rest)

/-- The first proper prefix of a path, below the root, at which the tree holds a value. -/
def valueAbove : Json → List String → Option (List String)
  | _, [] => none
  | _, [_] => none
  | t, s :: rest =>
    match t.field? s with
    | some (.obj fs) => (valueAbove (.obj fs) rest).map (s :: ·)
    | some _ => some [s]
    | none => none

instance : DecidablePred Segment := fun s => inferInstanceAs (Decidable (s ≠ "" ∧ s ≠ "." ∧ s ≠ ".." ∧ '/' ∉ s.toList))

mutual
/-- The first member name, depth first in member order, that is not a segment. -/
def firstBadName : Json → Option String
  | .obj fs => firstBadField fs
  | _ => none
/-- The first name among members and their values that is not a segment. -/
def firstBadField : List (String × Json) → Option String
  | [] => none
  | (k, v) :: rest => if Segment k then (firstBadName v).or (firstBadField rest) else some k
end

/-- Every object of the tree lists its members by strictly increasing name. -/
def Sorted (t : Json) : Prop := ∀ q fs, t.at? q = some (.obj fs) → fs.Pairwise (fun a b => a.1 < b.1)

/-- Every path to an entry of the tree is made of segments. -/
def Named (t : Json) : Prop := ∀ q j, t.at? q = some j → Valid q

/-! ### Members -/

theorem field?_eq_lookup (t : Json) (k : String) : t.field? k = t.fields.lookup k := by
  cases t <;> rfl

theorem lookup_insertField (k : String) (v : Json) (fs : List (String × Json)) (k' : String) :
    (insertField k v fs).lookup k' = if k' = k then some v else fs.lookup k' := by
  rw [insertField_eq_insertSorted]
  exact lookup_insertSorted fs k'

@[simp] theorem field?_set (t : Json) (k : String) (v : Json) (k' : String) :
    (t.set k v).field? k' = if k' = k then some v else t.field? k' := by
  simp [set,field?_eq_lookup,fields,lookup_insertField]

@[simp] theorem field?_erase (t : Json) (k k' : String) :
    (t.erase k).field? k' = if k' = k then none else t.field? k' := by
  cases t with
  | obj fs =>
    simp only [erase,field?]
    induction fs with
    | nil => simp
    | cons kv rest ih =>
      obtain ⟨j,w⟩ := kv
      by_cases drop : j = k
      · subst drop
        simp only [List.filter_cons,bne_self_eq_false,Bool.false_eq_true,if_false,ih,lookup_cons_ite]
        by_cases same : k' = j <;> simp [same]
      · have keep : (j != k) = true := by simpa using drop
        simp only [List.filter_cons,keep,if_true,lookup_cons_ite,ih]
        by_cases same : k' = j
        · subst same; simp [drop]
        · simp [same]
  | _ => simp [erase,field?]

theorem lookup_of_mem {fs : List (String × Json)} (sorted : fs.Pairwise (fun a b => a.1 < b.1)) {k : String} {w : Json}
    (mem : (k,w) ∈ fs) : fs.lookup k = some w := by
  induction fs with
  | nil => cases mem
  | cons kv rest ih =>
    obtain ⟨j,u⟩ := kv
    have above : ∀ x ∈ rest, j < x.1 := (List.pairwise_cons.1 sorted).1
    simp only [List.mem_cons,Prod.mk.injEq] at mem
    rcases mem with ⟨rfl,rfl⟩ | there
    · simp
    · have ne : k ≠ j := ne_of_gt (above _ there)
      rw [lookup_cons_ite,if_neg ne]
      exact ih (List.pairwise_cons.1 sorted).2 there

theorem mem_of_lookup {fs : List (String × Json)} {k : String} {w : Json} (found : fs.lookup k = some w) : (k,w) ∈ fs := by
  obtain ⟨l₁,l₂,rfl,-⟩ := List.lookup_eq_some_iff.1 found
  simp

theorem insertField_of_lookup {fs : List (String × Json)} (sorted : fs.Pairwise (fun a b => a.1 < b.1)) {k : String}
    {w : Json} (found : fs.lookup k = some w) : insertField k w fs = fs := by
  induction fs with
  | nil => cases found
  | cons kv rest ih =>
    obtain ⟨j,u⟩ := kv
    rw [lookup_cons_ite] at found
    by_cases same : k = j
    · subst same
      simp only [if_true,Option.some.injEq] at found
      subst found
      simp [insertField]
    · simp only [same,if_false] at found
      have above : j < k := (List.pairwise_cons.1 sorted).1 (k,w) (mem_of_lookup found)
      simp only [insertField,not_lt.2 above.le,same,if_false,ih (List.pairwise_cons.1 sorted).2 found]

theorem insertField_of_lt {k : String} {fs : List (String × Json)} (above : ∀ kv ∈ fs, kv.1 < k) (v : Json) :
    insertField k v fs = fs ++ [(k,v)] := by
  induction fs with
  | nil => rfl
  | cons kv rest ih =>
    obtain ⟨j,w⟩ := kv
    have lt : j < k := above (j,w) (by simp)
    have notLt : ¬ k < j := fun gt => absurd (lt_trans lt gt) (lt_irrefl j)
    have ne : k ≠ j := fun eq => absurd (eq ▸ lt) (lt_irrefl j)
    simp [insertField,notLt,ne,ih (fun kv mem => above kv (by simp [mem]))]

theorem insertField_insertField (k : String) (a b : Json) (fs : List (String × Json)) :
    insertField k b (insertField k a fs) = insertField k b fs := by
  induction fs with
  | nil => simp [insertField]
  | cons kv rest ih =>
    obtain ⟨j,w⟩ := kv
    by_cases lt : k < j
    · simp [insertField,lt]
    · by_cases eq : k = j
      · subst eq; simp [insertField]
      · simp [insertField,lt,eq,ih]

theorem set_set (t : Json) (k : String) (a b : Json) : (t.set k a).set k b = t.set k b := by
  show Json.obj (insertField k b (insertField k a t.fields)) = .obj (insertField k b t.fields)
  rw [insertField_insertField]

theorem insertField_comm {k k' : String} (ne : k ≠ k') (a b : Json) (fs : List (String × Json)) :
    insertField k a (insertField k' b fs) = insertField k' b (insertField k a fs) := by
  induction fs with
  | nil => grind [insertField]
  | cons kv rest ih =>
    obtain ⟨j,w⟩ := kv
    grind [insertField]

theorem set_comm {k k' : String} (ne : k ≠ k') (t a b : Json) : (t.set k a).set k' b = (t.set k' b).set k a := by
  show Json.obj (insertField k' b (insertField k a t.fields)) = .obj (insertField k a (insertField k' b t.fields))
  rw [insertField_comm (Ne.symm ne)]

/-! ### Paths -/

@[simp] theorem at?_nil (t : Json) : t.at? [] = some t := rfl

theorem at?_cons (t : Json) (s : String) (rest : List String) :
    t.at? (s :: rest) = (t.field? s).bind (fun c => c.at? rest) := rfl

theorem at?_append (t : Json) (p q : List String) : t.at? (p ++ q) = (t.at? p).bind (fun c => c.at? q) := by
  induction p generalizing t with
  | nil => rfl
  | cons s rest ih =>
    simp only [List.cons_append,at?_cons,ih]
    cases t.field? s <;> rfl

theorem at?_setAt_append (t : Json) (p r : List String) (v : Json) : (t.setAt p v).at? (p ++ r) = v.at? r := by
  induction p generalizing t with
  | nil => rfl
  | cons s rest ih => simp [setAt,at?_cons,ih]

@[simp] theorem at?_setAt_self (t : Json) (p : List String) (v : Json) : (t.setAt p v).at? p = some v := by
  simpa using at?_setAt_append t p [] v

theorem Sorted.member {fs : List (String × Json)} (sorted : (Json.obj fs).Sorted) {k : String} {w : Json}
    (mem : (k,w) ∈ fs) : w.Sorted := by
  intro q gs found
  have member : (Json.obj fs).field? k = some w := lookup_of_mem (sorted [] fs rfl) mem
  exact sorted (k :: q) gs (by simp [at?_cons,member,found])

theorem field?_of_not_obj {t : Json} (notObj : ∀ fs, t ≠ .obj fs) (k : String) : t.field? k = none := by
  cases t with
  | obj fs => exact absurd rfl (notObj fs)
  | _ => rfl

theorem at?_above_obj {t : Json} {p q : List String} {j : Json} (found : t.at? (p ++ q) = some j) (below : q ≠ []) :
    ∃ fs, t.at? p = some (.obj fs) := by
  rw [at?_append] at found
  cases above : t.at? p with
  | none => simp [above] at found
  | some c =>
    rw [above] at found
    obtain ⟨s,rest,rfl⟩ := List.exists_cons_of_ne_nil below
    cases c with
    | obj fs => exact ⟨fs,rfl⟩
    | _ => simp [at?_cons,field?] at found

theorem at?_below_none {t : Json} {p : List String} (missing : t.at? p = none) (q : List String) :
    t.at? (p ++ q) = none := by
  simp [at?_append,missing]

theorem entryAt_below {t j : Json} {p : List String} (found : t.at? p = some j) (q : List String) :
    j.entryAt q = t.entryAt (p ++ q) := by
  simp [entryAt,at?_append,found]

@[simp] theorem entryAt_nil (t : Json) : t.entryAt [] = some t.entry := rfl

theorem entryAt_cons (t : Json) (s : String) (rest : List String) :
    t.entryAt (s :: rest) = (t.field? s).bind (fun c => c.entryAt rest) := by
  simp only [entryAt,at?_cons]
  cases t.field? s <;> rfl

theorem entryAt_cons_of_not_obj {t : Json} (notObj : ∀ fs, t ≠ .obj fs) (s : String) (rest : List String) :
    t.entryAt (s :: rest) = none := by
  simp [entryAt_cons,field?_of_not_obj notObj]

theorem entryAt_obj_nil_cons (s : String) (rest : List String) : (Json.obj []).entryAt (s :: rest) = none := rfl

theorem entryAt_getD_obj {r : List String} (ne : r ≠ []) (o : Option Json) :
    (o.getD (.obj [])).entryAt r = o.bind (fun c => c.entryAt r) := by
  obtain ⟨x,xs,rfl⟩ := List.exists_cons_of_ne_nil ne
  cases o <;> rfl

theorem ne_nil_of_not_prefixOf {r p : List String} (notPre : ¬ r <+: p) : r ≠ [] := by
  rintro rfl
  exact notPre List.nil_prefix

/-! ### Setting -/

/-- Setting a value: below the path the tree is the value, above it objects, elsewhere as it was. -/
theorem entryAt_setAt (t : Json) (p : List String) (v : Json) (q : List String) :
    (t.setAt p v).entryAt q =
      if p <+: q then v.entryAt (q.drop p.length) else if q <+: p then some .group else t.entryAt q := by
  induction p generalizing t q with
  | nil => simp [setAt]
  | cons s rest ih =>
    cases q with
    | nil => simp [setAt,set,entry]
    | cons s' r =>
      simp only [setAt,entryAt_cons,field?_set,List.cons_prefix_cons,List.length_cons,List.drop_succ_cons]
      by_cases same : s' = s
      · subst same
        simp only [if_true,Option.bind_some,true_and,ih]
        by_cases below : rest <+: r
        · simp [below]
        · by_cases above : r <+: rest
          · simp [below,above]
          · simp [below,above,entryAt_getD_obj (ne_nil_of_not_prefixOf above)]
      · simp [same,Ne.symm same]

theorem prefix_dropLast_of_ne {q p : List String} (pre : q <+: p) (ne : q ≠ p) : q <+: p.dropLast := by
  obtain ⟨r,rfl⟩ := pre
  have rne : r ≠ [] := by
    rintro rfl
    exact ne (by simp)
  rw [List.dropLast_append_of_ne_nil rne]
  exact List.prefix_append q _

/-- Setting a value below an object changes nothing strictly above it. -/
theorem entryAt_setAt_of_parent {t : Json} {p : List String}
    (parent : p = [] ∨ ∃ fs, t.at? p.dropLast = some (.obj fs)) (v : Json) (q : List String) :
    (t.setAt p v).entryAt q = if p <+: q then v.entryAt (q.drop p.length) else t.entryAt q := by
  rw [entryAt_setAt]
  split
  · rfl
  · rename_i notBelow
    split
    · rename_i above
      rcases parent with nil | ⟨fs,parent⟩
      · exact absurd (nil ▸ List.nil_prefix) notBelow
      · -- a strict prefix of `p` is a prefix of its parent, which is an object
        have strict : q <+: p.dropLast :=
          prefix_dropLast_of_ne above (fun same => notBelow (same ▸ List.prefix_refl q))
        obtain ⟨r,parentPath⟩ := strict
        rw [← parentPath] at parent
        by_cases nil : r = []
        · subst nil
          simp_all [entryAt,entry]
        · obtain ⟨gs,found⟩ := at?_above_obj parent nil
          simp [entryAt,found,entry]
    · rfl

theorem entry_of_not_obj {v : Json} (notObj : ∀ fs, v ≠ .obj fs) : v.entry = .value v := by
  cases v with
  | obj fs => exact absurd rfl (notObj fs)
  | _ => rfl

/-- Setting, where there is nothing and the parent is an object, a value with nothing below
its root: the tree gains just that entry. -/
theorem entryAt_setAt_single {t : Json} {p : List String} (free : t.at? p = none)
    (parent : ∃ fs, t.at? p.dropLast = some (.obj fs)) {v : Json} (flat : ∀ x xs, v.entryAt (x :: xs) = none)
    (q : List String) :
    (t.setAt p v).entryAt q = if q = p then some v.entry else t.entryAt q := by
  rw [entryAt_setAt_of_parent (.inr parent)]
  by_cases below : p <+: q
  · obtain ⟨r,rfl⟩ := below
    rw [if_pos (List.prefix_append p r),List.drop_left]
    cases r with
    | nil => simp
    | cons x xs =>
      have missing : t.entryAt (p ++ x :: xs) = none := by simp [entryAt,at?_below_none free]
      simp [flat,missing]
  · have other : q ≠ p := fun same => below (same ▸ List.prefix_refl p)
    rw [if_neg below,if_neg other]

theorem setAt_setAt_append (t : Json) (p r : List String) (u w : Json) :
    (t.setAt p u).setAt (p ++ r) w = t.setAt p (u.setAt r w) := by
  induction p generalizing t with
  | nil => rfl
  | cons s rest ih =>
    simp only [setAt,List.cons_append,field?_set,if_true,Option.getD_some,set_set,ih]

theorem setAt_setAt_self (t : Json) (p : List String) (u w : Json) : (t.setAt p u).setAt p w = t.setAt p w := by
  simpa [setAt] using setAt_setAt_append t p [] u w

theorem setAt_comm {t : Json} {p q : List String} (notBelow : ¬ p <+: q) (notAbove : ¬ q <+: p) (u w : Json) :
    (t.setAt p u).setAt q w = (t.setAt q w).setAt p u := by
  induction p generalizing t q with
  | nil => exact absurd List.nil_prefix notBelow
  | cons s rest ih =>
    cases q with
    | nil => exact absurd List.nil_prefix notAbove
    | cons s' q =>
      by_cases same : s' = s
      · subst same
        simp only [List.cons_prefix_cons,true_and] at notBelow notAbove
        simp only [setAt,field?_set,if_true,Option.getD_some,set_set,ih notBelow notAbove]
      · simp only [setAt,field?_set,same,Ne.symm same,if_false]
        exact set_comm (Ne.symm same) _ _ _

theorem setAt_shadow {t : Json} {p q : List String} (notBelow : ¬ p <+: q) (notAbove : ¬ q <+: p) (x v y : Json) :
    ((t.setAt p x).setAt q v).setAt p y = (t.setAt q v).setAt p y := by
  rw [setAt_comm notBelow notAbove,setAt_setAt_self]

theorem at?_setAt_of_apart {t : Json} {p q : List String} (notBelow : ¬ p <+: q) (notAbove : ¬ q <+: p) (v : Json) :
    (t.setAt p v).at? q = t.at? q := by
  induction p generalizing t q with
  | nil => exact absurd List.nil_prefix notBelow
  | cons s rest ih =>
    cases q with
    | nil => exact absurd List.nil_prefix notAbove
    | cons s' q =>
      simp only [setAt,at?_cons,field?_set]
      by_cases same : s' = s
      · subst same
        simp only [List.cons_prefix_cons,true_and] at notBelow notAbove
        simp only [if_true,Option.bind_some,ih notBelow notAbove]
        cases child : t.field? s' with
        | none =>
          obtain ⟨x,xs,rfl⟩ := List.exists_cons_of_ne_nil (ne_nil_of_not_prefixOf notAbove)
          rfl
        | some c => rfl
      · simp [same]

/-- Setting a path below an object puts the new member into the object's members. -/
theorem at?_setAt_below {t : Json} {q : List String} {fs : List (String × Json)} (found : t.at? q = some (.obj fs))
    (k : String) (rest : List String) (v : Json) :
    (t.setAt (q ++ k :: rest) v).at? q = some (.obj (insertField k (((fs.lookup k).getD (.obj [])).setAt rest v) fs)) := by
  induction q generalizing t with
  | nil =>
    simp only [at?_nil,Option.some.injEq] at found
    subst found
    rfl
  | cons s q ih =>
    rw [at?_cons] at found
    obtain ⟨c,member,below⟩ := Option.bind_eq_some_iff.1 found
    simp only [List.cons_append,setAt,at?_cons,field?_set,if_true,Option.bind_some,member,Option.getD_some]
    exact ih below

theorem obj_fields_setAt (t : Json) (s : String) (rest : List String) (v : Json) :
    Json.obj (t.setAt (s :: rest) v).fields = t.setAt (s :: rest) v := rfl

/-! ### Removing -/

theorem entryAt_removeAt_nil (t : Json) (q : List String) :
    (t.removeAt []).entryAt q = if q = [] then some .group else none := by
  cases q with
  | nil => rfl
  | cons s r => rfl

theorem entryAt_removeAt {p : List String} (ne : p ≠ []) (t : Json) (q : List String) :
    (t.removeAt p).entryAt q = if p <+: q then none else t.entryAt q := by
  induction p generalizing t q with
  | nil => exact absurd rfl ne
  | cons s rest ih =>
    cases rest with
    | nil =>
      cases q with
      | nil => cases t <;> simp [removeAt,erase,entry]
      | cons s' r =>
        simp only [removeAt,entryAt_cons,field?_erase,List.cons_prefix_cons,List.nil_prefix,and_true]
        by_cases same : s' = s
        · simp [same]
        · simp [same,Ne.symm same]
    | cons x xs =>
      cases found : t.field? s with
      | none =>
        simp only [removeAt,found]
        split
        · rename_i below
          obtain ⟨r,rfl⟩ := below
          simp [entryAt_cons,found]
        · rfl
      | some c =>
        simp only [removeAt,found]
        cases q with
        | nil =>
          have obj : ∃ fs, t = .obj fs := by
            cases t with
            | obj fs => exact ⟨fs,rfl⟩
            | _ => simp [field?] at found
          obtain ⟨fs,rfl⟩ := obj
          simp [set,entry]
        | cons s' r =>
          simp only [entryAt_cons,field?_set,List.cons_prefix_cons]
          by_cases same : s' = s
          · subst same
            simp [found,ih (List.cons_ne_nil x xs)]
          · simp [same,Ne.symm same]

theorem removeAt_cons_cons (t : Json) (s x : String) (xs : List String) :
    t.removeAt (s :: x :: xs) = match t.field? s with
      | some c => t.set s (c.removeAt (x :: xs))
      | none => t := by
  rw [removeAt]
  exact List.cons_ne_nil x xs

/-! ### Making groups -/

/-- Along a path with no value on it, making groups leaves an object at every prefix. -/
theorem entryAt_makeGroups {t : Json} {p : List String}
    (clear : ∀ q, q <+: p → ∀ v, t.entryAt q ≠ some (.value v)) (q : List String) :
    (t.makeGroups p).entryAt q = if q <+: p then some .group else t.entryAt q := by
  induction p generalizing t q with
  | nil =>
    cases q with
    | nil =>
      have root := clear [] List.nil_prefix
      cases t <;> simp_all [makeGroups,entry]
    | cons s r => simp [makeGroups]
  | cons s rest ih =>
    -- the member at `s` is an object or missing, so it can take the rest of the path
    have child : ∀ q, q <+: rest → ∀ v, ((t.field? s).getD (.obj [])).entryAt q ≠ some (.value v) := by
      intro q pre v
      cases found : t.field? s with
      | none =>
        cases q with
        | nil => simp [entry]
        | cons _ _ => simp [entryAt_obj_nil_cons]
      | some c =>
        have := clear (s :: q) (List.cons_prefix_cons.2 ⟨rfl,pre⟩) v
        simpa [entryAt_cons,found] using this
    cases q with
    | nil => simp [makeGroups,set,entry]
    | cons s' r =>
      simp only [makeGroups,entryAt_cons,field?_set,List.cons_prefix_cons]
      by_cases same : s' = s
      · subst same
        simp only [if_true,Option.bind_some,true_and,ih child]
        by_cases above : r <+: rest
        · simp [above]
        · simp [above,entryAt_getD_obj (ne_nil_of_not_prefixOf above)]
      · simp [same]

theorem obj_fields_makeGroups (t : Json) (s : String) (rest : List String) :
    Json.obj (t.makeGroups (s :: rest)).fields = t.makeGroups (s :: rest) := rfl

/-! ### Values above a path -/

/-- The first value above a path: a strict prefix below the root holding a value, with none
before it. -/
theorem valueAbove_eq_some {t : Json} {p q : List String} (found : t.valueAbove p = some q) :
    q ≠ [] ∧ q <+: p ∧ q ≠ p ∧ (∃ v, t.entryAt q = some (.value v)) ∧
      ∀ q', q' ≠ [] → q' <+: q → q' ≠ q → ∀ v, t.entryAt q' ≠ some (.value v) := by
  induction p generalizing t q with
  | nil => simp [valueAbove] at found
  | cons s rest ih =>
    cases rest with
    | nil => simp [valueAbove] at found
    | cons x xs =>
      simp only [valueAbove] at found
      split at found
      · rename_i fs member
        obtain ⟨q',inner,rfl⟩ := Option.map_eq_some_iff.1 found
        obtain ⟨ne,pre,neq,⟨v,value⟩,first⟩ := ih inner
        refine ⟨List.cons_ne_nil _ _,List.cons_prefix_cons.2 ⟨rfl,pre⟩,by simpa using neq,⟨v,by simpa [entryAt_cons,member] using value⟩,?_⟩
        intro q'' ne'' pre'' neq'' w
        cases q'' with
        | nil => exact absurd rfl ne''
        | cons s'' r =>
          obtain ⟨rfl,inner⟩ := List.cons_prefix_cons.1 pre''
          by_cases root : r = []
          · subst root; simp [entryAt_cons,member,entry]
          · have := first r root inner (by simpa using neq'') w
            simpa [entryAt_cons,member] using this
      · rename_i j notObj member
        cases found
        refine ⟨List.cons_ne_nil _ _,by simp,by simp,⟨j,?_⟩,?_⟩
        · cases j with
          | obj fs => exact absurd rfl (notObj fs)
          | _ => simp [entryAt_cons,member,entry]
        · intro q' ne' pre' neq' v
          cases q' with
          | nil => exact absurd rfl ne'
          | cons s' r =>
            obtain ⟨rfl,inner⟩ := List.cons_prefix_cons.1 pre'
            exact absurd (by simpa using List.prefix_nil.1 inner) (by simpa using neq')
      · cases found

theorem valueAbove_eq_none {t : Json} {p : List String} (none : t.valueAbove p = none) :
    ∀ q, q ≠ [] → q <+: p → q ≠ p → ∀ v, t.entryAt q ≠ some (.value v) := by
  induction p generalizing t with
  | nil =>
    intro q ne pre
    exact absurd (List.prefix_nil.1 pre) ne
  | cons s rest ih =>
    intro q ne pre neq v
    cases q with
    | nil => exact absurd rfl ne
    | cons s' r =>
      obtain ⟨rfl,inner⟩ := List.cons_prefix_cons.1 pre
      cases rest with
      | nil => exact absurd (by simpa using List.prefix_nil.1 inner) (by simpa using neq)
      | cons x xs =>
        simp only [valueAbove] at none
        split at none
        · rename_i fs member
          by_cases root : r = []
          · subst root; simp [entryAt_cons,member,entry]
          · have below : (Json.obj fs).valueAbove (x :: xs) = Option.none := by simpa using none
            have := ih below r root inner (by simpa using neq) v
            simpa [entryAt_cons,member] using this
        · cases none
        · rename_i member
          simp [entryAt_cons,member]

/-- A value at a strict prefix with no value before it is the first value above the path. -/
theorem valueAbove_eq_some_of_first {t : Json} {p c : List String} (ne : c ≠ []) (pre : c <+: p) (neq : c ≠ p)
    {v : Json} (value : t.entryAt c = some (.value v))
    (first : ∀ q, q ≠ [] → q <+: c → q ≠ c → ∀ w, t.entryAt q ≠ some (.value w)) :
    t.valueAbove p = some c := by
  cases found : t.valueAbove p with
  | none => exact absurd value (valueAbove_eq_none found c ne pre neq v)
  | some q =>
    obtain ⟨qne,qpre,qneq,⟨w,qvalue⟩,qfirst⟩ := valueAbove_eq_some found
    -- two prefixes of one path: the shorter is a prefix of the longer
    rcases le_total q.length c.length with shorter | longer
    · have below := List.prefix_of_prefix_length_le qpre pre shorter
      by_cases same : q = c
      · rw [same]
      · exact absurd qvalue (first q qne below same w)
    · have below := List.prefix_of_prefix_length_le pre qpre longer
      by_cases same : c = q
      · rw [same]
      · exact absurd value (qfirst c ne below same v)

/-- Making the groups above a path and removing what is at it leaves objects strictly above
the path, nothing at or below it, and the rest as it was. -/
theorem entryAt_prepared {t : Json} {p : List String} (ne : p ≠ []) (root : t.entryAt [] = some .group)
    (free : t.valueAbove p = none) (q : List String) :
    ((t.makeGroups p.dropLast).removeAt p).entryAt q =
      if p <+: q then none else if q <+: p then some .group else t.entryAt q := by
  have clear : ∀ q, q <+: p.dropLast → ∀ v, t.entryAt q ≠ some (.value v) := by
    intro q pre v
    by_cases nil : q = []
    · subst nil; simp [root]
    · have strict : q ≠ p := fun same => by
        have := (same ▸ pre).length_le
        simp [List.length_dropLast] at this
        exact ne (List.length_eq_zero_iff.1 (by omega))
      exact valueAbove_eq_none free q nil (pre.trans (List.dropLast_prefix p)) strict v
  rw [entryAt_removeAt ne,entryAt_makeGroups clear]
  by_cases below : p <+: q
  · simp [below]
  · have other : q ≠ p := fun same => below (same ▸ List.prefix_refl q)
    have iff : q <+: p.dropLast ↔ q <+: p :=
      ⟨fun pre => pre.trans (List.dropLast_prefix p),fun pre => prefix_dropLast_of_ne pre other⟩
    simp [below,iff]

/-! ### Well-formed trees -/

/-- Trees as records hold them: an object at the root, members in order, names that are
segments. -/
structure WellFormed (t : Json) : Prop where
  root : t.entryAt [] = some .group
  sorted : t.Sorted
  named : t.Named

theorem sorted_insertField {fs : List (String × Json)} (sorted : fs.Pairwise (fun a b => a.1 < b.1)) (k : String)
    (v : Json) : (insertField k v fs).Pairwise (fun a b => a.1 < b.1) := by
  rw [insertField_eq_insertSorted]
  exact pairwise_insertSorted sorted

theorem fields_sorted {t : Json} (sorted : t.Sorted) : t.fields.Pairwise (fun a b => a.1 < b.1) := by
  cases t with
  | obj fs => exact sorted [] fs rfl
  | _ => exact List.Pairwise.nil

theorem Sorted.set {t c : Json} (sorted : t.Sorted) (inner : c.Sorted) (k : String) : (t.set k c).Sorted := by
  intro q fs found
  cases q with
  | nil =>
    cases found
    exact sorted_insertField (fields_sorted sorted) k c
  | cons s r =>
    rw [at?_cons,field?_set] at found
    by_cases same : s = k
    · simp only [same,if_true,Option.bind_some] at found
      exact inner r fs found
    · simp only [same,if_false] at found
      exact sorted (s :: r) fs found

theorem Sorted.child {t : Json} (sorted : t.Sorted) (k : String) : ((t.field? k).getD (.obj [])).Sorted := by
  intro q fs found
  cases child : t.field? k with
  | none =>
    rw [child] at found
    cases q with
    | nil => cases found; exact List.Pairwise.nil
    | cons _ _ => cases found
  | some c =>
    rw [child,Option.getD_some] at found
    exact sorted (k :: q) fs (by simp [at?_cons,child,found])

theorem Sorted.setAt {t v : Json} (sorted : t.Sorted) (inner : v.Sorted) (p : List String) : (t.setAt p v).Sorted := by
  induction p generalizing t with
  | nil => exact inner
  | cons s rest ih => exact sorted.set (ih (sorted.child s)) s

theorem Sorted.makeGroups {t : Json} (sorted : t.Sorted) (p : List String) : (t.makeGroups p).Sorted := by
  induction p generalizing t with
  | nil => exact sorted
  | cons s rest ih => exact sorted.set (ih (sorted.child s)) s

theorem Sorted.of_not_obj {v : Json} (notObj : ∀ fs, v ≠ .obj fs) : v.Sorted := by
  intro q fs found
  cases q with
  | nil => exact absurd (Option.some.inj found) (notObj fs)
  | cons k r => simp [at?_cons,field?_of_not_obj notObj] at found

theorem Sorted.below {t j : Json} (sorted : t.Sorted) {p : List String} (found : t.at? p = some j) : j.Sorted :=
  fun q fs inner => sorted (p ++ q) fs (by rw [at?_append,found]; exact inner)

theorem Sorted.erase {t : Json} (sorted : t.Sorted) (k : String) : (t.erase k).Sorted := by
  intro q fs found
  cases t with
  | obj gs =>
    cases q with
    | nil =>
      cases found
      exact (sorted [] gs rfl).sublist List.filter_sublist
    | cons s r =>
      rw [at?_cons,field?_erase] at found
      by_cases same : s = k
      · simp [same] at found
      · simp only [same,if_false] at found
        exact sorted (s :: r) fs found
  | _ => exact sorted q fs found

theorem Sorted.removeAt {t : Json} (sorted : t.Sorted) (p : List String) : (t.removeAt p).Sorted := by
  induction p generalizing t with
  | nil =>
    intro q fs found
    cases q with
    | nil => cases found; exact List.Pairwise.nil
    | cons _ _ => cases found
  | cons s rest ih =>
    cases rest with
    | nil => exact sorted.erase s
    | cons x xs =>
      cases child : t.field? s with
      | none =>
        rw [removeAt_cons_cons,child]
        exact sorted
      | some c =>
        have inner : c.Sorted := by simpa [child] using sorted.child s
        rw [removeAt_cons_cons,child]
        exact sorted.set (ih inner) s

theorem named_iff {t : Json} : t.Named ↔ ∀ q, (t.entryAt q).isSome → Valid q := by
  simp [Named,entryAt,Option.isSome_iff_exists]

theorem Named.setAt {t v : Json} (named : t.Named) {p : List String} (valid : Valid p) (inner : v.Named) :
    (t.setAt p v).Named := by
  rw [named_iff] at named inner ⊢
  intro q found
  rw [entryAt_setAt] at found
  split at found
  · rename_i below
    obtain ⟨r,rfl⟩ := below
    rw [List.drop_left] at found
    exact valid_append.2 ⟨valid,inner r found⟩
  · split at found
    · exact valid_of_prefixOf ‹_› valid
    · exact named q found

theorem Named.removeAt {t : Json} (named : t.Named) (p : List String) : (t.removeAt p).Named := by
  rw [named_iff] at named ⊢
  intro q found
  cases p with
  | nil =>
    rw [entryAt_removeAt_nil] at found
    split at found
    · subst_vars; exact valid_nil
    · cases found
  | cons s rest =>
    rw [entryAt_removeAt (List.cons_ne_nil s rest)] at found
    split at found
    · cases found
    · exact named q found

mutual
/-- A value with no bad member name has only segments on its paths. -/
theorem named_of_firstBadName : ∀ v : Json, v.firstBadName = none → v.Named
  | .obj fs, good => by
    intro q j found
    cases q with
    | nil => exact valid_nil
    | cons k r =>
      rw [at?_cons] at found
      obtain ⟨w,member,below⟩ := Option.bind_eq_some_iff.1 found
      obtain ⟨seg,inner⟩ := namedFields_of_firstBadField fs good k w (by simpa [field?] using member)
      exact valid_cons.2 ⟨seg,inner r j below⟩
  | .null, _ => fun q j found => by cases q <;> simp_all [at?_cons,field?,valid_nil]
  | .bool _, _ => fun q j found => by cases q <;> simp_all [at?_cons,field?,valid_nil]
  | .num _, _ => fun q j found => by cases q <;> simp_all [at?_cons,field?,valid_nil]
  | .str _, _ => fun q j found => by cases q <;> simp_all [at?_cons,field?,valid_nil]
  | .arr _, _ => fun q j found => by cases q <;> simp_all [at?_cons,field?,valid_nil]
/-- Members with no bad name have segment names and values with only segments on their paths. -/
theorem namedFields_of_firstBadField : ∀ fs : List (String × Json), firstBadField fs = none →
    ∀ k w, fs.lookup k = some w → Segment k ∧ w.Named
  | [], _ => fun k w found => by cases found
  | (k', w') :: rest, good => by
    intro k w found
    simp only [firstBadField] at good
    split at good
    · rename_i seg
      obtain ⟨inner,others⟩ := Option.or_eq_none_iff.1 good
      rw [lookup_cons_ite] at found
      split at found
      · rename_i same
        obtain rfl := Option.some.inj found
        exact ⟨same ▸ seg,named_of_firstBadName w' inner⟩
      · exact namedFields_of_firstBadField rest others k w found
    · cases good
end

theorem WellFormed.setAt {t v : Json} (wf : t.WellFormed) {p : List String} (valid : Valid p) (ne : p ≠ [])
    (sorted : v.Sorted) (good : v.firstBadName = none) : (t.setAt p v).WellFormed := by
  refine ⟨?_,wf.sorted.setAt sorted p,wf.named.setAt valid (named_of_firstBadName v good)⟩
  rw [entryAt_setAt,if_neg (fun below => ne (List.prefix_nil.1 below)),if_pos List.nil_prefix]

theorem WellFormed.removeAt {t : Json} (wf : t.WellFormed) (p : List String) : (t.removeAt p).WellFormed := by
  refine ⟨?_,wf.sorted.removeAt p,wf.named.removeAt p⟩
  cases p with
  | nil => rfl
  | cons s rest =>
    rw [entryAt_removeAt (List.cons_ne_nil s rest),if_neg (by simp)]
    exact wf.root

end JobFlow.Json

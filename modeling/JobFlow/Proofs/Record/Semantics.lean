import JobFlow.Proofs.Record.Writes

/-!
The record as a machine on trees.
-/

namespace JobFlow.RecordTree

open RecordPath RecordKey Json Scope

/-- Two runs that fail with the same error, or succeed with related results. -/
def Agree {α β : Type} (R : α → β → Prop) : Outcome α → Outcome β → Prop
  | .ok a, .ok b => R a b
  | .error e, .error e' => e = e'
  | _, _ => False

theorem Agree.imp {α β : Type} {R S : α → β → Prop} {a : Outcome α} {b : Outcome β} (agree : Agree R a b)
    (weaker : ∀ x y, R x y → S x y) : Agree S a b := by
  cases a with
  | error e =>
    cases b with
    | error e' => exact agree
    | ok y => exact agree.elim
  | ok x =>
    cases b with
    | error e' => exact agree.elim
    | ok y => exact weaker x y agree

/-- Runs that agree keep agreeing when each goes on with steps that agree on related results. -/
theorem Agree.bind {α β γ δ : Type} {R : α → β → Prop} {S : γ → δ → Prop} {a : Outcome α} {b : Outcome β}
    {f : α → Outcome γ} {g : β → Outcome δ} (agree : Agree R a b) (next : ∀ x y, R x y → Agree S (f x) (g y)) :
    Agree S (a >>= f) (b >>= g) := by
  cases a with
  | error e =>
    cases b with
    | error e' => exact agree
    | ok y => exact agree.elim
  | ok x =>
    cases b with
    | error e' => exact agree.elim
    | ok y => exact next x y agree

/-- The path that a scope on the group at `base` makes of a path given relative to it. -/
def resolve (base : List String) (p : String) : Outcome (List String) := do
  pure (base ++ segments (← normalize p))

/-- Writing a value at a path of a tree. -/
def write (t : Json) (p : List String) (v : Json) : Outcome Json :=
  if p = [] then
    match v with
    | .obj _ =>
      match v.firstBadName with
      | some k => .error (segmentError k)
      | none => .ok v
    | _ => .error (.conflict "the record root can only hold a group")
  else
    match t.valueAbove p with
    | some q => .error (valueInTheWay q)
    | none =>
      match v.firstBadName with
      | some k => .error (segmentError k)
      | none => .ok (t.setAt p v)

/-- Making an empty group at a path of a tree. -/
def createGroup (t : Json) (p : List String) : Outcome Json :=
  if p = [] then .error (.conflict "the record root already exists")
  else
    match t.valueAbove p with
    | some q => .error (valueInTheWay q)
    | none => .ok (t.setAt p (.obj []))

variable {cfg : StorageConfig} {db : Pairs} {t : Json} {s : Scope} {B : List String}

theorem valid_of_resolve (vb : Valid B) {p : String} {q : List String} (found : resolve B p = .ok q) : Valid q := by
  cases norm : normalize p with
  | error e => simp [resolve,norm,bind,Except.bind] at found
  | ok n =>
    obtain ⟨valid,rfl⟩ := normalize_eq_ok.1 norm
    simp only [resolve,norm,bind,Except.bind,pure,Except.pure,Except.ok.injEq] at found
    rw [← found,segments_ofSegments valid]
    exact valid_append.2 ⟨vb,valid⟩

theorem absolute_eq (base : s.base = ofSegments B) (vb : Valid B) (p : String) :
    s.absolute p = (do pure (ofSegments (← resolve B p))) := by
  cases norm : normalize p with
  | error e => simp [absolute,resolve,norm,bind,Except.bind]
  | ok n =>
    obtain ⟨valid,rfl⟩ := normalize_eq_ok.1 norm
    simp only [absolute,resolve,norm,bind,Except.bind,pure,Except.pure,segments_ofSegments valid,base,
      Except.ok.injEq]
    by_cases root : B = []
    · subst root; simp [ofSegments_nil]
    · have baseFull : (ofSegments B).isEmpty = false := by simpa using (ofSegments_eq_empty_iff vb).not.2 root
      by_cases here : nonEmptyParts p = []
      · simp [baseFull,here,ofSegments_nil]
      · have pathFull : (ofSegments (nonEmptyParts p)).isEmpty = false := by
          simpa using (ofSegments_eq_empty_iff valid).not.2 here
        simp [baseFull,pathFull,ofSegments_append root here]

theorem isEmpty_ofSegments {q : List String} (valid : Valid q) : (ofSegments q).isEmpty = decide (q = []) := by
  by_cases root : q = []
  · subst root; rfl
  · simpa [root] using (ofSegments_eq_empty_iff valid).not.2 root

/-- A write in a scope runs as the tree's write at the resolved path. -/
theorem write_refines (sorted : db.Sorted) (stores : Stores cfg t (s.merged db)) (wf : t.WellFormed)
    (base : s.base = ofSegments B) (vb : Valid B) (p : String) {v : Json} (vSorted : v.Sorted) :
    Agree (fun s' t' => Stores cfg t' (s'.merged db) ∧ s'.base = s.base) (s.write cfg db p v)
      (do write t (← resolve B p) v) := by
  cases path : resolve B p with
  | error e => simp [Scope.write,absolute_eq base vb,path,bind,Except.bind,Agree]
  | ok q =>
    have valid := valid_of_resolve vb path
    simp only [Scope.write,absolute_eq base vb,path,bind,Except.bind,pure,Except.pure,isEmpty_ofSegments valid]
    by_cases root : q = []
    · -- the root takes only an object, which replaces every member
      subst root
      cases v with
      | obj fs =>
        have cleared : Stores cfg (t.setAt [] (.obj [])) ((clearChildren db s "").merged db) :=
          stores.clearRoot sorted wf.root
        have fields := putFields_spec sorted fs [] [] t _ valid_nil (by simpa using vSorted [] fs rfl)
          (fun kv mem => vSorted.member mem) cleared
        cases bad : firstBadField fs with
        | some k => simp [write,firstBadName,bad,ofSegments_nil ▸ fields.1 k bad,Agree]
        | none =>
          obtain ⟨s',run,stores',base'⟩ := fields.2 bad
          simp only [ofSegments_nil] at run
          simp only [decide_true,if_true,run,write,firstBadName,bad,Agree]
          exact ⟨by simpa [setAt] using stores',by simpa using base'⟩
      | _ => simp [write,Agree]; rfl
    · -- below the root: make the parents, clear the path, then put the value there
      simp only [root,decide_false,Bool.false_eq_true,if_false]
      obtain ⟨blocked,clear⟩ := ensureParents_spec sorted stores wf.root valid root
      cases above : t.valueAbove q with
      | some a => simp [write,root,above,blocked a above,Agree]
      | none =>
        obtain ⟨s₁,run,stores₁,base₁⟩ := clear above
        have prepared := stores₁.removeSubtree sorted valid root
        have entries := entryAt_prepared root wf.root above
        have free : ((t.makeGroups q.dropLast).removeAt q).at? q = none := by
          have := entries q
          simpa [entryAt] using this
        have parent : ∃ fs, ((t.makeGroups q.dropLast).removeAt q).at? q.dropLast = some (.obj fs) := by
          apply entryAt_eq_group.1
          rw [entries,if_neg,if_pos (List.dropLast_prefix q)]
          intro below
          have := below.length_le
          simp [List.length_dropLast] at this
          exact root (List.length_eq_zero_iff.1 (by omega))
        have put := put_spec sorted v q _ _ valid vSorted prepared free parent
        cases bad : v.firstBadName with
        | some k => simp [write,root,above,bad,run,put.1 k bad,Agree]
        | none =>
          obtain ⟨s₂,run₂,stores₂,base₂⟩ := put.2 bad
          simp only [write,root,above,bad,run,run₂,Agree,if_false]
          refine ⟨stores₂.congr fun r => ?_,by simp [base₂,base₁]⟩
          rw [entryAt_setAt,entryAt_setAt_of_parent (.inr parent),entries]
          by_cases below : q <+: r <;> simp [below]

/-- A new group in a scope runs as the tree's new group at the resolved path. -/
theorem createGroup_refines (sorted : db.Sorted) (stores : Stores cfg t (s.merged db)) (wf : t.WellFormed)
    (base : s.base = ofSegments B) (vb : Valid B) (p : String) (tags : GroupMeta) :
    Agree (fun s' t' => Stores cfg t' (s'.merged db) ∧ s'.base = s.base) (s.createGroup db p tags)
      (do createGroup t (← resolve B p)) := by
  cases path : resolve B p with
  | error e => simp [Scope.createGroup,absolute_eq base vb,path,bind,Except.bind,Agree]
  | ok q =>
    have valid := valid_of_resolve vb path
    simp only [Scope.createGroup,absolute_eq base vb,path,bind,Except.bind,pure,Except.pure,isEmpty_ofSegments valid]
    by_cases root : q = []
    · subst root
      simp [createGroup,Agree]
      rfl
    · simp only [root,decide_false,Bool.false_eq_true,if_false]
      obtain ⟨blocked,clear⟩ := ensureParents_spec sorted stores wf.root valid root
      cases above : t.valueAbove q with
      | some a => simp [createGroup,root,above,blocked a above,Agree]
      | none =>
        obtain ⟨s₁,run,stores₁,base₁⟩ := clear above
        have prepared := stores₁.removeSubtree sorted valid root
        have entries := entryAt_prepared root wf.root above
        simp only [createGroup,root,above,run,Agree,if_false]
        refine ⟨prepared.stage_group sorted valid (fun r => ?_) (by simp [entries]) _,by simp [base₁]⟩
        rw [entryAt_setAt,entries]
        by_cases same : r = q
        · subst same; simp [entry]
        · by_cases below : q <+: r
          · obtain ⟨x,rfl⟩ := below
            have nonEmpty : x ≠ [] := by
              rintro rfl
              exact same (by simp)
            obtain ⟨y,ys,rfl⟩ := List.exists_cons_of_ne_nil nonEmpty
            simp [same,entryAt_obj_nil_cons]
          · simp [same,below]

/-- A removal in a scope runs as the tree's removal at the resolved path. -/
theorem remove_refines (sorted : db.Sorted) (stores : Stores cfg t (s.merged db)) (wf : t.WellFormed)
    (base : s.base = ofSegments B) (vb : Valid B) (p : String) :
    Agree (fun s' t' => Stores cfg t' (s'.merged db) ∧ s'.base = s.base) (s.remove db p)
      (do pure (t.removeAt (← resolve B p))) := by
  cases path : resolve B p with
  | error e => simp [Scope.remove,absolute_eq base vb,path,bind,Except.bind,Agree]
  | ok q =>
    have valid := valid_of_resolve vb path
    simp only [Scope.remove,absolute_eq base vb,path,bind,Except.bind,pure,Except.pure,isEmpty_ofSegments valid]
    by_cases root : q = []
    · subst root
      simp only [decide_true,if_true,Agree]
      exact ⟨stores.clearRoot sorted wf.root,by simp⟩
    · simp only [root,decide_false,Bool.false_eq_true,if_false,Agree]
      exact ⟨stores.removeSubtree sorted valid root,by simp⟩

/-! ### Well-formed trees stay well formed -/

theorem write_wellFormed (wf : t.WellFormed) {q : List String} (valid : Valid q) {v : Json} (vSorted : v.Sorted)
    {t' : Json} (run : write t q v = .ok t') : t'.WellFormed := by
  by_cases root : q = []
  · subst root
    cases v with
    | obj fs =>
      cases good : firstBadField fs with
      | some k => simp [write,firstBadName,good] at run
      | none =>
        simp [write,firstBadName,good] at run
        subst run
        exact ⟨rfl,vSorted,named_of_firstBadName _ (by simpa [firstBadName] using good)⟩
    | _ => simp [write] at run
  · cases above : t.valueAbove q with
    | some a => simp [write,root,above] at run
    | none =>
      cases good : v.firstBadName with
      | some k => simp [write,root,above,good] at run
      | none =>
        simp [write,root,above,good] at run
        subst run
        exact wf.setAt valid root vSorted good

theorem createGroup_wellFormed (wf : t.WellFormed) {q : List String} (valid : Valid q) {t' : Json}
    (run : createGroup t q = .ok t') : t'.WellFormed := by
  by_cases root : q = []
  · simp [createGroup,root] at run
  · cases above : t.valueAbove q with
    | some a => simp [createGroup,root,above] at run
    | none =>
      simp [createGroup,root,above] at run
      subst run
      exact wf.setAt valid root (fun r fs found => by cases r <;> simp_all [at?_cons,field?]) rfl

end JobFlow.RecordTree

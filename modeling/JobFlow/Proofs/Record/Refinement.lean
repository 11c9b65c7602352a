import JobFlow.Proofs.Record.Reads

/-!
A record refines a tree.
-/

namespace JobFlow.RecordTree

open RecordPath RecordKey Json

/-- A call inside a scope, its path relative to the scope's group. -/
inductive ScopedCall where
  | write (p : String) (v : Json)
  | createGroup (p : String) (tags : GroupMeta)
  | remove (p : String)

/-- A call on a record: a write, a removal, or calls in a scope on a group, applied together
when all of them succeed. -/
inductive RecordCall where
  | write (p : String) (v : Json)
  | remove (p : String)
  | inScope (g : String) (body : List ScopedCall)

namespace ScopedCall

/-- Staging a call in a scope of a record. -/
def run (r : Record) (s : Scope) : ScopedCall → Outcome Scope
  | .write p v => s.write r.config r.pairs p v
  | .createGroup p tags => s.createGroup r.pairs p tags
  | .remove p => s.remove r.pairs p

/-- The call on a tree, its path taken below the segments `B`. -/
def apply (B : List String) (t : Json) : ScopedCall → Outcome Json
  | .write p v => do RecordTree.write t (← resolve B p) v
  | .createGroup p _ => do RecordTree.createGroup t (← resolve B p)
  | .remove p => do pure (t.removeAt (← resolve B p))

/-- The value a call writes keeps the members of its objects in order, as every JSON value of
this library does. -/
def Canonical : ScopedCall → Prop
  | .write _ v => v.Sorted
  | _ => True

end ScopedCall

namespace RecordCall

/-- Running a call on a record. -/
def run (r : Record) : RecordCall → Outcome Record
  | .write p v => r.write p v
  | .remove p => r.remove p
  | .inScope g body => do
    let s ← r.scope g
    let s ← body.foldlM (ScopedCall.run r) s
    pure (r.commit s)

/-- The call on a tree. -/
def apply (t : Json) : RecordCall → Outcome Json
  | .write p v => (ScopedCall.write p v).apply [] t
  | .remove p => (ScopedCall.remove p).apply [] t
  | .inScope g body => do
    let base ← normalize g
    body.foldlM (ScopedCall.apply (segments base)) t

/-- The values a call writes keep the members of their objects in order. -/
def Canonical : RecordCall → Prop
  | .write _ v => v.Sorted
  | .remove _ => True
  | .inScope _ body => ∀ c ∈ body, c.Canonical

end RecordCall

namespace RecordCall

/-- The record after a call: the call's record, or the same record when the call fails. -/
def next (r : Record) (c : RecordCall) : Record :=
  match c.run r with
  | .ok r' => r'
  | .error _ => r

/-- The tree after a call: the call's tree, or the same tree when the call fails. -/
def nextTree (t : Json) (c : RecordCall) : Json :=
  match c.apply t with
  | .ok t' => t'
  | .error _ => t

end RecordCall

/-- Running calls on a record one after another. -/
def runAll (r : Record) (cs : List RecordCall) : Record := cs.foldl RecordCall.next r

/-- Applying calls to a tree one after another. -/
def applyAll (t : Json) (cs : List RecordCall) : Json := cs.foldl RecordCall.nextTree t

/-- A record holds a tree: its pairs store the tree in the record's encoding, and the tree is
well formed. -/
structure Holds (t : Json) (r : Record) : Prop where
  stores : Stores r.config t r.pairs
  wf : t.WellFormed

/-- What a record shows of a tree: its keys are the tree's, reading a path gives the tree's
entry there read back, and listing a path gives the names of the tree's object there. -/
structure Shows (t : Json) (r : Record) : Prop where
  keys : ∀ k, r.pairs.contains k = true ↔ k ∈ encode t
  reads : ∀ p, (r.readOpt p).toOption = (do readAt r.config t (← resolve [] p)).toOption
  lists : ∀ p, r.list p = (do listAt r.path t (← resolve [] p))

theorem Holds.shows {t : Json} {r : Record} (holds : Holds t r) : Shows t r :=
  ⟨holds.stores.keys_iff holds.wf.named,fun p => Record.readOpt_toOption holds.stores holds.wf p,
   fun p => Record.list_eq holds.stores holds.wf p⟩

/-- A step on a tree whose results at every valid path are well formed gives a well-formed
tree at any path a scope resolves. -/
theorem wellFormed_resolved {B : List String} (vb : Valid B) {p : String} {step : List String → Outcome Json}
    (keeps : ∀ q, Valid q → ∀ t', step q = .ok t' → t'.WellFormed) {t' : Json}
    (run : (do step (← resolve B p)) = .ok t') : t'.WellFormed := by
  cases found : resolve B p with
  | error e => simp [found,bind,Except.bind] at run
  | ok q =>
    simp only [found,bind,Except.bind] at run
    exact keeps q (valid_of_resolve vb found) t' run

/-- Runs that agree, where every result of the second is well formed. -/
theorem Agree.and_wellFormed {α : Type} {R : α → Json → Prop} {a : Outcome α} {b : Outcome Json}
    (agree : Agree R a b) (keeps : ∀ t', b = .ok t' → t'.WellFormed) :
    Agree (fun x t' => R x t' ∧ t'.WellFormed) a b := by
  cases a with
  | error e =>
    cases b with
    | error e' => exact agree
    | ok y => exact agree.elim
  | ok x =>
    cases b with
    | error e' => exact agree.elim
    | ok y => exact ⟨agree,keeps y rfl⟩

variable {r : Record} {t : Json}

/-- A call in a scope runs as the tree's call at the resolved path, and keeps the tree well
formed. -/
theorem ScopedCall.run_refines {s : Scope} (B : List String) (sorted : r.pairs.Sorted)
    (stores : Stores r.config t (s.merged r.pairs)) (wf : t.WellFormed) (base : s.base = ofSegments B) (vb : Valid B) :
    ∀ c : ScopedCall, c.Canonical →
      Agree (fun s' t' => (Stores r.config t' (s'.merged r.pairs) ∧ s'.base = s.base) ∧ t'.WellFormed) (c.run r s)
        (c.apply B t)
  | .write p v, canonical => by
    simp only [ScopedCall.run,ScopedCall.apply]
    exact (write_refines sorted stores wf base vb p canonical).and_wellFormed fun _ written =>
      wellFormed_resolved vb (fun _ valid _ run => write_wellFormed wf valid canonical run) written
  | .createGroup p tags, _ => by
    simp only [ScopedCall.run,ScopedCall.apply]
    exact (createGroup_refines sorted stores wf base vb p tags).and_wellFormed fun _ made =>
      wellFormed_resolved vb (fun _ valid _ run => createGroup_wellFormed wf valid run) made
  | .remove p, _ => by
    simp only [ScopedCall.run,ScopedCall.apply]
    exact (remove_refines sorted stores wf base vb p).and_wellFormed fun _ removed =>
      wellFormed_resolved vb (fun q _ _ run => by
        simp only [pure,Except.pure,Except.ok.injEq] at run
        exact run ▸ wf.removeAt q) removed

/-- The calls of a scope run as the tree's calls one after another: the first that fails stops
both with the same error. -/
theorem body_refines {B : List String} (sorted : r.pairs.Sorted) (vb : Valid B) :
    ∀ (body : List ScopedCall) (s : Scope) (t : Json), (∀ c ∈ body, c.Canonical) → Stores r.config t (s.merged r.pairs) →
      t.WellFormed → s.base = ofSegments B →
      Agree (fun s' t' => (Stores r.config t' (s'.merged r.pairs) ∧ s'.base = s.base) ∧ t'.WellFormed)
        (body.foldlM (ScopedCall.run r) s) (body.foldlM (ScopedCall.apply B) t)
  | [], s, t, _, stores, wf, _ => ⟨⟨stores,rfl⟩,wf⟩
  | c :: rest, s, t, canonical, stores, wf, base => by
    simp only [List.foldlM_cons]
    refine (ScopedCall.run_refines B sorted stores wf base vb c (canonical c List.mem_cons_self)).bind
      fun s' t' ⟨⟨stores',base'⟩,wf'⟩ => ?_
    refine (body_refines sorted vb rest s' t' (fun c mem => canonical c (List.mem_cons_of_mem _ mem)) stores' wf'
      (base'.trans base)).imp fun s'' t'' ⟨⟨stores'',base''⟩,wf''⟩ => ⟨⟨stores'',base''.trans base'⟩,wf''⟩

theorem ok_bind {α β : Type} (a : α) (f : α → Outcome β) : (Except.ok a >>= f) = f a := rfl

theorem scope_root (r : Record) : r.scope "" = .ok { base := "" } := by
  have empty : normalize "" = .ok "" := normalize_ofSegments valid_nil
  simp [Record.scope,empty,bind,Except.bind,pure,Except.pure]

theorem write_eq (r : Record) (p : String) (v : Json) :
    r.write p v = (do pure (r.commit (← ({ base := "" } : Scope).write r.config r.pairs p v))) := by
  simp only [Record.write,Record.withScoped,scope_root,bind,Except.bind,pure,Except.pure]
  cases ({ base := "" } : Scope).write r.config r.pairs p v <;> rfl

theorem remove_eq (r : Record) (p : String) :
    r.remove p = (do pure (r.commit (← ({ base := "" } : Scope).remove r.pairs p))) := by
  simp only [Record.remove,Record.withScoped,scope_root,bind,Except.bind,pure,Except.pure]
  cases ({ base := "" } : Scope).remove r.pairs p <;> rfl

/-- A call on a record runs as the tree's call, and the record it gives holds the new tree. -/
theorem RecordCall.run_refines (holds : Holds t r) :
    ∀ c : RecordCall, c.Canonical →
      Agree (fun r' t' => Holds t' r' ∧ r'.path = r.path ∧ r'.config = r.config) (c.run r) (c.apply t)
  | .write p v, canonical => by
    -- a write on the record is a write in a new scope on the root, then committed
    have whole := ScopedCall.run_refines [] holds.stores.sorted
      (show Stores r.config t (({ base := "" } : Scope).merged r.pairs) from holds.stores) holds.wf rfl valid_nil
      (.write p v) canonical
    simp only [RecordCall.run,RecordCall.apply,write_eq]
    rw [← bind_pure ((ScopedCall.write p v).apply [] t)]
    exact whole.bind fun s' t' ⟨⟨stores',_⟩,wf'⟩ => ⟨⟨stores',wf'⟩,rfl,rfl⟩
  | .remove p, _ => by
    have whole := ScopedCall.run_refines [] holds.stores.sorted
      (show Stores r.config t (({ base := "" } : Scope).merged r.pairs) from holds.stores) holds.wf rfl valid_nil
      (.remove p) trivial
    simp only [RecordCall.run,RecordCall.apply,remove_eq]
    rw [← bind_pure ((ScopedCall.remove p).apply [] t)]
    exact whole.bind fun s' t' ⟨⟨stores',_⟩,wf'⟩ => ⟨⟨stores',wf'⟩,rfl,rfl⟩
  | .inScope g body, canonical => by
    simp only [RecordCall.run,RecordCall.apply,Record.scope]
    cases norm : normalize g with
    | error e => exact rfl
    | ok n =>
      obtain ⟨valid,rfl⟩ := normalize_eq_ok.1 norm
      simp only [ok_bind,pure_bind,segments_ofSegments valid]
      have steps := body_refines holds.stores.sorted valid body { base := ofSegments (nonEmptyParts g) } t canonical
        holds.stores holds.wf rfl
      rw [← bind_pure (body.foldlM (ScopedCall.apply (nonEmptyParts g)) t)]
      exact steps.bind fun s' t' ⟨⟨stores',_⟩,wf'⟩ => ⟨⟨stores',wf'⟩,rfl,rfl⟩

theorem RecordCall.next_holds (holds : Holds t r) (c : RecordCall) (canonical : c.Canonical) :
    Holds (c.nextTree t) (c.next r) ∧ (c.next r).path = r.path ∧ (c.next r).config = r.config := by
  have agree := RecordCall.run_refines holds c canonical
  unfold RecordCall.next RecordCall.nextTree
  cases run : c.run r with
  | error e =>
    cases apply : c.apply t with
    | error e' => exact ⟨holds,rfl,rfl⟩
    | ok t' => simp only [run,apply,Agree] at agree
  | ok r' =>
    cases apply : c.apply t with
    | error e' => simp only [run,apply,Agree] at agree
    | ok t' => simpa only [run,apply,Agree] using agree

/-- A run of calls keeps a record holding the tree that the same calls make. -/
theorem runAll_holds : ∀ (cs : List RecordCall), (∀ c ∈ cs, c.Canonical) → ∀ {r : Record} {t : Json}, Holds t r →
    Holds (applyAll t cs) (runAll r cs) ∧ (runAll r cs).path = r.path ∧ (runAll r cs).config = r.config
  | [], _, _, _, holds => ⟨holds,rfl,rfl⟩
  | c :: rest, canonical, r, t, holds => by
    obtain ⟨holds',path',config'⟩ := RecordCall.next_holds holds c (canonical c List.mem_cons_self)
    obtain ⟨final,path'',config''⟩ :=
      runAll_holds rest (fun c' mem => canonical c' (List.mem_cons_of_mem _ mem)) holds'
    exact ⟨final,path''.trans path',config''.trans config'⟩

theorem holds_new (path : String) (cfg : StorageConfig) (tags : ByteArray) :
    Holds (.obj []) ⟨path,[(group "",tags)],cfg⟩ := by
  have root : ∀ q, Valid q → (group (ofSegments q) = group "" ↔ q = []) := fun q vq => by
    rw [group_inj]
    exact ofSegments_eq_empty_iff vq
  refine ⟨⟨List.pairwise_singleton _ _,fun k present => ?_,fun q vq => ?_,fun q vq => ?_⟩,⟨rfl,fun q fs found => ?_,
    fun q j found => ?_⟩⟩
  · by_cases same : k = group ""
    · exact ⟨[],valid_nil,.inl same⟩
    · simp [Pairs.get?_cons,same,Pairs.get?_nil] at present
  · cases q with
    | nil => simp [Pairs.get?_cons,ofSegments_nil,entry]
    | cons s rest => simp [Pairs.get?_cons,root _ vq,Pairs.get?_nil,entryAt_obj_nil_cons]
  · have differ : leaf (ofSegments q) ≠ group "" := leaf_ne_group _ _
    cases q with
    | nil => simp [Pairs.get?_cons,differ,Pairs.get?_nil,valueBytes,entry]
    | cons s rest => simp [Pairs.get?_cons,differ,Pairs.get?_nil,valueBytes,entryAt_obj_nil_cons]
  · cases q with
    | nil => cases found; exact List.Pairwise.nil
    | cons _ _ => cases found
  · cases q with
    | nil => exact valid_nil
    | cons _ _ => cases found

/-- A new record refines the empty object. -/
theorem record_refines_tree (path : String) (cfg : StorageConfig) (tags : ByteArray) (cs : List RecordCall)
    (canonical : ∀ c ∈ cs, c.Canonical) :
    Shows (applyAll (.obj []) cs) (runAll ⟨path,[(group "",tags)],cfg⟩ cs) ∧
      ∀ c : RecordCall, c.Canonical →
        Agree (fun r t => Shows t r) (c.run (runAll ⟨path,[(group "",tags)],cfg⟩ cs)) (c.apply (applyAll (.obj []) cs)) := by
  obtain ⟨holds,-,-⟩ := runAll_holds cs canonical (holds_new path cfg tags)
  exact ⟨holds.shows,fun c next => (RecordCall.run_refines holds c next).imp fun _ _ after => after.1.shows⟩

/-- A write below a missing group, then a scope on that group that removes the value and puts a
group below its path. -/
theorem record_refines_tree_scoped :
    (∀ c ∈ [RecordCall.write "a/b" (.num (.nat 1)), .inScope "a" [.remove "b", .createGroup "b/c" ⟨"group","c",none,none⟩]],
        c.Canonical) ∧
      Shows (applyAll (.obj []) [.write "a/b" (.num (.nat 1)), .inScope "a" [.remove "b", .createGroup "b/c" ⟨"group","c",none,none⟩]])
        (runAll ⟨"rec.jrk",[(group "",.empty)],{}⟩
          [.write "a/b" (.num (.nat 1)), .inScope "a" [.remove "b", .createGroup "b/c" ⟨"group","c",none,none⟩]]) := by
  have canonical : ∀ c ∈ [RecordCall.write "a/b" (.num (.nat 1)),
      .inScope "a" [.remove "b", .createGroup "b/c" ⟨"group","c",none,none⟩]], c.Canonical := by
    intro c mem
    simp only [List.mem_cons,List.not_mem_nil,or_false] at mem
    rcases mem with rfl | rfl
    · exact Sorted.of_not_obj (by simp)
    · intro c' mem'
      simp only [List.mem_cons,List.not_mem_nil,or_false] at mem'
      rcases mem' with rfl | rfl <;> trivial
  exact ⟨canonical,(record_refines_tree "rec.jrk" {} .empty _ canonical).1⟩

end JobFlow.RecordTree

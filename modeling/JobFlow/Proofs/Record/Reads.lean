import JobFlow.Proofs.Record.Semantics
import Mathlib.Data.List.Sort

/-!
Reading a record back.
-/

namespace JobFlow.RecordTree

open RecordPath RecordKey Json

mutual
/-- A tree as it reads back once stored: its objects kept, every other value replaced by what
its stored bytes decode to. -/
def readBack (cfg : StorageConfig) : Json → Outcome Json
  | .obj fs => do pure (.obj (← readBackFields cfg fs))
  | v => Leaf.decode (Leaf.encode cfg v)
/-- The members of an object as they read back. -/
def readBackFields (cfg : StorageConfig) : List (String × Json) → Outcome (List (String × Json))
  | [] => pure []
  | (k, v) :: rest => do pure ((k, ← readBack cfg v) :: (← readBackFields cfg rest))
end

/-- What an object read back from entries holds: at every group an object with its members in
order, one for each entry right below the group, and at every value what its stored bytes
decode to. -/
structure Fits (cfg : StorageConfig) (e : List String → Option Entry) (R : Json) : Prop where
  groups : ∀ q, e q = some .group → ∃ fs, R.at? q = some (.obj fs) ∧ fs.Pairwise (fun a b => a.1 < b.1) ∧
    ∀ k, (fs.lookup k).isSome ↔ (e (q ++ [k])).isSome
  values : ∀ q v, e q = some (.value v) → ∃ w, R.at? q = some w ∧ Leaf.decode (Leaf.encode cfg v) = .ok w

/-- Every value among the entries decodes from its stored bytes. -/
def Decodes (cfg : StorageConfig) (e : List String → Option Entry) : Prop :=
  ∀ q v, e q = some (.value v) → ∃ w, Leaf.decode (Leaf.encode cfg v) = .ok w

variable {cfg : StorageConfig}

theorem readBack_obj (fs : List (String × Json)) :
    readBack cfg (.obj fs) = (do pure (.obj (← readBackFields cfg fs))) := by
  rw [readBack]

theorem readBack_of_not_obj {v : Json} (notObj : ∀ fs, v ≠ .obj fs) :
    readBack cfg v = Leaf.decode (Leaf.encode cfg v) := by
  cases v with
  | obj fs => exact absurd rfl (notObj fs)
  | _ => rw [readBack]; exact notObj

theorem readBack_obj_ok {fs : List (String × Json)} {R : Json} :
    readBack cfg (.obj fs) = .ok R ↔ ∃ gs, readBackFields cfg fs = .ok gs ∧ R = .obj gs := by
  rw [readBack_obj]
  cases run : readBackFields cfg fs with
  | error e => simp [bind,Except.bind]
  | ok gs => simp [bind,Except.bind,pure,Except.pure,eq_comm]

theorem readBackFields_cons_ok {k : String} {c : Json} {rest gs : List (String × Json)} :
    readBackFields cfg ((k,c) :: rest) = .ok gs ↔
      ∃ d rest', readBack cfg c = .ok d ∧ readBackFields cfg rest = .ok rest' ∧ gs = (k,d) :: rest' := by
  rw [readBackFields]
  cases back : readBack cfg c with
  | error e => simp [bind,Except.bind]
  | ok d =>
    cases others : readBackFields cfg rest with
    | error e => simp [bind,Except.bind]
    | ok rest' => simp [bind,Except.bind,pure,Except.pure,eq_comm]

theorem readBackFields_ok {fs gs : List (String × Json)} (run : readBackFields cfg fs = .ok gs) :
    gs.map (·.1) = fs.map (·.1) ∧ ∀ k c, fs.lookup k = some c → ∃ d, gs.lookup k = some d ∧ readBack cfg c = .ok d := by
  induction fs generalizing gs with
  | nil =>
    simp only [readBackFields,pure,Except.pure,Except.ok.injEq] at run
    subst run
    exact ⟨rfl,fun k c found => by cases found⟩
  | cons kc rest ih =>
    obtain ⟨k',c'⟩ := kc
    obtain ⟨d,rest',back,others,rfl⟩ := readBackFields_cons_ok.1 run
    obtain ⟨names,members⟩ := ih others
    refine ⟨by simp [names],fun k c found => ?_⟩
    rw [lookup_cons_ite] at found
    by_cases same : k = k'
    · subst same
      simp only [if_true,Option.some.injEq] at found
      subst found
      exact ⟨d,by simp,back⟩
    · simp only [same,if_false] at found
      obtain ⟨d',below,back'⟩ := members k c found
      exact ⟨d',by simp [lookup_cons_ite,same,below],back'⟩

/-! ### Two member lists with the same members -/

theorem nodup_of_sorted {fs : List (String × Json)} (sorted : fs.Pairwise (fun a b => a.1 < b.1)) : fs.Nodup :=
  sorted.imp fun lt => ne_of_apply_ne Prod.fst (ne_of_lt lt)

theorem mem_iff_lookup {fs : List (String × Json)} (sorted : fs.Pairwise (fun a b => a.1 < b.1)) (x : String × Json) :
    x ∈ fs ↔ fs.lookup x.1 = some x.2 :=
  ⟨lookup_of_mem sorted,mem_of_lookup⟩

theorem fields_ext {fs gs : List (String × Json)} (sfs : fs.Pairwise (fun a b => a.1 < b.1))
    (sgs : gs.Pairwise (fun a b => a.1 < b.1)) (same : ∀ k, fs.lookup k = gs.lookup k) : fs = gs := by
  have perm : fs.Perm gs := by
    apply (List.perm_ext_iff_of_nodup (nodup_of_sorted sfs) (nodup_of_sorted sgs)).2
    intro x
    rw [mem_iff_lookup sfs,mem_iff_lookup sgs,same]
  exact perm.eq_of_pairwise (fun _ _ _ _ ab ba => absurd (lt_trans ab ba) (lt_irrefl _)) sfs sgs

/-! ### What fits entries -/

variable {e e' : List String → Option Entry} {R : Json}

theorem Fits.congr (fits : Fits cfg e R) (same : ∀ q, e' q = e q) : Fits cfg e' R :=
  ⟨fun q group => by simpa [same] using fits.groups q (by rwa [← same]),
   fun q v value => fits.values q v (by rwa [← same])⟩

theorem Fits.decodes (fits : Fits cfg e R) : Decodes cfg e :=
  fun q v value => (fits.values q v value).imp fun _ found => found.2

theorem Fits.member (fits : Fits cfg e R) {k : String} {d : Json} (found : R.field? k = some d) :
    Fits cfg (fun q => e (k :: q)) d := by
  constructor
  · intro q group
    simpa [at?_cons,found] using fits.groups (k :: q) group
  · intro q v value
    simpa [at?_cons,found] using fits.values (k :: q) v value

theorem Fits.field?_isSome {t : Json} (fits : Fits cfg t.entryAt R) (root : t.entryAt [] = some .group) (k : String) :
    (R.field? k).isSome ↔ (t.field? k).isSome := by
  obtain ⟨fs,found,-,names⟩ := fits.groups [] root
  simp only [at?_nil,Option.some.injEq] at found
  subst found
  simpa [field?,entryAt,at?_cons] using names k

theorem Fits.unique_value {v : Json} (notObj : ∀ fs, v ≠ .obj fs) {R' : Json} (fits : Fits cfg v.entryAt R)
    (fits' : Fits cfg v.entryAt R') : R = R' := by
  have root : v.entryAt [] = some (.value v) := by simp [entry_of_not_obj notObj]
  obtain ⟨w,found,decoded⟩ := fits.values [] v root
  obtain ⟨w',found',decoded'⟩ := fits'.values [] v root
  simp only [at?_nil,Option.some.injEq] at found found'
  rw [found,found',Except.ok.inj (decoded.symm.trans decoded')]

mutual
/-- A tree reads back as at most one object. -/
theorem Fits.unique : ∀ (t : Json) {R R' : Json}, Fits cfg t.entryAt R → Fits cfg t.entryAt R' → R = R'
  | .obj ts, R, R', fits, fits' => by
    obtain ⟨fs,found,sorted,-⟩ := fits.groups [] rfl
    obtain ⟨fs',found',sorted',-⟩ := fits'.groups [] rfl
    simp only [at?_nil,Option.some.injEq] at found found'
    subst found found'
    refine congrArg Json.obj (fields_ext sorted sorted' fun k => ?_)
    cases child : ts.lookup k with
    | none =>
      have gone := (fits.field?_isSome rfl k).not
      have gone' := (fits'.field?_isSome rfl k).not
      simp only [field?,child,Option.isSome_none,Bool.false_eq_true,not_false_eq_true,iff_true,
        Option.not_isSome_iff_eq_none] at gone gone'
      rw [gone,gone']
    | some c =>
      obtain ⟨d,here⟩ := Option.isSome_iff_exists.1 ((fits.field?_isSome rfl k).2 (by simp [field?,child]))
      obtain ⟨d',here'⟩ := Option.isSome_iff_exists.1 ((fits'.field?_isSome rfl k).2 (by simp [field?,child]))
      have below : ∀ q, (Json.obj ts).entryAt (k :: q) = c.entryAt q := fun q => by
        simp [entryAt_cons,field?,child]
      have same := Fits.members ts k child ((fits.member here).congr fun q => (below q).symm)
        ((fits'.member here').congr fun q => (below q).symm)
      simp only [field?] at here here'
      rw [here,here',same]
  | .null, _, _, fits, fits' => Fits.unique_value (by simp) fits fits'
  | .bool _, _, _, fits, fits' => Fits.unique_value (by simp) fits fits'
  | .num _, _, _, fits, fits' => Fits.unique_value (by simp) fits fits'
  | .str _, _, _, fits, fits' => Fits.unique_value (by simp) fits fits'
  | .arr _, _, _, fits, fits' => Fits.unique_value (by simp) fits fits'
/-- The members of an object read back as at most one object each. -/
theorem Fits.members : ∀ (ts : List (String × Json)) (k : String) {c : Json}, ts.lookup k = some c →
    ∀ {d d' : Json}, Fits cfg c.entryAt d → Fits cfg c.entryAt d' → d = d'
  | [], _, _, found => by cases found
  | (k', c') :: rest, k, c, found => by
    rw [lookup_cons_ite] at found
    split at found
    · have same : c' = c := Option.some.inj found
      intro fits fits'
      rw [← same] at fits fits'
      exact Fits.unique c' fits fits'
    · exact Fits.members rest k found
end

/-! ### Reading a tree back -/

theorem readBack_at? {t R : Json} (run : readBack cfg t = .ok R) (q : List String) :
    ∀ j, t.at? q = some j → ∃ d, R.at? q = some d ∧ readBack cfg j = .ok d := by
  induction q generalizing t R with
  | nil =>
    intro j found
    simp only [at?_nil,Option.some.injEq] at found
    subst found
    exact ⟨R,rfl,run⟩
  | cons k q ih =>
    intro j found
    rw [at?_cons] at found
    obtain ⟨c,member,below⟩ := Option.bind_eq_some_iff.1 found
    cases t with
    | obj ts =>
      obtain ⟨gs,fields,rfl⟩ := readBack_obj_ok.1 run
      obtain ⟨d,here,back⟩ := (readBackFields_ok fields).2 k c member
      obtain ⟨d',inner,back'⟩ := ih back j below
      exact ⟨d',by simp [at?_cons,field?,here,inner],back'⟩
    | _ => cases member

theorem readBack_fits {t R : Json} (sorted : t.Sorted) (run : readBack cfg t = .ok R) : Fits cfg t.entryAt R := by
  constructor
  · intro q group
    obtain ⟨ts,found⟩ := entryAt_eq_group.1 group
    obtain ⟨d,here,back⟩ := readBack_at? run q _ found
    obtain ⟨gs,fields,rfl⟩ := readBack_obj_ok.1 back
    obtain ⟨names,members⟩ := readBackFields_ok fields
    refine ⟨gs,here,?_,fun k => ?_⟩
    · have tsSorted := sorted q ts found
      rw [← List.pairwise_map (R := fun a b : String => a < b)] at tsSorted ⊢
      rwa [names]
    · have keys : (gs.lookup k).isSome ↔ (ts.lookup k).isSome := by
        simp only [List.lookup_isSome_iff]
        constructor
        · rintro ⟨p,mem,same⟩
          have : p.1 ∈ ts.map (·.1) := names ▸ List.mem_map_of_mem mem
          obtain ⟨p',mem',eq⟩ := List.mem_map.1 this
          exact ⟨p',mem',by simp_all⟩
        · rintro ⟨p,mem,same⟩
          have : p.1 ∈ gs.map (·.1) := names.symm ▸ List.mem_map_of_mem mem
          obtain ⟨p',mem',eq⟩ := List.mem_map.1 this
          exact ⟨p',mem',by simp_all⟩
      rw [keys]
      simp [entryAt,at?_append,found,at?_cons,field?]
  · intro q v value
    obtain ⟨found,notObj⟩ := entryAt_eq_value.1 value
    obtain ⟨d,here,back⟩ := readBack_at? run q v found
    exact ⟨d,here,(readBack_of_not_obj notObj).symm.trans back⟩

theorem readBack_ok_value {v : Json} (notObj : ∀ fs, v ≠ .obj fs) (decodes : Decodes cfg v.entryAt) :
    ∃ R, readBack cfg v = .ok R := by
  rw [readBack_of_not_obj notObj]
  exact decodes [] v (by simp [entry_of_not_obj notObj])

mutual
/-- A tree whose values all decode reads back. -/
theorem readBack_ok : ∀ (t : Json), t.Sorted → Decodes cfg t.entryAt → ∃ R, readBack cfg t = .ok R
  | .obj ts, sorted, decodes => by
    have members : ∀ k c, (k,c) ∈ ts → c.Sorted ∧ Decodes cfg c.entryAt := fun k c mem =>
      ⟨sorted.member mem,fun q v value => decodes (k :: q) v (by
        simpa [entryAt_cons,field?,lookup_of_mem (sorted [] ts rfl) mem] using value)⟩
    obtain ⟨gs,run⟩ := readBackFields_ok' ts members
    exact ⟨.obj gs,readBack_obj_ok.2 ⟨gs,run,rfl⟩⟩
  | .null, _, decodes => readBack_ok_value (by simp) decodes
  | .bool _, _, decodes => readBack_ok_value (by simp) decodes
  | .num _, _, decodes => readBack_ok_value (by simp) decodes
  | .str _, _, decodes => readBack_ok_value (by simp) decodes
  | .arr _, _, decodes => readBack_ok_value (by simp) decodes
/-- Members whose values all decode read back. -/
theorem readBackFields_ok' : ∀ (ts : List (String × Json)), (∀ k c, (k,c) ∈ ts → c.Sorted ∧ Decodes cfg c.entryAt) →
    ∃ gs, readBackFields cfg ts = .ok gs
  | [], _ => ⟨[],rfl⟩
  | (k,c) :: rest, members => by
    obtain ⟨sorted,decodes⟩ := members k c List.mem_cons_self
    obtain ⟨d,back⟩ := readBack_ok c sorted decodes
    obtain ⟨rest',others⟩ := readBackFields_ok' rest fun k' c' mem => members k' c' (List.mem_cons_of_mem _ mem)
    exact ⟨(k,d) :: rest',readBackFields_cons_ok.2 ⟨d,rest',back,others,rfl⟩⟩
end

/-! ### Putting entries into an object -/

section Folds

variable {α β ε : Type} {f : β → α → Except ε β}

/-- What the steps of a fold keep holds at its end when it succeeds; it may depend on the
elements folded so far. -/
theorem foldlM_invariant (P : List α → β → Prop) (l : List α)
    (step : ∀ done a rest b b', l = done ++ a :: rest → P done b → f b a = .ok b' → P (done ++ [a]) b') :
    ∀ {b b' : β}, P [] b → l.foldlM f b = .ok b' → P l b' := by
  suffices loop : ∀ rest done b b', l = done ++ rest → P done b → rest.foldlM f b = .ok b' → P l b' from
    fun {b b'} start run => loop l [] b b' rfl start run
  intro rest
  induction rest with
  | nil =>
    intro done b b' whole holds run
    simp only [List.foldlM_nil,pure,Except.pure,Except.ok.injEq] at run
    subst run
    simpa [whole] using holds
  | cons a rest ih =>
    intro done b b' whole holds run
    rw [List.foldlM_cons] at run
    cases next : f b a with
    | error e => simp [next,bind,Except.bind] at run
    | ok b₁ =>
      simp only [next,bind,Except.bind] at run
      exact ih (done ++ [a]) b₁ b' (by simp [whole]) (step done a rest b b₁ whole holds next) run

/-- A fold whose every step succeeds and keeps an invariant succeeds. -/
theorem foldlM_ok (P : List α → β → Prop) (l : List α)
    (step : ∀ done a rest b, l = done ++ a :: rest → P done b → ∃ b', f b a = .ok b' ∧ P (done ++ [a]) b') :
    ∀ {b : β}, P [] b → ∃ b', l.foldlM f b = .ok b' ∧ P l b' := by
  suffices loop : ∀ rest done b, l = done ++ rest → P done b → ∃ b', rest.foldlM f b = .ok b' ∧ P l b' from
    fun {b} start => loop l [] b rfl start
  intro rest
  induction rest with
  | nil =>
    intro done b whole holds
    exact ⟨b,rfl,by simpa [whole] using holds⟩
  | cons a rest ih =>
    intro done b whole holds
    obtain ⟨b₁,next,holds₁⟩ := step done a rest b whole holds
    obtain ⟨b',run,final⟩ := ih (done ++ [a]) b₁ (by simp [whole]) holds₁
    exact ⟨b',by simp [List.foldlM_cons,next,bind,Except.bind,run],final⟩

end Folds

theorem insertAt_cons_cons (rel : String) {m inner : List (String × Json)} {s x : String} (xs : List String)
    (leaf : Option Json) (child : (m.lookup s).getD (.obj []) = .obj inner) :
    insertAt rel m (s :: x :: xs) leaf = (do
      let inner ← insertAt rel inner (x :: xs) leaf
      pure (insertField s (.obj inner) m)) := by
  rw [insertAt,child]
  exact List.cons_ne_nil x xs

/-- No value stands on the strict prefixes of a path. -/
def ObjectsAbove (t : Json) (r : List String) : Prop :=
  ∀ q j, q <+: r → q ≠ r → t.at? q = some j → ∃ fs, j = .obj fs

/-- Below a member that is an object or missing, the rest of the path goes into an object. -/
theorem ObjectsAbove.child {m : List (String × Json)} {s : String} {rest : List String}
    (objects : ObjectsAbove (.obj m) (s :: rest)) (ne : rest ≠ []) :
    ∃ inner, (m.lookup s).getD (.obj []) = .obj inner ∧ ObjectsAbove (.obj inner) rest := by
  cases found : m.lookup s with
  | none =>
    refine ⟨[],rfl,fun q j pre _ below => ?_⟩
    cases q with
    | nil => exact ⟨[],(Option.some.inj below).symm⟩
    | cons _ _ => cases below
  | some c =>
    have strict : [s] <+: s :: rest ∧ [s] ≠ s :: rest :=
      ⟨List.cons_prefix_cons.2 ⟨rfl,List.nil_prefix⟩,by simpa using ne.symm⟩
    obtain ⟨inner,rfl⟩ := objects [s] c strict.1 strict.2 (by simp [at?_cons,field?,found])
    refine ⟨inner,rfl,fun q j pre neq below => objects (s :: q) j (List.cons_prefix_cons.2 ⟨rfl,pre⟩) (by simpa using neq) ?_⟩
    simp [at?_cons,field?,found,below]

/-- Below objects, putting a value at a path sets it there. -/
theorem insertAt_some (rel : String) {r : List String} (ne : r ≠ []) (w : Json) :
    ∀ {m : List (String × Json)}, ObjectsAbove (.obj m) r →
      insertAt rel m r (some w) = .ok ((Json.obj m).setAt r w).fields := by
  induction r with
  | nil => exact absurd rfl ne
  | cons s rest ih =>
    intro m objects
    cases rest with
    | nil => rfl
    | cons x xs =>
      obtain ⟨inner,child,below⟩ := objects.child (List.cons_ne_nil x xs)
      rw [insertAt_cons_cons rel xs _ child,ih (List.cons_ne_nil x xs) below]
      simp only [bind,Except.bind,pure,Except.pure,obj_fields_setAt]
      simp [setAt,field?,child,Json.set,Json.fields]

/-- Below objects, putting an empty group at a path makes the missing objects up to it. -/
theorem insertAt_none (rel : String) {r : List String} (ne : r ≠ []) :
    ∀ {m : List (String × Json)}, (Json.obj m).Sorted → ObjectsAbove (.obj m) r →
      insertAt rel m r none = .ok ((Json.obj m).makeGroups r).fields := by
  induction r with
  | nil => exact absurd rfl ne
  | cons s rest ih =>
    intro m sorted objects
    cases rest with
    | nil =>
      cases found : m.lookup s with
      | none => simp [insertAt,found,makeGroups,Json.set,Json.fields,field?,pure,Except.pure]
      | some c =>
        simp [insertAt,found,makeGroups,Json.set,Json.fields,field?,pure,Except.pure,
          insertField_of_lookup (sorted [] m rfl) found]
    | cons x xs =>
      obtain ⟨inner,child,below⟩ := objects.child (List.cons_ne_nil x xs)
      have innerSorted : (Json.obj inner).Sorted := by simpa [field?,child] using sorted.child s
      rw [insertAt_cons_cons rel xs _ child,ih (List.cons_ne_nil x xs) innerSorted below]
      simp only [bind,Except.bind,pure,Except.pure,obj_fields_makeGroups]
      simp [makeGroups,field?,child,Json.set,Json.fields]

/-! ### Putting a decoded value in place -/

variable {e : List String → Option Entry} {R : Json}

theorem fits_of_groups {t : Json} (sorted : t.Sorted) (noValue : ∀ q v, t.entryAt q ≠ some (.value v)) :
    Fits cfg t.entryAt t := by
  constructor
  · intro q group
    obtain ⟨fs,found⟩ := entryAt_eq_group.1 group
    refine ⟨fs,found,sorted q fs found,fun k => ?_⟩
    simp [entryAt,at?_append,found,at?_cons,field?]
  · intro q v value
    exact absurd value (noValue q v)

/-- Putting a decoded value at a free path right below groups reads back as the entries with
that value added. -/
theorem Fits.setAt (fits : Fits cfg e R) {r : List String} (groups : ∀ q, q <+: r → q ≠ r → e q = some .group)
    (free : ∀ q, r <+: q → e q = none) {v w : Json} (decoded : Leaf.decode (Leaf.encode cfg v) = .ok w) :
    Fits cfg (fun q => if q = r then some (.value v) else e q) (R.setAt r w) := by
  constructor
  · intro q group
    have notHere : q ≠ r := by
      rintro rfl
      simp at group
    simp only [notHere,if_false] at group
    have notBelow : ¬ r <+: q := fun below => by simp [free q below] at group
    obtain ⟨fs,found,sorted,names⟩ := fits.groups q group
    by_cases above : q <+: r
    · -- the path goes through this group: its members gain the path's next segment
      obtain ⟨x,rfl⟩ := above
      obtain ⟨k,rest,rfl⟩ := List.exists_cons_of_ne_nil (show x ≠ [] from fun nil => notHere (by simp [nil]))
      refine ⟨_,at?_setAt_below found k rest w,sorted_insertField sorted k _,fun k' => ?_⟩
      rw [lookup_insertField]
      by_cases same : k' = k
      · subst same
        have next : (fun q' => if q' = q ++ k' :: rest then some (Entry.value v) else e q') (q ++ [k']) ≠ none := by
          by_cases last : rest = []
          · simp [last]
          · have strict : q ++ [k'] ≠ q ++ k' :: rest := by simpa using (Ne.symm last)
            simp only [strict,if_false]
            rw [groups (q ++ [k']) ⟨rest,by simp⟩ strict]
            simp
        simpa [Option.isSome_iff_ne_none] using next
      · have differ : q ++ [k'] ≠ q ++ k :: rest := by simp [same]
        simp [same,differ,names k']
    · -- elsewhere the object is untouched
      refine ⟨fs,(at?_setAt_of_apart notBelow above w).trans found,sorted,fun k' => ?_⟩
      have differ : q ++ [k'] ≠ r := fun same => above ⟨[k'],same⟩
      simp [differ,names k']
  · intro q v' value
    by_cases here : q = r
    · subst here
      simp only [if_true,Option.some.injEq,Entry.value.injEq] at value
      subst value
      exact ⟨w,by simp,decoded⟩
    · simp only [here,if_false] at value
      have notBelow : ¬ r <+: q := fun below => by simp [free q below] at value
      have notAbove : ¬ q <+: r := fun above => by simp [groups q above here] at value
      rw [at?_setAt_of_apart notBelow notAbove w]
      exact fits.values q v' value

/-! ### Reading a group -/

/-- One step of the first fold of a group read: the groups up to a group key. -/
def groupStep (path : String) (root : List (String × Json)) (key : String) : Outcome (List (String × Json)) :=
  let rel := RecordKey.relative key path
  if rel.isEmpty then pure root else insertAt rel root (RecordPath.parts rel) none

/-- One step of the second fold of a group read: a stored value decoded and put in place. -/
def leafStep (path : String) (root : List (String × Json)) (kv : String × ByteArray) :
    Outcome (List (String × Json)) := do
  let rel := RecordKey.relative kv.1 path
  if rel.isEmpty then pure root
  else
    let v ← Leaf.decode kv.2
    insertAt rel root (RecordPath.parts rel) (some v)

theorem subtree_eq (ps : Pairs) (path : String) :
    subtree ps path = (do
      let root ← (ps.keysWith (childPrefix "g" path)).foldlM (groupStep path) []
      let root ← (ps.filter (fun kv => kv.1.startsWith (childPrefix "v" path))).foldlM (leafStep path) root
      pure (.obj root)) := rfl

variable {ps : Pairs} {t : Json} {Q : List String}

/-- The keys of one kind stored below a group, by their paths relative to it. -/
theorem Stores.mem_keysWith (stores : Stores cfg t ps) (vQ : Valid Q) {kind : String} (kinds : kind = "g" ∨ kind = "v")
    (k : String) :
    k ∈ ps.keysWith (childPrefix kind (ofSegments Q)) ↔
      ∃ r, (Q = [] ∨ r ≠ []) ∧ Valid (Q ++ r) ∧ k = kind ++ ofSegments (Q ++ r) ∧ (ps.get? k).isSome := by
  rw [Pairs.mem_keysWith]
  constructor
  · rintro ⟨pre,present⟩
    obtain ⟨q,vq,shape⟩ := stores.shaped k present
    -- the kind letter of the prefix is the key's
    have kindKey : k = kind ++ ofSegments q := by
      rcases kinds with rfl | rfl <;> rcases shape with rfl | rfl
      · rfl
      · exact absurd pre (Scope.not_prefix_group_leaf _ _)
      · exact absurd pre (Scope.not_prefix_leaf_group _ _)
      · rfl
    subst kindKey
    by_cases root : Q = []
    · subst root
      exact ⟨q,.inl rfl,by simpa using vq,by simp,present⟩
    · obtain ⟨r,rne,rfl⟩ := (prefix_childPrefix_iff vQ vq root).1 pre
      exact ⟨r,.inr rne,vq,rfl,present⟩
  · rintro ⟨r,below,valid,rfl,present⟩
    refine ⟨?_,present⟩
    by_cases root : Q = []
    · subst root
      simp [ofSegments_nil,childPrefix_root]
    · exact (prefix_childPrefix_iff vQ valid root).2 ⟨r,below.resolve_left root,rfl⟩

theorem key_inj {kind : String} {a b : List String} (va : Valid (Q ++ a)) (vb : Valid (Q ++ b))
    (same : kind ++ ofSegments (Q ++ a) = kind ++ ofSegments (Q ++ b)) : a = b :=
  List.append_cancel_left (ofSegments_injective va vb ((String.append_right_inj kind).1 same))

theorem ObjectsAbove.of_noValue {j : Json} (noValue : ∀ q v, j.entryAt q ≠ some (.value v)) (r : List String) :
    ObjectsAbove j r := by
  intro q i _ _ found
  have notValue := noValue q i
  cases i with
  | obj fs => exact ⟨fs,rfl⟩
  | _ => simp [entryAt,found,entry] at notValue

/-- What the first fold of a group read has built once it has taken the group keys `done`: a
sorted object of groups alone, with a group on every path up to one of those keys. -/
structure GroupsSoFar (Q done : List String) (m : List (String × Json)) : Prop where
  sorted : (Json.obj m).Sorted
  noValue : ∀ r v, (Json.obj m).entryAt r ≠ some (.value v)
  groups : ∀ r, ((Json.obj m).entryAt r).isSome ↔
    r = [] ∨ ∃ r', Valid (Q ++ r') ∧ group (ofSegments (Q ++ r')) ∈ done ∧ r <+: r'

theorem groupsSoFar_nil : GroupsSoFar Q [] [] := by
  refine ⟨fun q fs found => ?_,fun r v => ?_,fun r => ?_⟩
  · cases q with
    | nil => cases found; exact List.Pairwise.nil
    | cons _ _ => cases found
  · cases r <;> simp [entry,entryAt_obj_nil_cons]
  · cases r <;> simp [entryAt_obj_nil_cons]

/-- Taking a group key makes the groups up to its path. -/
theorem groupStep_spec (stores : Stores cfg t ps) (vQ : Valid Q) {done : List String} {m : List (String × Json)}
    (holds : GroupsSoFar Q done m) {k : String} (mem : k ∈ ps.keysWith (childPrefix "g" (ofSegments Q))) :
    ∃ m', groupStep (ofSegments Q) m k = .ok m' ∧ GroupsSoFar Q (done ++ [k]) m' := by
  obtain ⟨r,below,valid,rfl,-⟩ := (stores.mem_keysWith vQ (.inl rfl) k).1 mem
  have vr : Valid r := (valid_append.1 valid).2
  have rel : relative ("g" ++ ofSegments (Q ++ r)) (ofSegments Q) = ofSegments r := relative_append rfl vQ below
  -- a path up to the new key is a prefix of `r`
  have taken : ∀ q, (∃ r', Valid (Q ++ r') ∧ group (ofSegments (Q ++ r')) ∈ done ++ ["g" ++ ofSegments (Q ++ r)] ∧
      q <+: r') ↔ (∃ r', Valid (Q ++ r') ∧ group (ofSegments (Q ++ r')) ∈ done ∧ q <+: r') ∨ q <+: r := by
    intro q
    constructor
    · rintro ⟨r',v',mem',pre⟩
      rcases List.mem_append.1 mem' with old | new
      · exact .inl ⟨r',v',old,pre⟩
      · rw [key_inj v' valid (List.mem_singleton.1 new)] at pre
        exact .inr pre
    · rintro (⟨r',v',old,pre⟩ | pre)
      · exact ⟨r',v',List.mem_append_left _ old,pre⟩
      · exact ⟨r,valid,by simp [group],pre⟩
  by_cases root : r = []
  · -- the key of the group itself adds nothing
    subst root
    simp only [List.append_nil] at rel
    refine ⟨m,by simp [groupStep,rel,ofSegments_nil,pure,Except.pure],holds.sorted,holds.noValue,fun q => ?_⟩
    rw [holds.groups q,taken q]
    constructor
    · rintro (nil | old)
      · exact .inl nil
      · exact .inr (.inl old)
    · rintro (nil | old | pre)
      · exact .inl nil
      · exact .inr old
      · exact .inl (List.prefix_nil.1 pre)
  · obtain ⟨x,xs,rfl⟩ := List.exists_cons_of_ne_nil root
    have clear : ∀ q, q <+: x :: xs → ∀ v, (Json.obj m).entryAt q ≠ some (.value v) := fun q _ => holds.noValue q
    refine ⟨((Json.obj m).makeGroups (x :: xs)).fields,?_,?_⟩
    · simp [groupStep,rel,isEmpty_ofSegments vr,parts_ofSegments vr root,
        insertAt_none _ root holds.sorted (ObjectsAbove.of_noValue holds.noValue _)]
    · refine ⟨?_,fun q v => ?_,fun q => ?_⟩
      · rw [obj_fields_makeGroups]
        exact holds.sorted.makeGroups _
      · rw [obj_fields_makeGroups,entryAt_makeGroups clear]
        split
        · simp
        · exact holds.noValue q v
      · rw [obj_fields_makeGroups,entryAt_makeGroups clear,taken q]
        by_cases pre : q <+: x :: xs
        · simp [pre]
        · simp only [pre,if_false,holds.groups q,or_false]

/-- Every path up to a group key below `Q` holds a group of the tree, and every group has
its key. -/
theorem groups_covered (stores : Stores cfg t ps) (wf : t.WellFormed) (vQ : Valid Q) (group : t.entryAt Q = some .group)
    (r : List String) :
    (r = [] ∨ ∃ r', Valid (Q ++ r') ∧ RecordKey.group (ofSegments (Q ++ r')) ∈ ps.keysWith (childPrefix "g" (ofSegments Q)) ∧
      r <+: r') ↔ t.entryAt (Q ++ r) = some .group := by
  constructor
  · rintro (rfl | ⟨r',v',mem,x,rfl⟩)
    · simpa using group
    · obtain ⟨-,present⟩ := Pairs.mem_keysWith.1 mem
      obtain ⟨fs,found⟩ := entryAt_eq_group.1 ((stores.groups _ v').1 present)
      by_cases nil : x = []
      · subst nil
        simpa using (stores.groups _ v').1 present
      · rw [← List.append_assoc] at found
        exact entryAt_eq_group.2 (at?_above_obj found nil)
  · intro here
    by_cases root : r = []
    · exact .inl root
    · have valid : Valid (Q ++ r) := named_iff.1 wf.named _ (by simp [here])
      refine .inr ⟨r,valid,?_,List.prefix_refl r⟩
      exact (stores.mem_keysWith vQ (.inl rfl) _).2 ⟨r,.inr root,valid,rfl,(stores.groups _ valid).2 here⟩

/-- The first fold of a group read builds the tree's groups below it. -/
theorem groups_fold (stores : Stores cfg t ps) (wf : t.WellFormed) (vQ : Valid Q) (group : t.entryAt Q = some .group) :
    ∃ m, (ps.keysWith (childPrefix "g" (ofSegments Q))).foldlM (groupStep (ofSegments Q)) [] = .ok m ∧
      (Json.obj m).Sorted ∧ ∀ r, (Json.obj m).entryAt r = (t.entryAt (Q ++ r)).filter Entry.isGroup := by
  obtain ⟨m,run,holds⟩ := foldlM_ok (fun done m => GroupsSoFar Q done m) (ps.keysWith (childPrefix "g" (ofSegments Q)))
    (fun done k rest m whole holds => groupStep_spec stores vQ holds (by rw [whole]; exact List.mem_append_right _ List.mem_cons_self)) groupsSoFar_nil
  refine ⟨m,run,holds.sorted,fun r => ?_⟩
  have covered := (holds.groups r).trans (groups_covered stores wf vQ group r)
  cases entry : t.entryAt (Q ++ r) with
  | none => simpa [entry] using covered
  | some x =>
    cases x with
    | group =>
      obtain ⟨y,found⟩ := Option.isSome_iff_exists.1 (covered.2 entry)
      cases y with
      | group => simpa [Option.filter_some,Entry.isGroup] using found
      | value v => exact absurd found (holds.noValue r v)
    | value v => simpa [entry,Option.filter_some,Entry.isGroup] using covered

/-- The entries below `Q` that a group read has put once it has decoded the values stored under
the keys `done`: every group, and those values. -/
def readSoFar (t : Json) (Q done : List String) (r : List String) : Option Entry :=
  (t.entryAt (Q ++ r)).filter fun x => x.isGroup || decide (leaf (ofSegments (Q ++ r)) ∈ done)

/-- A stored value below a group: its key, its path relative to the group, and its value in the
tree. -/
theorem Stores.leaf_below (stores : Stores cfg t ps) (vQ : Valid Q) (atGroup : t.entryAt Q = some .group)
    {kv : String × ByteArray} (mem : kv ∈ ps) (pre : kv.1.startsWith (childPrefix "v" (ofSegments Q)) = true) :
    ∃ r v, r ≠ [] ∧ Valid (Q ++ r) ∧ kv.1 = leaf (ofSegments (Q ++ r)) ∧ t.entryAt (Q ++ r) = some (.value v) ∧
      kv.2 = Leaf.encode cfg v := by
  have present : ps.get? kv.1 = some kv.2 := Pairs.get?_of_mem stores.sorted mem
  obtain ⟨r,-,valid,key,-⟩ := (stores.mem_keysWith vQ (.inr rfl) kv.1).1
    (Pairs.mem_keysWith.2 ⟨String.startsWith_string_iff.1 pre,by simp [present]⟩)
  have stored := stores.values _ valid
  rw [show leaf (ofSegments (Q ++ r)) = kv.1 from key.symm,present] at stored
  cases entry : t.entryAt (Q ++ r) with
  | none => simp [entry,valueBytes] at stored
  | some x =>
    cases x with
    | group => simp [entry,valueBytes] at stored
    | value v =>
      simp only [entry,valueBytes,Option.some.injEq] at stored
      have rne : r ≠ [] := by
        rintro rfl
        simp [atGroup] at entry
      exact ⟨r,v,rne,valid,key,entry,stored⟩

/-- Taking a stored value decodes it and puts it in place; it fails only when the value does not
decode. -/
theorem leafStep_spec (stores : Stores cfg t ps) (wf : t.WellFormed) (vQ : Valid Q) (atGroup : t.entryAt Q = some .group)
    {done : List String} {kv : String × ByteArray} (mem : kv ∈ ps)
    (pre : kv.1.startsWith (childPrefix "v" (ofSegments Q)) = true) (fresh : kv.1 ∉ done) {m : List (String × Json)}
    (fits : Fits cfg (readSoFar t Q done) (.obj m)) :
    (∀ m', leafStep (ofSegments Q) m kv = .ok m' → Fits cfg (readSoFar t Q (done ++ [kv.1])) (.obj m')) ∧
    (Decodes cfg (fun r => t.entryAt (Q ++ r)) → ∃ m', leafStep (ofSegments Q) m kv = .ok m') := by
  obtain ⟨r,v,rne,valid,key,value,bytes⟩ := stores.leaf_below vQ atGroup mem pre
  have vr : Valid r := (valid_append.1 valid).2
  have rel : relative kv.1 (ofSegments Q) = ofSegments r := by rw [key]; exact relative_append rfl vQ (.inr rne)
  obtain ⟨found,notObj⟩ := entryAt_eq_value.1 value
  -- the groups above the value are in place, and nothing is at or below it yet
  have above : ∀ q, q <+: r → q ≠ r → readSoFar t Q done q = some .group := by
    rintro q ⟨x,rfl⟩ ne
    have xne : x ≠ [] := fun nil => ne (by simp [nil])
    rw [← List.append_assoc] at found
    obtain ⟨fs,here⟩ := at?_above_obj found xne
    simp [readSoFar,entryAt,here,entry,Option.filter_some,Entry.isGroup]
  have free : ∀ q, r <+: q → readSoFar t Q done q = none := by
    rintro q ⟨x,rfl⟩
    cases x with
    | nil => simp [readSoFar,value,Option.filter_some,Entry.isGroup,← key,fresh]
    | cons y ys =>
      have missing : t.entryAt (Q ++ (r ++ y :: ys)) = none := by
        rw [← List.append_assoc,← entryAt_below found]
        exact entryAt_cons_of_not_obj notObj y ys
      simp [readSoFar,missing]
  have objects : ObjectsAbove (.obj m) r := fun q j pre' ne found' => by
    obtain ⟨fs,here,-⟩ := fits.groups q (above q pre' ne)
    rw [here] at found'
    exact ⟨fs,(Option.some.inj found').symm⟩
  -- the step decodes the value and sets it at its path
  have step : ∀ w, Leaf.decode (Leaf.encode cfg v) = .ok w → leafStep (ofSegments Q) m kv = .ok ((Json.obj m).setAt r w).fields := by
    intro w decoded
    simp [leafStep,rel,isEmpty_ofSegments vr,rne,parts_ofSegments vr rne,bytes,decoded,bind,Except.bind,
      insertAt_some _ rne _ objects]
  have fails : ∀ e, Leaf.decode (Leaf.encode cfg v) = .error e → leafStep (ofSegments Q) m kv = .error e := by
    intro e failed
    simp [leafStep,rel,isEmpty_ofSegments vr,rne,bytes,failed,bind,Except.bind]
  constructor
  · intro m' run
    cases decoded : Leaf.decode (Leaf.encode cfg v) with
    | error e => rw [fails e decoded] at run; cases run
    | ok w =>
      rw [step w decoded,Except.ok.injEq] at run
      subst run
      obtain ⟨x,xs,rfl⟩ := List.exists_cons_of_ne_nil rne
      rw [obj_fields_setAt]
      refine (fits.setAt above free decoded).congr fun q => ?_
      by_cases here : q = x :: xs
      · subst here
        simp [readSoFar,value,Option.filter_some,Entry.isGroup,← key]
      · simp only [here,if_false,readSoFar]
        -- the value key of another path is not the new key
        cases entry : t.entryAt (Q ++ q) with
        | none => rfl
        | some y =>
          have vq : Valid (Q ++ q) := named_iff.1 wf.named _ (by simp [entry])
          have differ : leaf (ofSegments (Q ++ q)) ≠ kv.1 := by
            rw [key]
            exact fun same => here (key_inj vq valid same)
          simp [differ]
  · intro decodes
    obtain ⟨w,decoded⟩ := decodes r v value
    exact ⟨_,step w decoded⟩

/-- The second fold of a group read decodes every value below it: when it succeeds the object
fits the entries, and it succeeds when every value decodes. -/
theorem leaves_fold (stores : Stores cfg t ps) (wf : t.WellFormed) (vQ : Valid Q) (atGroup : t.entryAt Q = some .group)
    {m₀ : List (String × Json)} (start : Fits cfg (readSoFar t Q []) (.obj m₀)) :
    (∀ m, (ps.filter (fun kv => kv.1.startsWith (childPrefix "v" (ofSegments Q)))).foldlM (leafStep (ofSegments Q)) m₀ =
        .ok m → Fits cfg (fun r => t.entryAt (Q ++ r)) (.obj m)) ∧
    (Decodes cfg (fun r => t.entryAt (Q ++ r)) →
      ∃ m, (ps.filter (fun kv => kv.1.startsWith (childPrefix "v" (ofSegments Q)))).foldlM (leafStep (ofSegments Q)) m₀ =
        .ok m) := by
  have keys : ((ps.filter (fun kv => kv.1.startsWith (childPrefix "v" (ofSegments Q)))).map (·.1)).Nodup :=
    (List.pairwise_map.2 (stores.sorted.sublist List.filter_sublist)).imp ne_of_lt
  -- the value taken next is in the database, below the group, and not taken before
  have next : ∀ done kv rest, ps.filter (fun kv => kv.1.startsWith (childPrefix "v" (ofSegments Q))) = done ++ kv :: rest →
      kv ∈ ps ∧ kv.1.startsWith (childPrefix "v" (ofSegments Q)) = true ∧ kv.1 ∉ done.map (·.1) := by
    intro done kv rest whole
    have member : kv ∈ ps.filter (fun kv => kv.1.startsWith (childPrefix "v" (ofSegments Q))) := by
      rw [whole]; exact List.mem_append_right _ List.mem_cons_self
    obtain ⟨mem,pre⟩ := List.mem_filter.1 member
    refine ⟨mem,pre,fun taken => ?_⟩
    rw [whole,List.map_append,List.map_cons] at keys
    exact (List.nodup_append.1 keys).2.2 _ taken _ List.mem_cons_self rfl
  have all : ∀ r, readSoFar t Q ((ps.filter (fun kv => kv.1.startsWith (childPrefix "v" (ofSegments Q)))).map (·.1)) r =
      t.entryAt (Q ++ r) := by
    intro r
    cases entry : t.entryAt (Q ++ r) with
    | none => simp [readSoFar,entry]
    | some x =>
      cases x with
      | group => simp [readSoFar,entry,Option.filter_some,Entry.isGroup]
      | value v =>
        have valid : Valid (Q ++ r) := named_iff.1 wf.named _ (by simp [entry])
        have rne : r ≠ [] := by
          rintro rfl
          simp [atGroup] at entry
        have stored : (ps.get? (leaf (ofSegments (Q ++ r)))).isSome := by simp [stores.values _ valid,entry,valueBytes]
        obtain ⟨bytes,mem⟩ := Pairs.get?_isSome_iff.1 stored
        have pre := (Pairs.mem_keysWith.1 ((stores.mem_keysWith vQ (.inr rfl) _).2 ⟨r,.inr rne,valid,rfl,stored⟩)).1
        have taken : leaf (ofSegments (Q ++ r)) ∈ (ps.filter (fun kv => kv.1.startsWith (childPrefix "v" (ofSegments Q)))).map (·.1) :=
          List.mem_map.2 ⟨_,List.mem_filter.2 ⟨mem,String.startsWith_string_iff.2 pre⟩,rfl⟩
        simp [readSoFar,entry,Option.filter_some,taken]
  constructor
  · intro m run
    refine (foldlM_invariant (fun (done : List (String × ByteArray)) m => Fits cfg (readSoFar t Q (done.map (·.1))) (.obj m)) _
      (fun done kv rest b b' whole holds step => ?_) start run).congr fun r => (all r).symm
    obtain ⟨mem,pre,fresh⟩ := next done kv rest whole
    simpa using (leafStep_spec stores wf vQ atGroup mem pre fresh holds).1 b' step
  · intro decodes
    have steps : ∀ done kv rest b,
        ps.filter (fun kv => kv.1.startsWith (childPrefix "v" (ofSegments Q))) = done ++ kv :: rest →
        Fits cfg (readSoFar t Q (done.map (·.1))) (.obj b) →
        ∃ b', leafStep (ofSegments Q) b kv = .ok b' ∧ Fits cfg (readSoFar t Q ((done ++ [kv]).map (·.1))) (.obj b') := by
      intro done kv rest b whole holds
      obtain ⟨mem,pre,fresh⟩ := next done kv rest whole
      obtain ⟨checks,runs⟩ := leafStep_spec stores wf vQ atGroup mem pre fresh holds
      obtain ⟨b',step⟩ := runs decodes
      exact ⟨b',step,by simpa using checks b' step⟩
    obtain ⟨m,run,-⟩ := foldlM_ok (fun (done : List (String × ByteArray)) m => Fits cfg (readSoFar t Q (done.map (·.1))) (.obj m)) _
      steps start
    exact ⟨m,run⟩

/-- A group of a tree held by the pairs reads as an object that fits it, and it reads whenever
every value below it decodes. -/
theorem subtree_spec (stores : Stores cfg t ps) (wf : t.WellFormed) (vQ : Valid Q) {ts : List (String × Json)}
    (found : t.at? Q = some (.obj ts)) :
    (∀ R, subtree ps (ofSegments Q) = .ok R → Fits cfg (Json.obj ts).entryAt R) ∧
    (Decodes cfg (Json.obj ts).entryAt → ∃ R, subtree ps (ofSegments Q) = .ok R) := by
  have atGroup : t.entryAt Q = some .group := entryAt_eq_group.2 ⟨ts,found⟩
  have below := entryAt_below found
  obtain ⟨m₀,groupsRun,sorted₀,entries₀⟩ := groups_fold stores wf vQ atGroup
  have start : Fits cfg (readSoFar t Q []) (.obj m₀) := by
    refine (fits_of_groups sorted₀ fun q v value => ?_).congr fun r => ?_
    · rw [entries₀] at value
      cases entry : t.entryAt (Q ++ q) with
      | none => simp [entry] at value
      | some x => cases x <;> simp [entry,Option.filter_some,Entry.isGroup] at value
    · simp [readSoFar,entries₀]
  obtain ⟨fitsAll,decodesAll⟩ := leaves_fold stores wf vQ atGroup start
  constructor
  · intro R run
    rw [subtree_eq,groupsRun] at run
    cases leavesRun : (ps.filter (fun kv => kv.1.startsWith (childPrefix "v" (ofSegments Q)))).foldlM
        (leafStep (ofSegments Q)) m₀ with
    | error e => simp [leavesRun,bind,Except.bind] at run
    | ok m =>
      simp only [leavesRun,bind,Except.bind,pure,Except.pure,Except.ok.injEq] at run
      subst run
      exact (fitsAll m leavesRun).congr below
  · intro decodes
    obtain ⟨m,leavesRun⟩ := decodesAll fun q v value => decodes q v (by rwa [below])
    exact ⟨.obj m,by simp [subtree_eq,groupsRun,leavesRun,bind,Except.bind,pure,Except.pure]⟩

/-- A group reads as its object read back: the two fail together, and otherwise agree. -/
theorem subtree_toOption (stores : Stores cfg t ps) (wf : t.WellFormed) (vQ : Valid Q) {ts : List (String × Json)}
    (found : t.at? Q = some (.obj ts)) :
    (subtree ps (ofSegments Q)).toOption = (readBack cfg (.obj ts)).toOption := by
  obtain ⟨fits,reads⟩ := subtree_spec stores wf vQ found
  have sorted : (Json.obj ts).Sorted := wf.sorted.below found
  cases run : subtree ps (ofSegments Q) with
  | ok R =>
    obtain ⟨R',back⟩ := readBack_ok _ sorted (fits R run).decodes
    rw [back,Fits.unique _ (fits R run) (readBack_fits sorted back)]
  | error e =>
    cases back : readBack cfg (.obj ts) with
    | ok R' =>
      obtain ⟨R,again⟩ := reads (readBack_fits sorted back).decodes
      rw [run] at again
      cases again
    | error e' => rfl

/-! ### Listing a group -/

theorem drop_childPrefix {kind : String} (single : kind.length = 1) (k parent : String) :
    String.ofList (k.toList.drop (childPrefix kind parent).length) = relative k parent := by
  unfold childPrefix relative
  split
  · simp [single]
  · have size : (kind ++ parent ++ "/").length = parent.length + 2 := by
      simp only [String.length_append,single]
      have slash : "/".length = 1 := rfl
      omega
    simp [size]

theorem single_iff {r : List String} (valid : Valid r) :
    ¬ ((ofSegments r).isEmpty = true ∨ (ofSegments r).contains '/' = true) ↔ ∃ n, r = [n] := by
  match r with
  | [] => simp [ofSegments_nil]
  | [n] =>
    obtain ⟨nonEmpty,-,-,noSlash⟩ := valid n (List.mem_singleton_self n)
    have empty : n.isEmpty = false := String.isEmpty_eq_false_iff.2 nonEmpty
    have slash : n.contains '/' = false := by
      rw [String.contains_char_eq]
      simpa using noSlash
    rw [ofSegments_singleton,empty,slash]
    simp
  | a :: b :: rest =>
    have slash : (ofSegments (a :: b :: rest)).contains '/' = true := by
      rw [show a :: b :: rest = [a] ++ (b :: rest) from rfl,ofSegments_append (List.cons_ne_nil _ _) (List.cons_ne_nil _ _)]
      simp [String.contains_char_eq]
    constructor
    · intro single
      exact absurd (.inr slash) single
    · rintro ⟨n,same⟩
      cases same

/-- The names a group lists of one kind are the segments below it that have a key of that
kind. -/
theorem Stores.mem_childNames (stores : Stores cfg t ps) (vQ : Valid Q) {kind : String} (kinds : kind = "g" ∨ kind = "v")
    (n : String) :
    n ∈ childNames ps kind (ofSegments Q) ↔ Segment n ∧ (ps.get? (kind ++ ofSegments (Q ++ [n]))).isSome := by
  have single : kind.length = 1 := by rcases kinds with rfl | rfl <;> rfl
  simp only [childNames,List.mem_eraseDups,(List.mergeSort_perm _ _).mem_iff,List.mem_filterMap,drop_childPrefix single]
  constructor
  · rintro ⟨k,mem,named⟩
    obtain ⟨r,below,valid,rfl,present⟩ := (stores.mem_keysWith vQ kinds k).1 mem
    rw [relative_append single vQ below] at named
    split at named
    · cases named
    · rename_i one
      obtain ⟨n',rfl⟩ := (single_iff (valid_append.1 valid).2).1 one
      simp only [ofSegments_singleton,Option.some.injEq] at named
      subst named
      exact ⟨(valid_append.1 valid).2 n' (List.mem_singleton_self _),present⟩
  · rintro ⟨seg,present⟩
    have vn : Valid [n] := fun s mem => (List.mem_singleton.1 mem) ▸ seg
    have valid : Valid (Q ++ [n]) := valid_append.2 ⟨vQ,vn⟩
    refine ⟨_,(stores.mem_keysWith vQ kinds _).2 ⟨[n],.inr (List.cons_ne_nil _ _),valid,rfl,present⟩,?_⟩
    rw [relative_append single vQ (.inr (List.cons_ne_nil _ _)),if_neg ((single_iff vn).2 ⟨n,rfl⟩),ofSegments_singleton]

/-- Dropping repeats from a list in order leaves it strictly in order. -/
theorem eraseDups_sorted : ∀ (l : List String), l.Pairwise (· ≤ ·) → l.eraseDups.Pairwise (· < ·)
  | [], _ => by simp
  | a :: as, sorted => by
    rw [List.eraseDups_cons]
    have tail := eraseDups_sorted (as.filter fun b => !b == a) ((List.pairwise_cons.1 sorted).2.sublist List.filter_sublist)
    refine List.Pairwise.cons (fun b mem => ?_) tail
    obtain ⟨inAs,differ⟩ := List.mem_filter.1 (List.mem_eraseDups.1 mem)
    refine lt_of_le_of_ne ((List.pairwise_cons.1 sorted).1 b inAs) fun same => ?_
    subst same
    simp at differ
termination_by l => l.length
decreasing_by
  simp only [List.length_cons]
  exact Nat.lt_succ_of_le (List.length_filter_le _ _)

theorem childNames_sorted (ps : Pairs) (kind parent : String) : (childNames ps kind parent).Pairwise (· < ·) := by
  apply eraseDups_sorted
  refine (List.pairwise_mergeSort (fun a b c ab bc => ?_) (fun a b => ?_) _).imp fun le => by simpa using le
  · simp only [decide_eq_true_eq] at ab bc ⊢
    exact le_trans ab bc
  · simpa using le_total a b

/-- The names right below an object of a tree: of its values, and of its groups. -/
def names (fs : List (String × Json)) : List String × List String :=
  ((fs.filter (fun kv => !kv.2.isObj)).map (·.1), (fs.filter (·.2.isObj)).map (·.1))

theorem mem_names {fs : List (String × Json)} (sorted : fs.Pairwise (fun a b => a.1 < b.1)) (kind : Bool) (n : String) :
    n ∈ (fs.filter (fun kv => kv.2.isObj == kind)).map (·.1) ↔ ∃ c, fs.lookup n = some c ∧ c.isObj = kind := by
  simp only [List.mem_map,List.mem_filter,beq_iff_eq]
  constructor
  · rintro ⟨⟨k,c⟩,⟨mem,kindOf⟩,rfl⟩
    exact ⟨c,lookup_of_mem sorted mem,kindOf⟩
  · rintro ⟨c,found,kindOf⟩
    exact ⟨(n,c),⟨mem_of_lookup found,kindOf⟩,rfl⟩

/-- The names listed below a group of a tree held by the pairs are the object's own, the values'
and the groups' apart, each in order. -/
theorem Stores.childNames_eq (stores : Stores cfg t ps) (wf : t.WellFormed) (vQ : Valid Q) {ts : List (String × Json)}
    (found : t.at? Q = some (.obj ts)) :
    (childNames ps "v" (ofSegments Q), childNames ps "g" (ofSegments Q)) = names ts := by
  have sorted := wf.sorted Q ts found
  have sortedNames : ∀ kind : Bool, ((ts.filter (fun kv => kv.2.isObj == kind)).map (·.1)).Pairwise (· < ·) :=
    fun kind => List.pairwise_map.2 (sorted.sublist List.filter_sublist)
  -- a name of the object is a segment with the key of its entry's kind
  have listed : ∀ (kind : Bool) n, (∃ c, ts.lookup n = some c ∧ c.isObj = kind) ↔
      Segment n ∧ (ps.get? ((if kind then "g" else "v") ++ ofSegments (Q ++ [n]))).isSome := by
    intro kind n
    constructor
    · rintro ⟨c,member,kindOf⟩
      have here : t.at? (Q ++ [n]) = some c := by simp [at?_append,found,at?_cons,field?,member]
      have valid := wf.named _ _ here
      refine ⟨(valid_append.1 valid).2 n (List.mem_singleton_self n),?_⟩
      cases kind with
      | true =>
        obtain ⟨fs,rfl⟩ : ∃ fs, c = .obj fs := by cases c <;> simp_all [Json.isObj]
        exact (stores.groups _ valid).2 (entryAt_eq_group.2 ⟨_,here⟩)
      | false =>
        have notObj : ∀ fs, c ≠ .obj fs := by
          rintro fs rfl
          simp [Json.isObj] at kindOf
        show (ps.get? (leaf (ofSegments (Q ++ [n])))).isSome = true
        simp [stores.values _ valid,entryAt,here,entry_of_not_obj notObj,valueBytes]
    · rintro ⟨seg,present⟩
      have valid : Valid (Q ++ [n]) := valid_append.2 ⟨vQ,fun s mem => (List.mem_singleton.1 mem) ▸ seg⟩
      have child : ∀ j, t.at? (Q ++ [n]) = some j → ts.lookup n = some j := fun j here => by
        simpa [at?_append,found,at?_cons,field?] using here
      cases kind with
      | true =>
        obtain ⟨fs,here⟩ := entryAt_eq_group.1 ((stores.groups _ valid).1 present)
        exact ⟨_,child _ here,rfl⟩
      | false =>
        obtain ⟨v,value⟩ := (stores.contains_leaf valid).1 present
        obtain ⟨here,notObj⟩ := entryAt_eq_value.1 value
        refine ⟨v,child v here,?_⟩
        cases v with
        | obj fs => exact absurd rfl (notObj fs)
        | _ => rfl
  have values : childNames ps "v" (ofSegments Q) = (ts.filter (fun kv => kv.2.isObj == false)).map (·.1) :=
    (childNames_sorted ps "v" _).eq_of_mem_iff (sortedNames false) fun n => by
      rw [stores.mem_childNames vQ (.inr rfl),mem_names sorted,listed false]
      rfl
  have groups : childNames ps "g" (ofSegments Q) = (ts.filter (fun kv => kv.2.isObj == true)).map (·.1) :=
    (childNames_sorted ps "g" _).eq_of_mem_iff (sortedNames true) fun n => by
      rw [stores.mem_childNames vQ (.inl rfl),mem_names sorted,listed true]
      rfl
  rw [values,groups]
  simp [names]

/-! ### Reading a path -/

/-- What a path of a tree reads back as: nothing where the tree has no entry. -/
def readAt (cfg : StorageConfig) (t : Json) (q : List String) : Outcome (Option Json) :=
  match t.at? q with
  | some j => some <$> readBack cfg j
  | none => pure none

/-- Listing a path of a tree: the names below an object, and an error anywhere else. -/
def listAt (record : String) (t : Json) (q : List String) : Outcome (List String × List String) :=
  match t.at? q with
  | some (.obj fs) => pure (names fs)
  | _ => throw (.notFound s!"group '{ofSegments q}' in record {record}")

theorem readOpt_toOption (stores : Stores cfg t ps) (wf : t.WellFormed) (vQ : Valid Q) :
    (readOpt ps (ofSegments Q)).toOption = (readAt cfg t Q).toOption := by
  have values := stores.values Q vQ
  have groups := stores.contains_group vQ
  cases found : t.at? Q with
  | none =>
    have missing : t.entryAt Q = none := by simp [entryAt,found]
    have noGroup : ps.contains (group (ofSegments Q)) = false := by simpa [missing] using groups
    simp [readOpt,readAt,found,values,missing,valueBytes,noGroup]
  | some j =>
    cases j with
    | obj ts =>
      have here : t.entryAt Q = some .group := entryAt_eq_group.2 ⟨ts,found⟩
      have isGroup : ps.contains (group (ofSegments Q)) = true := groups.2 here
      have same := subtree_toOption stores wf vQ found
      simp only [readOpt,readAt,found,values,here,valueBytes,isGroup,if_true]
      cases run : subtree ps (ofSegments Q) <;> cases back : readBack cfg (.obj ts) <;>
        simp_all [Functor.map,Except.map,Except.toOption]
    | _ =>
      simp [readOpt,readAt,found,values,entryAt,entry,valueBytes,readBack_of_not_obj]

end JobFlow.RecordTree

namespace JobFlow.Record

open RecordPath RecordTree Json

variable {cfg : StorageConfig} {t : Json} {r : Record}

theorem readOpt_toOption (stores : Stores cfg t r.pairs) (wf : t.WellFormed) (p : String) :
    (r.readOpt p).toOption = (do readAt cfg t (← resolve [] p)).toOption := by
  cases norm : normalize p with
  | error e => simp [Record.readOpt,resolve,norm,bind,Except.bind]
  | ok n =>
    obtain ⟨valid,rfl⟩ := normalize_eq_ok.1 norm
    simp only [Record.readOpt,resolve,norm,bind,Except.bind,pure,Except.pure,List.nil_append,segments_ofSegments valid]
    exact RecordTree.readOpt_toOption stores wf valid

theorem list_eq (stores : Stores cfg t r.pairs) (wf : t.WellFormed) (p : String) :
    r.list p = (do listAt r.path t (← resolve [] p)) := by
  cases norm : normalize p with
  | error e => simp [Record.list,resolve,norm,bind,Except.bind]
  | ok n =>
    obtain ⟨valid,rfl⟩ := normalize_eq_ok.1 norm
    simp only [Record.list,resolve,norm,bind,Except.bind,pure,Except.pure,List.nil_append,segments_ofSegments valid]
    have groups := stores.contains_group valid
    cases found : t.at? (nonEmptyParts p) with
    | none =>
      have noGroup : r.pairs.contains (RecordKey.group (ofSegments (nonEmptyParts p))) = false := by
        simpa [entryAt,found] using groups
      simp only [listAt,found,noGroup]
      rfl
    | some j =>
      cases j with
      | obj ts =>
        have isGroup : r.pairs.contains (RecordKey.group (ofSegments (nonEmptyParts p))) = true :=
          groups.2 (entryAt_eq_group.2 ⟨ts,found⟩)
        simp only [listAt,found,isGroup,← stores.childNames_eq wf valid found]
        rfl
      | _ =>
        have noGroup : r.pairs.contains (RecordKey.group (ofSegments (nonEmptyParts p))) = false := by
          simpa [entryAt,found,entry] using groups
        simp only [listAt,found,noGroup]
        rfl

end JobFlow.Record
